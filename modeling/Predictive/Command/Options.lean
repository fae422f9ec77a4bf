import Predictive.Format.Basic

/-! The command line. Switches and settings may stand anywhere before a double hyphen,
each at most once; everything else names an output. The value of a setting follows it, or
is joined to it, by an equals sign or for a single letter directly. Switches of a single
letter can be bundled. -/

namespace Predictive.Command

def programName : String := "predictive"

def usage : String :=
  "\n".intercalate [
    "Usage: " ++ programName ++ " [OPTIONS] OUTPUT...",
    "",
    "Outputs: prod, ff, ll1, parse, sentences",
    "",
    "Options:",
    "      --elf            eliminate left recursion",
    "      --lf             left factor, after the elimination if both are given",
    "  -g, --grammar FILE   grammar file, standard input when absent",
    "  -i, --input TEXT     input for the parse output",
    "  -n, --max-len N      longest sentence of the sentences output, 4 when absent",
    "  -l                   print in LaTeX",
    "  -j                   print in JSON"]

inductive Output where
  | rules
  | lookaheads
  | table
  | parse
  | sentences
  deriving DecidableEq, Repr

def Output.ofName? : String → Option Output
  | "prod" => some rules
  | "ff" => some lookaheads
  | "ll1" => some table
  | "parse" => some parse
  | "sentences" => some sentences
  | _ => none

inductive Switch where
  | eliminate
  | factor
  | latex
  | json
  deriving DecidableEq, Repr

inductive Setting where
  | grammar
  | input
  | maxLength
  deriving DecidableEq, Repr

/-- What an argument, or a part of it, stands for. -/
inductive Item where
  | switch (switch : Switch)
  | setting (setting : Setting) (value : String)
  | output (name : String)
  | help
  | version
  /-- Something that cannot be understood. -/
  | fault
  deriving DecidableEq, Repr

inductive Flag where
  | switch (switch : Switch)
  | setting (setting : Setting)
  | help
  | version
  deriving DecidableEq, Repr

def Flag.ofLetter? : Char → Option Flag
  | 'l' => some (.switch .latex)
  | 'j' => some (.switch .json)
  | 'h' => some .help
  | 'V' => some .version
  | 'g' => some (.setting .grammar)
  | 'i' => some (.setting .input)
  | 'n' => some (.setting .maxLength)
  | _ => none

def Flag.ofWord? : String → Option Flag
  | "elf" => some (.switch .eliminate)
  | "lf" => some (.switch .factor)
  | "help" => some .help
  | "version" => some .version
  | "grammar" => some (.setting .grammar)
  | "input" => some (.setting .input)
  | "max-len" => some (.setting .maxLength)
  | _ => none

/-- The item of a flag that takes no value. -/
def Flag.item? : Flag → Option Item
  | switch chosen => some (.switch chosen)
  | setting _ => none
  | help => some .help
  | version => some .version

/-- An argument that is not a flag. A lone hyphen is text. -/
def isText (argument : List Char) : Bool :=
  match argument with
  | '-' :: _ :: _ => false
  | _ => true

/-- The items found in an argument, and the arguments that are left. After a fault
none are left. -/
abbrev Found := List Item × List (List Char)

/-- A setting with its value: what is joined to it, or else the next argument. -/
def withValue (setting : Setting) (joined : Option String) (arguments : List (List Char)) :
    Found :=
  match joined, arguments with
  | some value, _ => ([.setting setting value], arguments)
  | none, argument :: later =>
    if isText argument then ([.setting setting (String.ofList argument)], later)
    else ([.fault], [])
  | none, [] => ([.fault], [])

/-- The text that follows the letter of a setting in its argument. -/
def joinedToLetter : List Char → Option String
  | [] => none
  | '=' :: text => some (String.ofList text)
  | text => some (String.ofList text)

/-- The text that follows the name of a long flag in its argument. -/
def joinedToWord (text : List Char) : Option String :=
  (text.dropWhile (· != '=')).tail?.map String.ofList

def inBundle (arguments : List (List Char)) : List Char → Found
  | [] => ([], arguments)
  | letter :: more =>
    match Flag.ofLetter? letter with
    | none => ([.fault], [])
    | some (.setting setting) => withValue setting (joinedToLetter more) arguments
    | some flag =>
      let (items, left) := inBundle arguments more
      (flag.item?.toList ++ items, left)

def inWord (arguments : List (List Char)) (text : List Char) : Found :=
  match Flag.ofWord? (String.ofList (text.takeWhile (· != '='))) with
  | none => ([.fault], [])
  | some (.setting setting) => withValue setting (joinedToWord text) arguments
  | some flag =>
    if (joinedToWord text).isNone then (flag.item?.toList, arguments) else ([.fault], [])

def inArgument (later : List (List Char)) : List Char → Found
  | '-' :: '-' :: text => inWord later text
  | '-' :: letter :: letters => inBundle later (letter :: letters)
  | text => ([.output (String.ofList text)], later)

theorem length_withValue_le (setting : Setting) (joined : Option String)
    (arguments : List (List Char)) :
    (withValue setting joined arguments).2.length ≤ arguments.length := by
  unfold withValue
  grind

theorem length_inBundle_le (arguments : List (List Char)) (letters : List Char) :
    (inBundle arguments letters).2.length ≤ arguments.length := by
  induction letters with
  | nil => exact Nat.le_refl _
  | cons letter more ih =>
    unfold inBundle
    split
    · exact Nat.zero_le _
    · exact length_withValue_le ..
    · exact ih

theorem length_inWord_le (arguments : List (List Char)) (text : List Char) :
    (inWord arguments text).2.length ≤ arguments.length := by
  unfold inWord
  split
  · exact Nat.zero_le _
  · exact length_withValue_le ..
  · split
    · exact Nat.le_refl _
    · exact Nat.zero_le _

theorem length_inArgument_le (later : List (List Char)) (argument : List Char) :
    (inArgument later argument).2.length ≤ later.length := by
  unfold inArgument
  split
  · exact length_inWord_le ..
  · exact length_inBundle_le ..
  · exact Nat.le_refl _

/-- The items on the command line, up to the first fault. -/
def items : List (List Char) → List Item
  | [] => []
  | ['-', '-'] :: later => later.map fun name => .output (String.ofList name)
  | argument :: later =>
    (inArgument later argument).1 ++ items (inArgument later argument).2
termination_by arguments => arguments.length
decreasing_by
  exact Nat.lt_succ_of_le (length_inArgument_le ..)

/-- A natural number below 2^64, with an optional plus sign. -/
def number? (text : List Char) : Option Nat :=
  let digits := match text with
    | '+' :: digits => digits
    | digits => digits
  if digits.isEmpty || !digits.all Char.isDigit then none
  else
    let value := digits.foldl (fun n c => 10 * n + (c.toNat - 48)) 0
    if value < Nat.pow 2 64 then some value else none

/-- What has been asked for so far. -/
structure Choices where
  switches : List Switch
  grammar : Option String
  input : Option String
  maxLength : Option Nat
  outputs : List Output
  deriving DecidableEq, Repr

namespace Choices

def empty : Choices := ⟨[], none, none, none, []⟩

def addSwitch? (choices : Choices) (switch : Switch) : Option Choices :=
  if choices.switches.contains switch then none
  else some { choices with switches := switch :: choices.switches }

def addSetting? (choices : Choices) (value : String) : Setting → Option Choices
  | .grammar =>
    if choices.grammar.isSome then none else some { choices with grammar := some value }
  | .input => if choices.input.isSome then none else some { choices with input := some value }
  | .maxLength =>
    if choices.maxLength.isSome then none
    else (number? value.toList).map fun n => { choices with maxLength := some n }

def addOutput? (choices : Choices) (name : String) : Option Choices :=
  (Output.ofName? name).map fun output =>
    { choices with outputs := choices.outputs ++ [output] }

end Choices

structure Options where
  eliminate : Bool
  factor : Bool
  outputs : List Output
  /-- The grammar file; without one the grammar comes from standard input. -/
  grammar : Option String
  input : Option String
  maxLength : Nat
  format : Format
  deriving DecidableEq, Repr

def format? (latex json : Bool) : Option Format :=
  match latex, json with
  | true, true => none
  | true, false => some .latex
  | false, true => some .json
  | false, false => some .plain

/-- The options that were chosen, if they go together and there is an output. -/
def Choices.options? (choices : Choices) : Option Options :=
  if choices.outputs.isEmpty then none
  else
    (format? (choices.switches.contains .latex) (choices.switches.contains .json)).map
      fun format =>
        { eliminate := choices.switches.contains .eliminate
          factor := choices.switches.contains .factor
          outputs := choices.outputs
          grammar := choices.grammar
          input := choices.input
          maxLength := choices.maxLength.getD 4
          format }

inductive Request where
  | run (options : Options)
  | help
  | version
  deriving DecidableEq, Repr

/-- Takes the items in order. The first wrong one decides, unless help or the version
was asked for before it. -/
def Choices.request? (choices : Choices) : List Item → Option Request
  | [] => choices.options?.map .run
  | .switch switch :: later => (choices.addSwitch? switch).bind (request? · later)
  | .setting setting value :: later =>
    (choices.addSetting? value setting).bind (request? · later)
  | .output name :: later => (choices.addOutput? name).bind (request? · later)
  | .help :: _ => some .help
  | .version :: _ => some .version
  | .fault :: _ => none

/-- What the arguments ask for, unless they are used wrongly. -/
def request? (arguments : List String) : Option Request :=
  Choices.empty.request? (items (arguments.map String.toList))

end Predictive.Command
