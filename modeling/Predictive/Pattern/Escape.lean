import Predictive.Pattern.Tree

/-! The smallest parts of a written pattern: numbers, and what follows a backslash. A place
in the pattern is the text that is left there. Verbose patterns may hold blanks and comments
almost anywhere, which are stepped over. -/

namespace Predictive.Pattern

/-- Something that was read, and the text after it. -/
abbrev Read (α : Type) := Except Fault (α × List Char)

/-- A fault from one place to a later one. -/
def fail {α : Type} (problem : Problem) (start finish : List Char) : Except Fault α :=
  .error (.at problem ⟨start.length, finish.length⟩)

def afterBlanks (comment : Bool) : List Char → List Char
  | [] => []
  | c :: rest =>
    if comment then afterBlanks (c != '\n') rest
    else if Text.isBlank c then afterBlanks false rest
    else if c == '#' then afterBlanks true rest
    else c :: rest

def skip (verbose : Bool) (text : List Char) : List Char :=
  if verbose then afterBlanks false text else text

/-- Past one character and the blanks after it. -/
def step (verbose : Bool) (text : List Char) : List Char :=
  skip verbose (text.drop 1)

theorem length_afterBlanks_le (comment : Bool) (text : List Char) :
    (afterBlanks comment text).length ≤ text.length := by
  induction text generalizing comment with
  | nil => exact Nat.le_refl _
  | cons c rest ih =>
    have shorter := fun comment => Nat.le_succ_of_le (ih comment)
    unfold afterBlanks
    split
    · exact shorter _
    · split
      · exact shorter _
      · split
        · exact shorter _
        · exact Nat.le_refl _

theorem length_skip_le (verbose : Bool) (text : List Char) :
    (skip verbose text).length ≤ text.length := by
  cases verbose with
  | false => exact Nat.le_refl _
  | true => exact length_afterBlanks_le false text

/-- The characters that are wanted, up to the first that is not. -/
def collect (verbose : Bool) (wanted : Char → Bool) : List Char → List Char × List Char
  | [] => ([], [])
  | c :: rest =>
    if wanted c then
      let (more, left) := collect verbose wanted (skip verbose rest)
      (c :: more, left)
    else ([], c :: rest)
termination_by text => text.length
decreasing_by exact Nat.lt_succ_of_le (length_skip_le verbose rest)

def digitsValue (base : Nat) (digits : List Char) : Nat :=
  digits.foldl (fun n c =>
    base * n + (if c.isDigit then c.toNat - 48 else c.toLower.toNat - 87)) 0

/-- A number below 2^32 between blanks. Its fault may be of less weight than another. -/
def readDecimal (verbose : Bool) (text : List Char) : Except Fault Nat × List Char :=
  let start := text.dropWhile Text.isBlank
  let (digits, finish) := collect verbose Char.isDigit start
  let (_, left) := collect verbose Text.isBlank finish
  let value := digitsValue 10 digits
  if digits.isEmpty then (fail .countMissing start finish, left)
  else if value < Nat.pow 2 32 then (.ok value, left)
  else (fail .decimalTooLarge start finish, left)

def isHexDigit (c : Char) : Bool :=
  c.isDigit || ('a' ≤ c && c ≤ 'f') || ('A' ≤ c && c ≤ 'F')

def charOfHex? (digits : List Char) : Option Char :=
  let value := digitsValue 16 digits
  if value.isValidChar then some (Char.ofNat value) else none

/-- Exactly so many digits. -/
def readHexDigits (verbose : Bool) :
    Nat → List Char → Except Fault (List Char × List Char)
  | 0, text => .ok ([], text)
  | _ + 1, [] => fail .escapeUnfinished [] []
  | n + 1, c :: rest => do
    unless isHexDigit c do fail .hexDigit (c :: rest) rest
    let (digits, left) ← readHexDigits verbose n (skip verbose rest)
    return (c :: digits, left)

/-- The character with a number of so many digits, or of any number of digits in braces.
The text begins after the letter of the escape, which begins at `escape`. -/
def readHex (verbose : Bool) (escape : List Char) (count : Nat) (text : List Char) :
    Except Fault (Tree × List Char) := do
  match text with
  | [] => fail .escapeUnfinished [] []
  | '{' :: inside =>
    let (digits, finish) := collect verbose isHexDigit (skip verbose inside)
    match finish with
    | [] => fail .escapeUnfinished text []
    | '}' :: _ =>
      let left := step verbose finish
      if digits.isEmpty then fail .hexMissing text left
      match charOfHex? digits with
      | none => fail .hexNoCharacter inside finish
      | some c => return (.literal ⟨⟨escape.length, left.length⟩, c, false⟩, left)
    | _ :: after => fail .hexDigit finish after
  | _ =>
    let (digits, left) ← readHexDigits verbose count text
    match charOfHex? digits with
    | none => fail .hexNoCharacter text left
    | some c => return (.literal ⟨⟨escape.length, left.length⟩, c, count == 2⟩, left)

/-- The text around the first place where `mark` stands. -/
def splitAt? (mark : List Char) : List Char → Option (List Char × List Char)
  | [] => none
  | c :: rest =>
    if mark.isPrefixOf (c :: rest) then some ([], (c :: rest).drop mark.length)
    else (splitAt? mark rest).map fun (before, after) => (c :: before, after)

def Query.ofName (name : List Char) : Query :=
  match splitAt? ['!', '='] name with
  | some (name, value) => .valued true name value
  | none =>
    match splitAt? [':'] name <|> splitAt? ['='] name with
    | some (name, value) => .valued false name value
    | none => .named name

/-- A property of characters: one letter, or a name in braces. -/
def readProperty (verbose negated : Bool) (escape text : List Char) : Read Tree :=
  match text with
  | [] => fail .escapeUnfinished [] []
  | '{' :: inside =>
    let (name, finish) := collect verbose (· != '}') (skip verbose inside)
    match finish with
    | [] => fail .escapeUnfinished [] []
    | _ :: left =>
      .ok (.property ⟨escape.length, left.length⟩ negated (.ofName name), left)
  | '\\' :: after => fail .propertyLetter text after
  | c :: rest =>
    let left := skip verbose rest
    .ok (.property ⟨escape.length, left.length⟩ negated (.named [c]), left)

def isBoundaryChar (c : Char) : Bool :=
  c.isAlpha || c == '-'

def boundaryNamed? (name : List Char) : Option Boundary :=
  match String.ofList name with
  | "start" => some .start
  | "end" => some .finish
  | "start-half" => some .halfStart
  | "end-half" => some .halfFinish
  | _ => none

/-- The edge of a word, which may be told more closely in braces. Braces that begin with
something else than a name are left for a count. -/
def readBoundary (verbose : Bool) (escape text : List Char) : Read Tree :=
  let plain := .ok (.anchor ⟨escape.length, text.length⟩ (.word .edge), text)
  match text with
  | '{' :: inside =>
    let name := skip verbose inside
    match name with
    | [] => fail .boundaryUnfinished escape []
    | c :: _ =>
      if !isBoundaryChar c then plain
      else
        let (letters, finish) := collect verbose isBoundaryChar name
        match finish with
        | '}' :: left =>
          match boundaryNamed? letters with
          | some boundary => .ok (.anchor ⟨escape.length, left.length⟩ (.word boundary), left)
          | none => fail .boundaryUnknown name finish
        | _ => fail .boundaryUnclosed text finish
  | _ => plain

/-- A character that stands for itself after a backslash: in ASCII, all but letters, digits
and angles. -/
def isEscapable (c : Char) : Bool :=
  c.toNat < 128 && !c.isAlphanum && c != '<' && c != '>'

def controlOf? : Char → Option Char
  | 'a' => some '\x07'
  | 'f' => some '\x0C'
  | 't' => some '\t'
  | 'n' => some '\n'
  | 'r' => some '\r'
  | 'v' => some '\x0B'
  | _ => none

def anchorOf? : Char → Option Anchor
  | 'A' => some .textStart
  | 'z' => some .textFinish
  | 'B' => some (.word .none)
  | '<' => some (.word .start)
  | '>' => some (.word .finish)
  | _ => none

def shorthandOf? : Char → Option (Bool × Shorthand)
  | 'd' => some (false, .digit)
  | 's' => some (false, .space)
  | 'w' => some (false, .word)
  | 'D' => some (true, .digit)
  | 'S' => some (true, .space)
  | 'W' => some (true, .word)
  | _ => none

/-- What a backslash and the text after it stand for. -/
def readEscape (verbose : Bool) (escape : List Char) : Read Tree :=
  match escape.drop 1 with
  | [] => fail .escapeUnfinished escape []
  | c :: left =>
    let span : Span := ⟨escape.length, left.length⟩
    if c.isDigit then fail .backreference escape left
    else if isEscapable c then .ok (.literal ⟨span, c, false⟩, left)
    else
      match c, shorthandOf? c, controlOf? c, anchorOf? c with
      | 'x', _, _, _ => readHex verbose escape 2 (skip verbose left)
      | 'u', _, _, _ => readHex verbose escape 4 (skip verbose left)
      | 'U', _, _, _ => readHex verbose escape 8 (skip verbose left)
      | 'p', _, _, _ => readProperty verbose false escape (skip verbose left)
      | 'P', _, _, _ => readProperty verbose true escape (skip verbose left)
      | 'b', _, _, _ => readBoundary verbose escape left
      | _, some (negated, kind), _, _ => .ok (.shorthand span negated kind, left)
      | _, _, some control, _ => .ok (.literal ⟨span, control, false⟩, left)
      | _, _, _, some anchor => .ok (.anchor span anchor, left)
      | _, _, _, _ => fail .escapeUnknown escape left

end Predictive.Pattern
