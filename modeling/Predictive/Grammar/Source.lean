import Predictive.Grammar.Entries
import Predictive.Text.Lexeme

/-! The text form of a grammar, one rule a line: `E -> T + E | T`. A line that begins
with a bar continues the last rule. A line that is no rule is skipped and reported,
and the rest of the text still counts. -/

namespace Predictive.Source

inductive Problem where
  | tooManyArrows
  | emptyLeft
  | blankInLeft
  | noRuleToContinue
  | noArrow
  deriving DecidableEq, Repr

def Problem.message : Problem → String
  | tooManyArrows => "too many \"->\""
  | emptyLeft => "empty left side"
  | blankInLeft => "left side contains whitespace"
  | noRuleToContinue => "cannot find left side"
  | noArrow => "missing \"->\""

inductive Line where
  | blank
  | rule (left : String) (bodies : List (List String))
  | continuation (bodies : List (List String))
  | faulty (problem : Problem)
  deriving DecidableEq, Repr

/-- The pieces between the arrows. -/
def splitArrows : List Char → List (List Char)
  | [] => [[]]
  | '-' :: '>' :: rest => [] :: splitArrows rest
  | c :: rest =>
    match splitArrows rest with
    | [] => [[c]]
    | piece :: pieces => (c :: piece) :: pieces

def readBodies (right : List Char) : List (List String) :=
  (right.splitOn '|').map Text.lexemes

def readLine (text : List Char) : Line :=
  let text := Text.trim text
  if text.isEmpty then .blank
  else
    match splitArrows text with
    | [left, right] =>
      let left := Text.trim left
      if left.isEmpty then .faulty .emptyLeft
      else if left.any Text.isBlank then .faulty .blankInLeft
      else .rule (String.ofList left) (readBodies right)
    | _ :: _ :: _ => .faulty .tooManyArrows
    | _ =>
      match text with
      | '|' :: right => .continuation (readBodies right)
      | _ => .faulty .noArrow

/-- What has been read so far. `current` is the rule that a bar would continue. -/
structure Reading where
  entries : List Entry
  current : Option String
  skipped : List (Nat × Problem)
  deriving DecidableEq, Repr

/-- Adds alternatives to the entry of `left`, which is a new one at the end if need be. -/
def extend (left : String) (bodies : List (List String)) : List Entry → List Entry
  | [] => [⟨left, bodies⟩]
  | entry :: later =>
    if entry.left = left then { entry with bodies := entry.bodies ++ bodies } :: later
    else entry :: extend left bodies later

def Reading.skip (reading : Reading) (number : Nat) (problem : Problem) : Reading :=
  { reading with skipped := reading.skipped ++ [(number, problem)] }

/-- A line without an arrow leaves the current rule open; a broken arrow closes it. -/
def Reading.add (reading : Reading) (number : Nat) : Line → Reading
  | .blank => reading
  | .rule left bodies =>
    { reading with entries := extend left bodies reading.entries, current := some left }
  | .continuation bodies =>
    match reading.current with
    | some left => { reading with entries := extend left bodies reading.entries }
    | none => reading.skip number .noRuleToContinue
  | .faulty .noArrow => reading.skip number .noArrow
  | .faulty problem => { reading.skip number problem with current := none }

def readLines : Nat → Reading → List Line → Reading
  | _, reading, [] => reading
  | number, reading, line :: later => readLines (number + 1) (reading.add number line) later

def read (text : String) : Reading :=
  readLines 1 ⟨[], none, []⟩ ((text.toList.splitOn '\n').map readLine)

end Predictive.Source

namespace Predictive.Grammar

def ofText (text : String) : Except GrammarError Grammar :=
  ofEntries (Source.read text).entries

end Predictive.Grammar
