import Predictive.Text.Blank

/-! What can be wrong with the text of a pattern, and the report of it. The report shows
the pattern with the faulty part underlined. -/

namespace Predictive.Pattern

/-- A part of the text of a pattern. Its ends are given by how many characters are left. -/
structure Span where
  start : Nat
  finish : Nat
  deriving DecidableEq, Repr

inductive Problem where
  | classEscape
  | rangeOrder
  | rangeBound
  | classUnclosed
  | decimalTooLarge
  | hexMissing
  | hexNoCharacter
  | hexDigit
  | escapeUnfinished
  | escapeUnknown
  | negationDangling
  | flagTwice
  | negationTwice
  | flagsUnfinished
  | flagUnknown
  | nameTwice
  | nameEmpty
  | nameCharacter
  | nameUnfinished
  | groupUnclosed
  | groupUnopened
  | nesting (limit : Nat)
  | countOrder
  | countMissing
  | countUnclosed
  | nothingToRepeat
  | boundaryUnclosed
  | boundaryUnknown
  | boundaryUnfinished
  | propertyLetter
  | backreference
  | lookAround
  | noUnicode
  | invalidUtf8
  | propertyUnknown
  | propertyValueUnknown
  deriving DecidableEq, Repr

def Problem.message : Problem → String
  | classEscape => "invalid escape sequence found in character class"
  | rangeOrder => "invalid character class range, the start must be <= the end"
  | rangeBound => "invalid range boundary, must be a literal"
  | classUnclosed => "unclosed character class"
  | decimalTooLarge => "decimal literal invalid"
  | hexMissing => "hexadecimal literal empty"
  | hexNoCharacter => "hexadecimal literal is not a Unicode scalar value"
  | hexDigit => "invalid hexadecimal digit"
  | escapeUnfinished => "incomplete escape sequence, reached end of pattern prematurely"
  | escapeUnknown => "unrecognized escape sequence"
  | negationDangling => "dangling flag negation operator"
  | flagTwice => "duplicate flag"
  | negationTwice => "flag negation operator repeated"
  | flagsUnfinished => "expected flag but got end of regex"
  | flagUnknown => "unrecognized flag"
  | nameTwice => "duplicate capture group name"
  | nameEmpty => "empty capture group name"
  | nameCharacter => "invalid capture group character"
  | nameUnfinished => "unclosed capture group name"
  | groupUnclosed => "unclosed group"
  | groupUnopened => "unopened group"
  | nesting limit => s!"exceed the maximum number of nested parentheses/brackets ({limit})"
  | countOrder => "invalid repetition count range, the start must be <= the end"
  | countMissing => "repetition quantifier expects a valid decimal"
  | countUnclosed => "unclosed counted repetition"
  | nothingToRepeat => "repetition operator missing expression"
  | boundaryUnclosed =>
    "special word boundary assertion is either unclosed or contains an invalid character"
  | boundaryUnknown =>
    "unrecognized special word boundary assertion, valid choices are: " ++
      "start, end, start-half or end-half"
  | boundaryUnfinished =>
    "found either the beginning of a special word boundary or a bounded repetition " ++
      "on a \\b with an opening brace, but no closing brace"
  | propertyLetter => "invalid Unicode character class"
  | backreference => "backreferences are not supported"
  | lookAround => "look-around, including look-ahead and look-behind, is not supported"
  | noUnicode => "Unicode not allowed here"
  | invalidUtf8 => "pattern can match invalid UTF-8"
  | propertyUnknown => "Unicode property not found"
  | propertyValueUnknown => "Unicode property value not found"

structure Fault where
  problem : Problem
  span : Span
  /-- The earlier part that this one repeats. -/
  earlier : Option Span
  deriving DecidableEq, Repr

def Fault.at (problem : Problem) (span : Span) : Fault :=
  ⟨problem, span, none⟩

/-- A place in the lines of a pattern. Both numbers begin at one. -/
structure Position where
  line : Nat
  column : Nat
  deriving DecidableEq, Repr

def Position.after (position : Position) (c : Char) : Position :=
  if c == '\n' then ⟨position.line + 1, 1⟩ else { position with column := position.column + 1 }

/-- The position where so many characters of the text are left. -/
def positionIn (text : List Char) (left : Nat) : Position :=
  (text.take (text.length - left)).foldl Position.after ⟨1, 1⟩

structure Underline where
  start : Position
  finish : Position
  deriving DecidableEq, Repr

namespace Underline

def inText (text : List Char) (span : Span) : Underline :=
  ⟨positionIn text span.start, positionIn text span.finish⟩

def isBefore (a b : Underline) : Bool :=
  a.start.line < b.start.line ||
    (a.start.line == b.start.line && a.start.column ≤ b.start.column)

def isOnOneLine (underline : Underline) : Bool :=
  underline.start.line == underline.finish.line

/-- The marks under a line from a column on, at least one for every part. -/
def marks : Nat → List Underline → List Char
  | _, [] => []
  | column, underline :: later =>
    let gap := underline.start.column - column
    let width := max 1 (underline.finish.column - underline.start.column)
    List.replicate gap ' ' ++ List.replicate width '^' ++ marks (column + gap + width) later

/-- How a part of several lines is described. -/
def describe (underline : Underline) : String :=
  s!"on line {underline.start.line} (column {underline.start.column}) through line {underline.finish.line} (column {underline.finish.column - 1})"

end Underline

/-- The lines of a text, without the line ends. A carriage return belongs to the line feed
that follows it. -/
def linesOf : List (List Char) → List (List Char)
  | [] => []
  | [last] => if last.isEmpty then [] else [last]
  | line :: later =>
    (if line.getLast? == some '\r' then line.dropLast else line) :: linesOf later

namespace Fault

def underlines (fault : Fault) (text : List Char) : List Underline :=
  let main := Underline.inText text fault.span
  match fault.earlier with
  | none => [main]
  | some span =>
    let earlier := Underline.inText text span
    if main.isBefore earlier then [main, earlier] else [earlier, main]

/-- The lines of the pattern behind `margin` of their numbers, each with its marks. -/
def annotated (underlines : List Underline) (margin : Nat → String) :
    Nat → List (List Char) → String
  | _, [] => ""
  | number, line :: later =>
    let start := margin number
    let here := underlines.filter fun underline =>
      underline.isOnOneLine && underline.start.line == number
    let marks := String.ofList (List.replicate start.length ' ' ++ Underline.marks 1 here)
    start ++ String.ofList line ++ "\n" ++ (if here.isEmpty then "" else marks ++ "\n") ++
      annotated underlines margin (number + 1) later

/-- A pattern of one line is indented; the lines of a longer one are numbered. -/
def report (fault : Fault) (text : List Char) : String :=
  let lines := linesOf (text.splitOn '\n')
  let underlines := fault.underlines text
  let shown :=
    if text.contains '\n' then
      let count := if text.getLast? == some '\n' then lines.length + 1 else lines.length
      let width := (toString count).length
      let margin := fun number =>
        let digits := toString number
        String.ofList (List.replicate (width - digits.length) ' ') ++ digits ++ ": "
      let rule := String.ofList (List.replicate 79 '~') ++ "\n"
      let long := underlines.filter fun underline => !underline.isOnOneLine
      let notes := if long.isEmpty then ""
        else "\n".intercalate (long.map Underline.describe) ++ "\n"
      rule ++ annotated underlines margin 1 lines ++
        rule ++ notes
    else annotated underlines (fun _ => "    ") 1 lines
  "regex parse error:\n" ++ shown ++ "error: " ++ fault.problem.message

end Fault

end Predictive.Pattern
