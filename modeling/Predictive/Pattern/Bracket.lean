import Predictive.Pattern.Escape

/-! Character classes in brackets. They can be nested, and two classes can be combined
by an operator; the operators are all of one strength and are read from the left. -/

namespace Predictive.Pattern

/-- A bracket that is open: what stands to the left of the last operator, and the items
after it, the latest first. -/
structure OpenBracket where
  opening : Span
  negated : Bool
  left : Option (SetOperator × SetTree)
  items : List SetTree
  deriving Repr

namespace OpenBracket

def add (bracket : OpenBracket) (item : SetTree) : OpenBracket :=
  { bracket with items := item :: bracket.items }

/-- The class that has been read up to `here`. -/
def inner (bracket : OpenBracket) (here : Nat) : SetTree :=
  let items := match bracket.items with
    | [] => .empty ⟨here, here⟩
    | [item] => item
    | last :: earlier =>
      let items := (last :: earlier).reverse
      .union ⟨(items.headD last).span.start, last.span.finish⟩ items
  match bracket.left with
  | none => items
  | some (operator, left) =>
    .operation ⟨left.span.start, items.span.finish⟩ operator left items

def combine (bracket : OpenBracket) (operator : SetOperator) (here : Nat) : OpenBracket :=
  { bracket with left := some (operator, bracket.inner here), items := [] }

def close (bracket : OpenBracket) (here finish : Nat) : SetTree :=
  .bracket ⟨bracket.opening.start, finish⟩ bracket.negated (bracket.inner here)

end OpenBracket

/-- Hyphens at the beginning of a class stand for themselves. -/
def leadingHyphens (verbose : Bool) (start : List Char) :
    List Char → Except Fault (List SetTree × List Char)
  | '-' :: rest => do
    let left := skip verbose rest
    if left.isEmpty then fail .classUnclosed start start
    let (items, left) ← leadingHyphens verbose start left
    return (items ++ [.literal ⟨⟨rest.length + 1, rest.length⟩, '-', false⟩], left)
  | text => .ok ([], text)
termination_by text => text.length
decreasing_by exact Nat.lt_succ_of_le (length_skip_le verbose rest)

/-- The opening of a class. A closing bracket that follows at once stands for itself. -/
def openBracket (verbose : Bool) (start : List Char) :
    Except Fault (OpenBracket × List Char) := do
  let text := step verbose start
  if text.isEmpty then fail .classUnclosed start []
  let negated := text.head? == some '^'
  let text := if negated then step verbose text else text
  if text.isEmpty then fail .classUnclosed start []
  let (items, text) ← leadingHyphens verbose start text
  match items, text with
  | [], ']' :: rest =>
    let left := skip verbose rest
    if left.isEmpty then fail .classUnclosed start []
    return (⟨⟨start.length, left.length⟩, negated, none,
      [.literal ⟨⟨rest.length + 1, rest.length⟩, ']', false⟩]⟩, left)
  | items, text => return (⟨⟨start.length, text.length⟩, negated, none, items⟩, text)

def AsciiClass.ofName? (name : List Char) : Option AsciiClass :=
  match String.ofList name with
  | "alnum" => some .alnum
  | "alpha" => some .alpha
  | "ascii" => some .ascii
  | "blank" => some .blank
  | "cntrl" => some .cntrl
  | "digit" => some .digit
  | "graph" => some .graph
  | "lower" => some .lower
  | "print" => some .print
  | "punct" => some .punct
  | "space" => some .space
  | "upper" => some .upper
  | "word" => some .word
  | "xdigit" => some .xdigit
  | _ => none

/-- A class with a name between colons, if there is one. -/
def asciiClass? (start : List Char) : Option (SetTree × List Char) :=
  match start with
  | '[' :: ':' :: text =>
    let negated := text.head? == some '^'
    let text := if negated then text.drop 1 else text
    match text.dropWhile (· != ':') with
    | ':' :: ']' :: left =>
      (AsciiClass.ofName? (text.takeWhile (· != ':'))).map fun kind =>
        (.ascii ⟨start.length, left.length⟩ negated kind, left)
    | _ => none
  | _ => none

def readSetPart (verbose : Bool) : List Char → Read Tree
  | '\\' :: rest => readEscape verbose ('\\' :: rest)
  | c :: rest => .ok (.literal ⟨⟨rest.length + 1, rest.length⟩, c, false⟩, rest)
  | [] => fail .classUnclosed [] []

def Tree.setItem : Tree → Except Fault SetTree
  | literal l => .ok (.literal l)
  | shorthand span negated kind => .ok (.shorthand span negated kind)
  | property span negated query => .ok (.property span negated query)
  | tree => .error (.at .classEscape tree.span)

def Tree.bound : Tree → Except Fault Literal
  | literal l => .ok l
  | tree => .error (.at .rangeBound tree.span)

/-- The character after a hyphen. A comment shows its first character. -/
def afterHyphen (verbose : Bool) (text : List Char) : Option Char :=
  if verbose then
    match text.dropWhile Text.isBlank with
    | '#' :: comment => (comment.dropWhile Text.isBlank).head? <|> text.head?
    | c :: _ => some c
    | [] => text.head?
  else text.head?

/-- One item of a class, or a range. -/
def readSetItem (verbose : Bool) (opening : Span) (text : List Char) :
    Except Fault (SetTree × List Char) := do
  let (first, left) ← readSetPart verbose text
  match skip verbose left with
  | [] => .error (.at .classUnclosed opening)
  | '-' :: rest =>
    let next := afterHyphen verbose rest
    if next == some ']' || next == some '-' then return (← first.setItem, '-' :: rest)
    let text := skip verbose rest
    if text.isEmpty then .error (.at .classUnclosed opening)
    let (last, left) ← readSetPart verbose text
    let span : Span := ⟨first.span.start, last.span.finish⟩
    let first ← first.bound
    let last ← last.bound
    if first.char ≤ last.char then return (.range span first last, left)
    .error (.at .rangeOrder span)
  | left => return (← first.setItem, left)

/-- The rest of a class in its brackets. Every round takes at least one character. -/
def readSet (verbose : Bool) (bracket : OpenBracket) (outer : List OpenBracket)
    (text : List Char) : Read Tree :=
  let next := fun (bracket : OpenBracket) (outer : List OpenBracket) (left : List Char) =>
    if _ : left.length < text.length then readSet verbose bracket outer left
    else .error (.at .classUnclosed bracket.opening)
  let here := skip verbose text
  match here with
  | [] => .error (.at .classUnclosed bracket.opening)
  | ']' :: left =>
    let set := bracket.close here.length left.length
    match outer with
    | parent :: outer => next (parent.add set) outer left
    | [] => .ok (.bracket ⟨bracket.opening.start, left.length⟩ bracket.negated
        (bracket.inner here.length), left)
  | '&' :: '&' :: left => next (bracket.combine .intersection here.length) outer left
  | '-' :: '-' :: left => next (bracket.combine .difference here.length) outer left
  | '~' :: '~' :: left => next (bracket.combine .symmetricDifference here.length) outer left
  | '[' :: _ =>
    match asciiClass? here with
    | some (item, left) => next (bracket.add item) outer left
    | none =>
      match openBracket verbose here with
      | .error fault => .error fault
      | .ok (inner, left) => next inner (bracket :: outer) left
  | _ =>
    match readSetItem verbose bracket.opening here with
    | .error fault => .error fault
    | .ok (item, left) => next (bracket.add item) outer left
termination_by text.length

/-- A class that begins at an opening bracket. -/
def readBracket (verbose : Bool) (start : List Char) : Read Tree :=
  match openBracket verbose start with
  | .error fault => .error fault
  | .ok (bracket, left) => readSet verbose bracket [] left

end Predictive.Pattern
