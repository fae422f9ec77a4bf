import Predictive.Pattern.Bracket

/-! Reading a pattern. The groups that are open are kept on a stack; a part that is
complete goes to the innermost of them. -/

namespace Predictive.Pattern

def Flag.ofChar? : Char → Option Flag
  | 'i' => some .ignoreCase
  | 'm' => some .multiLine
  | 's' => some .dotAll
  | 'U' => some .swapGreed
  | 'u' => some .unicode
  | 'R' => some .carriage
  | 'x' => some .verbose
  | _ => none

/-- Whether a list of flags sets one, and how. -/
def setting? (flag : Flag) (value : Bool) : List FlagItem → Option Bool
  | [] => none
  | .negation :: later => setting? flag false later
  | .flag found :: later => if found = flag then some value else setting? flag value later

/-- The flags up to a colon or a closing parenthesis, and the text from there on. `dangling`
is a negation that no flag has followed yet. -/
def readFlags (seen : List (FlagItem × Span)) (dangling : Option Span) :
    List Char → Except Fault (List FlagItem × List Char)
  | [] => fail .flagsUnfinished [] []
  | c :: rest =>
    let span : Span := ⟨rest.length + 1, rest.length⟩
    let add := fun (item : FlagItem) (problem : Problem) (dangling : Option Span) =>
      match seen.find? fun (earlier, _) => earlier = item with
      | some (_, earlier) => .error ⟨problem, span, some earlier⟩
      | none => readFlags ((item, span) :: seen) dangling rest
    if c == ':' || c == ')' then
      match dangling with
      | some negation => .error (.at .negationDangling negation)
      | none => .ok ((seen.map Prod.fst).reverse, c :: rest)
    else if c == '-' then add .negation .negationTwice (some span)
    else
      match Flag.ofChar? c with
      | some flag => add (.flag flag) .flagTwice none
      | none => .error (.at .flagUnknown span)

def isNameChar (first : Bool) (c : Char) : Bool :=
  if first then c == '_' || Text.isAlphabetic c
  else c == '_' || c == '.' || c == '[' || c == ']' || Text.isAlphanumeric c

/-- The name of a group up to the angle that closes it. -/
def readNameChars (first : Bool) : List Char → Except Fault (List Char × List Char)
  | [] => fail .nameUnfinished [] []
  | c :: rest =>
    if c == '>' then .ok ([], c :: rest)
    else if isNameChar first c then
      (readNameChars false rest).map fun (name, left) => (c :: name, left)
    else fail .nameCharacter (c :: rest) rest

/-- A group that is open, or the group of the whole pattern: its finished branches and the
parts of the branch that is being read, each with the latest first. -/
structure Level where
  start : Nat
  branchStart : Nat
  branches : List Tree
  parts : List Tree
  deriving Repr

namespace Level

def empty (here : Nat) : Level := ⟨here, here, [], []⟩

def add (level : Level) (part : Tree) : Level :=
  { level with parts := part :: level.parts }

def branch (level : Level) (here : Nat) : Tree :=
  match level.parts with
  | [] => .empty ⟨level.branchStart, here⟩
  | [part] => part
  | parts => .chain ⟨level.branchStart, here⟩ parts.reverse

def nextBranch (level : Level) (here : Nat) : Level :=
  { level with
    branches := level.branch here :: level.branches
    branchStart := here - 1
    parts := [] }

def close (level : Level) (here : Nat) : Tree :=
  if level.branches.isEmpty then level.branch here
  else .alternatives ⟨level.start, here⟩ (level.branch here :: level.branches).reverse

/-- The part that a repetition is for, and the level without it. -/
def takeLast? (level : Level) : Option (Tree × Level) :=
  match level.parts with
  | [] | .flags .. :: _ => none
  | part :: earlier => some (part, { level with parts := earlier })

end Level

/-- The opening of a group, what surrounds it, and whether that is verbose. -/
structure OpenGroup where
  opening : Span
  items : List FlagItem
  level : Level
  verbose : Bool
  deriving Repr

structure ReaderState where
  verbose : Bool
  level : Level
  outer : List OpenGroup
  names : List (List Char × Span)
  deriving Repr

namespace ReaderState

def add (state : ReaderState) (part : Tree) : ReaderState :=
  { state with level := state.level.add part }

def openGroup (state : ReaderState) (opening : Span) (items : List FlagItem) (here : Nat) :
    ReaderState :=
  { state with
    verbose := (setting? .verbose true items).getD state.verbose
    level := .empty here
    outer := ⟨opening, items, state.level, state.verbose⟩ :: state.outer }

end ReaderState

abbrev Step := Except Fault (ReaderState × List Char)

def lookArounds : List (List Char) := [['?', '='], ['?', '!'], ['?', '<', '='], ['?', '<', '!']]

/-- What follows the mark of a named group. -/
def afterNameMark? : List Char → Option (List Char)
  | '?' :: 'P' :: '<' :: text => some text
  | '?' :: '<' :: text => some text
  | _ => none

def readNamedGroup (state : ReaderState) (opening : Span) (text : List Char) : Step := do
  let (name, finish) ← readNameChars true text
  let span : Span := ⟨text.length, finish.length⟩
  if name.isEmpty then fail .nameEmpty text text
  match state.names.find? fun (earlier, _) => earlier = name with
  | some (_, earlier) => .error ⟨.nameTwice, span, some earlier⟩
  | none =>
    let left := finish.drop 1
    return ({ state.openGroup opening [] left.length with names := (name, span) :: state.names },
      left)

/-- A parenthesis opens a group, or it holds flags for what follows. -/
def readGroup (state : ReaderState) (start : List Char) : Step := do
  let opening : Span := ⟨start.length, start.length - 1⟩
  let text := step state.verbose start
  match lookArounds.find? (·.isPrefixOf text) with
  | some mark => fail .lookAround start (text.drop mark.length)
  | none =>
    match afterNameMark? text, text with
    | some name, _ => readNamedGroup state opening name
    | none, '?' :: rest =>
      if rest.isEmpty then .error (.at .groupUnclosed opening)
      let (items, finish) ← readFlags [] none rest
      let left := finish.drop 1
      if finish.head? == some ')' then
        if items.isEmpty then fail .nothingToRepeat text text
        let verbose := (setting? .verbose true items).getD state.verbose
        return ({ state with verbose }.add (.flags ⟨start.length, left.length⟩ items), left)
      return (state.openGroup opening items left.length, left)
    | none, _ => return (state.openGroup opening [] text.length, text)

def closeGroup (state : ReaderState) (start : List Char) : Step :=
  let left := start.drop 1
  match state.outer with
  | [] => fail .groupUnopened start left
  | group :: outer =>
    let inner := state.level.close start.length
    let tree := Tree.group ⟨group.opening.start, left.length⟩ group.items inner
    .ok ({ state with verbose := group.verbose, level := group.level.add tree, outer }, left)

/-- A mark of laziness after a repetition, which changes nothing for a search. -/
def afterLazyMark : List Char → List Char
  | '?' :: left => left
  | left => left

def repeatLast (state : ReaderState) (start : List Char) (least : Nat) (most : Option Nat)
    (left : List Char) : Step :=
  match state.level.takeLast? with
  | none => fail .nothingToRepeat start start
  | some (part, level) =>
    let tree := Tree.repetition ⟨part.span.start, left.length⟩ least most part
    .ok ({ state with level := level.add tree }, left)

/-- The numbers between the braces of a count, and the text from the closing brace on. -/
def readCount (verbose : Bool) (start : List Char) :
    Except Fault ((Nat × Option Nat) × List Char) := do
  let unclosed := fun {α : Type} (here : List Char) =>
    (fail .countUnclosed start here : Except Fault α)
  let text := step verbose start
  if text.isEmpty then unclosed text
  let (least, finish) := readDecimal verbose text
  match finish with
  | [] => unclosed []
  | ',' :: rest =>
    let text := skip verbose rest
    match text with
    | [] => unclosed []
    | '}' :: _ => return ((← least, none), text)
    | _ =>
      let least ← least
      let (most, left) := readDecimal verbose text
      return ((least, some (← most)), left)
  | _ =>
    let count ← least
    return ((count, some count), finish)

def readCounted (state : ReaderState) (start : List Char) : Step := do
  if state.level.takeLast?.isNone then fail .nothingToRepeat start start
  let ((least, most), finish) ← readCount state.verbose start
  unless finish.head? == some '}' do fail .countUnclosed start finish
  let left := afterLazyMark (step state.verbose finish)
  if most.any (· < least) then fail .countOrder start left
  repeatLast state start least most left

/-- The next part of a pattern. -/
def readPart (state : ReaderState) (start : List Char) : Step :=
  let part := fun (read : Read Tree) => read.map fun (tree, left) => (state.add tree, left)
  match start with
  | [] => .ok (state, [])
  | '(' :: _ => readGroup state start
  | ')' :: _ => closeGroup state start
  | '|' :: left => .ok ({ state with level := state.level.nextBranch start.length }, left)
  | '[' :: _ => part (readBracket state.verbose start)
  | '?' :: left => repeatLast state start 0 (some 1) (afterLazyMark left)
  | '*' :: left => repeatLast state start 0 none (afterLazyMark left)
  | '+' :: left => repeatLast state start 1 none (afterLazyMark left)
  | '{' :: _ => readCounted state start
  | '\\' :: _ => part (readEscape state.verbose start)
  | c :: left =>
    let span : Span := ⟨start.length, left.length⟩
    let tree := match c with
      | '.' => .dot span
      | '^' => .anchor span .lineStart
      | '$' => .anchor span .lineFinish
      | c => .literal ⟨span, c, false⟩
    .ok (state.add tree, left)

def finishReading (state : ReaderState) : Except Fault Tree :=
  match state.outer with
  | [] => .ok (state.level.close 0)
  | group :: _ => .error (.at .groupUnclosed group.opening)

/-- Reads to the end. Every part takes at least one character. -/
def readParts (state : ReaderState) (text : List Char) : Except Fault Tree :=
  match skip state.verbose text with
  | [] => finishReading state
  | c :: rest =>
    match readPart state (c :: rest) with
    | .error fault => .error fault
    | .ok (state, left) =>
      if _ : left.length < text.length then readParts state left else finishReading state
termination_by text.length

/-- How deep groups, brackets and repetitions can be nested. -/
def nestingLimit : Nat := 250

def Tree.read (text : List Char) : Except Fault Tree := do
  let tree ← readParts ⟨false, .empty text.length, [], []⟩ text
  match tree.tooDeep? nestingLimit with
  | some span => .error (.at (.nesting nestingLimit) span)
  | none => return tree

end Predictive.Pattern
