import Predictive.Pattern.Meaning

/-! Which texts are accepted as patterns. A pattern must be written without a fault, and
it must not be too large once its counted repetitions are written out. -/

namespace Predictive

namespace CharSet

/-- About how many ranges the set has, and whether all are in ASCII. -/
def extent : CharSet → Nat × Bool
  | nothing => (0, true)
  | range _ last => (1, last.toNat < 128)
  | property .any => (1, false)
  | property .blank => (10, false)
  | property (.category .decimalNumber) => (70, false)
  | property _ => (700, false)
  | union left right | symmetricDifference left right =>
    (left.extent.1 + right.extent.1, left.extent.2 && right.extent.2)
  | intersection left right =>
    (left.extent.1 + right.extent.1, left.extent.2 || right.extent.2)
  | difference left right => (left.extent.1 + right.extent.1, left.extent.2)
  | complement set => (set.extent.1 + 1, false)
  | folded set | foldedAscii set => (2 * set.extent.1, set.extent.2)

/-- About how many bytes a compiled set takes. -/
def room (set : CharSet) : Nat :=
  match set with
  | range first last =>
    if first = last then 32 * first.utf8Size else if last.toNat < 128 then 72 else 320
  | set =>
    let (ranges, ascii) := set.extent
    if ascii then 64 + 8 * ranges else 200 + 60 * ranges

end CharSet

namespace Pattern

/-- About how many bytes a compiled pattern takes. -/
def room : Pattern → Nat
  | empty | check _ => 32
  | oneOf set => set.room
  | chain first second => first.room + second.room
  | either first second => first.room + second.room + 40
  | repeated pattern least none => (max 1 least) * pattern.room + 40
  | repeated pattern least (some most) =>
    least * pattern.room + (most - least) * (pattern.room + 40)

def roomLimit : Nat := 10485760

inductive Refusal where
  | fault (fault : Fault)
  | tooLarge
  deriving DecidableEq, Repr

def Refusal.message (text : List Char) : Refusal → String
  | fault found => found.report text
  | tooLarge => s!"Compiled regex exceeds size limit of {roomLimit} bytes."

def ofText (text : List Char) : Except Refusal Pattern := do
  let (pattern, _) ← (do (← Tree.read text).meaning .start).mapError Refusal.fault
  if roomLimit < pattern.room then throw .tooLarge
  return pattern

end Pattern

end Predictive
