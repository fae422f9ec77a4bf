import Predictive.Pattern.CharSet

/-! Regular expressions. The places that a pattern leads to are computed for all
starting places at once: a set of places is a list of marks, one for every gap between
the characters of the text, and a pattern moves the marks. -/

namespace Predictive

/-- A place in a text, by the characters beside it. -/
structure Gap where
  before : Option Char
  after : Option Char
  deriving DecidableEq, Repr

/-- What has to hold of a word's edge. A half edge leaves one side open. -/
inductive Boundary where
  | edge
  | none
  | start
  | finish
  | halfStart
  | halfFinish
  deriving DecidableEq, Repr

def Boundary.holds (before after : Bool) : Boundary → Bool
  | edge => before != after
  | none => before == after
  | start => !before && after
  | finish => before && !after
  | halfStart => !before
  | halfFinish => !after

/-- A condition on a place. Lines end in a line feed, or with `carriage` also in a
carriage return, where the two together are one end. -/
inductive Assertion where
  | textStart
  | textFinish
  | lineStart (carriage : Bool)
  | lineFinish (carriage : Bool)
  | word (boundary : Boundary) (ascii : Bool)
  deriving DecidableEq, Repr

def isAsciiWordChar (c : Char) : Bool :=
  c.isAlphanum || c == '_'

def Assertion.holds (gap : Gap) : Assertion → Bool
  | textStart => gap.before.isNone
  | textFinish => gap.after.isNone
  | lineStart false => gap.before.all (· == '\n')
  | lineStart true =>
    gap.before.all fun c => c == '\n' || (c == '\r' && gap.after != some '\n')
  | lineFinish false => gap.after.all (· == '\n')
  | lineFinish true =>
    gap.after.all fun c => c == '\r' || (c == '\n' && gap.before != some '\r')
  | word boundary ascii =>
    let isWord := if ascii then isAsciiWordChar else Text.isWordChar
    boundary.holds (gap.before.any isWord) (gap.after.any isWord)

inductive Pattern where
  | empty
  | oneOf (set : CharSet)
  | check (assertion : Assertion)
  | chain (first second : Pattern)
  | either (first second : Pattern)
  /-- Without `most` there is no upper limit. -/
  | repeated (pattern : Pattern) (least : Nat) (most : Option Nat)
  deriving DecidableEq, Repr

namespace Pattern

abbrev Marks := List Bool

/-- The places of a text that follows `before`. -/
def gaps : Option Char → List Char → List Gap
  | before, [] => [⟨before, none⟩]
  | before, c :: rest => ⟨before, some c⟩ :: gaps (some c) rest

/-- Marks move one place on where the character between is in the set. The first
argument is what moves to the first place. -/
def shift (set : CharSet) : Bool → List Gap → Marks → Marks
  | first, gap :: gaps, mark :: marks =>
    first :: shift set (mark && gap.after.any set.contains) gaps marks
  | _, _, _ => []

def iterate (move : Marks → Marks) : Nat → Marks → Marks
  | 0, marks => marks
  | n + 1, marks => iterate move n (move marks)

/-- The places reached in at most so many moves. -/
def within (move : Marks → Marks) : Nat → Marks → Marks
  | 0, marks => marks
  | n + 1, marks => marks.zipWith or (within move n (move marks))

/-- Marks only move on, so that after as many rounds as there are places a further round
changes nothing. -/
def advance (gaps : List Gap) : Pattern → Marks → Marks
  | empty, marks => marks
  | oneOf set, marks => shift set false gaps marks
  | check assertion, marks => gaps.zipWith (fun gap mark => mark && assertion.holds gap) marks
  | chain first second, marks => advance gaps second (advance gaps first marks)
  | either first second, marks => (advance gaps first marks).zipWith or (advance gaps second marks)
  | repeated pattern least most, marks =>
    let further := most.elim gaps.length fun most => min (most - least) gaps.length
    within (advance gaps pattern) further
      (iterate (advance gaps pattern) (min least gaps.length) marks)

/-- Whether some part of the text, which may be empty, fits the pattern. -/
def occursIn (pattern : Pattern) (text : List Char) : Bool :=
  let gaps := gaps none text
  (advance gaps pattern (gaps.map fun _ => true)).any id

end Pattern

end Predictive
