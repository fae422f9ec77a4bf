import Predictive.Text.Category
import Predictive.Text.Folding
import Predictive.Text.Script

/-! Sets of characters, built from ranges and properties. -/

namespace Predictive

inductive Property where
  | any
  | category (category : Text.Category)
  | script (short : String)
  | alphabetic
  | lowercase
  | uppercase
  | blank
  | word
  deriving DecidableEq, Repr

def Property.holds (property : Property) (c : Char) : Bool :=
  match property with
  | any => true
  | category wanted => wanted.contains c
  | script short => Text.isOfScript short c
  | alphabetic => Text.isAlphabetic c
  | lowercase => Text.isLowercase c
  | uppercase => Text.isUppercase c
  | blank => Text.isBlank c
  | word => Text.isWordChar c

inductive CharSet where
  | nothing
  | range (first last : Char)
  | property (property : Property)
  | union (left right : CharSet)
  | intersection (left right : CharSet)
  | difference (left right : CharSet)
  | symmetricDifference (left right : CharSet)
  | complement (set : CharSet)
  /-- All that differ in case only from a member. -/
  | folded (set : CharSet)
  /-- The same, but for the letters of ASCII alone. -/
  | foldedAscii (set : CharSet)
  deriving DecidableEq, Repr

namespace CharSet

def one (c : Char) : CharSet := range c c

def contains : CharSet → Char → Bool
  | nothing, _ => false
  | range first last, c => first ≤ c && c ≤ last
  | property wanted, c => wanted.holds c
  | union left right, c => left.contains c || right.contains c
  | intersection left right, c => left.contains c && right.contains c
  | difference left right, c => left.contains c && !right.contains c
  | symmetricDifference left right, c => left.contains c != right.contains c
  | complement set, c => !set.contains c
  | folded set, c => (Text.caseVariants c).any fun variant => set.contains variant
  | foldedAscii set, c => set.contains c || set.contains c.toUpper || set.contains c.toLower

def ofRanges : List (Char × Char) → CharSet
  | [] => nothing
  | (first, last) :: later => union (range first last) (ofRanges later)

def ofProperties : List Property → CharSet
  | [] => nothing
  | first :: later => union (property first) (ofProperties later)

end CharSet

end Predictive
