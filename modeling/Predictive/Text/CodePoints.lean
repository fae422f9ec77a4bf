/-! Character classes are tables of code point ranges. The ranges of a table are
inclusive and stand in increasing order, so a search may stop at the first range
that begins too late. -/

namespace Predictive.Text

def covers : List (Nat × Nat) → Nat → Bool
  | [], _ => false
  | (first, last) :: later, n =>
    if n < first then false else n ≤ last || covers later n

end Predictive.Text
