import Mathlib.Algebra.Ring.Nat
import Mathlib.Data.List.Forall2
import Predictive.Format.Columns

/-! Text in columns. In rows of equal length every text fits into its column, so it is filled up to
exactly the width of the column, and all rows come out equally long. -/

namespace Predictive.Columns
open List

/-- Each text is at most as long as its column is wide. -/
def Fit (texts : List String) (widths : List Nat) : Prop :=
  Forall₂ (fun text width => text.length ≤ width) texts widths

/-- Each cell is its text, with spaces in front of it. -/
def Padded (texts : List String) (cells : List String) : Prop :=
  Forall₂ (fun text cell => ∃ gap, cell = spaces gap ++ text) texts cells

theorem length_flushRight {width : Nat} {text : String} (fits : text.length ≤ width) :
    (flushRight width text).length = width := by
  simp [flushRight, spaces, fits]

theorem Fit.flushRight {texts : List String} {widths : List Nat} (fit : Fit texts widths) :
    Padded texts (widths.zipWith flushRight texts) ∧
      (widths.zipWith flushRight texts).map String.length = widths := by
  induction fit with
  | nil => exact ⟨.nil, rfl⟩
  | @cons text width texts widths here _ ih =>
    obtain ⟨padded, lengths⟩ := ih
    exact ⟨.cons ⟨width - text.length, rfl⟩ padded,
      by rw [List.zipWith_cons_cons, List.map_cons, length_flushRight here, lengths]⟩

end Predictive.Columns
