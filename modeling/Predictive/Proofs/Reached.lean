import Predictive.Proofs.Eliminated
import Predictive.Proofs.Factored
import Predictive.Reachable

/-! Every grammar that can come about is well formed. -/

namespace Predictive.Grammar

theorem wellFormed_empty : empty.WellFormed where
  names := by decide
  lefts := List.nodup_nil
  rules := by simp [empty]
  start := by simp [empty]

theorem Reachable.wellFormed {g : Grammar} (reachable : Reachable g) : g.WellFormed := by
  induction reachable with
  | empty => exact wellFormed_empty
  | entries built => exact wellFormed_build built
  | entriesOver built => exact wellFormed_build built
  | start _ moved ih => exact ih.withStart moved
  | eliminated _ transformed ih => exact ih.eliminated transformed
  | factored supply _ ih => exact ih.factored supply

end Predictive.Grammar
