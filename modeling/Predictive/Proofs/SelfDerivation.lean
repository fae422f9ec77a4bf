import Predictive.Proofs.LeftCorners
import Predictive.Reachable

/-! The first check of an elimination. It refuses the grammars in which a nonterminal derives itself
alone, and no others; what it reports is a way around on which each nonterminal derives the next one
alone, so all of them derive themselves. -/

namespace Predictive.Grammar

variable {g : Grammar}

/-- A way around, from a nonterminal back to itself. With each step it is the symbols around the next
nonterminal that vanish. -/
theorem selfDerivation?_walk {walk : List Symbol} (found : g.selfDerivation? = some walk) :
    ∃ s t way, g.UnitCorner s t ∧ Digraph.Walk g.UnitCorner t s way ∧ walk = s :: way := by
  rw [selfDerivation?] at found
  obtain ⟨s, t, way, first, back, same⟩ := Digraph.cycle?_walk found
  rw [leads_unitCorners] at first back
  exact ⟨s, t, way, first, back, same⟩

theorem cyclic_of_selfDerivation? {walk : List Symbol} (found : g.selfDerivation? = some walk) :
    ∀ s ∈ walk, g.Cyclic s := by
  obtain ⟨s, t, way, first, back, rfl⟩ := selfDerivation?_walk found
  exact fun u member => cyclic_iff_cycle.mpr (back.around first u member)

theorem exists_selfDerivation? {s : Symbol} (cyclic : g.Cyclic s) : ∃ walk, g.selfDerivation? = some walk := by
  cases found : g.selfDerivation? with
  | some walk => exact ⟨walk, rfl⟩
  | none => exact absurd cyclic (selfDerivation?_eq_none_iff.mp found s)

/-- The check fails exactly if a nonterminal derives itself in one or more steps. Then, whatever the
supply, elimination fails as well and reports the cycle that the check has found. -/
theorem cyclic_rejected :
    ((∃ walk, g.selfDerivation? = some walk) ↔ ∃ s ∈ g.nonterminals, g.DerivesPlus [s] [s]) ∧
      ((∃ s ∈ g.nonterminals, g.DerivesPlus [s] [s]) → ∀ supply, ∃ s t way,
        (g.eliminateLeftRecursionWith supply).result =
            .error (.leftRecursive (g.nameOf s) ((s :: way).map g.nameOf)) ∧
          g.UnitCorner s t ∧ Digraph.Walk g.UnitCorner t s way ∧ ∀ u ∈ s :: way, g.DerivesPlus [u] [u]) := by
  refine ⟨⟨fun found => ?_, fun cyclic => ?_⟩, fun cyclic supply => ?_⟩
  · obtain ⟨walk, found⟩ := found
    obtain ⟨s, t, way, _, _, rfl⟩ := selfDerivation?_walk found
    have cyclic := cyclic_of_selfDerivation? found s List.mem_cons_self
    exact ⟨s, nonterminal_of_derivesPlus cyclic, cyclic⟩
  · obtain ⟨s, _, derives⟩ := cyclic
    exact exists_selfDerivation? derives
  · obtain ⟨s, _, derives⟩ := cyclic
    obtain ⟨walk, found⟩ := exists_selfDerivation? derives
    obtain ⟨s, t, way, first, back, rfl⟩ := selfDerivation?_walk found
    refine ⟨s, t, way, ?_, first, back, cyclic_of_selfDerivation? found⟩
    rw [eliminateLeftRecursionWith, found]
    rfl

/-- `A` and `B` derive each other once the symbols around them have vanished. -/
def veiled : Grammar :=
  ⟨["A", "B", "N", "b"], [⟨2, [[4, 3, 4]]⟩, ⟨3, [[2, 4], [5]]⟩, ⟨4, [[]]⟩], some 2⟩

theorem veiled_rejected : Reachable veiled ∧ veiled.DerivesPlus [2] [2] ∧ ∀ supply, ∃ name cycle,
    (veiled.eliminateLeftRecursionWith supply).result = .error (.leftRecursive name cycle) := by
  have built : ofEntries [⟨"A", [["N", "B", "N"]]⟩, ⟨"B", [["A", "N"], ["b"]]⟩, ⟨"N", [["ε"]]⟩] =
    .ok veiled := rfl
  have gone : veiled.BodyVanishes [4] := by
    have empty : veiled.Produces 4 [] := by decide
    exact List.forall_mem_singleton.mpr (.intro empty (List.forall_mem_nil _))
  have down : veiled.UnitCorner 2 3 := ⟨by decide, [4], [4], by decide, gone, gone⟩
  have back : veiled.UnitCorner 3 2 := ⟨by decide, [], [4], by decide, List.forall_mem_nil _, gone⟩
  have cyclic : veiled.DerivesPlus [2] [2] := derivesPlus_of_unitCorners (.tail (.single down) back)
  obtain ⟨_, rejected⟩ := cyclic_rejected (g := veiled)
  refine ⟨.entries built, cyclic, fun supply => ?_⟩
  obtain ⟨s, t, way, result, _⟩ := rejected ⟨2, by decide, cyclic⟩ supply
  exact ⟨_, _, result⟩

end Predictive.Grammar
