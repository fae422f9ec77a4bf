import Mathlib
import Predictive.Proofs.FactoringLookahead
import Predictive.Proofs.LeftCorners
import Predictive.Proofs.Reached

/-! Factoring brings no left recursion in. A new symbol is a left corner only behind a stem that
vanishes, so on a path of left corners it stands for the root of its stem: what comes next is a left
corner of that root as well. New symbols alone do not form a cycle, for each comes after the one that
it was split from. -/

namespace Predictive.Grammar
open Relation

variable {g h : Grammar} {s t root : Symbol} {stem : Body}

namespace Unfolding

variable (unfolding : g.Unfolding h)
include unfolding

theorem corner_of_stem (rooted : root ∈ g.nonterminals) (stems : h.Stem g.size root stem s)
    (vanish : g.BodyVanishes stem) (corner : h.LeftCorner s t) :
    t < g.size ∧ g.LeftCorner root t ∨
      g.size ≤ t ∧ ∃ stem, h.Stem g.size root stem t ∧ g.BodyVanishes stem := by
  obtain ⟨member, before, after, produces, gone⟩ := corner
  rcases Nat.lt_or_ge t g.size with old | fresh
  · obtain ⟨olds, tails, unfolds, occurs⟩ := unfolding.occurs_old rooted stems produces old
    obtain ⟨rest, listed⟩ := List.exists_mem_of_ne_nil tails unfolds.ne_nil
    have front := unfolding.bodyVanishes_old gone olds
    have known := unfolding.old_of_nonterminal member old
    exact .inl ⟨old, known, stem ++ before, rest, occurs rest listed,
      bodyVanishes_append.mpr ⟨vanish, front⟩⟩
  · obtain ⟨rfl, olds⟩ := unfolding.occurs_new rooted stems produces fresh
    have front := unfolding.bodyVanishes_old gone olds
    exact .inr ⟨fresh, stem ++ before, stems.branch produces fresh,
      bodyVanishes_append.mpr ⟨vanish, front⟩⟩

/-- Where a path of left corners gets to: an old symbol, or a new one that stands for its root. -/
theorem corners_of_root (rooted : s ∈ g.nonterminals) (path : TransGen h.LeftCorner s t) :
    t < g.size ∧ t ∈ g.nonterminals ∧ TransGen g.LeftCorner s t ∨
      g.size ≤ t ∧ ∃ root ∈ g.nonterminals, ReflTransGen g.LeftCorner s root ∧
        ∃ stem, h.Stem g.size root stem t ∧ g.BodyVanishes stem := by
  have vanish : g.BodyVanishes [] := by simp [BodyVanishes]
  induction path with
  | single corner =>
    rcases unfolding.corner_of_stem rooted .root vanish corner with ⟨old, next⟩ | ⟨fresh, stems⟩
    · exact .inl ⟨old, next.1, .single next⟩
    · exact .inr ⟨fresh, s, rooted, .refl, stems⟩
  | @tail t u _ corner ih =>
    rcases ih with ⟨_, member, before⟩ | ⟨_, root, member, before, stem, stems, gone⟩
    · rcases unfolding.corner_of_stem member .root vanish corner with ⟨old, next⟩ | ⟨fresh, stems⟩
      · exact .inl ⟨old, next.1, before.tail next⟩
      · exact .inr ⟨fresh, t, member, before.to_reflTransGen, stems⟩
    · rcases unfolding.corner_of_stem member stems gone corner with ⟨old, next⟩ | ⟨fresh, stems⟩
      · exact .inl ⟨old, next.1, .tail' before next⟩
      · exact .inr ⟨fresh, root, member, before, stems⟩

/-- A path that meets no old symbol goes upwards. -/
theorem old_or_rises (path : TransGen h.LeftCorner s t) :
    (∃ u ∈ g.nonterminals, ReflTransGen h.LeftCorner s u ∧ ReflTransGen h.LeftCorner u t) ∨ s < t := by
  have step : ∀ {s t}, h.LeftCorner s t → t ∈ g.nonterminals ∨ s < t := by
    intro s t corner
    obtain ⟨member, before, after, produces, _⟩ := corner
    rcases unfolding.rising s _ t produces (by simp) with old | rises
    · exact .inl (unfolding.old_of_nonterminal member old)
    · exact .inr rises
  induction path with
  | @single t corner =>
    rcases step corner with old | rises
    · exact .inl ⟨t, old, .single corner, .refl⟩
    · exact .inr rises
  | @tail t u path corner ih =>
    rcases ih with ⟨v, old, before, after⟩ | rises
    · exact .inl ⟨v, old, before, after.tail corner⟩
    · rcases step corner with old | higher
      · exact .inl ⟨u, old, path.to_reflTransGen.tail corner, .refl⟩
      · exact .inr (Nat.lt_trans rises higher)

theorem not_cycle (acyclic : ∀ s, ¬ TransGen g.LeftCorner s s) (s : Symbol) :
    ¬ TransGen h.LeftCorner s s := by
  intro cycle
  rcases unfolding.old_or_rises cycle with ⟨u, old, before, after⟩ | rises
  · have around : TransGen h.LeftCorner u u := .trans_right after (.trans_left cycle before)
    rcases unfolding.corners_of_root old around with ⟨_, _, cycle⟩ | ⟨fresh, _⟩
    · exact acyclic u cycle
    · exact Nat.not_lt.mpr fresh (unfolding.below u old)
  · exact Nat.lt_irrefl s rises

theorem not_leftRecursive (none : ∀ s, ¬ g.LeftRecursive s) (s : Symbol) : ¬ h.LeftRecursive s := by
  rw [leftRecursive_iff_cycle]
  apply unfolding.not_cycle
  intro t cycle
  exact none t (leftRecursive_iff_cycle.mpr cycle)

end Unfolding

/-- Factoring keeps a grammar free of left recursion, one that was freed from it by elimination in
particular. -/
theorem factored_not_leftRecursive (reachable : Reachable g) :
    ((∀ s, ¬ g.LeftRecursive s) → ∀ supply s, ¬ (g.factorWith supply).result.LeftRecursive s) ∧
      ∀ supply supply' h, (g.eliminateLeftRecursionWith supply).result = .ok h →
        ∀ s, ¬ (h.factorWith supply').result.LeftRecursive s := by
  have valid := reachable.wellFormed
  constructor
  · intro none supply
    exact (valid.unfolding supply).not_leftRecursive none
  · intro supply supply' h done
    obtain ⟨_, _, _, acyclic⟩ := eliminates_of_eliminateLeftRecursion done
    exact ((valid.eliminated done).unfolding supply').not_leftRecursive (Grammar.not_leftRecursive acyclic)

/-- What the alternatives of `S` share may vanish. -/
def sharing : Grammar :=
  ⟨["S", "A", "B", "b", "c", "a"], [⟨2, [[3, 4, 5], [3, 4, 6]]⟩, ⟨3, [[7], []]⟩, ⟨4, [[5, 2], []]⟩], some 2⟩

def sharingFactored : Grammar :=
  ⟨["S", "A", "B", "b", "c", "a", "S\x27"],
    [⟨2, [[3, 4, 8]]⟩, ⟨8, [[5], [6]]⟩, ⟨3, [[7], []]⟩, ⟨4, [[5, 2], []]⟩], some 2⟩

/-- Left recursive, with alternatives that begin alike once it no longer is. -/
def additions : Grammar :=
  ⟨["E", "T", "F", "+", "x", "y"], [⟨2, [[2, 5, 3], [2, 5, 4], [3]]⟩, ⟨3, [[6]]⟩, ⟨4, [[7]]⟩], some 2⟩

def additionsEliminated : Grammar :=
  ⟨["E", "T", "F", "+", "x", "y", "E\x27"],
    [⟨2, [[3, 8]]⟩, ⟨8, [[5, 3, 8], [5, 4, 8], []]⟩, ⟨3, [[6]]⟩, ⟨4, [[7]]⟩], some 2⟩

theorem sharing_factored :
    (sharing.factorWith .empty).result = sharingFactored ∧ (∀ s, ¬ sharingFactored.LeftRecursive s) ∧
      (additions.eliminateLeftRecursionWith .empty).result = .ok additionsEliminated ∧
      ∀ s, ¬ (additionsEliminated.factorWith .empty).result.LeftRecursive s := by
  have built : ofEntries [⟨"S", [["A", "B", "b"], ["A", "B", "c"]]⟩, ⟨"A", [["a"], ["ε"]]⟩,
    ⟨"B", [["b", "S"], ["ε"]]⟩] = .ok sharing := rfl
  have built' : ofEntries [⟨"E", [["E", "+", "T"], ["E", "+", "F"], ["T"]]⟩, ⟨"T", [["x"]]⟩,
    ⟨"F", [["y"]]⟩] = .ok additions := rfl
  have none : sharing.leftRecursion? = none := by cbv
  have factored : (sharing.factorWith .empty).result = sharingFactored := by cbv
  have eliminated : (additions.eliminateLeftRecursionWith .empty).result = .ok additionsEliminated := by
    cbv
  have kept := (factored_not_leftRecursive (.entries built)).1 (not_leftRecursive none) .empty
  rw [factored] at kept
  exact ⟨factored, kept, eliminated,
    (factored_not_leftRecursive (.entries built')).2 .empty .empty _ eliminated⟩

end Predictive.Grammar
