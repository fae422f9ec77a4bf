import Predictive.Proofs.LeastInterpretation
import Predictive.Proofs.Reached

/-! Elimination changes the words of no nonterminal. In one direction the languages of the
old grammar extend to the new symbols so that the new rules are sound, in the other the
languages of the new grammar make the old rules sound; and languages are least. -/

namespace Predictive.Grammar
open Computability

variable {g h : Grammar}

/-- A nonterminal that repeats the tails derives no more than their star. -/
theorem language_le_kstar (valid : g.WellFormed) {next : Symbol} {tails : List Body}
    (listed : ⟨next, tails.map (· ++ [next]) ++ [[]]⟩ ∈ g.rules) :
    g.language next ≤ (total g.language tails)∗ := by
  let starred := Function.update g.language next (total g.language tails)∗
  have here : starred next = (total g.language tails)∗ := Function.update_self ..
  have elsewhere : ∀ s, s ≠ next → starred s = g.language s := fun s other =>
    Function.update_of_ne other ..
  have least : (total g.language tails)∗ ≤ g.language next := by
    have sound : total g.language _ ≤ g.language next := sound_language listed
    rw [total_append, total_map_append, value_singleton, total_singleton, value_nil,
      add_le_iff] at sound
    exact kstar_le_of_mul_le_right sound.2 sound.1
  have below : ∀ s, starred s ≤ g.language s := by
    intro s
    by_cases same : s = next
    · subst same
      exact here ▸ least
    · exact (elsewhere s same).le
  rw [← here]
  refine language_le valid (fun s _ letter => ?_) (fun rule member => ?_)
    (valid.nonterminal_bounds (List.mem_map_of_mem listed)).2
  · have other : s ≠ next := fun same => letter (same ▸ List.mem_map_of_mem listed)
    exact elsewhere s other ▸ mem_language_self letter
  · by_cases same : rule.left = next
    · have bodies : rule.bodies = tails.map (· ++ [next]) ++ [[]] := by
        rw [← valid.bodiesOf_eq member, same]
        exact valid.bodiesOf_eq listed
      rw [Rule.Sound, bodies, same, total_append, total_map_append, value_singleton,
        total_singleton, value_nil, here]
      apply add_le ((mul_le_mul' (total_mono below) (le_refl _)).trans mul_kstar_le_kstar)
      exact one_le_kstar
    · rw [Rule.Sound, elsewhere rule.left same]
      exact (total_mono below).trans (sound_language member)

variable {supply : NameSupply}

theorem mem_nonterminals_eliminated
    (done : (g.eliminateLeftRecursionWith supply).result = .ok h) {s : Symbol}
    (declared : s < g.size) : s ∈ h.nonterminals ↔ s ∈ g.nonterminals := by
  obtain ⟨introduced, eliminates, _, _⟩ := eliminates_of_eliminateLeftRecursion done
  exact mem_nonterminals_of_lefts eliminates.lefts declared

theorem eliminated_language_le (valid : g.WellFormed)
    (done : (g.eliminateLeftRecursionWith supply).result = .ok h) {s : Symbol}
    (declared : s < g.size) : h.language s ≤ g.language s := by
  obtain ⟨introduced, eliminates, extension, _⟩ := eliminates_of_eliminateLeftRecursion done
  obtain ⟨value, same, sound⟩ := eliminates.exists_extension (by simp) valid.rules (by simp)
    fun rule listed => sound_language listed
  exact language_le_of_extension extension eliminates.lefts (valid.eliminated done) same sound
    declared

theorem language_le_eliminated (valid : g.WellFormed)
    (done : (g.eliminateLeftRecursionWith supply).result = .ok h) {s : Symbol}
    (declared : s < g.size) : g.language s ≤ h.language s := by
  obtain ⟨introduced, eliminates, _, _⟩ := eliminates_of_eliminateLeftRecursion done
  have valid' := valid.eliminated done
  refine language_le_of_sound eliminates.lefts valid ?_ declared
  exact eliminates.sound_of_result (by simp) (fun rule listed => sound_language listed)
    (fun rule listed => complete_language valid' listed)
    fun next tails listed => language_le_kstar valid' listed

/-- Elimination that succeeds keeps the words of each nonterminal and with them the
sentences; the symbols there were keep their names. -/
theorem eliminated_generates (reachable : Reachable g)
    (done : (g.eliminateLeftRecursionWith supply).result = .ok h) :
    (∀ s ∈ g.nonterminals, s ∈ h.nonterminals ∧
        ∀ word, h.Generates s word ↔ g.Generates s word) ∧
      (∀ word, h.Sentence word ↔ g.Sentence word) ∧ ∀ s < g.size, h.nameOf s = g.nameOf s := by
  have valid := reachable.wellFormed
  obtain ⟨_, _, extension, _⟩ := eliminates_of_eliminateLeftRecursion done
  have words : ∀ s ∈ g.nonterminals, ∀ word, h.Generates s word ↔ g.Generates s word := by
    intro s member word
    have declared := (valid.nonterminal_bounds member).2
    exact ⟨fun generates => eliminated_language_le valid done declared generates,
      fun generates => language_le_eliminated valid done declared generates⟩
  refine ⟨fun s member => ⟨?_, words s member⟩, fun word => ?_, extension.nameOf⟩
  · exact (mem_nonterminals_eliminated done (valid.nonterminal_bounds member).2).mpr member
  · simp only [Sentence, extension.start]
    exact exists_congr fun s => and_congr_right fun starts => words s (valid.start s starts) word

/-- Numbers and sums of them, the last summand apart. -/
def sums : Grammar :=
  ⟨["E", "T", "+", "n"], [⟨2, [[2, 4, 3], [3]]⟩, ⟨3, [[5]]⟩], some 2⟩

def sumsEliminated : Grammar :=
  ⟨["E", "T", "+", "n", "E\x27"], [⟨2, [[3, 6]]⟩, ⟨6, [[4, 3, 6], []]⟩, ⟨3, [[5]]⟩], some 2⟩

theorem sums_eliminated : sumsEliminated.Generates 2 [5, 4, 5] := by
  have built : ofEntries [⟨"E", [["E", "+", "T"], ["T"]]⟩, ⟨"T", [["n"]]⟩] = .ok sums := rfl
  have done : (sums.eliminateLeftRecursionWith .empty).result = .ok sumsEliminated := by cbv
  have sum : sums.Produces 2 [2, 4, 3] := by decide
  have term : sums.Produces 2 [3] := by decide
  have number : sums.Produces 3 [5] := by decide
  have single : sums.Derives [2] [5] := term.derives.trans number.derives
  have derives : sums.Derives [2] [5, 4, 5] :=
    sum.derives.trans (single.append (number.derives.append_left [4]))
  exact (((eliminated_generates (.entries built) done).1 2 (by decide)).2 [5, 4, 5]).mpr
    ⟨by decide, derives⟩

end Predictive.Grammar
