import Predictive.Proofs.Comparison
import Predictive.Proofs.FactoringLookahead
import Predictive.Proofs.Forks

/-! Factoring leaves the lookahead sets of the old nonterminals as they are. What an alternative unfolds
to can be derived from it, so nothing gets lost; and what the new rules show was there before. A new
symbol ends the one body that it stands in, so it is followed by what follows the left side there. -/

namespace Predictive.Grammar

variable {g h : Grammar} {size : Nat} {start letter : Symbol}

theorem Unfolds.derives {bodies fulls : List Body} (unfolds : h.Unfolds size bodies fulls) :
    ∀ full ∈ fulls, ∃ body ∈ bodies, h.Derives body full := by
  induction unfolds with
  | nil => simp
  | @old body _ _ _ _ ih =>
    refine List.forall_mem_cons.mpr ⟨⟨body, List.mem_cons_self, .refl⟩, fun full member => ?_⟩
    obtain ⟨other, listed, derives⟩ := ih full member
    exact ⟨other, List.mem_cons_of_mem body listed, derives⟩
  | @new front n _ _ _ _ _ _ _ _ ihNamed ihRest =>
    refine List.forall_mem_append.mpr ⟨fun full member => ?_, fun full member => ?_⟩
    · obtain ⟨rest, inside, rfl⟩ := List.mem_map.mp member
      obtain ⟨body, produces, derives⟩ := ihNamed rest inside
      have onward : h.Derives [n] rest := (Produces.derives produces).trans derives
      exact ⟨front ++ [n], List.mem_cons_self, onward.append_left front⟩
    · obtain ⟨other, listed, derives⟩ := ihRest full member
      exact ⟨other, List.mem_cons_of_mem _ listed, derives⟩

namespace Unfolding

variable {s n left : Symbol} {body : Body} (unfolding : g.Unfolding h)
include unfolding

/-- The old bodies can still be derived. -/
theorem implied (produces : g.Produces s body) : h.Derives [s] body := by
  obtain ⟨fulls, unfolds, same⟩ := unfolding.bodies s produces.nonterminal
  obtain ⟨first, produces', derives⟩ := unfolds.derives body (same.symm.subset produces)
  exact (Produces.derives produces').trans derives

theorem ofBody (valid : g.WellFormed) (old : ∀ s ∈ body, s < g.size) :
    h.firstSets.ofBody body = g.firstSets.ofBody body := by
  have implied : ∀ s body, g.Produces s body → h.Derives [s] body := fun _ _ => unfolding.implied
  refine ofBody_eq (letters_eq unfolding.size unfolding.lefts) ⟨?_, ?_⟩ fun t letter => ⟨?_, ?_⟩
  · exact fun vanish => unfolding.bodyVanishes_old vanish old
  · exact bodyVanishes_of_implied implied
  · intro begins
    obtain ⟨full, same, here⟩ :=
      unfolding.bodyBegins begins ((mem_letters valid).mp letter).2.1 (.old old .nil)
    exact List.mem_singleton.mp same ▸ here
  · exact bodyBegins_of_implied implied

theorem follows_old (valid : g.WellFormed) (nonterminal : s ∈ g.nonterminals) (old : letter < g.size) :
    h.Follows letter s ↔ g.Follows letter s := by
  constructor
  · intro follows
    obtain ⟨root, _, stem, stems, here⟩ := unfolding.follows valid follows old
    cases stems with
    | root => exact here
    | branch _ _ fresh => exact absurd (unfolding.below s nonterminal) (Nat.not_lt.mpr fresh)
  · exact follows_of_implied (fun _ _ => unfolding.implied) unfolding.start.symm
      fun s member => (unfolding.lefts s).mpr (.inl member)

theorem follows_new (valid : g.WellFormed) (once : (h.rules.flatMap Rule.bodies).flatten.count n = 1)
    (nonterminal : n ∈ h.nonterminals) (fresh : g.size ≤ n) (produces : h.Produces left body)
    (inside : n ∈ body) : h.Follows letter n ↔ h.Follows letter left := by
  have last : ∀ {left before after}, h.Produces left (before ++ n :: after) → after = [] := by
    intro left before after produces
    obtain ⟨root, rooted, stem, stems⟩ := unfolding.stems left produces.nonterminal
    exact (unfolding.occurs_new rooted stems produces fresh).1
  constructor
  · intro follows
    cases follows with
    | start _ starts =>
      have below := unfolding.below n (valid.start n (unfolding.start ▸ starts))
      exact absurd below (Nat.not_lt.mpr fresh)
    | rest produces' _ begins =>
      obtain ⟨_, _, _, absurdity, _⟩ := last produces' ▸ begins
      simp at absurdity
    | left produces' _ _ follows =>
      rwa [left_unique once produces inside produces' (by simp)]
  · intro follows
    obtain ⟨before, after, rfl⟩ := List.append_of_mem inside
    exact .left produces nonterminal (last produces ▸ List.forall_mem_nil _) follows

end Unfolding

/-- By number, FIRST and FOLLOW of the old nonterminals are what they were, whatever the supply; and a
new nonterminal, which stands in one body, takes over FOLLOW from the left side of that body. -/
theorem factored_sets (reachable : Reachable g) (starts : g.start = some start) (supply : NameSupply) :
    let h := (g.factorWith supply).result
    (∀ s ∈ g.nonterminals, h.firstSets.ofBody [s] = g.firstSets.ofBody [s] ∧
        (h.followSets h.firstSets).of s = (g.followSets g.firstSets).of s) ∧
      ∀ n ∈ h.nonterminals, g.size ≤ n →
        (∃ left body, h.Produces left body ∧ n ∈ body) ∧
          ∀ left body, h.Produces left body → n ∈ body →
            (h.followSets h.firstSets).of n = (h.followSets h.firstSets).of left := by
  intro h
  have valid := reachable.wellFormed
  have unfolding : g.Unfolding h := valid.unfolding supply
  have starts' : h.start = some start := unfolding.start.trans starts
  have letters : h.letters = g.letters := letters_eq unfolding.size unfolding.lefts
  refine ⟨fun s nonterminal => ⟨?_, ?_⟩, fun n nonterminal fresh => ?_⟩
  · exact unfolding.ofBody valid (List.forall_mem_singleton.mpr (unfolding.below s nonterminal))
  · refine of_eq letters starts starts' fun letter listed => ?_
    exact unfolding.follows_old valid nonterminal ((mem_letters valid).mp listed).2.1
  · have once := valid.count_factorWith supply nonterminal fresh
    refine ⟨exists_occurrence once, fun left body produces inside => ?_⟩
    exact of_eq rfl starts' starts' fun _ _ =>
      unfolding.follows_new valid once nonterminal fresh produces inside

/-- What follows `A` passes down to the new symbols, which both vanish. -/
def nested : Grammar :=
  ⟨["S", "A", "e", "a", "b", "c"], [⟨2, [[3, 4]]⟩, ⟨3, [[5, 6, 7], [5, 6], [5]]⟩], some 2⟩

def nestedFactored : Grammar :=
  ⟨["S", "A", "e", "a", "b", "c", "A\x27", "A\x27\x27"],
    [⟨2, [[3, 4]]⟩, ⟨3, [[5, 8]]⟩, ⟨8, [[6, 9], []]⟩, ⟨9, [[7], []]⟩], some 2⟩

theorem nested_factored_sets : (nested.factorWith .empty).result = nestedFactored ∧
    nestedFactored.firstSets.ofBody [3] = [5] ∧
      (nestedFactored.followSets nestedFactored.firstSets).of 3 = [4] ∧
      (nestedFactored.followSets nestedFactored.firstSets).of 9 = [4] := by
  have built : ofEntries [⟨"S", [["A", "e"]]⟩, ⟨"A", [["a", "b", "c"], ["a", "b"], ["a"]]⟩] =
    .ok nested := rfl
  have factored : (nested.factorWith .empty).result = nestedFactored := by cbv
  obtain ⟨kept, passed⟩ := factored_sets (.entries built) rfl .empty
  rw [factored] at kept passed
  obtain ⟨first, follow⟩ := kept 3 (by decide)
  have middle := (passed 8 (by decide) (by decide)).2 3 [5, 8] (by decide) (by decide)
  have inner := (passed 9 (by decide) (by decide)).2 8 [6, 9] (by decide) (by decide)
  have before : nested.firstSets.ofBody [3] = [5] := by cbv
  have behind : (nested.followSets nested.firstSets).of 3 = [4] := by cbv
  exact ⟨factored, first.trans before, follow.trans behind,
    (inner.trans middle).trans (follow.trans behind)⟩

end Predictive.Grammar
