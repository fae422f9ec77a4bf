import Predictive.Proofs.Unfolding

/-! What factoring adds. A new symbol stands in one body, once. It is a fork: there are several ways to
go on from it, and they do not all begin with the same symbol, for then this symbol would have been
split off as well. -/

namespace Predictive

/-- There are several alternatives, and no symbol begins them all. -/
structure Forked (bodies : List Body) : Prop where
  several : 1 < bodies.length
  apart : ∀ s, ∃ body ∈ bodies, body.head? ≠ some s

/-- As it is stored, with `ε` for the empty alternative. -/
theorem Forked.apart_shown {bodies : List Body} (forked : Forked bodies) {s : Symbol}
    (filled : s ≠ Symbol.empty) : ∃ body ∈ bodies.map Grammar.shown, body.head? ≠ some s := by
  obtain ⟨body, chosen, begins⟩ := forked.apart s
  refine ⟨Grammar.shown body, List.mem_map_of_mem chosen, ?_⟩
  cases body with
  | nil => simpa [Grammar.shown] using filled.symm
  | cons => exact begins

/-- Nothing is left in common behind all that was. -/
theorem forked_rests {body : Body} {others : List Body} (several : others ≠ []) :
    Forked ((body :: others).map (·.drop (Body.commonToAll body others).length)) where
  several := by
    rw [List.length_map, List.length_cons]
    exact Nat.succ_lt_succ (List.length_pos_iff.mpr several)
  apart := by
    intro s
    refine Decidable.byContradiction fun alike => ?_
    let shared := Body.commonToAll body others
    have longer : ∀ other ∈ body :: others, shared <+: other → shared ++ [s] <+: other := by
      rintro other listed ⟨rest, rfl⟩
      have begins : rest.head? = some s := by
        have here := not_exists.mp alike rest
        rw [not_and, not_not] at here
        exact here (List.mem_map.mpr ⟨_, listed, List.drop_left⟩)
      obtain ⟨later, rfl⟩ := List.head?_eq_some_iff.mp begins
      exact ⟨later, by simp⟩
    have within : shared ++ [s] <+: shared := by
      apply Body.prefix_commonToAll
      · exact longer body List.mem_cons_self (Body.commonToAll_prefix body others)
      · exact fun other member =>
          longer other (List.mem_cons_of_mem body member) (Body.commonToAll_prefix_of_mem member)
    have length := within.length_le
    rw [List.length_append, List.length_singleton] at length
    exact Nat.not_succ_le_self _ length

namespace Factoring

namespace Factored

variable {left next size n : Nat} {before bodies : List Body} {splits : List Split}

/-- Factoring takes nothing from the front of the alternatives. -/
theorem subset_heads (done : Factored left next before bodies splits) :
    before.map List.head? ⊆ bodies.map List.head? := by
  induction done with
  | nil => exact List.Subset.refl []
  | empty _ ih => exact List.cons_subset_cons _ ih
  | single _ _ ih => exact List.cons_subset_cons _ ih
  | @group left next s body later shared rests inner bodies splits cause _ _ _ _ _ ih =>
    intro head member
    by_cases same : head = some s
    · exact List.mem_cons.mpr (.inl same)
    · refine List.mem_cons_of_mem _ (ih ?_)
      rcases List.mem_cons.mp member with first | behind
      · exact absurd first same
      · obtain ⟨given, listed, rfl⟩ := List.mem_map.mp behind
        exact List.mem_map_of_mem (List.mem_filter.mpr ⟨listed, by simpa using same⟩)

theorem forked (done : Factored left next before bodies splits) (fork : Forked before) :
    Forked bodies := by
  refine ⟨?_, fun s => ?_⟩
  · cases done with
    | nil => cases fork.several
    | empty rest => exact Nat.succ_lt_succ (List.length_pos_iff.mpr
        (rest.ne_nil (List.length_pos_iff.mp (Nat.lt_of_succ_lt_succ fork.several))))
    | single _ rest => exact Nat.succ_lt_succ (List.length_pos_iff.mpr
        (rest.ne_nil (List.length_pos_iff.mp (Nat.lt_of_succ_lt_succ fork.several))))
    | @group _ _ s body later _ _ _ _ _ _ _ _ _ rest =>
      -- Not all of them begin with `s`, so there is more than the one group.
      obtain ⟨other, listed, begins⟩ := fork.apart s
      have behind : other ∈ later := by
        rcases List.mem_cons.mp listed with rfl | behind
        · exact absurd rfl begins
        · exact behind
      have remains : other ∈ notBeginning s later :=
        List.mem_filter.mpr ⟨behind, by simpa using begins⟩
      exact Nat.succ_lt_succ (List.length_pos_iff.mpr (rest.ne_nil (List.ne_nil_of_mem remains)))
  · obtain ⟨other, listed, begins⟩ := fork.apart s
    obtain ⟨body, member, same⟩ := List.mem_map.mp (done.subset_heads (List.mem_map_of_mem listed))
    exact ⟨body, member, same ▸ begins⟩

theorem splits_forked (done : Factored left next before bodies splits) :
    ∀ split ∈ splits, Forked split.rule.bodies := by
  induction done with
  | nil => simp
  | empty _ ih => exact ih
  | single _ _ ih => exact ih
  | @group left next s body later shared rests inner bodies splits cause several common onward _
      ihOnward ihRest =>
    subst common
    exact List.forall_mem_append.mpr
      ⟨List.forall_mem_cons.mpr ⟨onward.forked (forked_rests several), ihOnward⟩, ihRest⟩

/-- A new symbol stands in the bodies as often as on the left. -/
theorem count (done : Factored left next before bodies splits)
    (old : ∀ body ∈ before, ∀ s ∈ body, s < size) (fresh : size ≤ n) :
    bodies.flatten.count n + (splits.flatMap (·.rule.bodies)).flatten.count n =
      (splits.map (·.rule.left)).count n := by
  induction done with
  | nil => rfl
  | empty _ ih =>
    have behind := ih (List.forall_mem_cons.mp old).2
    rwa [List.flatten_cons, List.nil_append]
  | single _ _ ih =>
    obtain ⟨first, old⟩ := List.forall_mem_cons.mp old
    have behind := ih old
    rwa [List.flatten_cons, List.count_append,
      List.count_eq_zero.mpr fun inside => Nat.not_lt.mpr fresh (first n inside), Nat.zero_add]
  | @group left next s body later shared rests inner bodies splits cause _ common _ _ ihOnward ihRest =>
    have inside := ihOnward (old_rests old)
    obtain ⟨first, old⟩ := List.forall_mem_cons.mp old
    have behind := ihRest fun body member => old body (List.mem_filter.mp member).1
    have front : shared <+: body := common ▸ Body.commonToAll_prefix _ _
    have absent : (s :: shared).count n = 0 := by
      refine List.count_eq_zero.mpr fun member => Nat.not_lt.mpr fresh (first n ?_)
      exact List.cons_subset_cons s front.subset member
    simp only [List.flatMap_append, List.flatMap_cons, List.flatten_append, List.flatten_cons,
      List.map_append, List.map_cons, List.count_append, List.count_cons, List.count_nil]
      at inside behind absent ⊢
    omega

end Factored

namespace FactoredRules

variable {next size n : Nat} {before rules : List Rule} {splits : List Split}

theorem count (done : FactoredRules next before rules splits)
    (below : ∀ rule ∈ before, rule.left < size)
    (old : ∀ rule ∈ before, ∀ body ∈ rule.bodies, ∀ s ∈ body, s < size) (fresh : size ≤ n) :
    (rules.flatMap Rule.bodies).flatten.count n = (rules.map Rule.left).count n := by
  induction done with
  | nil => rfl
  | @cons next rule later bodies splits rules others here _ ih =>
    obtain ⟨first, below⟩ := List.forall_mem_cons.mp below
    obtain ⟨own, old⟩ := List.forall_mem_cons.mp old
    have added := here.count own fresh
    have behind := ih below old
    have other : rule.left ≠ n := Nat.ne_of_lt (Nat.lt_of_lt_of_le first fresh)
    rw [List.flatMap_append, List.flatten_append, List.count_append, behind, List.map_append,
      List.count_append, List.flatMap_cons, List.flatten_append, List.count_append, List.map_cons,
      List.count_cons_of_ne other, List.flatMap_map, List.map_map]
    exact congrArg (· + _) added

theorem forked (done : FactoredRules next before rules splits)
    (below : ∀ rule ∈ before, rule.left < size) :
    ∀ rule ∈ rules, size ≤ rule.left → Forked rule.bodies := by
  intro rule listed fresh
  obtain ⟨source, given, bodies, splits, treated, here⟩ := done.source rule listed
  rcases here with rfl | ⟨split, member, rfl⟩
  · exact absurd (below source given) (Nat.not_lt.mpr fresh)
  · obtain ⟨_, _, factored⟩ := treated.factored
    exact factored.splits_forked split member

end FactoredRules
end Factoring

namespace Grammar

variable {g : Grammar} {n left other : Symbol} {body last : Body}

theorem WellFormed.forked_factorWith (valid : g.WellFormed) (supply : NameSupply)
    (nonterminal : n ∈ (g.factorWith supply).result.nonterminals) (fresh : g.size ≤ n) :
    Forked ((g.factorWith supply).result.bodiesOf n) := by
  obtain ⟨splits, done, _⟩ := factorWith_result (g := g) supply
  obtain ⟨rule, listed, rfl⟩ := List.mem_map.mp nonterminal
  rw [(valid.factored supply).bodiesOf_eq listed]
  exact done.forked valid.left_lt rule listed fresh

theorem WellFormed.count_factorWith (valid : g.WellFormed) (supply : NameSupply)
    (nonterminal : n ∈ (g.factorWith supply).result.nonterminals) (fresh : g.size ≤ n) :
    ((g.factorWith supply).result.rules.flatMap Rule.bodies).flatten.count n = 1 := by
  obtain ⟨splits, done, _⟩ := factorWith_result (g := g) supply
  have old : ∀ rule ∈ g.rules, ∀ body ∈ rule.bodies, ∀ s ∈ body, s < g.size :=
    fun rule listed body chosen s inside => ((valid.rules rule listed).symbols body chosen s inside).2
  rw [done.count valid.left_lt old fresh]
  exact List.count_eq_one_of_mem (valid.factored supply).lefts nonterminal

/-! A symbol that occurs once has one rule to occur in. -/

variable (once : (g.rules.flatMap Rule.bodies).flatten.count n = 1)

include once

theorem exists_occurrence : ∃ left body, g.Produces left body ∧ n ∈ body := by
  obtain ⟨body, listed, inside⟩ := List.mem_flatten.mp (List.one_le_count_iff.mp (Nat.le_of_eq once.symm))
  obtain ⟨rule, given, chosen⟩ := List.mem_flatMap.mp listed
  exact ⟨rule.left, body, produces_of_listed rule given body chosen, inside⟩

theorem left_unique (produces : g.Produces left body) (inside : n ∈ body)
    (produces' : g.Produces other last) (inside' : n ∈ last) : left = other := by
  obtain ⟨rule, given, rfl, chosen⟩ := produces_iff.mp produces
  obtain ⟨rule', given', rfl, chosen'⟩ := produces_iff.mp produces'
  refine Decidable.byContradiction fun different => ?_
  have here : 0 < rule.bodies.flatten.count n :=
    List.count_pos_iff.mpr (List.mem_flatten.mpr ⟨body, chosen, inside⟩)
  have elsewhere : ∀ rules : List Rule, rule' ∈ rules → 0 < (rules.flatMap Rule.bodies).flatten.count n :=
    fun rules listed => List.count_pos_iff.mpr
      (List.mem_flatten.mpr ⟨last, List.mem_flatMap.mpr ⟨rule', listed, chosen'⟩, inside'⟩)
  obtain ⟨earlier, later, rules⟩ := List.append_of_mem given
  rw [rules] at once given'
  simp only [List.flatMap_append, List.flatMap_cons, List.flatten_append, List.count_append] at once
  rcases List.mem_append.mp given' with before | behind
  · have there := elsewhere earlier before
    omega
  · rcases List.mem_cons.mp behind with same | behind
    · exact different (congrArg Rule.left same).symm
    · have there := elsewhere later behind
      omega

end Grammar
end Predictive
