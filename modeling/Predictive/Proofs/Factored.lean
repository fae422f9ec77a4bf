import Predictive.Factoring
import Predictive.Proofs.Naming
import Predictive.Proofs.WellFormed

/-! What factoring has done to the alternatives of a rule, group by group. -/

namespace Predictive

theorem Body.common_prefix (first second : Body) : Body.common first second <+: first := by
  induction first generalizing second with
  | nil => cases second <;> exact List.nil_prefix
  | cons s rest ih =>
    cases second with
    | nil => exact List.nil_prefix
    | cons t other =>
      rw [Body.common]
      split
      · exact List.cons_prefix_cons.mpr ⟨rfl, ih other⟩
      · exact List.nil_prefix

theorem Body.common_prefix_right (first second : Body) : Body.common first second <+: second := by
  induction first generalizing second with
  | nil => cases second <;> exact List.nil_prefix
  | cons s rest ih =>
    cases second with
    | nil => exact List.nil_prefix
    | cons t other =>
      rw [Body.common]
      split
      next same => exact List.cons_prefix_cons.mpr ⟨same, ih other⟩
      · exact List.nil_prefix

theorem Body.commonToAll_prefix (body : Body) (others : List Body) :
    Body.commonToAll body others <+: body := by
  induction others generalizing body with
  | nil => exact List.prefix_refl body
  | cons other later ih =>
    exact (ih (Body.common body other)).trans (Body.common_prefix body other)

theorem Body.commonToAll_prefix_of_mem {body other : Body} {others : List Body}
    (member : other ∈ others) : Body.commonToAll body others <+: other := by
  induction others generalizing body with
  | nil => cases member
  | cons first later ih =>
    rcases List.mem_cons.mp member with rfl | behind
    · exact (Body.commonToAll_prefix _ later).trans (Body.common_prefix_right body other)
    · exact ih behind

theorem Body.prefix_common {shared first second : Body} (left : shared <+: first)
    (right : shared <+: second) : shared <+: Body.common first second := by
  induction shared generalizing first second with
  | nil => exact List.nil_prefix
  | cons s shared ih =>
    obtain ⟨rest, rfl⟩ := left
    obtain ⟨other, rfl⟩ := right
    rw [List.cons_append, List.cons_append, Body.common, if_pos rfl]
    exact List.cons_prefix_cons.mpr ⟨rfl, ih (List.prefix_append _ _) (List.prefix_append _ _)⟩

/-- Nothing that all have in common is longer. -/
theorem Body.prefix_commonToAll {shared body : Body} {others : List Body} (first : shared <+: body)
    (each : ∀ other ∈ others, shared <+: other) : shared <+: Body.commonToAll body others := by
  induction others generalizing body with
  | nil => exact first
  | cons other later ih =>
    obtain ⟨here, behind⟩ := List.forall_mem_cons.mp each
    exact ih (Body.prefix_common first here) behind

namespace Factoring

inductive Factored : Symbol → Symbol → List Body → List Body → List Split → Prop where
  | nil {left next} : Factored left next [] [] []
  | empty {left next later bodies splits} (rest : Factored left next later bodies splits) :
      Factored left next ([] :: later) ([] :: bodies) splits
  | single {left next s body later bodies splits} (alone : tailsOf s later = [])
      (rest : Factored left next later bodies splits) :
      Factored left next ((s :: body) :: later) ((s :: body) :: bodies) splits
  | group {left next s body later shared rests inner bodies splits cause}
      (several : tailsOf s later ≠ []) (common : shared = Body.commonToAll body (tailsOf s later))
      (onward : Factored next (next + 1)
        ((body :: tailsOf s later).map (·.drop shared.length)) rests inner)
      (rest : Factored left (next + 1 + inner.length) (notBeginning s later) bodies splits) :
      Factored left next ((s :: body) :: later) ((s :: shared ++ [next]) :: bodies)
        (⟨⟨next, rests⟩, ⟨left, cause⟩⟩ :: inner ++ splits)

theorem factored (left next : Symbol) (bodies : List Body) :
    Factored left next bodies (factor left next bodies).1 (factor left next bodies).2 := by
  fun_induction factor left next bodies with
  | case1 => exact .nil
  | case2 left next later bodies splits found ih =>
    rw [found] at ih
    exact .empty ih
  | case3 left next s body later same alone bodies splits found ih =>
    rw [found] at ih
    exact .single (List.isEmpty_iff.mp alone) ih
  | case4 left next s body later same several shared rests inner found bodies splits found'
      introduction onward rest =>
    rw [found] at onward
    rw [found'] at rest
    exact .group (by simpa using several) rfl onward rest

namespace Factored

variable {left next : Symbol} {before bodies : List Body} {splits : List Split}

private theorem total_length {next inner splits : Nat} :
    next + 1 + inner + splits = next + (inner + 1 + splits) := by
  omega

theorem lefts (done : Factored left next before bodies splits) :
    splits.map (·.rule.left) = List.range' next splits.length := by
  induction done with
  | nil => rfl
  | empty _ ih => exact ih
  | single _ _ ih => exact ih
  | @group left next s body later shared rests inner bodies splits cause _ _ _ _ onward rest =>
    have place : next + 1 + inner.length = next + (inner.length + 1) := Nat.add_right_comm next 1 _
    rw [List.map_append, List.map_cons, onward, rest, List.length_append, List.length_cons, place,
      ← List.range'_append_1, List.range'_succ]

theorem ne_nil (done : Factored left next before bodies splits) (nonempty : before ≠ []) :
    bodies ≠ [] := by
  cases done with
  | nil => exact absurd rfl nonempty
  | empty => exact List.cons_ne_nil _ _
  | single => exact List.cons_ne_nil _ _
  | group => exact List.cons_ne_nil _ _

private theorem bounds_of_shared {size : Nat} {s next : Symbol} {body shared : Body}
    (first : ∀ t ∈ s :: body, 0 < t ∧ t < next) (common : shared <+: body) (bound : next < size) :
    ∀ t ∈ s :: shared ++ [next], 0 < t ∧ t < size := by
  obtain ⟨head, tail⟩ := List.forall_mem_cons.mp first
  have inside : ∀ t ∈ s :: shared, 0 < t ∧ t < next :=
    List.forall_mem_cons.mpr ⟨head, fun t present => tail t (common.subset present)⟩
  exact bounds_concat inside (Nat.zero_lt_of_lt head.2) bound

/-- The rests of the alternatives that have `s` in common use old symbols only. -/
theorem bounds_of_rests {size n : Nat} {s : Symbol} {body : Body} {later : List Body}
    (given : ∀ old : Body, old ∈ (s :: body) :: later → ∀ t ∈ old, 0 < t ∧ t < size) :
    ∀ rest ∈ (body :: tailsOf s later).map (·.drop n), ∀ t ∈ rest, 0 < t ∧ t < size := by
  obtain ⟨first, given⟩ := List.forall_mem_cons.mp given
  obtain ⟨_, tail⟩ := List.forall_mem_cons.mp first
  intro rest member t present
  obtain ⟨old, listed, rfl⟩ := List.mem_map.mp member
  have bounds := List.forall_mem_cons.mpr ⟨tail, bounds_of_tailsOf given⟩ old listed
  exact bounds t (List.mem_of_mem_drop present)

theorem bounds (done : Factored left next before bodies splits) (low : 2 ≤ next)
    (given : ∀ body ∈ before, ∀ s ∈ body, 0 < s ∧ s < next) :
    (∀ body ∈ bodies, ∀ s ∈ body, 0 < s ∧ s < next + splits.length) ∧
      ∀ split ∈ splits, split.rule.Within (next + splits.length) := by
  induction done with
  | nil => exact ⟨by simp, by simp⟩
  | empty _ ih =>
    obtain ⟨_, given⟩ := List.forall_mem_cons.mp given
    obtain ⟨here, there⟩ := ih low given
    exact ⟨List.forall_mem_cons.mpr ⟨by simp, here⟩, there⟩
  | single _ _ ih =>
    obtain ⟨first, given⟩ := List.forall_mem_cons.mp given
    obtain ⟨here, there⟩ := ih low given
    exact ⟨List.forall_mem_cons.mpr ⟨bounds_mono first (Nat.le_add_right _ _), here⟩, there⟩
  | @group left next s body later shared rests inner bodies splits cause _ common onward rest
      ihOnward ihRest =>
    have older : next ≤ next + 1 + inner.length :=
      Nat.le_trans (Nat.le_succ next) (Nat.le_add_right _ _)
    have rested : ∀ rest ∈ (body :: tailsOf s later).map (·.drop shared.length),
        ∀ t ∈ rest, 0 < t ∧ t < next + 1 := fun rest member =>
      bounds_mono (bounds_of_rests given rest member) (Nat.le_succ next)
    obtain ⟨first, given⟩ := List.forall_mem_cons.mp given
    have total : next + 1 + inner.length + splits.length =
        next + (⟨⟨next, rests⟩, ⟨left, cause⟩⟩ :: inner ++ splits).length := by
      rw [List.length_append, List.length_cons]
      exact total_length
    have inside : next + 1 + inner.length ≤
        next + (⟨⟨next, rests⟩, ⟨left, cause⟩⟩ :: inner ++ splits).length :=
      total ▸ Nat.le_add_right _ _
    have start : next + 1 ≤ next + (⟨⟨next, rests⟩, ⟨left, cause⟩⟩ :: inner ++ splits).length :=
      Nat.le_trans (Nat.le_add_right _ _) inside
    have others : ∀ body ∈ notBeginning s later, ∀ t ∈ body, 0 < t ∧ t < next + 1 + inner.length := by
      intro body member
      exact bounds_mono (given body (List.mem_filter.mp member).1) older
    obtain ⟨innerBodies, innerRules⟩ := ihOnward (Nat.le_succ_of_le low) rested
    obtain ⟨otherBodies, otherRules⟩ := ihRest (Nat.le_trans low older) others
    rw [total] at otherBodies otherRules
    have replaced := bounds_of_shared first (common ▸ Body.commonToAll_prefix _ _) start
    have split : Rule.Within _ ⟨next, rests⟩ := ⟨⟨low, start⟩, onward.ne_nil (by simp),
      fun body member => bounds_mono (innerBodies body member) inside⟩
    have within := List.forall_mem_append.mpr
      ⟨fun split member => (innerRules split member).mono inside, otherRules⟩
    exact ⟨List.forall_mem_cons.mpr ⟨replaced, otherBodies⟩,
      List.forall_mem_cons.mpr ⟨split, within⟩⟩

end Factored

/-- Rule after rule, each followed by the rules split from it. -/
inductive FactoredRules : Symbol → List Rule → List Rule → List Split → Prop where
  | nil {next} : FactoredRules next [] [] []
  | cons {next rule later bodies splits rules others}
      (here : Factored rule.left next rule.bodies bodies splits)
      (rest : FactoredRules (next + splits.length) later rules others) :
      FactoredRules next (rule :: later)
        (⟨rule.left, bodies⟩ :: splits.map Split.rule ++ rules) (splits ++ others)

theorem factoredRules (next : Symbol) (rules : List Rule) :
    FactoredRules next rules (factorRules next rules).1 (factorRules next rules).2 := by
  induction rules generalizing next with
  | nil => exact .nil
  | cons rule later ih => exact .cons (factored rule.left next rule.bodies) (ih _)

namespace FactoredRules

variable {next : Symbol} {before rules : List Rule} {splits : List Split}

private theorem range_cons {n first count later : Nat} :
    (first ≤ n ∧ n < first + count) ∨ first + count ≤ n ∧ n < first + count + later ↔
      first ≤ n ∧ n < first + (count + later) := by
  omega

theorem lefts (done : FactoredRules next before rules splits) (s : Symbol) :
    s ∈ rules.map Rule.left ↔
      s ∈ before.map Rule.left ∨ next ≤ s ∧ s < next + splits.length := by
  induction done with
  | @nil next =>
    simp only [List.map_nil, List.not_mem_nil, List.length_nil, false_or, Nat.add_zero]
    exact ⟨False.elim, fun bounds => Nat.lt_irrefl _ (Nat.lt_of_le_of_lt bounds.1 bounds.2)⟩
  | @cons next rule later bodies splits rules others here rest ih =>
    have inner : s ∈ (splits.map Split.rule).map Rule.left ↔
        next ≤ s ∧ s < next + splits.length := by
      have lefts := here.lefts
      rw [List.map_map, Function.comp_def, lefts, List.mem_range'_1]
    rw [List.map_append, List.map_cons, List.mem_append, List.mem_cons, List.map_cons,
      List.mem_cons, ih, inner, List.length_append, ← range_cons]
    simp only [or_assoc, or_left_comm]

theorem distinct (done : FactoredRules next before rules splits)
    (given : (before.map Rule.left).Nodup) (below : ∀ s ∈ before.map Rule.left, s < next) :
    (rules.map Rule.left).Nodup := by
  induction done with
  | nil => exact given
  | @cons next rule later bodies splits rules others here rest ih =>
    obtain ⟨fresh, given⟩ := List.nodup_cons.mp given
    obtain ⟨low, lower⟩ := List.forall_mem_cons.mp below
    have inner : (splits.map Split.rule).map Rule.left = List.range' next splits.length := by
      rw [List.map_map, Function.comp_def]
      exact here.lefts
    rw [List.map_append, List.map_cons, inner, List.cons_append]
    refine List.nodup_cons.mpr ⟨fun member => ?_, List.nodup_append.mpr
      ⟨List.nodup_range', ih given ?_, fun s first t second same => ?_⟩⟩
    · rcases List.mem_append.mp member with inside | behind
      · exact Nat.lt_irrefl _ (Nat.lt_of_lt_of_le low (List.mem_range'_1.mp inside).1)
      · rcases (rest.lefts _).mp behind with again | ⟨high, _⟩
        · exact fresh again
        · exact Nat.lt_irrefl _ (Nat.lt_of_lt_of_le low (Nat.le_trans (Nat.le_add_right _ _) high))
    · exact fun s member => Nat.lt_of_lt_of_le (lower s member) (Nat.le_add_right _ _)
    · obtain ⟨high, inside⟩ := List.mem_range'_1.mp first
      rcases (rest.lefts _).mp second with again | ⟨higher, _⟩
      · exact Nat.lt_irrefl _ (Nat.lt_of_lt_of_le (lower t again) (same ▸ high))
      · exact Nat.lt_irrefl _ (Nat.lt_of_lt_of_le inside (same ▸ higher))

theorem within (done : FactoredRules next before rules splits) (low : 2 ≤ next)
    (given : ∀ rule ∈ before, rule.Within next) :
    ∀ rule ∈ rules, rule.Within (next + splits.length) := by
  induction done with
  | nil => simp
  | @cons next rule later bodies splits rules others here rest ih =>
    obtain ⟨first, given⟩ := List.forall_mem_cons.mp given
    obtain ⟨own, inner⟩ := here.bounds low first.symbols
    have wider : next ≤ next + splits.length := Nat.le_add_right _ _
    have behind := ih (Nat.le_trans low wider) fun rule listed => (given rule listed).mono wider
    rw [Nat.add_assoc, ← List.length_append] at behind
    have total : next + splits.length ≤ next + (splits ++ others).length := by
      rw [List.length_append]
      exact Nat.add_le_add_left (Nat.le_add_right _ _) next
    have kept : (⟨rule.left, bodies⟩ : Rule).Within (next + splits.length) :=
      ⟨⟨first.left.1, Nat.lt_of_lt_of_le first.left.2 wider⟩, here.ne_nil first.bodies, own⟩
    refine List.forall_mem_append.mpr ⟨List.forall_mem_cons.mpr ⟨kept.mono total, ?_⟩, behind⟩
    intro rule listed
    obtain ⟨split, member, rfl⟩ := List.mem_map.mp listed
    exact (inner split member).mono total

end FactoredRules
end Factoring

namespace Grammar

variable {g : Grammar}

theorem factorWith_result (supply : NameSupply) :
    ∃ splits, Factoring.FactoredRules g.size g.rules (g.factorWith supply).result.rules splits ∧
      g.Extends (g.factorWith supply).result splits.length := by
  refine ⟨(Factoring.factorRules g.size g.rules).2, Factoring.factoredRules g.size g.rules, ?_⟩
  rw [← List.length_map (f := Split.introduction)]
  exact g.extends_introduce supply _ _

theorem WellFormed.factored (valid : g.WellFormed) (supply : NameSupply) :
    (g.factorWith supply).result.WellFormed := by
  obtain ⟨splits, done, extension⟩ := factorWith_result (g := g) supply
  refine valid.of_extends extension ?_ ?_ fun s member => (done.lefts s).mpr (.inl member)
  · exact done.distinct valid.lefts fun s member => (valid.nonterminal_bounds member).2
  · exact done.within (Nat.le_add_left _ _) valid.rules

end Grammar
end Predictive
