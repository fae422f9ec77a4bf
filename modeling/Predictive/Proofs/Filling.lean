import Mathlib.Data.Finset.Prod
import Mathlib.Data.Nat.Find
import Predictive.Lookahead.Filling

/-! Rounds come to an end. Nothing is taken out of a table, and every round but the last fills
a place that was open, so there are no more rounds than places. Whatever each item preserves,
all rounds preserve. A round that adds nothing leaves a table on which no item has anything
new to offer. -/

namespace Predictive.Filling

variable {α : Type} {filling : Filling α} {table : Symbol → List Symbol} {item : α}
  {items : List α} {s t : Symbol}

theorem mem_gain : t ∈ filling.gain table item ↔
    t ∈ filling.offer table item ∧ t ∉ table (filling.target item) := by
  simp [gain, List.mem_eraseDups]

theorem mem_extend : t ∈ filling.extend table item s ↔
    t ∈ table s ∨ s = filling.target item ∧ t ∈ filling.gain table item := by
  unfold extend
  by_cases same : s = filling.target item <;> simp [same]

theorem extend_of_gain (none : filling.gain table item = []) :
    filling.extend table item = table := by
  funext s
  simp [extend, none]

theorem mem_of_gain (none : filling.gain table item = []) (offered : t ∈ filling.offer table item) :
    t ∈ table (filling.target item) := by
  apply Classical.byContradiction
  intro absent
  have gained : t ∈ filling.gain table item := mem_gain.mpr ⟨offered, absent⟩
  rw [none] at gained
  cases gained

theorem mem_round (member : t ∈ table s) : t ∈ (filling.round table items).1 s := by
  induction items generalizing table with
  | nil => exact member
  | cons item later ih => exact ih (mem_extend.mpr (.inl member))

theorem round_induction {holds : (Symbol → List Symbol) → Prop} (initial : holds table)
    (step : ∀ table, holds table → ∀ item ∈ items, holds (filling.extend table item)) :
    holds (filling.round table items).1 := by
  induction items generalizing table with
  | nil => exact initial
  | cons item later ih =>
    apply ih (step table initial item List.mem_cons_self)
    intro table held other listed
    exact step table held other (List.mem_cons_of_mem _ listed)

theorem round_unchanged (ended : (filling.round table items).2 = false) :
    (filling.round table items).1 = table ∧ ∀ item ∈ items, filling.gain table item = [] := by
  induction items generalizing table with
  | nil => simp [round]
  | cons item later ih =>
    obtain ⟨here, rest⟩ := Bool.or_eq_false_iff.mp ended
    have none : filling.gain table item = [] := by simpa using here
    rw [extend_of_gain none] at rest
    obtain ⟨same, others⟩ := ih rest
    exact ⟨by rw [round, extend_of_gain none, same], List.forall_mem_cons.mpr ⟨none, others⟩⟩

theorem round_changed (changed : (filling.round table items).2 = true) :
    ∃ item ∈ items, ∃ t ∈ (filling.round table items).1 (filling.target item),
      t ∉ table (filling.target item) := by
  induction items generalizing table with
  | nil => cases changed
  | cons item later ih =>
    rcases Bool.or_eq_true_iff.mp changed with here | rest
    · obtain ⟨t, gained⟩ := List.exists_mem_of_ne_nil (filling.gain table item) (by simpa using here)
      have entered : t ∈ (filling.round (filling.extend table item) later).1 (filling.target item) :=
        mem_round (mem_extend.mpr (.inr ⟨rfl, gained⟩))
      exact ⟨item, List.mem_cons_self, t, entered, (mem_gain.mp gained).2⟩
    · obtain ⟨other, listed, t, entered, missed⟩ := ih rest
      refine ⟨other, List.mem_cons_of_mem _ listed, t, entered, ?_⟩
      intro before
      exact missed (mem_extend.mpr (.inl before))

theorem mem_after (member : t ∈ table s) (rounds : Nat) : t ∈ filling.after table items rounds s := by
  induction rounds with
  | zero => exact member
  | succ rounds ih => exact mem_round ih

theorem after_induction {holds : (Symbol → List Symbol) → Prop} (initial : holds table)
    (step : ∀ table, holds table → ∀ item ∈ items, holds (filling.extend table item))
    (rounds : Nat) : holds (filling.after table items rounds) := by
  induction rounds with
  | zero => exact initial
  | succ rounds ih => exact round_induction ih step

/-! The number of rounds -/

section Places

variable (targets entries : Finset Symbol)

/-- The places that are not filled. -/
def openPlaces (table : Symbol → List Symbol) : Finset (Symbol × Symbol) :=
  (targets ×ˢ entries).filter fun place => place.2 ∉ table place.1

variable {targets entries}

theorem openPlaces_lt (aimed : ∀ item ∈ items, filling.target item ∈ targets)
    (listed : ∀ s ∈ targets, ∀ t ∈ (filling.round table items).1 s, t ∈ entries)
    (changed : (filling.round table items).2 = true) :
    (openPlaces targets entries (filling.round table items).1).card <
      (openPlaces targets entries table).card := by
  obtain ⟨item, member, t, entered, missed⟩ := round_changed changed
  have target := aimed item member
  have place : (filling.target item, t) ∈ targets ×ˢ entries :=
    Finset.mem_product.mpr ⟨target, listed _ target t entered⟩
  apply Finset.card_lt_card
  apply (Finset.ssubset_iff_of_subset ?_).mpr
  · refine ⟨(filling.target item, t), Finset.mem_filter.mpr ⟨place, missed⟩, ?_⟩
    intro still
    exact (Finset.mem_filter.mp still).2 entered
  · intro other still
    obtain ⟨inside, absent⟩ := Finset.mem_filter.mp still
    exact Finset.mem_filter.mpr ⟨inside, fun before => absent (mem_round before)⟩

variable (aimed : ∀ item ∈ items, filling.target item ∈ targets)
  (listed : ∀ n, ∀ s ∈ targets, ∀ t ∈ filling.after table items n s, t ∈ entries)

include aimed listed

theorem openPlaces_after {n : Nat}
    (changed : ∀ m < n, (filling.round (filling.after table items m) items).2 = true) :
    (openPlaces targets entries (filling.after table items n)).card + n ≤
      targets.card * entries.card := by
  induction n with
  | zero => exact (Finset.card_filter_le _ _).trans (Finset.card_product _ _).le
  | succ n ih =>
    have before := ih fun m earlier => changed m (Nat.lt_succ_of_lt earlier)
    have fewer : (openPlaces targets entries (filling.after table items (n + 1))).card <
        (openPlaces targets entries (filling.after table items n)).card :=
      openPlaces_lt aimed (listed (n + 1)) (changed n (Nat.lt_succ_self n))
    omega

/-- Every round that adds something fills a place, and there are no more than so many. -/
theorem exists_unchanged : ∃ n ≤ targets.card * entries.card,
    (∀ m < n, (filling.round (filling.after table items m) items).2 = true) ∧
      (filling.round (filling.after table items n) items).2 = false := by
  have ends : ∃ n, (filling.round (filling.after table items n) items).2 = false := by
    apply Classical.byContradiction
    intro endless
    have always : ∀ m < targets.card * entries.card + 1,
        (filling.round (filling.after table items m) items).2 = true :=
      fun m _ => eq_true_of_ne_false fun ended => endless ⟨m, ended⟩
    have bound := openPlaces_after aimed listed always
    omega
  have changed : ∀ m < Nat.find ends, (filling.round (filling.after table items m) items).2 = true :=
    fun m earlier => eq_true_of_ne_false (Nat.find_min ends earlier)
  have bound := openPlaces_after aimed listed changed
  exact ⟨Nat.find ends, by omega, changed, Nat.find_spec ends⟩

end Places
end Predictive.Filling
