import Mathlib.Data.List.ProdSigma
import Mathlib.Data.List.Nodup
import Predictive.Lookahead.Candidates
import Predictive.Proofs.WellFormed

/-! Filling the table production by production. In whatever order a production goes through its
letters, a cell collects the productions of its row that its column announces, in order of number.
In whatever order cells come, there is only one way to sort them. -/

namespace Predictive

namespace Candidates

variable {candidates : Candidates} {p : Production} {letters : List Symbol} {cell : Symbol × Symbol}

theorem enterAll_eq : candidates.enterAll p letters cell =
    if p.left = cell.1 ∧ cell.2 ∈ letters ∧ p ∉ candidates cell then candidates cell ++ [p]
    else candidates cell := by
  induction letters generalizing candidates with
  | nil => simp [enterAll]
  | cons letter later ih =>
    have first : candidates.enterAll p (letter :: later) = (candidates.enter p letter).enterAll p later :=
      rfl
    obtain ⟨row, column⟩ := cell
    rw [first, ih, enter]
    by_cases here : (row, column) = (p.left, letter) ∧ p ∉ candidates (row, column)
    · obtain ⟨same, fresh⟩ := here
      obtain ⟨rfl, rfl⟩ := Prod.mk.inj same
      simp [fresh]
    · rw [if_neg here]
      by_cases fresh : p ∈ candidates (row, column)
      · simp [fresh]
      · by_cases same : p.left = row
        · have other : column ≠ letter := fun last => here ⟨by rw [same, last], fresh⟩
          simp [same, other]
        · simp [same]

/-- A cell collects the productions of its row that its column announces. -/
theorem gather_eq {letters : Production → List Symbol} {productions : List Production}
    (distinct : productions.Nodup) :
    gather letters productions cell =
      productions.filter fun p => p.left == cell.1 && (letters p).contains cell.2 := by
  -- Cells may hold other productions already.
  suffices gathered : ∀ candidates : Candidates, (∀ p ∈ productions, p ∉ candidates cell) →
      productions.foldl (fun candidates p => candidates.enterAll p (letters p)) candidates cell =
        candidates cell ++ productions.filter fun p => p.left == cell.1 && (letters p).contains cell.2 by
    exact gathered _ (by simp)
  induction productions with
  | nil => simp
  | cons p later ih =>
    intro candidates fresh
    obtain ⟨single, distinct⟩ := List.nodup_cons.mp distinct
    obtain ⟨first, others⟩ := List.forall_mem_cons.mp fresh
    rw [List.foldl_cons]
    by_cases here : p.left = cell.1 ∧ cell.2 ∈ letters p
    · have entered : candidates.enterAll p (letters p) cell = candidates cell ++ [p] := by
        rw [enterAll_eq, if_pos ⟨here.1, here.2, first⟩]
      rw [List.filter_cons_of_pos (by simpa using here), ih distinct, entered, List.append_assoc]
      · rfl
      · intro q member
        rw [entered, List.mem_append, List.mem_singleton, not_or]
        exact ⟨others q member, fun same => single (same ▸ member)⟩
    · have entered : candidates.enterAll p (letters p) cell = candidates cell := by
        rw [enterAll_eq, if_neg fun enters => here ⟨enters.1, enters.2.1⟩]
      rw [List.filter_cons_of_neg (by simpa using here), ih distinct, entered]
      rw [entered]
      exact others

end Candidates

namespace Grammar

variable {g : Grammar}

theorem nodup_productions : g.productions.Nodup := by
  have numbers : g.productions.map Production.number =
      ((g.rules.flatMap fun rule => rule.bodies.map (rule.left, ·)).zipIdx 1).map Prod.snd := by
    simp [productions, Function.comp_def]
  apply List.Nodup.of_map Production.number
  rw [numbers, List.zipIdx_map_snd]
  exact List.nodup_range'

theorem nodup_letters : g.letters.Nodup := by
  refine List.nodup_append.mpr ⟨List.nodup_range.filter _, List.nodup_singleton _, ?_⟩
  intro s terminal t last same
  obtain rfl := List.mem_singleton.mp last
  subst same
  have kind := (List.mem_filter.mp terminal).2
  simp [isTerminal, Symbol.endMark] at kind

/-! The order of cells -/

/-- Comes before the other in the table. -/
def Earlier (g : Grammar) (a b : Symbol × Symbol) : Prop :=
  (g.placeOf a).1 < (g.placeOf b).1 ∨
    (g.placeOf a).1 = (g.placeOf b).1 ∧ (g.placeOf a).2 < (g.placeOf b).2

theorem pairwise_idxOf {symbols : List Symbol} (distinct : symbols.Nodup) :
    symbols.Pairwise fun s t => symbols.idxOf s < symbols.idxOf t := by
  apply List.pairwise_iff_getElem.mpr
  intro i j first second before
  rw [distinct.idxOf_getElem i first, distinct.idxOf_getElem j second]
  exact before

theorem pairwise_cells (valid : g.WellFormed) :
    (g.nonterminals ×ˢ g.letters : List (Symbol × Symbol)).Pairwise g.Earlier := by
  apply List.pairwise_flatMap.mpr
  constructor
  · intro row _
    apply List.pairwise_map.mpr
    exact (pairwise_idxOf nodup_letters).imp fun before => .inr ⟨rfl, before⟩
  · apply (pairwise_idxOf valid.lefts).imp
    intro row row' before cell member cell' member'
    obtain ⟨column, _, rfl⟩ := List.mem_map.mp member
    obtain ⟨column', _, rfl⟩ := List.mem_map.mp member'
    exact .inl before

theorem precedes_iff {a b : Symbol × Symbol} : g.precedes a b = true ↔
    (g.placeOf a).1 < (g.placeOf b).1 ∨
      (g.placeOf a).1 = (g.placeOf b).1 ∧ (g.placeOf a).2 ≤ (g.placeOf b).2 := by
  simp [precedes]

theorem eq_of_precedes {a b : Symbol × Symbol} (row : a.1 ∈ g.nonterminals) (column : a.2 ∈ g.letters)
    (before : g.precedes a b = true) (after : g.precedes b a = true) : a = b := by
  rw [precedes_iff] at before after
  have rows : g.nonterminals.idxOf a.1 = g.nonterminals.idxOf b.1 := by
    unfold placeOf at before after
    omega
  have columns : g.letters.idxOf a.2 = g.letters.idxOf b.2 := by
    unfold placeOf at before after
    omega
  exact Prod.ext ((List.idxOf_inj row).mp rows) ((List.idxOf_inj column).mp columns)

/-- Sorting brings cells of the table into their order, whatever order they came in. -/
theorem mergeSort_cells (valid : g.WellFormed) {cells : List (Symbol × Symbol)}
    (distinct : cells.Nodup) (inside : ∀ cell ∈ cells, cell ∈ g.nonterminals ×ˢ g.letters) :
    cells.mergeSort g.precedes =
      (g.nonterminals ×ˢ g.letters : List (Symbol × Symbol)).filter (· ∈ cells) := by
  apply List.Perm.eq_of_pairwise
  · intro a b member _ before after
    obtain ⟨row, column⟩ := List.mem_product.mp (inside a (List.mem_mergeSort.mp member))
    exact eq_of_precedes row column before after
  · apply List.pairwise_mergeSort
    · intro a b c first second
      rw [precedes_iff] at *
      omega
    · intro a b
      rw [Bool.or_eq_true, precedes_iff, precedes_iff]
      omega
  · apply ((pairwise_cells valid).filter _).imp
    intro a b earlier
    rw [precedes_iff]
    rcases earlier with row | ⟨row, column⟩
    · exact .inl row
    · exact .inr ⟨row, Nat.le_of_lt column⟩
  · apply (List.mergeSort_perm cells _).trans
    apply (List.perm_ext_iff_of_nodup distinct ((valid.lefts.product nodup_letters).filter _)).mpr
    intro cell
    rw [List.mem_filter, decide_eq_true_eq]
    exact (and_iff_right_of_imp (inside cell)).symm

end Grammar
end Predictive
