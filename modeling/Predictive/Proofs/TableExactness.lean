import Predictive.Proofs.Candidates
import Predictive.Proofs.FollowRounds

/-! The table exists exactly if no two alternatives of a nonterminal share a letter that announces
them, and then each cell has the alternative that its letter announces. Otherwise the conflicts are
all cells with several alternatives, once each and in table order. Filling the cells production by
production comes to the same. -/

namespace Predictive.Grammar

variable {g : Grammar} {start : Symbol}

/-- The alternatives of the row that the column announces. -/
def claimants (g : Grammar) (cell : Symbol × Symbol) : List Production :=
  g.productions.filter fun p => p.left == cell.1 && (g.lookaheads.announcing p).contains cell.2

theorem mem_claimants {cell : Symbol × Symbol} {p : Production} : p ∈ g.claimants cell ↔
    p ∈ g.productions ∧ p.left = cell.1 ∧ cell.2 ∈ g.lookaheads.announcing p := by
  simp [claimants]

theorem mem_announcing (valid : g.WellFormed) (starts : g.start = some start) {p : Production}
    {t : Symbol} : t ∈ g.lookaheads.announcing p ↔ t ∈ g.letters ∧ g.Predicts p t := by
  have proper : t ∈ g.letters → t ≠ Symbol.empty := fun letter => ((mem_letters valid).mp letter).1
  have none : Symbol.empty ∉ g.letters := fun letter => ((mem_letters valid).mp letter).1 rfl
  rw [Lookaheads.announcing, mem_announced]
  change (t ∈ g.firstSets.ofBody p.body ∧ t ≠ Symbol.empty ∨
    Symbol.empty ∈ g.firstSets.ofBody p.body ∧ t ∈ (g.followSets g.firstSets).of p.left) ↔ _
  rw [mem_ofBody, mem_ofBody, mem_followSets starts, Predicts]
  constructor
  · rintro (⟨⟨same, _⟩ | begins, other⟩ | ⟨⟨_, vanish⟩ | ⟨letter, _⟩, letter', follows⟩)
    · exact absurd same other
    · exact ⟨begins.1, .inl begins.2⟩
    · exact ⟨letter', .inr ⟨vanish, follows⟩⟩
    · exact absurd letter none
  · intro announced
    obtain ⟨letter, begins | ⟨vanish, follows⟩⟩ := announced
    · exact .inl ⟨.inr ⟨letter, begins⟩, proper letter⟩
    · exact .inr ⟨.inl ⟨rfl, vanish⟩, letter, follows⟩

theorem claimants_eq (valid : g.WellFormed) (starts : g.start = some start) {row column : Symbol}
    (letter : column ∈ g.letters) :
    (g.productions.filter (·.left == row)).filter (g.lookaheads.predicts · column) =
      g.claimants (row, column) := by
  rw [List.filter_filter, claimants]
  apply List.filter_congr
  intro p _
  have same : g.lookaheads.predicts p column = (g.lookaheads.announcing p).contains column := by
    rw [Bool.eq_iff_iff, predicts_lookaheads starts letter, List.contains_iff_mem,
      mem_announcing valid starts, and_iff_right letter]
  rw [same, Bool.and_comm]

theorem claims_eq (valid : g.WellFormed) (starts : g.start = some start) :
    g.claims g.lookaheads = (g.nonterminals ×ˢ g.letters : List (Symbol × Symbol)).map
      fun cell => ⟨cell.1, cell.2, g.claimants cell⟩ := by
  change _ = (g.nonterminals.flatMap fun row => g.letters.map (Prod.mk row)).map _
  rw [List.map_flatMap, claims]
  apply congrArg fun f => g.nonterminals.flatMap f
  funext row
  rw [List.map_map]
  apply List.map_congr_left
  intro column letter
  exact congrArg (Claim.mk row column) (claimants_eq valid starts letter)

theorem disputed_eq (valid : g.WellFormed) (starts : g.start = some start) :
    g.disputed g.lookaheads = ((g.nonterminals ×ˢ g.letters : List (Symbol × Symbol)).filter
      fun cell => 1 < (g.claimants cell).length).map fun cell => ⟨cell.1, cell.2, g.claimants cell⟩ := by
  rw [disputed, claims_eq valid starts, List.filter_map]
  rfl

/-! The table -/

/-- No two alternatives of a nonterminal, told apart by number, are announced by the same letter. -/
def Apart (g : Grammar) : Prop :=
  ∀ p ∈ g.productions, ∀ q ∈ g.productions, p.left = q.left → p.number ≠ q.number →
    List.Disjoint (g.lookaheads.announcing p) (g.lookaheads.announcing q)

/-- The cells that several alternatives claim, each once with all of these alternatives, in table
order. -/
structure AllContested (g : Grammar) (claims : List Claim) : Prop where
  cells : ∀ row column, (∃ claim ∈ claims, claim.row = row ∧ claim.column = column) ↔
    ∃ p ∈ g.productions, ∃ q ∈ g.productions, p.number ≠ q.number ∧ p.left = row ∧ q.left = row ∧
      column ∈ g.lookaheads.announcing p ∧ column ∈ g.lookaheads.announcing q
  ordered : claims.Pairwise fun a b => g.Earlier (a.row, a.column) (b.row, b.column)
  claimants : ∀ claim ∈ claims, claim.claimants = g.productions.filter fun p =>
    p.left == claim.row && (g.lookaheads.announcing p).contains claim.column

theorem nodup_claimants {cell : Symbol × Symbol} : (g.claimants cell).Nodup :=
  nodup_productions.filter _

/-- Several claimants are alternatives with different numbers. -/
theorem several_iff {row column : Symbol} : 1 < (g.claimants (row, column)).length ↔
    ∃ p ∈ g.productions, ∃ q ∈ g.productions, p.number ≠ q.number ∧ p.left = row ∧ q.left = row ∧
      column ∈ g.lookaheads.announcing p ∧ column ∈ g.lookaheads.announcing q := by
  constructor
  · intro several
    have distinct : (g.claimants (row, column)).Nodup := nodup_claimants
    match claimed : g.claimants (row, column) with
    | [] => simp [claimed] at several
    | [p] => simp [claimed] at several
    | p :: q :: later =>
      rw [claimed] at distinct
      have apart : p ≠ q := fun same => (List.nodup_cons.mp distinct).1 (by simp [same])
      obtain ⟨first, left, ahead⟩ : p ∈ _ ∧ _ := mem_claimants.mp (claimed ▸ List.mem_cons_self)
      obtain ⟨second, left', ahead'⟩ : q ∈ _ ∧ _ := mem_claimants.mp
        (claimed ▸ List.mem_cons_of_mem p List.mem_cons_self)
      have other : p.number ≠ q.number := fun same => apart (eq_of_number first second same)
      exact ⟨p, first, q, second, other, left, left', ahead, ahead'⟩
  · intro different
    obtain ⟨p, first, q, second, other, left, left', ahead, ahead'⟩ := different
    have claims : p ∈ g.claimants (row, column) := mem_claimants.mpr ⟨first, left, ahead⟩
    have claims' : q ∈ g.claimants (row, column) := mem_claimants.mpr ⟨second, left', ahead'⟩
    apply Nat.lt_of_not_le
    intro short
    match claimed : g.claimants (row, column), short with
    | [], _ => simp [claimed] at claims
    | [r], _ =>
      rw [claimed, List.mem_singleton] at claims claims'
      exact other (by rw [claims, claims'])

theorem mem_cells_of_several (valid : g.WellFormed) (starts : g.start = some start)
    {cell : Symbol × Symbol} (several : 1 < (g.claimants cell).length) :
    cell ∈ (g.nonterminals ×ˢ g.letters : List (Symbol × Symbol)) := by
  obtain ⟨p, claims⟩ := List.exists_mem_of_length_pos (Nat.lt_of_succ_lt several)
  obtain ⟨listed, left, ahead⟩ := mem_claimants.mp claims
  apply List.mem_product.mpr
  exact ⟨left ▸ (mem_productions listed).nonterminal, ((mem_announcing valid starts).mp ahead).1⟩

theorem table_of_disputed (starts : g.start = some start) (none : g.disputed g.lookaheads = []) :
    ∃ table, g.table = .ok table := by
  let table : Table := ⟨g, start, (g.claims g.lookaheads).flatMap Claim.cells, starts, rfl,
    fun claim member => by
      have single := List.filter_eq_nil_iff.mp none claim member
      simpa using single⟩
  exact ⟨table, table_self table⟩

theorem table_of_disputed_ne (starts : g.start = some start) (some : g.disputed g.lookaheads ≠ []) :
    g.table = .error (.conflicting ((g.disputed g.lookaheads).map g.conflictOf)) := by
  unfold table tableFrom
  split
  next absent => cases starts.symm.trans absent
  next s present =>
    split
    next none => exact absurd none some
    next => rfl

theorem disputed_eq_nil_iff (valid : g.WellFormed) (starts : g.start = some start) :
    g.disputed g.lookaheads = [] ↔ g.Apart := by
  rw [disputed_eq valid starts, List.map_eq_nil_iff, List.filter_eq_nil_iff]
  constructor
  · intro single p first q second same other letter ahead ahead'
    have several : 1 < (g.claimants (p.left, letter)).length :=
      several_iff.mpr ⟨p, first, q, second, other, rfl, same.symm, ahead, ahead'⟩
    exact single _ (mem_cells_of_several valid starts several) (decide_eq_true several)
  · intro apart cell _ several
    obtain ⟨p, first, q, second, other, left, left', ahead, ahead'⟩ :=
      several_iff.mp (of_decide_eq_true several)
    exact apart p first q second (left.trans left'.symm) other ahead ahead'

theorem apart_of_settled (valid : g.WellFormed) (starts : g.start = some start)
    (settled : ∀ cells, g.table ≠ .error (.conflicting cells)) : g.Apart := by
  apply (disputed_eq_nil_iff valid starts).mp
  apply Classical.byContradiction
  exact fun disputed => settled _ (table_of_disputed_ne starts disputed)

theorem table_of_apart (valid : g.WellFormed) (starts : g.start = some start) (apart : g.Apart) :
    ∃ table, g.table = .ok table :=
  table_of_disputed starts ((disputed_eq_nil_iff valid starts).mpr apart)

theorem table_of_no_start (none : g.start = none) : g.table = .error .noStart := by
  unfold table tableFrom
  split
  · rfl
  next _ starts => cases none.symm.trans starts

theorem allContested_disputed (valid : g.WellFormed) (starts : g.start = some start) :
    g.AllContested (g.disputed g.lookaheads) := by
  rw [disputed_eq valid starts]
  constructor
  · intro row column
    constructor
    · intro shown
      obtain ⟨claim, member, rfl, rfl⟩ := shown
      obtain ⟨cell, selected, rfl⟩ := List.mem_map.mp member
      exact several_iff.mp (of_decide_eq_true (List.mem_filter.mp selected).2)
    · intro shown
      have several : 1 < (g.claimants (row, column)).length := several_iff.mpr shown
      have cell := mem_cells_of_several valid starts several
      exact ⟨_, List.mem_map_of_mem (List.mem_filter.mpr ⟨cell, decide_eq_true several⟩), rfl, rfl⟩
  · apply List.pairwise_map.mpr
    exact (pairwise_cells valid).filter _
  · intro claim member
    obtain ⟨cell, _, rfl⟩ := List.mem_map.mp member
    rfl

/-- A cell has the one alternative that its column announces. -/
theorem get?_eq_head? (valid : g.WellFormed) {table : Table} (built : g.table = .ok table)
    (row column : Symbol) : table.get? row column = (g.claimants (row, column)).head? := by
  have own := table_grammar built
  have cell : ∀ p, table.get? row column = some p ↔ p ∈ g.claimants (row, column) := by
    intro p
    rw [get?_eq_some_iff own, mem_claimants, mem_announcing valid (table_starts own)]
  cases claimed : g.claimants (row, column) with
  | nil =>
    apply Option.eq_none_iff_forall_ne_some.mpr
    intro p found
    have claims := (cell p).mp found
    rw [claimed] at claims
    cases claims
  | cons p later => exact (cell p).mpr (claimed ▸ List.mem_cons_self)

/-! Filling it in any order -/

section Gathered

variable {letters : Production → List Symbol}
  (same : ∀ p ∈ g.productions, ∀ t, t ∈ letters p ↔ t ∈ g.lookaheads.announcing p)

include same

theorem gather_eq_claimants (cell : Symbol × Symbol) :
    Candidates.gather letters g.productions cell = g.claimants cell := by
  rw [Candidates.gather_eq nodup_productions, claimants]
  apply List.filter_congr
  intro p listed
  rw [Bool.eq_iff_iff, Bool.and_eq_true, Bool.and_eq_true, List.contains_iff_mem,
    List.contains_iff_mem, same p listed]

theorem contested_eq_disputed (valid : g.WellFormed) (starts : g.start = some start)
    {cells : List (Symbol × Symbol)} (distinct : cells.Nodup)
    (filled : ∀ cell, cell ∈ cells ↔ Candidates.gather letters g.productions cell ≠ []) :
    g.contested (Candidates.gather letters g.productions) cells = g.disputed g.lookaheads := by
  have gathered : Candidates.gather letters g.productions = g.claimants :=
    funext (gather_eq_claimants same)
  rw [gathered] at filled ⊢
  have met : ∀ cell, 1 < (g.claimants cell).length → cell ∈ cells := by
    intro cell several
    exact (filled cell).mpr (List.length_pos_iff.mp (Nat.lt_of_succ_lt several))
  unfold contested
  rw [disputed_eq valid starts, mergeSort_cells valid (distinct.filter _)]
  · apply congrArg (List.map _)
    apply List.filter_congr
    intro cell _
    simpa using met cell
  · intro cell member
    exact mem_cells_of_several valid starts (of_decide_eq_true (List.mem_filter.mp member).2)

theorem settle_eq (valid : g.WellFormed) (starts : g.start = some start)
    {cells : List (Symbol × Symbol)} (distinct : cells.Nodup)
    (filled : ∀ cell, cell ∈ cells ↔ Candidates.gather letters g.productions cell ≠ []) :
    g.settle (Candidates.gather letters g.productions) cells = g.table.map Table.get? := by
  have contested := contested_eq_disputed same valid starts distinct filled
  cases claims : g.disputed g.lookaheads with
  | nil =>
    obtain ⟨table, built⟩ := table_of_disputed starts claims
    rw [settle, contested, claims, built]
    apply congrArg Except.ok
    funext row column
    rw [gather_eq_claimants same, get?_eq_head? valid built]
  | cons claim later =>
    have refused := table_of_disputed_ne starts (by simp [claims])
    rw [claims] at refused
    rw [settle, contested, claims, refused]
    rfl

end Gathered

/-- A table exists exactly if no alternatives collide, and then tells for every letter which one it
announces; otherwise all collisions are reported. Filling the cells one after the other gives the
same cells and the same report, in whatever order letters and cells are taken. -/
theorem table_exact (reachable : Reachable g) (starts : g.start = some start) :
    ((∃ table, g.table = .ok table) ↔ g.Apart) ∧
      (∀ table, g.table = .ok table → ∀ row column p, table.get? row column = some p ↔
        p ∈ g.productions ∧ p.left = row ∧ column ∈ g.lookaheads.announcing p) ∧
      (¬ g.Apart → ∃ claims, g.table = .error (.conflicting (claims.map g.conflictOf)) ∧
        g.AllContested claims) ∧
      ∀ letters : Production → List Symbol,
        (∀ p ∈ g.productions, ∀ t, t ∈ letters p ↔ t ∈ g.lookaheads.announcing p) →
        ∀ cells : List (Symbol × Symbol), cells.Nodup →
          (∀ cell, cell ∈ cells ↔ Candidates.gather letters g.productions cell ≠ []) →
          g.settle (Candidates.gather letters g.productions) cells = g.table.map Table.get? := by
  have valid := reachable.wellFormed
  have apart := disputed_eq_nil_iff valid starts
  refine ⟨⟨fun built => ?_, fun apart' => ?_⟩, fun table built row column p => ?_,
    fun collide => ?_, fun letters same cells distinct filled => ?_⟩
  · obtain ⟨table, built⟩ := built
    exact apart_of_settled valid starts (by simp [built])
  · exact table_of_apart valid starts apart'
  · have own := table_grammar built
    rw [get?_eq_some_iff own, mem_announcing valid starts]
  · exact ⟨_, table_of_disputed_ne starts (mt apart.mp collide), allContested_disputed valid starts⟩
  · exact settle_eq same valid starts distinct filled

/-- `A` is in conflict with what follows it, and `B` vanishes in two ways. -/
def colliding : Grammar :=
  ⟨["S", "A", "B", "a"], [⟨2, [[3, 5, 4]]⟩, ⟨3, [[5], []]⟩, ⟨4, [[], []]⟩], some 2⟩

theorem colliding_refused :
    colliding.table = .error (.conflicting
        [⟨"A", "a", [["a"], ["ε"]]⟩, ⟨"B", "$", [["ε"], ["ε"]]⟩]) ∧
      ∃ claims, colliding.table = .error (.conflicting (claims.map colliding.conflictOf)) ∧
        colliding.AllContested claims := by
  have built : ofEntries [⟨"S", [["A", "a", "B"]]⟩, ⟨"A", [["a"], ["ε"]]⟩, ⟨"B", [["ε"], ["ε"]]⟩] =
    .ok colliding := rfl
  have refused : colliding.table = .error (.conflicting
      [⟨"A", "a", [["a"], ["ε"]]⟩, ⟨"B", "$", [["ε"], ["ε"]]⟩]) := by cbv
  have starts : colliding.start = some 2 := rfl
  obtain ⟨exists_iff, _, report, _⟩ := table_exact (.entries built) starts
  refine ⟨refused, report ?_⟩
  intro apart
  obtain ⟨table, built⟩ := exists_iff.mpr apart
  cases built.symm.trans refused

end Predictive.Grammar
