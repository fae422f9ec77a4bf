import Predictive.Lookahead.Table
import Predictive.Proofs.Following

/-! The cells of a table without conflicts. A cell holds a production exactly when that
production is predicted there, and no other one is. -/

namespace Predictive.Grammar

/-- The letter announces the production: its body can begin with it, or vanishes and the
letter can follow the left side. -/
def Predicts (g : Grammar) (p : Production) (letter : Symbol) : Prop :=
  g.BodyBegins letter p.body ∨ g.BodyVanishes p.body ∧ g.Follows letter p.left

variable {g : Grammar} {table : Table} {letter : Symbol}

theorem endMark_mem_letters : Symbol.endMark ∈ g.letters :=
  List.mem_append_right _ List.mem_cons_self

theorem mem_letters_of_isTerminal {s : Symbol} (terminal : g.isTerminal s = true) :
    s ∈ g.letters := by
  refine List.mem_append_left _ (List.mem_filter.mpr ⟨List.mem_range.mpr ?_, terminal⟩)
  unfold isTerminal at terminal
  simp only [Bool.and_eq_true, decide_eq_true_eq] at terminal
  exact terminal.1.2

theorem predicts_lookaheads {start : Symbol} {p : Production} (starts : g.start = some start)
    (listed : letter ∈ g.letters) :
    g.lookaheads.predicts p letter = true ↔ g.Predicts p letter := by
  simp only [lookaheads, Lookaheads.ofGrammar, Lookaheads.predicts, Bool.or_eq_true,
    Bool.and_eq_true, bodyBegins_firstSets listed, bodyVanishes_firstSets,
    follows_followSets starts listed, Predicts]

theorem mem_claims {sets : Lookaheads} {claim : Claim} :
    claim ∈ g.claims sets ↔ claim.row ∈ g.nonterminals ∧ claim.column ∈ g.letters ∧
      claim.claimants = (g.productions.filter (·.left == claim.row)).filter
        (sets.predicts · claim.column) := by
  simp only [claims, List.mem_flatMap, List.mem_map]
  constructor
  · rintro ⟨row, nonterminal, column, listed, rfl⟩
    exact ⟨nonterminal, listed, rfl⟩
  · rintro ⟨nonterminal, listed, same⟩
    exact ⟨claim.row, nonterminal, claim.column, listed, by rw [← same]⟩

/-- Every table comes from the grammar in it. -/
theorem table_self (table : Table) : table.grammar.table = .ok table := by
  obtain ⟨g, start, cells, starts, filled, settled⟩ := table
  have none : g.disputed g.lookaheads = [] := by
    apply List.filter_eq_nil_iff.mpr
    intro claim member
    simpa using settled claim member
  unfold Grammar.table tableFrom
  split
  next absent => cases starts.symm.trans absent
  next s present =>
    obtain rfl := Option.some.inj (starts.symm.trans present)
    split
    · simp [filled, ownLookaheads]
    next disputed => exact absurd none disputed

theorem table_grammar (built : g.table = .ok table) : table.grammar = g := by
  unfold Grammar.table tableFrom at built
  split at built
  · cases built
  · split at built
    · exact (congrArg Table.grammar (Except.ok.inj built)).symm
    · cases built

theorem table_starts (own : table.grammar = g) : g.start = some table.start := own ▸ table.starts

private theorem eq_of_length_le_one {α : Type} {items : List α} {a b : α}
    (short : items.length ≤ 1) (first : a ∈ items) (second : b ∈ items) : a = b := by
  match items, short with
  | [c], _ => exact (List.mem_singleton.mp first).trans (List.mem_singleton.mp second).symm

/-- Without conflicts the letter ahead leaves no choice. -/
theorem eq_of_predicts {p q : Production} (own : table.grammar = g)
    (listed : letter ∈ g.letters) (first : p ∈ g.productions) (second : q ∈ g.productions)
    (same : q.left = p.left) (predicts : g.Predicts p letter) (predicts' : g.Predicts q letter) :
    p = q := by
  subst own
  let claimants := (table.grammar.productions.filter (·.left == p.left)).filter
    (table.grammar.lookaheads.predicts · letter)
  have claimed : ∀ r ∈ table.grammar.productions, r.left = p.left →
      table.grammar.Predicts r letter → r ∈ claimants := by
    intro r member left predicts
    refine List.mem_filter.mpr ⟨List.mem_filter.mpr ⟨member, by simp [left]⟩, ?_⟩
    exact (predicts_lookaheads table.starts listed).mpr predicts
  have short : claimants.length ≤ 1 := table.settled ⟨p.left, letter, claimants⟩
    (mem_claims.mpr ⟨(mem_productions first).nonterminal, listed, rfl⟩)
  exact eq_of_length_le_one short (claimed p first rfl predicts) (claimed q second same predicts')

theorem mem_cells {cell : Cell} (own : table.grammar = g) :
    cell ∈ table.cells ↔ cell.production ∈ g.productions ∧ cell.production.left = cell.row ∧
      cell.column ∈ g.letters ∧ g.Predicts cell.production cell.column := by
  have starts := table_starts own
  rw [table.filled, own, List.mem_flatMap]
  constructor
  · rintro ⟨claim, member, inside⟩
    obtain ⟨p, claims, rfl⟩ := List.mem_map.mp inside
    obtain ⟨_, listed, same⟩ := mem_claims.mp member
    rw [same, List.mem_filter, List.mem_filter] at claims
    exact ⟨claims.1.1, eq_of_beq claims.1.2, listed, (predicts_lookaheads starts listed).mp claims.2⟩
  · rintro ⟨member, left, listed, predicts⟩
    let claimants := (g.productions.filter (·.left == cell.row)).filter
      (g.lookaheads.predicts · cell.column)
    refine ⟨⟨cell.row, cell.column, claimants⟩, mem_claims.mpr ⟨?_, listed, rfl⟩,
      List.mem_map.mpr ⟨cell.production, ?_, rfl⟩⟩
    · exact left ▸ (mem_productions member).nonterminal
    · refine List.mem_filter.mpr ⟨List.mem_filter.mpr ⟨member, by simp [left]⟩, ?_⟩
      exact (predicts_lookaheads starts listed).mpr predicts

theorem get?_eq_some_iff {row : Symbol} {p : Production} (own : table.grammar = g) :
    table.get? row letter = some p ↔ p ∈ g.productions ∧ p.left = row ∧
      letter ∈ g.letters ∧ g.Predicts p letter := by
  have sound : ∀ q, table.get? row letter = some q → q ∈ g.productions ∧ q.left = row ∧
      letter ∈ g.letters ∧ g.Predicts q letter := by
    intro q found
    obtain ⟨cell, selected, rfl⟩ := Option.map_eq_some_iff.mp found
    have here := List.find?_some selected
    simp only [Bool.and_eq_true, beq_iff_eq] at here
    obtain ⟨rfl, rfl⟩ := here
    exact (mem_cells own).mp (List.mem_of_find?_eq_some selected)
  refine ⟨sound p, fun ⟨member, left, listed, predicts⟩ => ?_⟩
  have filled : (table.get? row letter).isSome := by
    rw [Table.get?, Option.isSome_map, List.find?_isSome]
    exact ⟨⟨row, letter, p⟩, (mem_cells own).mpr ⟨member, left, listed, predicts⟩, by simp⟩
  obtain ⟨q, found⟩ := Option.isSome_iff_exists.mp filled
  obtain ⟨member', left', _, predicts'⟩ := sound q found
  rw [found, eq_of_predicts own listed member member' (left'.trans left.symm) predicts predicts']

end Predictive.Grammar
