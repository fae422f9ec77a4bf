import Predictive.Parser.Run
import Predictive.Proofs.WellFormed

/-! Runs of the parser, one move at a time, and what the parser does with each kind of
symbol on top of its stack. -/

namespace Predictive

def Action.isExpansion : Action → Bool
  | .expansion .. => true
  | _ => false

/-- The expansions of a run in order. -/
def Trace.expansions (trace : Trace) : List Action :=
  (trace.steps.map Predictive.Step.action).filter Action.isExpansion

namespace Table

variable {table : Table} {c next : Configuration} {trace : Trace}

theorem runFrom_matching {token : String} (moved : table.move c = .matching token next) :
    table.runFrom c = (table.runFrom next).after [table.record c (.matching token)] := by
  rw [runFrom]
  split <;> simp_all

theorem runFrom_expansion {p : Production} (moved : table.move c = .expansion p next) :
    table.runFrom c = (table.runFrom next).after [table.record c (table.expansionOf p)] := by
  rw [runFrom]
  split <;> simp_all

theorem runFrom_acceptance (moved : table.move c = .acceptance) :
    table.runFrom c = ⟨[table.record c .acceptance], .accepted⟩ := by
  rw [runFrom]
  split <;> simp_all

theorem runFrom_rejection {reason : Rejection} (moved : table.move c = .rejection reason) :
    table.runFrom c = ⟨[table.record c (.rejection reason)], .rejected reason⟩ := by
  rw [runFrom]
  split <;> simp_all

theorem runFrom_stuck (moved : table.move c = .stuck) : table.runFrom c = ⟨[], .unending⟩ := by
  rw [runFrom]
  split <;> simp_all

theorem expansions_matching (c : Configuration) (token : String) (trace : Trace) :
    (trace.after [table.record c (.matching token)]).expansions = trace.expansions := rfl

theorem expansions_expansion (c : Configuration) (p : Production) (trace : Trace) :
    (trace.after [table.record c (table.expansionOf p)]).expansions =
      table.expansionOf p :: trace.expansions := rfl

theorem accepted_after (trace : Trace) (steps : List Predictive.Step) :
    (trace.after steps).accepted = trace.accepted := rfl

theorem verdict_after (trace : Trace) (steps : List Predictive.Step) :
    (trace.after steps).verdict = trace.verdict := rfl

/-! One move, by the symbol on top of the stack. -/

variable {g : Grammar} {below : List Symbol} {rest : List String} {position : Nat} {s : Symbol}

section Terminal

variable (own : table.grammar = g) (terminal : g.kindOf s = .terminal) (below : List Symbol)
  (position : Nat)

include own terminal

theorem move_match (rest : List String) :
    table.move ⟨s :: below, g.nameOf s :: rest, position⟩ =
      .matching (g.nameOf s) ⟨below, rest, position + 1⟩ := by
  simp [move, own, terminal]

theorem move_mismatch {token : String} (other : token ≠ g.nameOf s) (rest : List String) :
    table.move ⟨s :: below, token :: rest, position⟩ =
      .rejection (.mismatch (g.nameOf s) token position) := by
  simp [move, own, terminal, other]

theorem move_missing : table.move ⟨s :: below, [], position⟩ =
    .rejection (.mismatch (g.nameOf s) Symbol.endMarkName position) := by
  simp [move, own, terminal]

end Terminal

theorem move_nonterminal (own : table.grammar = g) (valid : g.WellFormed)
    (nonterminal : s ∈ g.nonterminals) {letter : Symbol} {p : Production}
    (column : Configuration.column? ⟨s :: below, rest, position⟩ g = some letter)
    (cell : table.get? s letter = some p) :
    table.move ⟨s :: below, rest, position⟩ = .expansion p ⟨p.body ++ below, rest, position⟩ := by
  simp [move, own, valid.kind_of_nonterminal nonterminal, column, cell]

/-- All that a move can be. The empty word does not get onto the stack. -/
theorem move_cases (own : table.grammar = g) (valid : g.WellFormed) (used : s ≠ Symbol.empty)
    (below : List Symbol) (rest : List String) (position : Nat) :
    (s = Symbol.endMark ∧ rest = [] ∧
        table.move ⟨s :: below, rest, position⟩ = .acceptance) ∨
      (∃ reason, table.move ⟨s :: below, rest, position⟩ = .rejection reason) ∨
      (g.kindOf s = .terminal ∧ ∃ later, rest = g.nameOf s :: later ∧
        table.move ⟨s :: below, rest, position⟩ =
          .matching (g.nameOf s) ⟨below, later, position + 1⟩) ∨
      s ∈ g.nonterminals ∧ ∃ letter p,
        Configuration.column? ⟨s :: below, rest, position⟩ g = some letter ∧
        p ∈ g.productions ∧ p.left = s ∧ g.Predicts p letter ∧
        table.move ⟨s :: below, rest, position⟩ =
          .expansion p ⟨p.body ++ below, rest, position⟩ := by
  cases kind : g.kindOf s with
  | emptyWord => exact absurd (Grammar.emptyWord_of_kind kind) used
  | endMark =>
    obtain rfl := Grammar.endMark_of_kind kind
    cases rest with
    | nil => exact .inl ⟨rfl, rfl, rfl⟩
    | cons token later => exact .inr (.inl ⟨_, rfl⟩)
  | terminal =>
    cases rest with
    | nil => exact .inr (.inl ⟨_, move_missing own kind below position⟩)
    | cons token later =>
      by_cases same : token = g.nameOf s
      · subst same
        exact .inr (.inr (.inl ⟨rfl, later, rfl, move_match own kind below position later⟩))
      · exact .inr (.inl ⟨_, move_mismatch own kind below position same later⟩)
  | nonterminal =>
    let c : Configuration := ⟨s :: below, rest, position⟩
    have member := Grammar.nonterminal_of_kind kind
    cases column : c.column? g with
    | none =>
      exact .inr (.inl ⟨.noProduction (g.nameOf s) c.lookahead position, by
        simp [move, own, kind, c, show c.column? g = none from column]⟩)
    | some letter =>
      cases cell : table.get? s letter with
      | none =>
        exact .inr (.inl ⟨.noProduction (g.nameOf s) c.lookahead position, by
          simp [move, own, kind, c, column, cell]⟩)
      | some p =>
        obtain ⟨listed, left, _, predicts⟩ := (Grammar.get?_eq_some_iff own).mp cell
        exact .inr (.inr (.inr ⟨member, letter, p, rfl, listed, left, predicts,
          move_nonterminal own valid member column cell⟩))

end Table
end Predictive
