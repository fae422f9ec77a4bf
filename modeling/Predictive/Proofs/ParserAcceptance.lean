import Predictive.Proofs.ParserRuns
import Predictive.Proofs.Reached

/-! How an accepting run ends. Its last step is its only acceptance, and no token is left there. An
end mark on top of the stack ends the run, so nothing that is put on top of one ever gets off again:
the mark that the acceptance takes is the bottom one exactly if no expansion has brought another. -/

namespace Predictive

/-- What an action puts on the stack. -/
def Action.pushed : Action → List String
  | .expansion _ _ right => right
  | _ => []

/-- The steps of a run up to its only acceptance, which finds no token left. -/
structure Trace.Ending (trace : Trace) (before : List Step) (last : Step) : Prop where
  steps : trace.steps = before ++ [last]
  others : ∀ step ∈ before, step.action ≠ .acceptance
  action : last.action = .acceptance
  input : last.input = [Symbol.endMarkName]

theorem Trace.Ending.after {trace : Trace} {before : List Step} {last step : Step}
    (ending : trace.Ending before last) (other : step.action ≠ .acceptance) :
    (trace.after [step]).Ending (step :: before) last where
  steps := congrArg (step :: ·) ending.steps
  others := List.forall_mem_cons.mpr ⟨other, ending.others⟩
  action := ending.action
  input := ending.input

namespace Grammar

variable {g : Grammar}

theorem WellFormed.endMarkName_mem_bodyNames (valid : g.WellFormed) {body : Body} :
    Symbol.endMarkName ∈ g.bodyNames body ↔ Symbol.endMark ∈ body := by
  rw [bodyNames, List.mem_map]
  simp only [valid.nameOf_eq_endMarkName, exists_eq_right]
  cases body with
  | nil => decide
  | cons s rest => rfl

end Grammar

namespace Table
open Grammar

variable {g : Grammar} {table : Table}

theorem ending_of_runFrom (own : table.grammar = g) (valid : g.WellFormed) (c : Configuration)
    {form : Body} (stack : c.stack = form ++ [Symbol.endMark])
    (accepted : (table.runFrom c).accepted = true) :
    ∃ before last, (table.runFrom c).Ending before last ∧
      (last.stack = [Symbol.endMarkName] ↔
        Symbol.endMark ∉ form ∧ ∀ step ∈ before, Symbol.endMarkName ∉ step.action.pushed) := by
  induction c using runFrom.induct table generalizing form with
  | case1 c token next moved _ ih =>
    rw [runFrom_matching moved, accepted_after] at accepted
    rw [runFrom_matching moved]
    obtain ⟨s, later, rfl, terminal, _, below⟩ := form_of_matching own stack moved
    have other : Symbol.endMark ≠ s := by
      rintro rfl
      cases terminal
    obtain ⟨before, last, ending, alone⟩ := ih below accepted
    have matching : (table.record c (.matching token)).action ≠ .acceptance := nofun
    refine ⟨_, last, ending.after matching, ?_⟩
    rw [alone, List.mem_cons, not_or, and_iff_right other, List.forall_mem_cons]
    exact and_congr_right' (and_iff_right List.not_mem_nil).symm
  | case2 c p next moved _ ih =>
    rw [runFrom_expansion moved, accepted_after] at accepted
    rw [runFrom_expansion moved]
    obtain ⟨later, rfl, listed, nonterminal, _, below⟩ := form_of_expansion own stack moved
    have other : Symbol.endMark ≠ p.left := by
      intro same
      rw [← same] at nonterminal
      cases nonterminal
    obtain ⟨before, last, ending, alone⟩ := ih below accepted
    have expansion : (table.record c (table.expansionOf p)).action ≠ .acceptance := nofun
    have pushed : Symbol.endMarkName ∉ (table.record c (table.expansionOf p)).action.pushed ↔
        Symbol.endMark ∉ p.body := by
      change Symbol.endMarkName ∉ table.grammar.bodyNames p.body ↔ _
      rw [own, valid.endMarkName_mem_bodyNames]
    refine ⟨_, last, ending.after expansion, ?_⟩
    rw [alone, List.mem_cons, not_or, and_iff_right other, List.forall_mem_cons, pushed,
      List.mem_append, not_or, and_assoc, and_left_comm]
  | case3 c moved =>
    rw [runFrom_acceptance moved]
    obtain ⟨below, same, rest⟩ := top_of_acceptance moved
    refine ⟨[], table.record c .acceptance, ⟨rfl, by simp, rfl, ?_⟩, ?_⟩
    · simp [record, Configuration.step, rest]
    · have mark : g.nameOf Symbol.endMark = Symbol.endMarkName := rfl
      have alone : (table.record c .acceptance).stack = [Symbol.endMarkName] ↔ below = [] := by
        simp [record, Configuration.step, own, same, mark]
      rw [alone]
      cases form with
      | nil =>
        obtain ⟨_, none⟩ := List.cons.inj (stack.symm.trans same)
        simp [none.symm]
      | cons s form =>
        obtain ⟨rfl, below⟩ := List.cons.inj (stack.symm.trans same)
        simp [below.symm]
  | case4 c reason moved =>
    rw [runFrom_rejection moved] at accepted
    cases accepted
  | case5 c moved =>
    rw [runFrom_stuck moved] at accepted
    cases accepted

/-- Every expansion is by one of the productions. -/
theorem expansion_of_runFrom (own : table.grammar = g) (c : Configuration) :
    ∀ step ∈ (table.runFrom c).steps, ∀ {number left right},
      step.action = .expansion number left right →
        ∃ p ∈ g.productions, step.action = table.expansionOf p := by
  induction c using runFrom.induct table with
  | case1 c token next moved _ ih =>
    rw [runFrom_matching moved]
    exact List.forall_mem_cons.mpr ⟨nofun, ih⟩
  | case2 c p next moved _ ih =>
    rw [runFrom_expansion moved]
    obtain ⟨_, _, _, _, listed, _, _, _⟩ := top_of_expansion own moved
    exact List.forall_mem_cons.mpr ⟨fun _ => ⟨p, listed, rfl⟩, ih⟩
  | case3 c moved =>
    rw [runFrom_acceptance moved]
    exact List.forall_mem_singleton.mpr nofun
  | case4 c reason moved =>
    rw [runFrom_rejection moved]
    exact List.forall_mem_singleton.mpr nofun
  | case5 c moved =>
    rw [runFrom_stuck moved]
    exact List.forall_mem_nil _

/-- Only bodies of productions are put on the stack. -/
theorem pushed_of_runFrom (own : table.grammar = g) (c : Configuration) :
    ∀ step ∈ (table.runFrom c).steps, step.action.pushed = [] ∨
      ∃ p ∈ g.productions, step.action.pushed = g.bodyNames p.body := by
  intro step recorded
  cases action : step.action with
  | expansion =>
    obtain ⟨p, listed, same⟩ := expansion_of_runFrom own c step recorded action
    refine .inr ⟨p, listed, ?_⟩
    rw [← action, same, ← own]
    rfl
  | _ => exact .inl rfl

theorem endMarkName_not_pushed (own : table.grammar = g) (valid : g.WellFormed)
    (free : g.EndMarkFree) (c : Configuration) :
    ∀ step ∈ (table.runFrom c).steps, Symbol.endMarkName ∉ step.action.pushed := by
  intro step member
  rcases pushed_of_runFrom own c step member with none | ⟨p, listed, body⟩
  · rw [none]
    exact List.not_mem_nil
  · rw [body, valid.endMarkName_mem_bodyNames]
    obtain ⟨rule, inside, _, chosen⟩ := produces_iff.mp (mem_productions listed)
    exact free rule inside p.body chosen

/-- A run that accepts does so in its last step and with no token left. The stack has nothing but the
end mark there exactly if no production of the run has the end mark in its body; where a body has it,
the symbols below stay unread. -/
theorem accepting_stack (reachable : Reachable g) (built : g.table = .ok table) {tokens : List String}
    (accepted : (table.run tokens).accepted = true) :
    ∃ before last, (table.run tokens).Ending before last ∧
      (last.stack = [Symbol.endMarkName] ↔
        ∀ step ∈ before, Symbol.endMarkName ∉ step.action.pushed) ∧
      (g.EndMarkFree → last.stack = [Symbol.endMarkName]) := by
  have own := table_grammar built
  have valid := reachable.wellFormed
  have root := (valid.nonterminal_bounds (valid.start _ (table_starts own))).1
  have stack : (table.initial tokens).stack = [table.start] ++ [Symbol.endMark] := rfl
  obtain ⟨before, last, ending, alone⟩ :=
    ending_of_runFrom own valid (table.initial tokens) stack accepted
  rw [List.mem_singleton, and_iff_right (ne_endMark root).symm] at alone
  refine ⟨before, last, ending, alone, fun free => alone.mpr ?_⟩
  intro step member
  apply endMarkName_not_pushed own valid free (table.initial tokens)
  rw [ending.steps]
  exact List.mem_append_left _ member

/-- The end mark stands in a body, with `b` behind it. -/
def marker : Grammar := ⟨["S", "a", "b"], [⟨2, [[3], [1, 4]]⟩], some 2⟩

def markerTable : Table :=
  ⟨marker, 2, [⟨2, 3, ⟨1, 2, [3]⟩⟩, ⟨2, 1, ⟨2, 2, [1, 4]⟩⟩], rfl,
    by decide +kernel, by decide +kernel⟩

theorem marker_accepts :
    ∃ before last, (markerTable.run ["a"]).Ending before last ∧
      (last.stack = ["$"] ↔ ∀ step ∈ before, "$" ∉ step.action.pushed) := by
  have built : ofEntries [⟨"S", [["a"], ["$", "b"]]⟩] = .ok marker := rfl
  have settled : marker.table = .ok markerTable := table_self markerTable
  have accepted : (markerTable.run ["a"]).accepted = true := by
    have expands : markerTable.move ⟨[2, 1], ["a"], 0⟩ =
        .expansion ⟨1, 2, [3]⟩ ⟨[3, 1], ["a"], 0⟩ := rfl
    have consumes : markerTable.move ⟨[3, 1], ["a"], 0⟩ = .matching "a" ⟨[1], [], 1⟩ := rfl
    have accepts : markerTable.move ⟨[1], [], 1⟩ = .acceptance := rfl
    change (markerTable.runFrom ⟨[2, 1], ["a"], 0⟩).accepted = true
    rw [runFrom_expansion expands, runFrom_matching consumes, runFrom_acceptance accepts]
    rfl
  obtain ⟨before, last, ending, alone, _⟩ := accepting_stack (.entries built) settled accepted
  exact ⟨before, last, ending, alone⟩

/-- With no token at all the run is over at the mark in the body, and `b` is still on the stack. -/
theorem marker_accepts_early :
    ofText "S -> a | $ b" = .ok marker ∧ marker.table = .ok markerTable ∧
      (markerTable.run []).accepted = true ∧
      (markerTable.run []).steps = [⟨["$", "S"], ["$"], .expansion 2 "S" ["$", "b"]⟩,
        ⟨["$", "b", "$"], ["$"], .acceptance⟩] := by
  have read : ofText "S -> a | $ b" = .ok marker := by cbv
  have expands : markerTable.move ⟨[2, 1], [], 0⟩ =
      .expansion ⟨2, 2, [1, 4]⟩ ⟨[1, 4, 1], [], 0⟩ := rfl
  have accepts : markerTable.move ⟨[1, 4, 1], [], 0⟩ = .acceptance := rfl
  refine ⟨read, table_self markerTable, ?_⟩
  change (markerTable.runFrom ⟨[2, 1], [], 0⟩).accepted = true ∧
    (markerTable.runFrom ⟨[2, 1], [], 0⟩).steps = _
  rw [runFrom_expansion expands, runFrom_acceptance accepts]
  exact ⟨rfl, rfl⟩

end Table
end Predictive
