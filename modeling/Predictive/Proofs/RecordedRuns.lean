import Predictive.Proofs.LeftmostDerivations
import Predictive.Proofs.ParserAcceptance
import Predictive.Proofs.ParserVerdict

/-! What a trace tells about the run that it was recorded from. Each step leads to the next by the action
that it names, the last one has the verdict, and the tokens read so far, together with the stack from
the top down to the end mark, are what the expansions so far make of the start symbol. -/

namespace Predictive

/-- The action that a run with this verdict ends in. -/
def Verdict.action? : Verdict → Option Action
  | accepted => some .acceptance
  | rejected reason => some (.rejection reason)
  | unending => none

/-- An expansion by the production, under its number and by name. -/
def Grammar.expansion (g : Grammar) (p : Production) : Action :=
  .expansion p.number (g.nameOf p.left) (g.bodyNames p.body)

/-- What the action of a step makes of its stack and its input. The stack stands bottom first. -/
inductive Step.Leads (g : Grammar) : Step → Step → Prop where
  | matching {stack input s} (next : Action) (terminal : g.kindOf s = .terminal) :
      Leads g ⟨stack ++ [g.nameOf s], g.nameOf s :: input, .matching (g.nameOf s)⟩
        ⟨stack, input, next⟩
  | expansion {stack input p} (next : Action) (listed : p ∈ g.productions) :
      Leads g ⟨stack ++ [g.nameOf p.left], input, g.expansion p⟩
        ⟨stack ++ ((g.bodyNames p.body).filter (· != Symbol.emptyName)).reverse, input, next⟩

/-- The run goes on from here. -/
def Action.goesOn : Action → Bool
  | .matching _ => true
  | action => action.isExpansion

namespace Trace

theorem steps_after (trace : Trace) (step : Step) : (trace.after [step]).steps = step :: trace.steps := rfl

/-- The steps end in the verdict, and go on before. -/
structure Concluded (trace : Trace) (before : List Step) (last : Step) : Prop where
  steps : trace.steps = before ++ [last]
  others : ∀ step ∈ before, step.action.goesOn = true
  verdict : trace.verdict.action? = some last.action

theorem Concluded.after {trace : Trace} {before : List Step} {last step : Step}
    (concluded : trace.Concluded before last) (goes : step.action.goesOn = true) :
    (trace.after [step]).Concluded (step :: before) last where
  steps := congrArg (step :: ·) concluded.steps
  others := List.forall_mem_cons.mpr ⟨goes, concluded.others⟩
  verdict := concluded.verdict

/-- At a step that comes after others, some tokens are read, and the productions of the expansions before
it lead from the form to these followed by what is left on the stack. -/
def Derived (g : Grammar) (form : Body) (tokens : List String) (before : List Step) (step : Step) : Prop :=
  ∃ ps read left rest, g.Leftmost ps form (read ++ left) ∧
    (before.map Step.action).filter Action.isExpansion = ps.map g.expansion ∧
    tokens = read.map g.nameOf ++ rest ∧ step.input = rest ++ [Symbol.endMarkName] ∧
    step.stack = Symbol.endMarkName :: (left.map g.nameOf).reverse

/-- The trace is that of a run of the grammar on the tokens. -/
structure Faithful (g : Grammar) (tokens : List String) (trace : Trace) : Prop where
  first : ∃ start action later, g.start = some start ∧ trace.steps =
    ⟨[Symbol.endMarkName, g.nameOf start], tokens ++ [Symbol.endMarkName], action⟩ :: later
  linked : trace.steps.IsChain (Step.Leads g)
  concluded : ∃ before last, trace.Concluded before last
  derived : ∀ before step after, trace.steps = before ++ step :: after →
    ∃ start, g.start = some start ∧ Derived g [start] tokens before step

namespace Derived

variable {g : Grammar} {later : Body} {tokens : List String} {before : List Step} {first step : Step}

/-- A terminal in front of the form is read first. -/
theorem matched {s : Symbol} (derived : Derived g later tokens before step) (letter : s ∉ g.nonterminals)
    (quiet : first.action.isExpansion = false) :
    Derived g (s :: later) (g.nameOf s :: tokens) (first :: before) step := by
  obtain ⟨ps, read, left, rest, leftmost, expansions, rfl, input, stack⟩ := derived
  refine ⟨ps, s :: read, left, rest, leftmost.letter letter, ?_, rfl, input, stack⟩
  rw [List.map_cons, List.filter_cons_of_neg (by simp [quiet]), expansions]

/-- A nonterminal in front of the form is expanded first. -/
theorem expanded {p : Production} (derived : Derived g (p.body ++ later) tokens before step)
    (listed : p ∈ g.productions) (own : first.action = g.expansion p) :
    Derived g (p.left :: later) tokens (first :: before) step := by
  obtain ⟨ps, read, left, rest, leftmost, expansions, same, input, stack⟩ := derived
  have front : g.IsWord [] := List.forall_mem_nil _
  have head : g.LeftmostStep p (p.left :: later) (p.body ++ later) := .expand later front listed
  refine ⟨p :: ps, read, left, rest, .step head leftmost, ?_, same, input, stack⟩
  rw [List.map_cons, own, List.filter_cons_of_pos rfl, expansions, List.map_cons]

end Derived
end Trace

namespace Grammar

variable {g : Grammar}

/-- In a body as it is shown, the empty word's name stands for the empty body only. -/
theorem WellFormed.filter_bodyNames (valid : g.WellFormed) {s : Symbol} {body : Body}
    (produces : g.Produces s body) :
    (g.bodyNames body).filter (· != Symbol.emptyName) = body.map g.nameOf := by
  cases body with
  | nil => rfl
  | cons first later =>
    change ((first :: later).map g.nameOf).filter _ = _
    apply List.filter_eq_self.mpr
    intro name member
    obtain ⟨t, inside, rfl⟩ := List.mem_map.mp member
    have positive := (valid.body_bounds produces inside).1
    simpa [valid.nameOf_eq_emptyName, Symbol.empty] using Nat.ne_of_gt positive

end Grammar

namespace Table
open Grammar

variable {g : Grammar} {table : Table} {c next : Configuration}

/-! One step -/

theorem leads_of_matching {token : String} (own : table.grammar = g)
    (moved : table.move c = .matching token next) (action : Action) :
    Step.Leads g (table.record c (.matching token)) (table.record next action) := by
  obtain ⟨top, stack, terminal, rest⟩ := top_of_matching own moved
  obtain ⟨rfl, _⟩ := List.cons.inj ((rest_of_matching moved).symm.trans rest)
  have here : table.record c (.matching (g.nameOf top)) =
      ⟨(next.stack.map g.nameOf).reverse ++ [g.nameOf top],
        g.nameOf top :: (next.rest ++ [Symbol.endMarkName]), .matching (g.nameOf top)⟩ := by
    simp [record, Configuration.step, own, stack, rest]
  rw [here, record, own]
  exact .matching action terminal

theorem expansionOf_eq (own : table.grammar = g) (p : Production) : table.expansionOf p = g.expansion p := by
  rw [expansionOf, own]
  rfl

theorem leads_of_expansion {p : Production} (own : table.grammar = g) (valid : g.WellFormed)
    (moved : table.move c = .expansion p next) (action : Action) :
    Step.Leads g (table.record c (table.expansionOf p)) (table.record next action) := by
  obtain ⟨below, _, stack, _, listed, _, _, rfl⟩ := top_of_expansion own moved
  have names := valid.filter_bodyNames (mem_productions listed)
  have here : table.record c (table.expansionOf p) =
      ⟨(below.map g.nameOf).reverse ++ [g.nameOf p.left], c.rest ++ [Symbol.endMarkName], g.expansion p⟩ := by
    simp [record, Configuration.step, expansionOf_eq own, own, stack]
  have there : table.record ⟨p.body ++ below, c.rest, c.position⟩ action =
      ⟨(below.map g.nameOf).reverse ++ ((g.bodyNames p.body).filter (· != Symbol.emptyName)).reverse,
        c.rest ++ [Symbol.endMarkName], action⟩ := by
    simp [record, Configuration.step, own, names]
  rw [here, there]
  exact .expansion action listed

/-- Before anything has happened the form is all on the stack. -/
theorem derived_first (own : table.grammar = g) {form : Body} (stack : c.stack = form ++ [Symbol.endMark])
    {action : Action} {steps after : List Predictive.Step} {step : Predictive.Step}
    (first : step :: after = table.record c action :: steps) : Trace.Derived g form c.rest [] step := by
  obtain ⟨rfl, _⟩ := List.cons.inj first
  refine ⟨[], [], form, c.rest, .done form, rfl, rfl, rfl, ?_⟩
  have mark : g.nameOf Symbol.endMark = Symbol.endMarkName := rfl
  simp [record, Configuration.step, own, stack, mark]

theorem derived_only (own : table.grammar = g) {form : Body} (stack : c.stack = form ++ [Symbol.endMark])
    {action : Action} {before after : List Predictive.Step} {step : Predictive.Step}
    (only : [table.record c action] = before ++ step :: after) : Trace.Derived g form c.rest before step := by
  rcases List.cons_eq_append_iff.mp only with ⟨rfl, first⟩ | ⟨earlier, _, none⟩
  · exact derived_first own stack first
  · exact absurd none.symm (by simp)

/-! Runs -/

theorem head_of_runFrom (goes : table.move c ≠ .stuck) :
    ∃ action later, (table.runFrom c).steps = table.record c action :: later := by
  cases moved : table.move c with
  | matching token next =>
    rw [runFrom_matching moved]
    exact ⟨_, _, rfl⟩
  | expansion p next =>
    rw [runFrom_expansion moved]
    exact ⟨_, _, rfl⟩
  | acceptance =>
    rw [runFrom_acceptance moved]
    exact ⟨_, _, rfl⟩
  | rejection reason =>
    rw [runFrom_rejection moved]
    exact ⟨_, _, rfl⟩
  | stuck => exact absurd moved goes

/-- The first step leads to what is recorded next, whichever action follows. -/
theorem linked_after {action : Action} (goes : table.move next ≠ .stuck)
    (leads : ∀ later, Step.Leads g (table.record c action) (table.record next later))
    (linked : (table.runFrom next).steps.IsChain (Step.Leads g)) :
    ((table.runFrom next).after [table.record c action]).steps.IsChain (Step.Leads g) := by
  obtain ⟨later, steps, head⟩ := head_of_runFrom goes
  rw [head] at linked
  rw [Trace.steps_after, head]
  exact .cons_cons (leads later) linked

theorem linked_of_runFrom (own : table.grammar = g) (valid : g.WellFormed) (c : Configuration)
    (upright : Upright c) : (table.runFrom c).steps.IsChain (Step.Leads g) := by
  induction c using runFrom.induct table with
  | case1 c token next moved moves ih =>
    have later := upright.moves own valid moves
    rw [runFrom_matching moved]
    exact linked_after (later.move_ne_stuck own valid) (leads_of_matching own moved) (ih later)
  | case2 c p next moved moves ih =>
    have later := upright.moves own valid moves
    rw [runFrom_expansion moved]
    exact linked_after (later.move_ne_stuck own valid) (leads_of_expansion own valid moved) (ih later)
  | case3 c moved =>
    rw [runFrom_acceptance moved]
    exact .singleton _
  | case4 c reason moved =>
    rw [runFrom_rejection moved]
    exact .singleton _
  | case5 c moved => exact absurd moved (upright.move_ne_stuck own valid)

theorem concluded_of_runFrom (own : table.grammar = g) (valid : g.WellFormed) (c : Configuration)
    (upright : Upright c) : ∃ before last, (table.runFrom c).Concluded before last := by
  induction c using runFrom.induct table with
  | case1 c token next moved moves ih =>
    obtain ⟨before, last, concluded⟩ := ih (upright.moves own valid moves)
    rw [runFrom_matching moved]
    exact ⟨_, last, concluded.after rfl⟩
  | case2 c p next moved moves ih =>
    obtain ⟨before, last, concluded⟩ := ih (upright.moves own valid moves)
    rw [runFrom_expansion moved]
    exact ⟨_, last, concluded.after rfl⟩
  | case3 c moved =>
    rw [runFrom_acceptance moved]
    exact ⟨[], _, rfl, List.forall_mem_nil _, rfl⟩
  | case4 c reason moved =>
    rw [runFrom_rejection moved]
    exact ⟨[], _, rfl, List.forall_mem_nil _, rfl⟩
  | case5 c moved => exact absurd moved (upright.move_ne_stuck own valid)

/-- Each step stands first, or behind a first step that changes the form. -/
theorem derived_of_runFrom (own : table.grammar = g) (c : Configuration) {form : Body}
    (stack : c.stack = form ++ [Symbol.endMark]) {before after : List Predictive.Step}
    {step : Predictive.Step} (place : (table.runFrom c).steps = before ++ step :: after) :
    Trace.Derived g form c.rest before step := by
  induction c using runFrom.induct table generalizing form before with
  | case1 c token next moved _ ih =>
    rw [runFrom_matching moved, Trace.steps_after, List.cons_eq_append_iff] at place
    rcases place with ⟨rfl, first⟩ | ⟨earlier, rfl, later⟩
    · exact derived_first own stack first
    · obtain ⟨s, below, rfl, terminal, rest, stack⟩ := form_of_matching own stack moved
      have letter : s ∉ g.nonterminals := fun member => not_terminal_of_nonterminal member terminal
      rw [rest]
      exact (ih stack later).matched letter rfl
  | case2 c p next moved _ ih =>
    rw [runFrom_expansion moved, Trace.steps_after, List.cons_eq_append_iff] at place
    rcases place with ⟨rfl, first⟩ | ⟨earlier, rfl, later⟩
    · exact derived_first own stack first
    · obtain ⟨below, rfl, listed, _, rest, stack⟩ := form_of_expansion own stack moved
      rw [← rest]
      exact (ih stack later).expanded listed (expansionOf_eq own p)
  | case3 c moved =>
    rw [runFrom_acceptance moved] at place
    exact derived_only own stack place
  | case4 c reason moved =>
    rw [runFrom_rejection moved] at place
    exact derived_only own stack place
  | case5 c moved =>
    rw [runFrom_stuck moved] at place
    exact absurd place.symm (by simp)

/-- The trace of every parse is that of a run. -/
theorem parse_faithful (reachable : Reachable g) (built : g.table = .ok table) (tokens : List String) :
    ∃ trace, g.parse tokens = .ok trace ∧ trace.Faithful g tokens := by
  have own := table_grammar built
  have valid := reachable.wellFormed
  have starts := table_starts own
  have upright := Upright.initial own valid tokens
  refine ⟨table.run tokens, by rw [parse, built]; rfl, ?_, ?_, ?_, ?_⟩
  · obtain ⟨action, later, head⟩ := head_of_runFrom (upright.move_ne_stuck own valid)
    refine ⟨table.start, action, later, starts, head.trans ?_⟩
    simp [record, Configuration.step, initial, own, nameOf, Symbol.endMark]
  · exact linked_of_runFrom own valid _ upright
  · exact concluded_of_runFrom own valid _ upright
  · intro before step after place
    exact ⟨table.start, starts, derived_of_runFrom own (table.initial tokens) rfl place⟩

/-- With the end mark in a body. -/
theorem marked_parse_faithful :
    ∃ trace, marked.parse ["a", "a"] = .ok trace ∧ trace.Faithful marked ["a", "a"] := by
  have built : ofEntries [⟨"S", [["a", "S", "$"], ["A"]]⟩, ⟨"A", [["ε"]]⟩] = .ok marked := rfl
  exact parse_faithful (.entries built) (table_self markedTable) ["a", "a"]

end Table
end Predictive
