import Predictive.Proofs.ParserMoves

/-! Every run of the parser comes to an end, because its table has no conflicts. Between two
tokens only expansions are made, all in the same column. A symbol that vanishes there does
so along the one derivation that the table admits, and a symbol that begins with the letter
of the column brings it to the front along the one that the table admits. The inductive
facts `Vanishes` and `Begins` are thus the measure that the loop itself does not have. -/

namespace Predictive.Table
open Grammar

variable {table : Table}

/-- There is no endless sequence of moves from here. -/
abbrev Ends (table : Table) (c : Configuration) : Prop :=
  Acc (fun next c => table.Moves c next) c

section Column

variable {rest : List String} {position : Nat} {letter s : Symbol} {below : List Symbol}

/-- The symbols of a body come to the top one after the other. -/
theorem ends_append {body : Body}
    (each : ∀ before s after, body = before ++ s :: after →
      table.Ends ⟨after ++ below, rest, position⟩ →
      table.Ends ⟨s :: (after ++ below), rest, position⟩)
    (ends : table.Ends ⟨below, rest, position⟩) :
    table.Ends ⟨body ++ below, rest, position⟩ := by
  suffices suffixes : ∀ before after, body = before ++ after →
      table.Ends ⟨after ++ below, rest, position⟩ from suffixes [] body rfl
  intro before after split
  induction after generalizing before with
  | nil => exact ends
  | cons s after ih => exact each before s after split (ih (before ++ [s]) (by simp [split]))

theorem ends_of_kind (other : table.grammar.kindOf s ≠ .nonterminal)
    (matched : table.grammar.kindOf s = .terminal → ∀ next : Configuration,
      rest = table.grammar.nameOf s :: next.rest → table.Ends next) :
    table.Ends ⟨s :: below, rest, position⟩ := by
  apply Acc.intro
  intro next moves
  obtain ⟨top, _, same, ⟨terminal, tokens⟩ | nonterminal⟩ := top_of_moves rfl moves
  all_goals obtain ⟨rfl, _⟩ := List.cons.inj same
  · exact matched terminal next tokens
  · exact absurd nonterminal other

variable (listed : letter ∈ table.grammar.letters)
  (column : Configuration.column? ⟨[], rest, position⟩ table.grammar = some letter)

include listed column

/-- No other production than the one predicted is used. -/
theorem ends_of_body {p : Production} (member : p ∈ table.grammar.productions)
    (predicts : table.grammar.Predicts p letter)
    (ends : table.Ends ⟨p.body ++ below, rest, position⟩) :
    table.Ends ⟨p.left :: below, rest, position⟩ := by
  apply Acc.intro
  intro next moves
  rcases moves with ⟨token, moved⟩ | ⟨q, moved⟩
  · obtain ⟨top, same, terminal, _⟩ := top_of_matching rfl moved
    obtain ⟨rfl, _⟩ := List.cons.inj same
    exact absurd terminal (not_terminal_of_nonterminal (mem_productions member).nonterminal)
  · obtain ⟨under, other, same, _, member', here, predicts', rfl⟩ := top_of_expansion rfl moved
    obtain ⟨left, rfl⟩ := List.cons.inj same
    obtain rfl : letter = other := Option.some.inj (column.symm.trans here)
    rw [← eq_of_predicts rfl listed member member' left.symm predicts predicts']
    exact ends

/-- The body by which a symbol vanishes is the one in its cell, if the letter follows. -/
theorem ends_of_vanishes (vanishes : table.grammar.Vanishes s)
    (follows : table.grammar.Follows letter s) (ends : table.Ends ⟨below, rest, position⟩) :
    table.Ends ⟨s :: below, rest, position⟩ := by
  induction vanishes generalizing below with
  | intro produces all ih =>
    obtain ⟨p, member, rfl, rfl⟩ := produces.listed
    have predicts : table.grammar.Predicts p letter := .inr ⟨all, follows⟩
    refine ends_of_body listed column member predicts (ends_append ?_ ends)
    intro before t after split later
    -- What is left of the body vanishes, so the letter follows each symbol of it as well.
    have inside : t ∈ p.body := by simp [split]
    have behind : table.grammar.BodyVanishes after := fun u member => all u (by simp [split, member])
    rw [split] at produces
    exact ih t inside (.left produces (all t inside).nonterminal behind follows) later

theorem ends_of_begins (begins : table.grammar.Begins letter s)
    (front : ∀ below, table.Ends ⟨letter :: below, rest, position⟩) :
    table.Ends ⟨s :: below, rest, position⟩ := by
  induction begins generalizing below with
  | self => exact front below
  | @intro s before t after produces vanish begins ih =>
    obtain ⟨p, member, rfl, same⟩ := produces.listed
    have predicts : table.grammar.Predicts p letter := .inl ⟨before, t, after, same, vanish, begins⟩
    apply ends_of_body listed column member predicts
    rw [same, List.append_assoc]
    refine ends_append ?_ ih
    intro earlier u later split next
    -- Before `t` all symbols vanish, and the letter follows each of them because of `t`.
    have gone := vanish u (by simp [split])
    have ahead : table.grammar.BodyBegins letter (later ++ t :: after) :=
      ⟨later, t, after, rfl, fun v member => vanish v (by simp [split, member]), begins⟩
    rw [split, List.append_assoc] at produces
    exact ends_of_vanishes listed column gone (.rest produces gone.nonterminal ahead) next

end Column

/-- With the terminals dealt with, no symbol on the stack keeps the run from its end. -/
theorem ends_of_terminals {rest : List String} {position : Nat} (stack : List Symbol)
    (terminals : ∀ s below, table.grammar.kindOf s = .terminal →
      table.Ends ⟨s :: below, rest, position⟩) : table.Ends ⟨stack, rest, position⟩ := by
  induction stack with
  | nil =>
    apply Acc.intro
    intro next moves
    obtain ⟨_, _, same, _⟩ := top_of_moves rfl moves
    cases same
  | cons s below ih =>
    apply Acc.intro
    intro next moves
    suffices known : table.Ends ⟨s :: below, rest, position⟩ from known.inv moves
    rcases moves with ⟨token, moved⟩ | ⟨p, moved⟩
    · obtain ⟨top, same, terminal, _⟩ := top_of_matching rfl moved
      obtain ⟨rfl, _⟩ := List.cons.inj same
      exact terminals s below terminal
    · obtain ⟨_, letter, same, _, member, column, predicts, _⟩ := top_of_expansion rfl moved
      obtain ⟨rfl, _⟩ := List.cons.inj same
      obtain ⟨listed, kind⟩ := kind_of_column column
      have produces := mem_productions member
      rcases predicts with begins | ⟨vanish, follows⟩
      · apply ends_of_begins listed column (produces.begins begins)
        intro below
        rcases kind with last | terminal
        · exact ends_of_kind (by simp [last]) fun terminal => by simp [last] at terminal
        · exact terminals letter below terminal
      · exact ends_of_vanishes listed column (.intro produces vanish) follows ih

/-- By induction on the tokens left and then on the stack. -/
theorem ends (table : Table) (c : Configuration) : table.Ends c := by
  obtain ⟨stack, rest, position⟩ := c
  induction rest generalizing stack position with
  | nil =>
    apply ends_of_terminals stack
    intro s below terminal
    exact ends_of_kind (by simp [terminal]) fun _ _ absurdity => by cases absurdity
  | cons token later ih =>
    apply ends_of_terminals stack
    intro s below terminal
    apply ends_of_kind (by simp [terminal])
    intro _ next tokens
    obtain ⟨_, rfl⟩ := List.cons.inj tokens
    exact ih next.stack next.position

end Predictive.Table
