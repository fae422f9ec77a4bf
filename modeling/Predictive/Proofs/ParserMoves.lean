import Predictive.Parser.Move
import Predictive.Proofs.Cells

/-! What a move tells about the configuration it is made in. -/

namespace Predictive.Table

variable {g : Grammar} {table : Table} {c : Configuration}

theorem kind_of_column {letter : Symbol} (column : c.column? g = some letter) :
    letter ∈ g.letters ∧ (g.kindOf letter = .endMark ∨ g.kindOf letter = .terminal) := by
  unfold Configuration.column? at column
  split at column
  · obtain rfl := Option.some.inj column
    exact ⟨Grammar.endMark_mem_letters, .inl rfl⟩
  · have terminal := (Option.filter_eq_some_iff.mp column).2
    exact ⟨Grammar.mem_letters_of_isTerminal terminal, .inr (Grammar.kind_of_terminal terminal)⟩

theorem top_of_matching {next : Configuration} {token : String} (own : table.grammar = g)
    (moved : table.move c = .matching token next) :
    ∃ top, c.stack = top :: next.stack ∧ g.kindOf top = .terminal ∧
      c.rest = g.nameOf top :: next.rest := by
  unfold move at moved
  rw [own] at moved
  split at moved
  · cases moved
  next top below stack =>
    dsimp only at moved
    split at moved
    · cases moved
    · unfold Configuration.finish at moved
      split at moved <;> cases moved
    · split at moved <;> cases moved
    next kind =>
      split at moved
      · cases moved
      next first rest tokens =>
        split at moved
        next same =>
          cases moved
          exact ⟨top, stack, kind, same ▸ tokens⟩
        · cases moved

theorem top_of_expansion {next : Configuration} {p : Production} (own : table.grammar = g)
    (moved : table.move c = .expansion p next) :
    ∃ below letter, c.stack = p.left :: below ∧ g.kindOf p.left = .nonterminal ∧
      p ∈ g.productions ∧ c.column? g = some letter ∧ g.Predicts p letter ∧
      next = ⟨p.body ++ below, c.rest, c.position⟩ := by
  unfold move at moved
  rw [own] at moved
  split at moved
  · cases moved
  next top below stack =>
    dsimp only at moved
    split at moved
    · cases moved
    · unfold Configuration.finish at moved
      split at moved <;> cases moved
    next kind =>
      split at moved
      next q cell =>
        cases moved
        obtain ⟨letter, column, cell⟩ := Option.bind_eq_some_iff.mp cell
        obtain ⟨listed, rfl, _, predicts⟩ := (Grammar.get?_eq_some_iff own).mp cell
        exact ⟨below, letter, stack, kind, listed, column, predicts, rfl⟩
      · cases moved
    · split at moved
      · cases moved
      · split at moved <;> cases moved

theorem top_of_acceptance (moved : table.move c = .acceptance) :
    ∃ below, c.stack = Symbol.endMark :: below ∧ c.rest = [] := by
  unfold move at moved
  split at moved
  · cases moved
  next top below stack =>
    dsimp only at moved
    split at moved
    · cases moved
    next kind =>
      obtain rfl := Grammar.endMark_of_kind kind
      unfold Configuration.finish at moved
      split at moved
      next ended => exact ⟨below, stack, List.isEmpty_iff.mp ended⟩
      · cases moved
    · split at moved <;> cases moved
    · split at moved
      · cases moved
      · split at moved <;> cases moved

theorem rest_of_matching {next : Configuration} {token : String}
    (moved : table.move c = .matching token next) : c.rest = token :: next.rest := by
  unfold move at moved
  split at moved
  · cases moved
  · dsimp only at moved
    split at moved
    · cases moved
    · unfold Configuration.finish at moved
      split at moved <;> cases moved
    · split at moved <;> cases moved
    · split at moved
      · cases moved
      next tokens =>
        split at moved <;> cases moved
        exact tokens

theorem position_of_matching {next : Configuration} {token : String}
    (moved : table.move c = .matching token next) : next.position = c.position + 1 := by
  unfold move at moved
  split at moved
  · cases moved
  · dsimp only at moved
    split at moved
    · cases moved
    · unfold Configuration.finish at moved
      split at moved <;> cases moved
    · split at moved <;> cases moved
    · split at moved
      · cases moved
      · split at moved <;> cases moved
        rfl

theorem position_of_expansion {next : Configuration} {p : Production}
    (moved : table.move c = .expansion p next) : next.position = c.position := by
  obtain ⟨_, _, _, _, _, _, _, rfl⟩ := top_of_expansion rfl moved
  rfl

theorem position_of_rejection {reason : Rejection} (moved : table.move c = .rejection reason) :
    reason.position = c.position := by
  unfold move at moved
  split at moved
  · cases moved
  · dsimp only at moved
    split at moved
    · cases moved
    · unfold Configuration.finish at moved
      split at moved <;> cases moved
      rfl
    · split at moved <;> cases moved
      rfl
    · split at moved
      · cases moved
        rfl
      · split at moved <;> cases moved
        rfl

/-! What a move does to the form that stands on the end mark at the bottom -/

section Form

variable {next : Configuration} {form : Body} (own : table.grammar = g)
  (stack : c.stack = form ++ [Symbol.endMark])
include own stack

theorem form_of_matching {token : String} (moved : table.move c = .matching token next) :
    ∃ s later, form = s :: later ∧ g.kindOf s = .terminal ∧ c.rest = g.nameOf s :: next.rest ∧
      next.stack = later ++ [Symbol.endMark] := by
  obtain ⟨top, same, terminal, rest⟩ := top_of_matching own moved
  cases form with
  | nil =>
    obtain ⟨rfl, _⟩ := List.cons.inj (stack.symm.trans same)
    cases terminal
  | cons s later =>
    obtain ⟨rfl, below⟩ := List.cons.inj (stack.symm.trans same)
    exact ⟨s, later, rfl, terminal, rest, below.symm⟩

theorem form_of_expansion {p : Production} (moved : table.move c = .expansion p next) :
    ∃ later, form = p.left :: later ∧ p ∈ g.productions ∧ g.kindOf p.left = .nonterminal ∧
      next.rest = c.rest ∧ next.stack = (p.body ++ later) ++ [Symbol.endMark] := by
  obtain ⟨below, _, same, nonterminal, listed, _, _, rfl⟩ := top_of_expansion own moved
  cases form with
  | nil =>
    obtain ⟨last, _⟩ := List.cons.inj (stack.symm.trans same)
    rw [← last] at nonterminal
    cases nonterminal
  | cons s later =>
    obtain ⟨rfl, rfl⟩ := List.cons.inj (stack.symm.trans same)
    exact ⟨later, rfl, listed, nonterminal, rfl, (List.append_assoc ..).symm⟩

end Form

/-- The loop goes on only from a terminal that is next or from a nonterminal. -/
theorem top_of_moves {next : Configuration} (own : table.grammar = g)
    (moves : table.Moves c next) : ∃ top below, c.stack = top :: below ∧
      (g.kindOf top = .terminal ∧ c.rest = g.nameOf top :: next.rest ∨
        g.kindOf top = .nonterminal) := by
  rcases moves with ⟨token, moved⟩ | ⟨p, moved⟩
  · obtain ⟨top, stack, terminal, rest⟩ := top_of_matching own moved
    exact ⟨top, next.stack, stack, .inl ⟨terminal, rest⟩⟩
  · obtain ⟨below, _, stack, kind, _⟩ := top_of_expansion own moved
    exact ⟨p.left, below, stack, .inr kind⟩

end Predictive.Table
