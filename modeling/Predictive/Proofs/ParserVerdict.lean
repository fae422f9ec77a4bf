import Mathlib.Logic.Relation
import Predictive.Proofs.ParserRuns
import Predictive.Proofs.Reached

/-! Every run comes to a verdict. The end mark stays at the bottom of the stack and the empty
word's symbol never gets onto it, so that there is a move or a verdict at each point. -/

namespace Predictive.Table
open Grammar Relation

variable {g : Grammar} {table : Table} {c d : Configuration}

/-- The end mark lies at the bottom, and the empty word's symbol nowhere. -/
def Upright (c : Configuration) : Prop :=
  ∃ form, c.stack = form ++ [Symbol.endMark] ∧ Symbol.empty ∉ form

theorem Upright.initial (own : table.grammar = g) (valid : g.WellFormed) (tokens : List String) :
    Upright (table.initial tokens) := by
  have declared := valid.nonterminal_bounds (valid.start _ (table_starts own))
  exact ⟨[table.start], rfl, by simpa using Ne.symm (ne_empty declared.1)⟩

theorem Upright.moves (upright : Upright c) (own : table.grammar = g) (valid : g.WellFormed)
    (moves : table.Moves c d) : Upright d := by
  obtain ⟨form, stack, used⟩ := upright
  rcases moves with ⟨token, moved⟩ | ⟨p, moved⟩
  · obtain ⟨s, later, rfl, _, _, below⟩ := form_of_matching own stack moved
    exact ⟨later, below, fun member => used (List.mem_cons_of_mem s member)⟩
  · obtain ⟨later, rfl, listed, _, _, below⟩ := form_of_expansion own stack moved
    have absent := valid.empty_not_mem (mem_productions listed)
    have unused : Symbol.empty ∉ later := fun member => used (List.mem_cons_of_mem p.left member)
    exact ⟨p.body ++ later, below, by simpa using ⟨absent, unused⟩⟩

theorem Upright.reached {start : Configuration} (upright : Upright start)
    (own : table.grammar = g) (valid : g.WellFormed) (moves : ReflTransGen table.Moves start c) :
    Upright c := by
  induction moves with
  | refl => exact upright
  | tail _ step ih => exact ih.moves own valid step

theorem Upright.stack (upright : Upright c) : c.stack ≠ [] ∧ Symbol.empty ∉ c.stack := by
  obtain ⟨form, stack, used⟩ := upright
  rw [stack]
  exact ⟨by simp, by simpa using ⟨used, by decide⟩⟩

theorem Upright.move_ne_stuck (upright : Upright c) (own : table.grammar = g)
    (valid : g.WellFormed) : table.move c ≠ .stuck := by
  obtain ⟨filled, absent⟩ := upright.stack
  obtain ⟨stack, rest, position⟩ := c
  obtain ⟨top, below, rfl⟩ := List.exists_cons_of_ne_nil filled
  have used := (not_or.mp (mt List.mem_cons.mpr absent)).1
  intro stuck
  rcases move_cases own valid (Ne.symm used) below rest position with
    ⟨_, _, moved⟩ | ⟨_, moved⟩ | ⟨_, _, _, moved⟩ | ⟨_, _, _, _, _, _, _, moved⟩
  all_goals
    rw [moved] at stuck
    cases stuck

/-- Where a run ends, and that the verdict says so. -/
theorem Upright.verdict (own : table.grammar = g) (valid : g.WellFormed) (c : Configuration)
    (upright : Upright c) :
    ∃ last, ReflTransGen table.Moves c last ∧
      (table.move last = .acceptance ∧ (table.runFrom c).verdict = .accepted ∨
        ∃ reason, table.move last = .rejection reason ∧
          (table.runFrom c).verdict = .rejected reason) := by
  induction c using runFrom.induct table with
  | case1 c token next moved moves ih =>
    obtain ⟨last, reached, verdict⟩ := ih (upright.moves own valid moves)
    rw [runFrom_matching moved, verdict_after]
    exact ⟨last, .head moves reached, verdict⟩
  | case2 c p next moved moves ih =>
    obtain ⟨last, reached, verdict⟩ := ih (upright.moves own valid moves)
    rw [runFrom_expansion moved, verdict_after]
    exact ⟨last, .head moves reached, verdict⟩
  | case3 c moved =>
    rw [runFrom_acceptance moved]
    exact ⟨c, .refl, .inl ⟨moved, rfl⟩⟩
  | case4 c reason moved =>
    rw [runFrom_rejection moved]
    exact ⟨c, .refl, .inr ⟨reason, moved, rfl⟩⟩
  | case5 c moved => exact absurd moved (upright.move_ne_stuck own valid)

/-- There is no endless run. One that goes on as long as it can reaches a verdict, and on the
way the stack is never empty and the empty word's symbol never on it. -/
theorem run_ends (reachable : Reachable g) (built : g.table = .ok table) (tokens : List String) :
    table.Ends (table.initial tokens) ∧
      (∃ last, ReflTransGen table.Moves (table.initial tokens) last ∧
        (table.move last = .acceptance ∧ (table.run tokens).verdict = .accepted ∨
          ∃ reason, table.move last = .rejection reason ∧
            (table.run tokens).verdict = .rejected reason)) ∧
      ∀ c, ReflTransGen table.Moves (table.initial tokens) c →
        c.stack ≠ [] ∧ Symbol.empty ∉ c.stack ∧ table.move c ≠ .stuck := by
  have own := table_grammar built
  have valid := reachable.wellFormed
  have initial := Upright.initial own valid tokens
  refine ⟨table.ends _, initial.verdict own valid, fun c moves => ?_⟩
  have upright := initial.reached own valid moves
  exact ⟨upright.stack.1, upright.stack.2, upright.move_ne_stuck own valid⟩

/-- A grammar with the end mark in a body. -/
def marked : Grammar :=
  ⟨["S", "A", "a"], [⟨2, [[4, 2, 1], [3]]⟩, ⟨3, [[]]⟩], some 2⟩

def markedTable : Table :=
  ⟨marked, 2, [⟨2, 4, ⟨1, 2, [4, 2, 1]⟩⟩, ⟨2, 1, ⟨2, 2, [3]⟩⟩, ⟨3, 1, ⟨3, 3, []⟩⟩], rfl,
    by decide +kernel, by decide +kernel⟩

theorem marked_run_ends :
    ∃ last, ReflTransGen markedTable.Moves (markedTable.initial ["a", "a"]) last ∧
      (markedTable.move last = .acceptance ∨ ∃ reason, markedTable.move last = .rejection reason) := by
  have built : ofEntries [⟨"S", [["a", "S", "$"], ["A"]]⟩, ⟨"A", [["ε"]]⟩] = .ok marked := rfl
  have settled : marked.table = .ok markedTable := table_self markedTable
  obtain ⟨last, reached, ⟨accepts, _⟩ | ⟨reason, rejects, _⟩⟩ :=
    (run_ends (.entries built) settled ["a", "a"]).2.1
  · exact ⟨last, reached, .inl accepts⟩
  · exact ⟨last, reached, .inr ⟨reason, rejects⟩⟩

end Predictive.Table
