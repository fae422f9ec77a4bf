import Predictive.Proofs.LeftCorners
import Predictive.Proofs.TableExactness

/-! Left recursion shows in the table. On a cycle of left corners each symbol can begin with
whatever letter the next one can begin with, so a letter that gets from one of them to the front
announces the body that leads on along the cycle as well as the one that leads out of it. If nothing
can get to the front, all bodies on the cycle vanish, and what follows announces both. Without
conflicts the two bodies are the same, and the way out would have to go round the cycle for ever:
the inductive facts `Begins` and `Vanishes` do not allow that. -/

namespace Predictive.Grammar
open Relation

variable {g : Grammar} {letter s t : Symbol}

/-! What can be seen ahead -/

theorem exists_word (productive : ∀ s ∈ g.nonterminals, g.Productive s) (form : Body) :
    ∃ word, g.IsWord word ∧ g.Derives form word := by
  induction form with
  | nil => exact ⟨[], by simp [IsWord], .refl⟩
  | cons s rest ih =>
    obtain ⟨later, isWord, derives⟩ := ih
    by_cases nonterminal : s ∈ g.nonterminals
    · obtain ⟨first, isWord', derives'⟩ := productive s nonterminal
      exact ⟨first ++ later, IsWord.append.mpr ⟨isWord', isWord⟩, derives'.append derives⟩
    · refine ⟨s :: later, List.forall_mem_cons.mpr ⟨?_, isWord⟩, derives.append_left [s]⟩
      exact not_isNonterminal_iff.mpr nonterminal

/-- Where all nonterminals derive words, something can be seen ahead of every form. -/
theorem exists_ahead (valid : g.WellFormed) (productive : ∀ s ∈ g.nonterminals, g.Productive s)
    (form : Body) (bounds : ∀ s ∈ form, 0 < s ∧ s < g.size) :
    ∃ letter ∈ g.letters, g.Ahead letter form := by
  obtain ⟨word, isWord, derives⟩ := exists_word productive form
  cases word with
  | nil => exact ⟨Symbol.endMark, endMark_mem_letters, .inr ⟨rfl, bodyVanishes_iff_derives.mpr derives⟩⟩
  | cons letter rest =>
    have declared := derives.bounds valid bounds letter List.mem_cons_self
    have terminal := not_isNonterminal_iff.mp (List.forall_mem_cons.mp isWord).1
    refine ⟨letter, (mem_letters valid).mpr ⟨Nat.ne_of_gt declared.1, declared.2, terminal⟩, .inl ?_⟩
    exact bodyBegins_iff_derives.mpr ⟨rest, derives⟩

theorem LeftCorner.begins (corner : g.LeftCorner s t) (begins : g.Begins letter t) :
    g.Begins letter s := by
  obtain ⟨_, before, after, produces, vanish⟩ := corner
  exact .intro produces vanish begins

theorem begins_of_corners (corners : ReflTransGen g.LeftCorner s t) (begins : g.Begins letter t) :
    g.Begins letter s := by
  induction corners using ReflTransGen.head_induction_on with
  | refl => exact begins
  | head corner _ ih => exact corner.begins ih

section Table

variable {table : Table} (own : table.grammar = g) (valid : g.WellFormed)
  (listed : letter ∈ g.letters)

include own listed

/-- Without conflicts a letter announces one body only. -/
theorem body_unique {body body' : Body} (produces : g.Produces s body) (produces' : g.Produces s body')
    (announced : g.BodyBegins letter body ∨ g.BodyVanishes body ∧ g.Follows letter s)
    (announced' : g.BodyBegins letter body' ∨ g.BodyVanishes body' ∧ g.Follows letter s) :
    body = body' := by
  obtain ⟨p, first, rfl, rfl⟩ := produces.listed
  obtain ⟨q, second, same, rfl⟩ := produces'.listed
  have predicts : g.Predicts q letter := by
    unfold Predicts
    rw [same]
    exact announced'
  rw [eq_of_predicts own listed first second same announced predicts]

include valid

theorem not_vanishes_of_begins (begins : g.Begins letter s) (follows : g.Follows letter s) :
    ¬ g.Vanishes s := by
  induction begins with
  | self =>
    intro vanishes
    exact ((mem_letters valid).mp listed).2.2 vanishes.nonterminal
  | @intro s before t after produces vanish begins ih =>
    intro vanishes
    obtain ⟨produces', all⟩ := vanishes
    have same := body_unique own listed produces produces'
      (.inl ⟨before, t, after, rfl, vanish, begins⟩) (.inr ⟨all, follows⟩)
    subst same
    have gone := all t (by simp)
    have behind : g.BodyVanishes after := fun u member => all u (by simp [member])
    exact ih (.left produces gone.nonterminal behind follows) gone

/-- What begins with a letter that comes up again behind it does not vanish. -/
theorem not_vanish_up_to {before between rest : Body} {u : Symbol}
    (produces : g.Produces s (before ++ t :: (between ++ u :: rest))) (begins : g.Begins letter t)
    (begins' : g.Begins letter u) : ¬ g.BodyVanishes (t :: between) := by
  intro vanish
  obtain ⟨vanishes, behind⟩ := List.forall_mem_cons.mp vanish
  have follows : g.Follows letter t :=
    .rest produces vanishes.nonterminal ⟨between, u, rest, rfl, behind, begins'⟩
  exact not_vanishes_of_begins own valid listed begins follows vanishes

/-- A letter at the front leads out of every cycle. -/
theorem not_cycle_of_begins (begins : g.Begins letter s) : ¬ TransGen g.LeftCorner s s := by
  induction begins with
  | self =>
    intro cycle
    obtain ⟨_, ⟨_, _, _, produces, _⟩, _⟩ := TransGen.head'_iff.mp cycle
    exact ((mem_letters valid).mp listed).2.2 produces.nonterminal
  | @intro s before t after produces vanish begins ih =>
    intro cycle
    obtain ⟨u, corner, corners⟩ := TransGen.head'_iff.mp cycle
    have cycle' : TransGen g.LeftCorner u u := TransGen.tail' corners corner
    obtain ⟨nonterminal, front, rest, produces', gone⟩ := corner
    have begins' : g.Begins letter u := begins_of_corners corners (.intro produces vanish begins)
    have same := body_unique own listed produces produces'
      (.inl ⟨before, t, after, rfl, vanish, begins⟩) (.inl ⟨front, u, rest, rfl, gone, begins'⟩)
    -- The symbol that leads out and the one that leads on stand at the same place: the earlier of
    -- two places would vanish, with the letter in it as well as behind it.
    rcases List.append_eq_append_iff.mp same with ⟨between, rfl, place⟩ | ⟨between, rfl, place⟩
    · cases between with
      | nil =>
        obtain ⟨rfl, rfl⟩ := List.cons.inj place
        exact ih cycle'
      | cons v between =>
        obtain ⟨rfl, rfl⟩ := List.cons.inj place
        apply not_vanish_up_to own valid listed produces begins begins'
        intro v member
        exact gone v (List.mem_append_right before member)
    · cases between with
      | nil =>
        obtain ⟨rfl, rfl⟩ := List.cons.inj place
        exact ih cycle'
      | cons v between =>
        obtain ⟨rfl, rfl⟩ := List.cons.inj place
        apply not_vanish_up_to own valid listed produces' begins' begins
        intro v member
        exact vanish v (List.mem_append_right front member)

/-- Where nothing comes to the front, what follows leads out of every cycle. -/
theorem not_cycle_of_vanishes (productive : ∀ s ∈ g.nonterminals, g.Productive s)
    (vanishes : g.Vanishes s) (follows : g.Follows letter s)
    (none : ∀ letter ∈ g.letters, ¬ g.Begins letter s) : ¬ TransGen g.LeftCorner s s := by
  induction vanishes with
  | @intro s body produces all ih =>
    intro cycle
    obtain ⟨u, corner, corners⟩ := TransGen.head'_iff.mp cycle
    have cycle' : TransGen g.LeftCorner u u := TransGen.tail' corners corner
    have passes : ∀ letter, g.Begins letter u → g.Begins letter s := fun _ => corner.begins
    obtain ⟨nonterminal, front, rest, produces', gone⟩ := corner
    have vanish : g.BodyVanishes (front ++ u :: rest) := by
      obtain ⟨other, letter, begins | ⟨_, vanish⟩⟩ :=
        exists_ahead valid productive _ fun t member => valid.body_bounds produces' (t := t) member
      · exact absurd (produces'.begins begins) (none other letter)
      · exact vanish
    have same := body_unique own listed produces produces' (.inr ⟨all, follows⟩) (.inr ⟨vanish, follows⟩)
    subst same
    have behind : g.BodyVanishes rest := fun v member => vanish v (by simp [member])
    apply ih u (by simp) (.left produces nonterminal behind follows)
    · intro other letter begins
      exact none other letter (passes other begins)
    · exact cycle'

end Table

/-- Without conflicts, and where every nonterminal is of use, there is no left recursion. -/
theorem not_leftRecursive_of_table {table : Table} (own : table.grammar = g) (valid : g.WellFormed)
    (accessible : ∀ s ∈ g.nonterminals, g.Accessible s)
    (productive : ∀ s ∈ g.nonterminals, g.Productive s) (s : Symbol) : ¬ g.LeftRecursive s := by
  rintro ⟨_, derives⟩
  have nonterminal := nonterminal_of_derivesPlus derives
  have cycle := leftRecursive_iff_cycle.mp ⟨_, derives⟩
  obtain ⟨start, before, after, starts, derives⟩ := accessible s nonterminal
  have root := valid.start start starts
  by_cases front : ∃ letter ∈ g.letters, g.Begins letter s
  · obtain ⟨letter, listed, begins⟩ := front
    exact not_cycle_of_begins own valid listed begins cycle
  · have none : ∀ letter ∈ g.letters, ¬ g.Begins letter s :=
      fun letter listed begins => front ⟨letter, listed, begins⟩
    have bounds := derives.bounds valid (valid.bounds_singleton root)
    have vanishes : g.Vanishes s := by
      obtain ⟨letter, listed, ahead⟩ := exists_ahead valid productive [s] fun t member =>
        bounds t (by simp_all)
      rcases ahead with begins | ⟨_, vanish⟩
      · rcases bodyBegins_cons.mp begins with begins | ⟨_, _, _, _, absurdity, _⟩
        · exact absurd begins (none letter listed)
        · simp at absurdity
      · exact vanish s List.mem_cons_self
    obtain ⟨letter, listed, ahead⟩ := exists_ahead valid productive after fun t member =>
      bounds t (by simp [member])
    have follows := follows_of_derives (fun _ => starts) derives nonterminal ahead
    exact not_cycle_of_vanishes own valid listed productive vanishes follows none cycle

/-- Where every nonterminal is of use, a left recursion of any kind leads to a conflict. -/
theorem conflicting_of_leftRecursive (reachable : Reachable g)
    (accessible : ∀ s ∈ g.nonterminals, g.Accessible s)
    (productive : ∀ s ∈ g.nonterminals, g.Productive s) (recursive : g.LeftRecursive s) :
    ∃ cells, g.table = .error (.conflicting cells) := by
  have valid := reachable.wellFormed
  obtain ⟨_, derives⟩ := recursive
  obtain ⟨start, _, _, starts, _⟩ := accessible s (nonterminal_of_derivesPlus derives)
  suffices disputed : g.disputed g.lookaheads ≠ [] from ⟨_, table_of_disputed_ne starts disputed⟩
  intro none
  obtain ⟨table, built⟩ := table_of_disputed starts none
  exact not_leftRecursive_of_table (table_grammar built) valid accessible productive s ⟨_, derives⟩

/-- `S` is left recursive behind `A`, which vanishes. -/
def hidden : Grammar :=
  ⟨["S", "A", "b", "c"], [⟨2, [[3, 2, 4], [5]]⟩, ⟨3, [[]]⟩], some 2⟩

theorem hidden_conflicting : ∃ cells, hidden.table = .error (.conflicting cells) := by
  have built : ofEntries [⟨"S", [["A", "S", "b"], ["c"]]⟩, ⟨"A", [["ε"]]⟩] = .ok hidden := rfl
  have long : hidden.Produces 2 [3, 2, 4] := by decide
  have short : hidden.Produces 2 [5] := by decide
  have gone : hidden.Produces 3 [] := by decide
  have recursive : hidden.LeftRecursive 2 :=
    ⟨[4], .head' long.step (gone.derives.append_right [2, 4])⟩
  have all : ∀ s ∈ hidden.nonterminals, s = 2 ∨ s = 3 := by decide
  apply conflicting_of_leftRecursive (.entries built) ?_ ?_ recursive
  · intro s member
    rcases all s member with rfl | rfl
    · exact ⟨2, [], [], rfl, .refl⟩
    · exact ⟨2, [], [2, 4], rfl, long.derives⟩
  · intro s member
    rcases all s member with rfl | rfl
    · exact ⟨[5], by decide, short.derives⟩
    · exact ⟨[], by decide, gone.derives⟩

end Predictive.Grammar
