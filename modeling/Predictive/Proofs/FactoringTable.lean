import Predictive.Proofs.Alternatives
import Predictive.Proofs.Comparison
import Predictive.Proofs.FactoringLookahead
import Predictive.Proofs.LeftRecursionConflict

/-! Factoring brings no conflict in. In a table without conflicts, alternatives that begin alike have
only symbols in common that vanish and do nothing else, so a new symbol stands behind a stem that adds
nothing to its lookaheads: each of its alternatives is announced by what announced the alternatives
that it unfolds to. These are as many as before, and a letter announces one of them at most. -/

namespace Predictive.Grammar

variable {g h : Grammar}

theorem Unfolds.countP_le {size : Nat} {p q : Body → Bool} {bodies fulls : List Body}
    (unfolds : h.Unfolds size bodies fulls)
    (shown : ∀ body part, h.Unfolds size [body] part → p body = true → ∃ full ∈ part, q full = true) :
    bodies.countP p ≤ fulls.countP q := by
  induction bodies generalizing fulls with
  | nil => exact Nat.zero_le _
  | cons body later ih =>
    obtain ⟨part, others, rfl, here, behind⟩ := unfolds.of_cons
    have rest := ih behind
    rw [List.countP_append]
    by_cases holds : p body = true
    · have found : 0 < part.countP q := List.countP_pos_iff.mpr (shown body part here holds)
      rw [List.countP_cons_of_pos holds]
      omega
    · rw [List.countP_cons_of_neg holds]
      omega

namespace Unfolding

variable {s t n root start : Symbol} {stem : Body} (unfolding : g.Unfolding h)
include unfolding

/-- Without conflicts, what several alternatives begin with does not show any letter. -/
theorem stem_vanishes (valid : g.WellFormed) (starts : g.start = some start) (apart : g.Apart)
    (productive : ∀ s ∈ g.nonterminals, g.Productive s) (rooted : root ∈ g.nonterminals)
    (stems : h.Stem g.size root stem n) : g.BodyVanishes stem := by
  have given := unfolding.unfolds_of_stem rooted stems
  cases stems with
  | root => simp [BodyVanishes]
  | @branch earlier _ front _ before produces fresh =>
    obtain ⟨fulls, _, among, several⟩ := given
    have several := several fresh
    obtain ⟨full, member⟩ := List.exists_mem_of_length_pos (Nat.lt_of_succ_lt several)
    have whole : g.Produces root (earlier ++ front ++ full) := among.subset (List.mem_map_of_mem member)
    have bounds : ∀ s ∈ earlier ++ front, 0 < s ∧ s < g.size := fun s inside =>
      valid.body_bounds whole (List.mem_append_left full inside)
    obtain ⟨letter, listed, begins | ⟨_, vanish⟩⟩ := exists_ahead valid productive _ bounds
    · -- Then the letter announces all that the new symbol unfolds to.
      have claims : ∀ body ∈ fulls.map (earlier ++ front ++ ·),
          g.announces letter root body = true := by
        intro body inside
        obtain ⟨rest, _, rfl⟩ := List.mem_map.mp inside
        refine (announces_iff valid starts).mpr ⟨listed, .inl ?_⟩
        exact bodyBegins_append.mpr (.inl begins)
      have counted := among.countP_le (g.announces letter root)
      rw [List.countP_eq_length.mpr claims, List.length_map] at counted
      have single := apart_iff_countP.mp apart root letter
      omega
    · exact vanish

/-- What announces an alternative announces one of those that it unfolds to, at the root. -/
theorem predicts_of_unfolds {number : Nat} {body : Body} {part : List Body} (old : t < g.size)
    (vanish : g.BodyVanishes stem) (follows : h.Follows t n → g.Follows t root)
    (unfolds : h.Unfolds g.size [body] part) (predicts : h.Predicts ⟨number, n, body⟩ t) :
    ∃ full ∈ part, g.Predicts ⟨number, root, stem ++ full⟩ t := by
  rcases predicts with begins | ⟨gone, behind⟩
  · obtain ⟨full, member, begins⟩ := unfolding.bodyBegins begins old unfolds
    exact ⟨full, member, .inl (bodyBegins_append.mpr (.inr ⟨vanish, begins⟩))⟩
  · obtain ⟨full, member, gone⟩ := unfolding.bodyVanishes gone unfolds
    exact ⟨full, member, .inr ⟨bodyVanishes_append.mpr ⟨vanish, gone⟩, follows behind⟩⟩

theorem apart (valid : g.WellFormed) (valid' : h.WellFormed) (starts : g.start = some start)
    (productive : ∀ s ∈ g.nonterminals, g.Productive s) (apart : g.Apart) : h.Apart := by
  have starts' := unfolding.start.trans starts
  apply apart_iff_countP.mpr
  intro n t
  apply Nat.le_of_not_lt
  intro several
  obtain ⟨body, produces, announced⟩ := List.countP_pos_iff.mp (Nat.lt_of_succ_lt several)
  have letter : t ∈ g.letters :=
    letters_eq unfolding.size unfolding.lefts ▸ ((announces_iff valid' starts').mp announced).1
  have old := ((mem_letters valid).mp letter).2.1
  -- The root is one that the letter follows if it follows the symbol at all.
  have placed : ∃ root ∈ g.nonterminals, ∃ stem, h.Stem g.size root stem n ∧
      (h.Follows t n → g.Follows t root) := by
    by_cases follows : h.Follows t n
    · obtain ⟨root, rooted, stem, stems, follows'⟩ := unfolding.follows valid follows old
      exact ⟨root, rooted, stem, stems, fun _ => follows'⟩
    · obtain ⟨root, rooted, stem, stems⟩ := unfolding.stems n (Produces.nonterminal produces)
      exact ⟨root, rooted, stem, stems, fun follows' => absurd follows' follows⟩
  obtain ⟨root, rooted, stem, stems, follows⟩ := placed
  have vanish := unfolding.stem_vanishes valid starts apart productive rooted stems
  obtain ⟨fulls, unfolds, among, _⟩ := unfolding.unfolds_of_stem rooted stems
  have single := apart_iff_countP.mp apart root t
  have fewer := unfolds.countP_le (p := h.announces t n)
    (q := fun full => g.announces t root (stem ++ full)) (by
      intro body part here announced
      have predicts : h.Predicts ⟨0, n, body⟩ t := ((announces_iff valid' starts').mp announced).2
      obtain ⟨full, member, predicts⟩ := unfolding.predicts_of_unfolds old vanish follows here predicts
      exact ⟨full, member, (announces_iff valid starts).mpr ⟨letter, predicts⟩⟩)
  have counted := among.countP_le (g.announces t root)
  rw [List.countP_map, Function.comp_def] at counted
  omega

end Unfolding

/-- A grammar whose nonterminals all derive words keeps its table when it is factored. -/
theorem factored_table {table : Table} (reachable : Reachable g)
    (productive : ∀ s ∈ g.nonterminals, g.Productive s) (built : g.table = .ok table)
    (supply : NameSupply) : ∃ table, (g.factorWith supply).result.table = .ok table := by
  have valid := reachable.wellFormed
  have valid' := valid.factored supply
  have unfolding := valid.unfolding supply
  have starts := table_starts (table_grammar built)
  have settled : g.Apart := apart_of_settled valid starts (by simp [built])
  have apart := unfolding.apart valid valid' starts productive settled
  exact table_of_apart valid' (unfolding.start.trans starts) apart

/-- `A` and `B` stand for nothing, so the alternatives of `S` begin alike and are told apart all the
same. -/
def hollow : Grammar :=
  ⟨["S", "A", "B", "b", "c", "d"], [⟨2, [[3, 4, 5], [3, 4, 6], [3, 7]]⟩, ⟨3, [[]]⟩, ⟨4, [[]]⟩], some 2⟩

def hollowTable : Table :=
  ⟨hollow, 2, [⟨2, 5, ⟨1, 2, [3, 4, 5]⟩⟩, ⟨2, 6, ⟨2, 2, [3, 4, 6]⟩⟩, ⟨2, 7, ⟨3, 2, [3, 7]⟩⟩,
    ⟨3, 5, ⟨4, 3, []⟩⟩, ⟨3, 6, ⟨4, 3, []⟩⟩, ⟨3, 7, ⟨4, 3, []⟩⟩, ⟨4, 5, ⟨5, 4, []⟩⟩,
    ⟨4, 6, ⟨5, 4, []⟩⟩], rfl, by decide +kernel, by decide +kernel⟩

def hollowFactored : Grammar :=
  ⟨["S", "A", "B", "b", "c", "d", "S\x27", "S\x27\x27"],
    [⟨2, [[3, 8]]⟩, ⟨8, [[4, 9], [7]]⟩, ⟨9, [[5], [6]]⟩, ⟨3, [[]]⟩, ⟨4, [[]]⟩], some 2⟩

theorem hollow_factored_table : ∃ table, hollowFactored.table = .ok table := by
  have built : ofEntries [⟨"S", [["A", "B", "b"], ["A", "B", "c"], ["A", "d"]]⟩, ⟨"A", [["ε"]]⟩,
    ⟨"B", [["ε"]]⟩] = .ok hollow := rfl
  have settled : hollow.table = .ok hollowTable := table_self hollowTable
  have factored : (hollow.factorWith .empty).result = hollowFactored := by cbv
  have alternative : hollow.Produces 2 [3, 7] := by decide
  have first : hollow.Generates 3 [] := ⟨by decide, Produces.derives (by decide)⟩
  have second : hollow.Generates 4 [] := ⟨by decide, Produces.derives (by decide)⟩
  have whole : hollow.Generates 2 [7] :=
    ⟨by decide, alternative.derives.trans (first.2.append_right [7])⟩
  have productive : ∀ s ∈ hollow.nonterminals, hollow.Productive s := by
    intro s member
    have cases : s = 2 ∨ s = 3 ∨ s = 4 := by simpa [hollow, nonterminals] using member
    rcases cases with rfl | rfl | rfl
    · exact ⟨[7], whole⟩
    · exact ⟨[], first⟩
    · exact ⟨[], second⟩
  obtain ⟨table, kept⟩ := factored_table (.entries built) productive settled .empty
  rw [factored] at kept
  exact ⟨table, kept⟩

end Predictive.Grammar
