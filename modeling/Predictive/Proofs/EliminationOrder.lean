import Mathlib
import Predictive.Proofs.LeftCorners
import Predictive.Proofs.Reached

/-! A successful elimination leaves no left recursion, neither direct nor through other
nonterminals or behind vanishing symbols, and it orders the nonterminals: no body begins
with its own left side or with one that was declared earlier. -/

namespace Predictive

/-- The rule has no body that begins with one of the symbols. -/
def Rule.Avoids (rule : Rule) (symbols : List Symbol) : Prop :=
  ∀ body ∈ rule.bodies, ∀ s ∈ symbols, body.head? ≠ some s

namespace LeftRecursion

variable {finished : List Rule} {body : Body}

theorem settled_iff :
    settled finished body = true ↔ ∀ s ∈ finished.map Rule.left, body.head? ≠ some s := by
  cases body with
  | nil => simp [settled]
  | cons t rest =>
    simp only [settled, List.head?_cons, Option.all_some, List.all_eq_true, bne_iff_ne, ne_eq,
      List.forall_mem_map, Option.some.injEq]
    exact ⟨fun apart rule listed same => apart rule listed same.symm,
      fun apart rule listed same => apart rule listed same.symm⟩

theorem avoids_kept {left : Symbol} {bodies result : List Body}
    (resolved : Resolved finished bodies result) (direct : tailsOf left result = []) :
    Rule.Avoids ⟨left, result⟩ (finished.map Rule.left ++ [left]) := by
  intro body member s listed
  rcases List.mem_append.mp listed with earlier | own
  · exact settled_iff.mp (resolved.all_settled body member) s earlier
  · obtain rfl := List.mem_singleton.mp own
    exact head?_of_tailsOf direct member

/-- Behind an empty alternative stands the new symbol, which is none of the earlier ones. -/
theorem avoids_restarted {left next : Symbol} {bodies result : List Body}
    (resolved : Resolved finished bodies result)
    (below : ∀ s ∈ finished.map Rule.left ++ [left], s < next) :
    Rule.Avoids (restarted left next result) (finished.map Rule.left ++ [left]) := by
  intro body member s listed
  obtain ⟨base, kept, rfl⟩ := List.mem_map.mp member
  obtain ⟨inside, apart⟩ := List.mem_filter.mp kept
  cases base with
  | nil =>
    intro begins
    obtain rfl : next = s := by simpa using begins
    exact Nat.lt_irrefl _ (below _ listed)
  | cons t rest =>
    rcases List.mem_append.mp listed with earlier | own
    · exact settled_iff.mp (resolved.all_settled _ inside) s earlier
    · obtain rfl := List.mem_singleton.mp own
      simpa using apart

/-- Each rule is treated after those before it and avoids all of them from then on. -/
theorem Eliminates.ordered {later rules : List Rule} {next : Symbol}
    {introduced : List Introduction} (done : Eliminates finished next later introduced rules)
    (below : ∀ s ∈ finished.map Rule.left ++ later.map Rule.left, s < next)
    {earlier after : List Rule} {rule : Rule} (split : later = earlier ++ rule :: after) :
    ∃ treated ∈ rules, treated.left = rule.left ∧
      treated.Avoids ((finished ++ earlier).map Rule.left ++ [rule.left]) := by
  induction done generalizing earlier with
  | nil => simp at split
  | @keep finished next first later introduced rules bodies resolved direct rest ih =>
    cases earlier with
    | nil =>
      obtain ⟨rfl, rfl⟩ := List.cons.inj split
      refine ⟨_, List.mem_cons_self, rfl, ?_⟩
      rw [List.append_nil]
      exact avoids_kept resolved direct
    | cons other earlier =>
      obtain ⟨rfl, others⟩ := List.cons.inj split
      have place : ∀ s ∈ (finished ++ [Rule.mk first.left bodies]).map Rule.left ++ later.map Rule.left,
          s < next := by simpa using below
      obtain ⟨treated, member, left, avoids⟩ := ih place others
      exact ⟨treated, List.mem_cons_of_mem _ member, left, by simpa using avoids⟩
  | @split finished next first later introduced rules bodies resolved _ rest ih =>
    cases earlier with
    | nil =>
      obtain ⟨rfl, rfl⟩ := List.cons.inj split
      refine ⟨_, List.mem_cons_self, rfl, ?_⟩
      rw [List.append_nil]
      refine avoids_restarted resolved fun s member => below s ?_
      rcases List.mem_append.mp member with before | own
      · exact List.mem_append_left _ before
      · exact List.mem_append_right _ (List.mem_singleton.mp own ▸ List.mem_cons_self)
    | cons other earlier =>
      obtain ⟨rfl, others⟩ := List.cons.inj split
      have place : ∀ s ∈ (finished ++ [restarted first.left next bodies]).map Rule.left ++
          later.map Rule.left, s < next + 1 := by
        intro s member
        exact Nat.lt_succ_of_lt (below s (by simpa [restarted] using member))
      obtain ⟨treated, member, left, avoids⟩ := ih place others
      refine ⟨treated, List.mem_cons_of_mem _ (List.mem_cons_of_mem _ member), left, ?_⟩
      simpa [restarted] using avoids

end LeftRecursion

namespace Grammar

variable {g h : Grammar} {supply : NameSupply}

theorem eliminated_head? (valid : g.WellFormed)
    (done : (g.eliminateLeftRecursionWith supply).result = .ok h) {i j : Nat} {s t : Symbol}
    (order : j ≤ i) (first : g.nonterminals[i]? = some s) (second : g.nonterminals[j]? = some t)
    {body : Body} (produces : h.Produces s body) : body.head? ≠ some t := by
  obtain ⟨introduced, eliminates, _, _⟩ := eliminates_of_eliminateLeftRecursion done
  rw [nonterminals, List.getElem?_map, Option.map_eq_some_iff] at first
  obtain ⟨rule, here, rfl⟩ := first
  obtain ⟨bound, at_i⟩ := List.getElem?_eq_some_iff.mp here
  have split : g.rules = g.rules.take i ++ rule :: g.rules.drop (i + 1) := by
    rw [← at_i, ← List.drop_eq_getElem_cons, List.take_append_drop]
  obtain ⟨treated, member, left, avoids⟩ := eliminates.ordered
    (fun s member => (valid.nonterminal_bounds (by simpa [nonterminals] using member)).2) split
  have chosen : body ∈ treated.bodies := by
    rw [Produces, ← left, (valid.eliminated done).bodiesOf_eq member] at produces
    exact produces
  apply avoids body chosen t
  rw [List.nil_append]
  rcases Nat.lt_or_eq_of_le order with before | rfl
  · apply List.mem_append_left _
    rw [List.map_take]
    exact List.mem_of_getElem? ((List.getElem?_take_of_lt before).trans second)
  · rw [nonterminals, List.getElem?_map, here] at second
    exact List.mem_append_right _ (List.mem_singleton.mpr (Option.some.inj second).symm)

/-- Elimination that succeeds does away with left recursion of every kind and sorts the
nonterminals by declaration. -/
theorem eliminated_ordered (reachable : Reachable g)
    (done : (g.eliminateLeftRecursionWith supply).result = .ok h) :
    (∀ s, ¬ h.LeftRecursive s) ∧
      ∀ (i j : Nat) (s t : Symbol), j ≤ i → g.nonterminals[i]? = some s →
        g.nonterminals[j]? = some t → ∀ body, h.Produces s body → body.head? ≠ some t := by
  obtain ⟨_, _, _, acyclic⟩ := eliminates_of_eliminateLeftRecursion done
  exact ⟨not_leftRecursive acyclic, fun _ _ _ _ order first second _ produces =>
    eliminated_head? reachable.wellFormed done order first second produces⟩

/-- Left recursive through `A`, whose empty body brings the new symbol to the front. -/
def indirect : Grammar :=
  ⟨["S", "A", "a", "b", "c"], [⟨2, [[3, 4], [5]]⟩, ⟨3, [[2, 6], []]⟩], some 2⟩

def indirectEliminated : Grammar :=
  ⟨["S", "A", "a", "b", "c", "A\x27\x27"],
    [⟨2, [[3, 4], [5]]⟩, ⟨3, [[5, 6, 7], [7]]⟩, ⟨7, [[4, 6, 7], []]⟩], some 2⟩

theorem indirect_eliminated :
    (indirect.eliminateLeftRecursionWith ⟨["A\x27"]⟩).result = .ok indirectEliminated ∧
      ¬ indirectEliminated.LeftRecursive 3 ∧ ¬ indirectEliminated.LeftRecursive 7 ∧
      ∀ body, indirectEliminated.Produces 3 body → body.head? ≠ some 2 := by
  have built : ofEntries [⟨"S", [["A", "a"], ["b"]]⟩, ⟨"A", [["S", "c"], ["ε"]]⟩] = .ok indirect := rfl
  have done : (indirect.eliminateLeftRecursionWith ⟨["A\x27"]⟩).result = .ok indirectEliminated := by
    cbv
  obtain ⟨free, ordered⟩ := eliminated_ordered (.entries built) done
  exact ⟨done, free 3, free 7, ordered 1 0 3 2 (by decide) rfl rfl⟩

end Grammar
end Predictive
