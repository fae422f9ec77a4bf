import Predictive.Proofs.StoredValidity

/-! Ordered form: no alternative of a nonterminal begins with the nonterminal itself or with one that
stands before it. A rule in this form has nothing to substitute and nothing to split, so elimination
leaves a grammar in it as it is, provided that no left recursion hides behind vanishing symbols. -/

namespace Predictive

namespace LeftRecursion

theorem ordered_iff {rules : List Rule} : Ordered rules ↔ ∀ before rule after,
    rules = before ++ rule :: after → rule.Avoids (before.map Rule.left ++ [rule.left]) := by
  constructor
  · intro ordered
    induction ordered with
    | nil => simp
    | @concat finished last _ avoids ih =>
      intro before rule after split
      rcases List.eq_nil_or_concat after with rfl | ⟨inner, other, rfl⟩
      · obtain ⟨rfl, same⟩ := List.append_inj' split rfl
        exact List.singleton_inj.mp same ▸ avoids
      · rw [List.concat_eq_append, ← List.cons_append, ← List.append_assoc] at split
        exact ih before rule inner (List.append_inj' split rfl).1
  · intro each
    induction rules using List.reverseRecOn with
    | nil => exact .nil
    | append_singleton rules rule ih =>
      refine .concat (ih fun before other after split => each before other (after ++ [rule]) ?_)
        (each rules rule [] rfl)
      rw [split, List.append_assoc, List.cons_append]

/-- Each rule comes out as it went in, without a new nonterminal. -/
theorem eliminate_ordered {finished later : List Rule} (ordered : Ordered (finished ++ later))
    (limit : Nat) (next : Symbol) : eliminate limit finished next later = ⟨[], .ok later⟩ := by
  induction later generalizing finished with
  | nil => rfl
  | cons rule later ih =>
    have avoids := ordered_iff.mp ordered finished rule later rfl
    have done : ∀ body ∈ rule.bodies, settled finished body = true := fun body chosen =>
      settled_iff.mpr fun s listed => avoids body chosen s (List.mem_append_left _ listed)
    have direct : tailsOf rule.left rule.bodies = [] := by
      refine List.eq_nil_iff_forall_not_mem.mpr fun rest tail => ?_
      exact avoids _ (mem_tailsOf.mp tail) rule.left (by simp) rfl
    obtain ⟨parts, found, same⟩ := Option.map_eq_some_iff.mp (mapM_resolve_settled limit done)
    have onward := @ih (finished ++ [rule]) (by simpa using ordered)
    simp [eliminate, found, same, direct, onward, Elimination.adding, Except.map]

end LeftRecursion

namespace Grammar

variable {g : Grammar}

/-- Both checks find nothing, and between them nothing changes and nothing is to be named. -/
theorem eliminateLeftRecursionWith_of_ordered (ordered : LeftRecursion.Ordered g.rules)
    (acyclic : ∀ s, ¬ g.LeftRecursive s) (supply : NameSupply) :
    g.eliminateLeftRecursionWith supply = ⟨.ok g, supply.reserveGrammar g, []⟩ := by
  have reducible : g.selfDerivation? = none :=
    selfDerivation?_eq_none_iff.mpr fun s cyclic => acyclic s ⟨[], cyclic⟩
  have free : g.leftRecursion? = none := leftRecursion?_eq_none_iff.mpr acyclic
  have same := @LeftRecursion.eliminate_ordered [] g.rules ordered g.passLimit g.size
  simp [eliminateLeftRecursionWith, reducible, same, introduce, free]

end Grammar

namespace Registry
open Grammar

/-- No body begins with its own left side, or with one that comes earlier. -/
structure Ordered (r : Registry) : Prop where
  direct : ∀ s ∈ r.order, ∀ body ∈ r.bodiesOf s, body.head? ≠ some s
  upward : r.order.Pairwise fun earlier s => ∀ body ∈ r.bodiesOf s, body.head? ≠ some earlier

theorem Ordered.rules {g : Grammar} (valid : g.WellFormed) (ordered : g.registry.Ordered) :
    LeftRecursion.Ordered g.rules := by
  refine LeftRecursion.ordered_iff.mpr fun before rule after split body chosen s member => ?_
  have listed : rule ∈ g.rules := by simp [split]
  have order : g.registry.order = before.map Rule.left ++ rule.left :: after.map Rule.left := by
    rw [registry, nonterminals, split, List.map_append, List.map_cons]
  have stored : shown body ∈ g.registry.bodiesOf rule.left := by
    rw [valid.numbered.bodiesOf_registry listed]
    exact List.mem_map_of_mem chosen
  have apart : (shown body).head? ≠ some s := by
    rcases List.mem_append.mp member with earlier | own
    · have upward := ordered.upward
      rw [order] at upward
      exact (List.pairwise_append.mp upward).2.2 s earlier rule.left List.mem_cons_self _ stored
    · obtain rfl := List.mem_singleton.mp own
      exact ordered.direct rule.left (by simp [order]) _ stored
  -- The stored body differs from the body only where that is empty and begins with nothing.
  cases body with
  | nil => simp
  | cons t rest => exact apart

/-- Where the nonterminals are in order and none is left recursive, not even behind vanishing symbols,
elimination succeeds and changes nothing that is stored. Whatever was taken from the supply before, only
names of the registry are taken in addition. -/
theorem eliminated_of_ordered {r : Registry} (obtained : r.Obtained) (ordered : r.Ordered)
    (acyclic : ∀ s, ¬ r.grammar.LeftRecursive s) (supply : NameSupply) :
    r.eliminateLeftRecursionWith supply = (.ok r, supply.reserveAll (r.names.map Prod.fst)) ∧
      ∀ name, name ∈ (r.eliminateLeftRecursionWith supply).2.taken ↔
        name ∈ supply.taken ∨ ∃ s, (name, s) ∈ r.names := by
  obtain ⟨g, reachable, rfl⟩ := obtained.exists_reachable
  have valid := reachable.wellFormed
  rw [stored_grammar valid] at acyclic
  have done := eliminateLeftRecursionWith_of_ordered (ordered.rules valid) acyclic supply
  have unchanged : g.registry.eliminateLeftRecursionWith supply =
      (.ok g.registry, supply.reserveAll (g.registry.names.map Prod.fst)) := by
    rw [eliminateLeftRecursionWith_registry valid, done, registry_keys]
    rfl
  refine ⟨unchanged, fun name => ?_⟩
  rw [unchanged, NameSupply.mem_reserveAll, or_comm, List.mem_map]
  simp

/-- `C` may vanish and let `A` come first, which is declared before `B`. -/
def sheltered : Registry :=
  ⟨[.emptyWord, .endMark, .nonterminal 2 "A" [[5], [5]], .nonterminal 3 "B" [[4, 2, 6], [4], [0]],
      .nonterminal 4 "C" [[7, 2], [0]], .terminal "a", .terminal "b", .terminal "c"],
    reserved ++ [("A", 2), ("B", 3), ("C", 4), ("a", 5), ("b", 6), ("c", 7)], [2, 3, 4], some 3⟩

theorem obtained_sheltered : sheltered.Obtained := by
  have built : ofText "A -> a | a\nB -> C A b | C | ε\nC -> c A | ε" =
    .ok { sheltered with start := some 2 } := by cbv
  have moved : withStart { sheltered with start := some 2 } "B" = .ok sheltered := rfl
  exact .start (.text built) moved

theorem not_leftRecursive_sheltered : ∀ s, ¬ sheltered.grammar.LeftRecursive s := by
  have stored : sheltered.grammar = ⟨["A", "B", "C", "a", "b", "c"],
    [⟨2, [[5], [5]]⟩, ⟨3, [[4, 2, 6], [4], []]⟩, ⟨4, [[7, 2], []]⟩], some 3⟩ := rfl
  rw [stored]
  exact leftRecursion?_eq_none_iff.mp (by cbv)

theorem sheltered_unchanged :
    sheltered.Obtained ∧ sheltered.Ordered ∧ sheltered.grammar.LeftCorner 3 2 ∧
      (sheltered.eliminateLeftRecursionWith ⟨["A\x27"]⟩).1 = .ok sheltered ∧
      "B" ∈ (sheltered.eliminateLeftRecursionWith ⟨["A\x27"]⟩).2.taken ∧
      "B\x27" ∉ (sheltered.eliminateLeftRecursionWith ⟨["A\x27"]⟩).2.taken := by
  have ordered : sheltered.Ordered := ⟨by decide, by simp [sheltered, bodiesOf, Item.bodies]⟩
  have empty : sheltered.grammar.Produces 4 [] := by decide
  have gone : sheltered.grammar.BodyVanishes [4] :=
    List.forall_mem_singleton.mpr (.intro empty (List.forall_mem_nil _))
  obtain ⟨same, taken⟩ :=
    eliminated_of_ordered obtained_sheltered ordered not_leftRecursive_sheltered ⟨["A\x27"]⟩
  refine ⟨obtained_sheltered, ordered, ⟨by decide, [4], [6], by decide, gone⟩,
    congrArg Prod.fst same, (taken _).mpr (.inr ⟨3, by decide⟩), fun fresh => ?_⟩
  rcases (taken _).mp fresh with before | ⟨s, entered⟩
  · exact absurd before (by decide)
  · have key : "B\x27" ∈ sheltered.names.map Prod.fst := List.mem_map_of_mem entered
    exact absurd key (by decide)

end Registry
end Predictive
