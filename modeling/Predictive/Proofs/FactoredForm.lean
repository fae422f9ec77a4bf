import Predictive.Proofs.StoredValidity

/-! Factored form: the alternatives of a nonterminal begin with different symbols, except that the
empty one may stand there several times. Factoring brings every rule into this form, those that it
adds included, and leaves a rule that has it as it is. -/

namespace Predictive

/-- No two of the alternatives begin with the same symbol. -/
def Parted (bodies : List Body) : Prop :=
  bodies.Pairwise fun body other => body.head? = other.head? → body = []

namespace Factoring

namespace Factored

variable {left next : Symbol} {before bodies : List Body} {splits : List Split}

/-- Factoring brings nothing new to the front of the alternatives. -/
theorem heads_subset (done : Factored left next before bodies splits) :
    bodies.map List.head? ⊆ before.map List.head? := by
  induction done with
  | nil => exact List.Subset.refl []
  | empty _ ih => exact List.cons_subset_cons _ ih
  | single _ _ ih => exact List.cons_subset_cons _ ih
  | group _ _ _ _ _ ih =>
    exact List.cons_subset_cons _ (List.Subset.trans ih (List.map_subset _ (List.filter_subset_self _)))

theorem parted (done : Factored left next before bodies splits) :
    Parted bodies ∧ ∀ split ∈ splits, Parted split.rule.bodies := by
  induction done with
  | nil => exact ⟨.nil, by simp⟩
  | empty _ ih => exact ⟨ih.1.cons fun _ _ _ => rfl, ih.2⟩
  | @single left next s rest later bodies splits alone done ih =>
    refine ⟨ih.1.cons fun body member same => ?_, ih.2⟩
    obtain ⟨old, listed, begins⟩ := List.mem_map.mp (done.heads_subset (List.mem_map_of_mem member))
    exact absurd (begins.trans same.symm) (head?_of_tailsOf alone listed)
  | @group left next s rest later shared rests inner bodies splits cause _ _ _ done ihOnward ihRest =>
    refine ⟨ihRest.1.cons fun body member same => ?_,
      List.forall_mem_append.mpr ⟨List.forall_mem_cons.mpr ihOnward, ihRest.2⟩⟩
    obtain ⟨old, listed, begins⟩ := List.mem_map.mp (done.heads_subset (List.mem_map_of_mem member))
    have other : old.head? ≠ some s := by simpa using (List.mem_filter.mp listed).2
    exact absurd (begins.trans same.symm) other

theorem of_parted (done : Factored left next before bodies splits) (parted : Parted before) :
    bodies = before ∧ splits = [] := by
  induction done with
  | nil => exact ⟨rfl, rfl⟩
  | empty _ ih =>
    obtain ⟨same, none⟩ := ih parted.tail
    exact ⟨congrArg _ same, none⟩
  | single _ _ ih =>
    obtain ⟨same, none⟩ := ih parted.tail
    exact ⟨congrArg _ same, none⟩
  | group several _ _ _ _ _ =>
    obtain ⟨tail, listed⟩ := List.exists_mem_of_ne_nil _ several
    have empty := List.rel_of_pairwise_cons parted (mem_tailsOf.mp listed) rfl
    cases empty

end Factored

namespace FactoredRules

variable {next : Symbol} {before rules : List Rule} {splits : List Split}

theorem parted (done : FactoredRules next before rules splits) : ∀ rule ∈ rules, Parted rule.bodies := by
  induction done with
  | nil => simp
  | cons here _ ih =>
    obtain ⟨own, inner⟩ := here.parted
    refine List.forall_mem_append.mpr ⟨List.forall_mem_cons.mpr ⟨own, fun rule member => ?_⟩, ih⟩
    obtain ⟨split, listed, rfl⟩ := List.mem_map.mp member
    exact inner split listed

theorem of_parted (done : FactoredRules next before rules splits)
    (parted : ∀ rule ∈ before, Parted rule.bodies) : rules = before ∧ splits = [] := by
  induction done with
  | nil => exact ⟨rfl, rfl⟩
  | cons here _ ih =>
    obtain ⟨own, others⟩ := List.forall_mem_cons.mp parted
    obtain ⟨rfl, rfl⟩ := here.of_parted own
    obtain ⟨rfl, rfl⟩ := ih others
    exact ⟨rfl, rfl⟩

end FactoredRules
end Factoring

namespace Grammar

variable {g : Grammar}

/-- In factored form there is nothing to name and nothing to change. -/
theorem factorWith_of_parted (parted : ∀ rule ∈ g.rules, Parted rule.bodies) (supply : NameSupply) :
    (g.factorWith supply).result = g ∧ (g.factorWith supply).supply = supply.reserveGrammar g := by
  have done : Factoring.factorRules g.size g.rules = (g.rules, []) := by
    obtain ⟨rules, splits⟩ := (Factoring.factoredRules g.size g.rules).of_parted parted
    exact Prod.ext rules splits
  unfold factorWith
  rw [done]
  exact ⟨rfl, rfl⟩

end Grammar

namespace Registry
open Grammar

/-- No nonterminal has two alternatives that begin with the same symbol, the empty word apart. -/
def Factored (r : Registry) : Prop :=
  ∀ s, (r.bodiesOf s).Pairwise fun body other => body.head? = other.head? →
    body.head? = some Symbol.empty

variable {g : Grammar}

theorem pairwise_shown {bodies : List Body} (plain : Bare bodies) :
    (bodies.map shown).Pairwise (fun body other => body.head? = other.head? →
      body.head? = some Symbol.empty) ↔ Parted bodies := by
  rw [List.pairwise_map]
  refine List.Pairwise.iff_of_mem fun {body other} first second => ?_
  have here := plain body first
  have there := plain other second
  cases body with
  | nil => simp [shown]
  | cons s rest =>
    have filled : s ≠ Symbol.empty := fun same => here (same ▸ List.mem_cons_self)
    cases other with
    | nil => simp [shown, filled]
    | cons t tail => simp [shown, filled]

theorem factored_registry (valid : g.WellFormed) :
    g.registry.Factored ↔ ∀ rule ∈ g.rules, Parted rule.bodies := by
  constructor
  · intro factored rule listed
    have own := factored rule.left
    rwa [valid.numbered.bodiesOf_registry listed, pairwise_shown (valid.rules rule listed).bare] at own
  · intro parted s
    by_cases nonterminal : s ∈ g.nonterminals
    · obtain ⟨rule, listed, rfl⟩ := List.mem_map.mp nonterminal
      rw [valid.numbered.bodiesOf_registry listed, pairwise_shown (valid.rules rule listed).bare]
      exact parted rule listed
    · have none : g.bodiesOf s = [] :=
        List.eq_nil_iff_forall_not_mem.mpr fun body chosen => nonterminal (Produces.nonterminal chosen)
      rw [stored_bodies valid, none]
      exact .nil

theorem ownSupply_registry : g.registry.ownSupply = .ofGrammar g := by
  rw [ownSupply, registry_keys]
  rfl

/-- Whatever the supply, factoring brings a registry into factored form, and a registry in this form
stays the same in every part. So factoring once more changes nothing. -/
theorem factored_stable {r : Registry} (obtained : r.Obtained) :
    (∀ supply, (r.factorWith supply).1.Factored) ∧
      (r.Factored → ∀ supply,
        r.factorWith supply = (r, supply.reserveAll (r.names.map Prod.fst))) ∧
      r.factor.factor = r.factor := by
  have form : ∀ {r : Registry}, r.Obtained → ∀ supply, (r.factorWith supply).1.Factored := by
    intro r obtained supply
    obtain ⟨g, reachable, rfl⟩ := obtained.exists_reachable
    have valid := reachable.wellFormed
    rw [factorWith_registry valid, factored_registry (valid.factored supply)]
    obtain ⟨_, done, _⟩ := factorWith_result (g := g) supply
    exact done.parted
  have kept : ∀ {r : Registry}, r.Obtained → r.Factored → ∀ supply,
      r.factorWith supply = (r, supply.reserveAll (r.names.map Prod.fst)) := by
    intro r obtained factored supply
    obtain ⟨g, reachable, rfl⟩ := obtained.exists_reachable
    have valid := reachable.wellFormed
    obtain ⟨result, after⟩ := factorWith_of_parted ((factored_registry valid).mp factored) supply
    rw [factorWith_registry valid, registry_keys, result, after]
    rfl
  refine ⟨form obtained, kept obtained, ?_⟩
  have twice := congrArg Prod.fst
    (kept (obtained.factored r.ownSupply) (form obtained r.ownSupply) r.factor.ownSupply)
  exact twice

/-- With empty alternatives between those that begin alike. -/
def scattered : Registry :=
  ⟨[.emptyWord, .endMark, .nonterminal 2 "A" [[3, 4, 5], [0], [3, 4, 6], [3], [0]], .terminal "a",
      .terminal "b", .terminal "c", .terminal "d"],
    reserved ++ [("A", 2), ("a", 3), ("b", 4), ("c", 5), ("d", 6)], [2], some 2⟩

def scatteredFactored : Registry :=
  ⟨[.emptyWord, .endMark, .nonterminal 2 "A" [[3, 7], [0], [0]], .terminal "a", .terminal "b",
      .terminal "c", .terminal "d", .nonterminal 7 "A\x27" [[4, 8], [0]],
      .nonterminal 8 "A\x27\x27" [[5], [6]]],
    scattered.names ++ [("A\x27", 7), ("A\x27\x27", 8)], [2, 7, 8], some 2⟩

theorem obtained_scattered : scattered.Obtained := by
  have built : ofText "A -> a b c | ε | a b d | a | ε" = .ok scattered := by cbv
  exact .text built

theorem scattered_factored :
    scattered.factor = scatteredFactored ∧ scatteredFactored.Factored ∧
      scatteredFactored.factor = scatteredFactored ∧
      (scatteredFactored.factorWith ⟨["A\x27\x27\x27"]⟩).1 = scatteredFactored := by
  have factored : (scattered.factorWith scattered.ownSupply).1 = scatteredFactored := by cbv
  have again : scatteredFactored.Obtained := factored ▸ .factored _ obtained_scattered
  obtain ⟨form, _, twice⟩ := factored_stable obtained_scattered
  rw [factor, factor, factored] at twice
  have fixed := form scattered.ownSupply
  rw [factored] at fixed
  have kept := (factored_stable again).2.1 fixed ⟨["A\x27\x27\x27"]⟩
  exact ⟨factored, fixed, twice, congrArg Prod.fst kept⟩

end Registry
end Predictive
