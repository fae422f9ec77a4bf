import Predictive.Proofs.TableExactness

/-! The alternatives of a nonterminal, counted. A letter claims a cell once for each alternative that
it announces, so a table has no conflict exactly if every letter announces one alternative of every
nonterminal at most. -/

namespace Predictive.Grammar

variable {g : Grammar}

/-- The letter announces the body as an alternative of `s`. -/
def announces (g : Grammar) (letter s : Symbol) (body : Body) : Bool :=
  (g.lookaheads.announcing ⟨0, s, body⟩).contains letter

theorem announces_iff (valid : g.WellFormed) {start : Symbol} (starts : g.start = some start)
    {letter s : Symbol} {body : Body} : g.announces letter s body = true ↔ letter ∈ g.letters ∧
      (g.BodyBegins letter body ∨ g.BodyVanishes body ∧ g.Follows letter s) :=
  List.contains_iff_mem.trans (mem_announcing valid starts)

theorem countP_pairs (rules : List Rule) (s : Symbol) (q : Body → Bool) :
    (rules.flatMap fun rule => rule.bodies.map (rule.left, ·)).countP (fun pair => pair.1 == s && q pair.2) =
      ((rules.filter (·.left == s)).flatMap Rule.bodies).countP q := by
  induction rules with
  | nil => rfl
  | cons rule later ih =>
    rw [List.flatMap_cons, List.countP_append, ih, List.countP_map]
    by_cases same : rule.left = s
    · have kept : (rule :: later).filter (·.left == s) = rule :: later.filter (·.left == s) := by
        simp [same]
      rw [kept, List.flatMap_cons, List.countP_append]
      simp [Function.comp_def, same]
    · have dropped : (rule :: later).filter (·.left == s) = later.filter (·.left == s) := by
        simp [same]
      rw [dropped]
      simp [Function.comp_def, same]

/-- The claims on a cell can be counted on the alternatives of its row. -/
theorem length_claimants (s t : Symbol) :
    (g.claimants (s, t)).length = (g.bodiesOf s).countP (g.announces t s) := by
  let pairs := g.rules.flatMap fun rule => rule.bodies.map (rule.left, ·)
  let claims : Symbol × Body → Bool := fun pair => pair.1 == s && g.announces t s pair.2
  have unnumbered : (pairs.zipIdx 1).map Prod.fst = pairs := List.zipIdx_map_fst 1 pairs
  have numbered : (g.claimants (s, t)).length = (pairs.zipIdx 1).countP (claims ∘ Prod.fst) := by
    rw [claimants, ← List.countP_eq_length_filter, productions, List.countP_map]
    apply List.countP_congr
    intro item _
    obtain ⟨⟨left, body⟩, number⟩ := item
    by_cases same : left = s
    · rw [same]
      rfl
    · simp [claims, same]
  calc (g.claimants (s, t)).length
      = ((pairs.zipIdx 1).map Prod.fst).countP claims := by rw [numbered, List.countP_map]
    _ = pairs.countP claims := by rw [unnumbered]
    _ = _ := countP_pairs g.rules s (g.announces t s)

theorem apart_iff_countP :
    g.Apart ↔ ∀ s t, (g.bodiesOf s).countP (g.announces t s) ≤ 1 := by
  constructor
  · intro apart s t
    rw [← length_claimants]
    apply Nat.le_of_not_lt
    intro several
    obtain ⟨p, first, q, second, other, left, left', ahead, ahead'⟩ := several_iff.mp several
    exact apart p first q second (left.trans left'.symm) other ahead ahead'
  · intro single p first q second same other t ahead ahead'
    have several := several_iff.mpr ⟨p, first, q, second, other, rfl, same.symm, ahead, ahead'⟩
    rw [length_claimants] at several
    exact Nat.not_lt.mpr (single p.left t) several

end Predictive.Grammar
