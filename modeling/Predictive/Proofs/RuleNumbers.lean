import Predictive.Listing.Rules
import Predictive.Proofs.NamedRules

/-! The numbers of productions in a listing. Each rule has as many numbers in a row as it has
alternatives, beginning where the rule before it ends, and every line of a listing shows its own. -/

namespace Predictive

namespace Grammar

variable {g : Grammar}

/-- The productions of each rule when the first one has the given number. -/
def productionsFrom : Nat → List Rule → List (List Production)
  | _, [] => []
  | number, rule :: later =>
    (rule.bodies.zipIdx number).map (fun (body, number) => ⟨number, rule.left, body⟩) ::
      productionsFrom (number + rule.bodies.length) later

theorem productions_eq_flatten : g.productions = (productionsFrom 1 g.rules).flatten := by
  have general : ∀ (rules : List Rule) number,
      ((rules.flatMap fun rule => rule.bodies.map (rule.left, ·)).zipIdx number).map
        (fun place => (⟨place.2, place.1.1, place.1.2⟩ : Production)) =
          (productionsFrom number rules).flatten := by
    intro rules
    induction rules with
    | nil => exact fun _ => rfl
    | cons rule later ih =>
      intro number
      rw [List.flatMap_cons, List.zipIdx_append, List.map_append, List.length_map, ih, List.zipIdx_map,
        List.map_map]
      rfl
  exact general g.rules 1

theorem left_of_mem_productionsFrom {rules : List Rule} {number : Nat} {p : Production}
    (member : p ∈ (productionsFrom number rules).flatten) : p.left ∈ rules.map Rule.left := by
  induction rules generalizing number with
  | nil => cases member
  | cons rule later ih =>
    rw [productionsFrom, List.flatten_cons, List.mem_append] at member
    rcases member with own | other
    · obtain ⟨place, _, rfl⟩ := List.mem_map.mp own
      exact List.mem_cons_self
    · exact List.mem_cons_of_mem _ (ih other)

/-- The left side tells to which rule a production belongs. -/
theorem filter_productionsFrom {rules : List Rule} (distinct : (rules.map Rule.left).Nodup) (number : Nat) :
    (rules.map fun rule => (productionsFrom number rules).flatten.filter (·.left == rule.left)) =
      productionsFrom number rules := by
  induction rules generalizing number with
  | nil => rfl
  | cons rule later ih =>
    obtain ⟨new, others⟩ := List.nodup_cons.mp distinct
    have own : ∀ p ∈ (rule.bodies.zipIdx number).map fun (body, number) =>
        (⟨number, rule.left, body⟩ : Production), p.left = rule.left := by
      intro p member
      obtain ⟨place, _, rfl⟩ := List.mem_map.mp member
      rfl
    have rest := ih others (number + rule.bodies.length)
    rw [productionsFrom, List.flatten_cons, List.map_cons]
    refine List.cons_eq_cons.mpr ⟨?_, (List.map_congr_left fun other listed => ?_).trans rest⟩
    · rw [List.filter_append, List.filter_eq_self.mpr fun p member => by simp [own p member],
        List.filter_eq_nil_iff.mpr fun p member same => ?_, List.append_nil]
      exact new (eq_of_beq same ▸ left_of_mem_productionsFrom member)
    · rw [List.filter_append, List.filter_eq_nil_iff.mpr fun p member same => ?_, List.nil_append]
      rw [own p member] at same
      exact new (eq_of_beq same ▸ List.mem_map_of_mem listed)

end Grammar

/-- The listings of entries when the first alternative has the given number. -/
def listingsFrom : Nat → List Entry → List RuleListing
  | _, [] => []
  | number, entry :: later =>
    ⟨entry.left, List.range' number entry.bodies.length, entry.bodies⟩ ::
      listingsFrom (number + entry.bodies.length) later

theorem Grammar.ruleListings_eq {g : Grammar} (distinct : g.nonterminals.Nodup) :
    g.ruleListings = listingsFrom 1 g.entries := by
  have general : ∀ (rules : List Rule) number,
      List.zipWith (fun (rule : Rule) (own : List Production) =>
        (⟨g.nameOf rule.left, own.map Production.number, own.map fun p => g.bodyNames p.body⟩ : RuleListing))
          rules (productionsFrom number rules) =
        listingsFrom number (rules.map fun rule => ⟨g.nameOf rule.left, rule.bodies.map g.bodyNames⟩) := by
    intro rules
    induction rules with
    | nil => exact fun _ => rfl
    | cons rule later ih =>
      intro number
      have numbers : (rule.bodies.zipIdx number).map Prod.snd = List.range' number rule.bodies.length :=
        List.zipIdx_map_snd number rule.bodies
      have bodies : (rule.bodies.zipIdx number).map (fun place => g.bodyNames place.1) =
          rule.bodies.map g.bodyNames := by
        conv_rhs => rw [← List.zipIdx_map_fst number rule.bodies, List.map_map]
        rfl
      rw [productionsFrom, List.zipWith_cons_cons, ih, List.map_cons, listingsFrom, List.length_map,
        ← numbers, ← bodies, List.map_map, List.map_map]
      rfl
  rw [entries, ← general, ← filter_productionsFrom distinct, ← productions_eq_flatten, List.zipWith_map_right,
    List.zipWith_self]
  rfl

end Predictive
