import Predictive.Lookahead.Follow
import Predictive.Proofs.Beginnings

/-! The letters that can stand behind a nonterminal, as an inductive fact about the rules.
It is what the saturation computes, and it covers every form derived from the start. -/

namespace Predictive

theorem Body.mem_positions {s : Symbol} {rest body : Body} :
    (s, rest) ∈ body.positions ↔ ∃ before, body = before ++ s :: rest := by
  induction body with
  | nil => simp [Body.positions]
  | cons t later ih =>
    rw [Body.positions, List.mem_cons, ih]
    constructor
    · rintro (same | ⟨before, rfl⟩)
      · obtain ⟨rfl, rfl⟩ := Prod.mk.inj same
        exact ⟨[], rfl⟩
      · exact ⟨t :: before, rfl⟩
    · rintro ⟨before, same⟩
      cases before with
      | nil =>
        obtain ⟨rfl, rfl⟩ := List.cons.inj same
        exact .inl rfl
      | cons u before =>
        obtain ⟨rfl, rfl⟩ := List.cons.inj same
        exact .inr ⟨before, rfl⟩

theorem mem_announced {first follow : List Symbol} {t : Symbol} : t ∈ announced first follow ↔
    t ∈ first ∧ t ≠ Symbol.empty ∨ Symbol.empty ∈ first ∧ t ∈ follow := by
  rw [announced, List.mem_append, List.mem_filter, bne_iff_ne]
  by_cases vanish : Symbol.empty ∈ first <;> simp [vanish]

namespace Grammar

variable (g : Grammar)

inductive Follows (letter : Symbol) : Symbol → Prop where
  | start {s} (last : letter = Symbol.endMark) (starts : g.start = some s)
      (nonterminal : s ∈ g.nonterminals) : Follows letter s
  | rest {left before s after} (produces : g.Produces left (before ++ s :: after))
      (nonterminal : s ∈ g.nonterminals) (begins : g.BodyBegins letter after) : Follows letter s
  | left {left before s after} (produces : g.Produces left (before ++ s :: after))
      (nonterminal : s ∈ g.nonterminals) (vanish : g.BodyVanishes after)
      (follows : Follows letter left) : Follows letter s

variable {g} {letter : Symbol}

theorem mem_occurrences {place : Occurrence} :
    place ∈ g.occurrences ↔ place.symbol ∈ g.nonterminals ∧
      ∃ before, g.Produces place.left (before ++ place.symbol :: place.rest) := by
  constructor
  · intro member
    obtain ⟨rule, listed, member⟩ := List.mem_flatMap.mp member
    obtain ⟨body, chosen, member⟩ := List.mem_flatMap.mp member
    obtain ⟨⟨s, rest⟩, position, rfl⟩ := List.mem_map.mp member
    obtain ⟨position, nonterminal⟩ := List.mem_filter.mp position
    obtain ⟨before, rfl⟩ := Body.mem_positions.mp position
    exact ⟨isNonterminal_iff.mp nonterminal, before,
      produces_iff.mpr ⟨rule, listed, rfl, chosen⟩⟩
  · rintro ⟨nonterminal, before, produces⟩
    obtain ⟨rule, listed, same, chosen⟩ := produces_iff.mp produces
    refine List.mem_flatMap.mpr ⟨rule, listed, List.mem_flatMap.mpr ⟨_, chosen, ?_⟩⟩
    refine List.mem_map.mpr ⟨(place.symbol, place.rest), List.mem_filter.mpr ⟨?_, ?_⟩, ?_⟩
    · exact Body.mem_positions.mpr ⟨before, rfl⟩
    · exact isNonterminal_iff.mpr nonterminal
    · rw [same]

theorem mem_followedBy {s : Symbol} (listed : letter ∈ g.letters) :
    s ∈ g.followedBy g.firstSets letter ↔ g.Follows letter s := by
  constructor
  · refine saturate_induction (by simp) ?_ s
    intro known sound t nonterminal admits
    rcases Bool.or_eq_true_iff.mp admits with starts | place
    · obtain ⟨last, starts⟩ := Bool.and_eq_true_iff.mp starts
      exact .start (eq_of_beq last) (eq_of_beq starts) nonterminal
    · obtain ⟨place, occurs, here⟩ := List.any_eq_true.mp place
      obtain ⟨_, before, produces⟩ := mem_occurrences.mp occurs
      obtain ⟨same, reason⟩ := Bool.and_eq_true_iff.mp here
      obtain rfl := eq_of_beq same
      rcases Bool.or_eq_true_iff.mp reason with begins | inherited
      · exact .rest produces nonterminal ((bodyBegins_firstSets listed).mp begins)
      · obtain ⟨known, vanish⟩ := Bool.and_eq_true_iff.mp inherited
        exact .left produces nonterminal (bodyVanishes_firstSets.mp vanish)
          (sound _ (List.contains_iff_mem.mp known))
  · intro follows
    induction follows with
    | start last starts nonterminal =>
      refine mem_saturate_of_rule nonterminal (Bool.or_eq_true_iff.mpr (.inl ?_))
      simp [last, starts]
    | @rest left before s after produces nonterminal begins =>
      refine mem_saturate_of_rule nonterminal (Bool.or_eq_true_iff.mpr (.inr ?_))
      refine List.any_eq_true.mpr
        ⟨⟨s, left, after⟩, mem_occurrences.mpr ⟨nonterminal, before, produces⟩, ?_⟩
      simp [(bodyBegins_firstSets listed).mpr begins]
    | @left left before s after produces nonterminal vanish _ ih =>
      refine mem_saturate_of_rule nonterminal (Bool.or_eq_true_iff.mpr (.inr ?_))
      refine List.any_eq_true.mpr
        ⟨⟨s, left, after⟩, mem_occurrences.mpr ⟨nonterminal, before, produces⟩, ?_⟩
      refine Bool.and_eq_true_iff.mpr ⟨beq_self_eq_true _, Bool.or_eq_true_iff.mpr (.inr ?_)⟩
      exact Bool.and_eq_true_iff.mpr
        ⟨List.contains_iff_mem.mpr ih, bodyVanishes_firstSets.mpr vanish⟩

theorem follows_followSets {s start : Symbol} (starts : g.start = some start)
    (listed : letter ∈ g.letters) :
    (g.followSets g.firstSets).follows letter s = true ↔ g.Follows letter s := by
  rw [← mem_followedBy listed]
  simp only [followSets, FollowSets.ofGrammar, FollowSets.follows, starts, Option.isNone_some,
    Bool.false_eq_true, if_false, lookup_letters _ listed, Option.getD_some, List.contains_iff_mem]

end Grammar
end Predictive
