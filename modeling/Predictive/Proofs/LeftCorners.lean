import Predictive.LeftRecursion.Corner
import Predictive.Proofs.Beginnings
import Predictive.Proofs.Cycles
import Predictive.Proofs.Lookahead

/-! Left corners bring to the front all that a derivation can bring there, and nothing else:
they form a cycle exactly when some nonterminal is left recursive. Those with nothing left
behind them form one exactly when some nonterminal derives itself alone. -/

namespace Predictive.Grammar
open Relation

variable {g : Grammar}

/-- One step of a derivation can bring `t` to the front in place of `s`. -/
def LeftCorner (g : Grammar) (s t : Symbol) : Prop :=
  t ∈ g.nonterminals ∧ ∃ before after, g.Produces s (before ++ t :: after) ∧ g.BodyVanishes before

/-- One step of a derivation can leave `t` alone in place of `s`. -/
def UnitCorner (g : Grammar) (s t : Symbol) : Prop :=
  t ∈ g.nonterminals ∧ ∃ before after, g.Produces s (before ++ t :: after) ∧
    g.BodyVanishes before ∧ g.BodyVanishes after

theorem mem_frontOf {vanishes : Symbol → Bool} {body rest : Body} {s : Symbol} :
    (s, rest) ∈ g.frontOf vanishes body ↔ s ∈ g.nonterminals ∧
      ∃ before, body = before ++ s :: rest ∧ ∀ t ∈ before, vanishes t = true := by
  induction body with
  | nil => simp [frontOf]
  | cons t later ih =>
    rw [frontOf, List.mem_append]
    constructor
    · rintro (here | behind)
      · split at here
        next nonterminal =>
          obtain ⟨rfl, rfl⟩ := Prod.mk.inj (List.mem_singleton.mp here)
          exact ⟨isNonterminal_iff.mp nonterminal, [], rfl, by simp⟩
        · cases here
      · split at behind
        next vanish =>
          obtain ⟨nonterminal, before, rfl, all⟩ := ih.mp behind
          exact ⟨nonterminal, t :: before, rfl, List.forall_mem_cons.mpr ⟨vanish, all⟩⟩
        · cases behind
    · rintro ⟨nonterminal, before, same, all⟩
      cases before with
      | nil =>
        obtain ⟨rfl, rfl⟩ := List.cons.inj same
        exact .inl (by simp [isNonterminal_iff.mpr nonterminal])
      | cons u before =>
        obtain ⟨rfl, rfl⟩ := List.cons.inj same
        obtain ⟨vanish, all⟩ := List.forall_mem_cons.mp all
        rw [if_pos vanish]
        exact .inr (ih.mpr ⟨nonterminal, before, rfl, all⟩)

theorem mem_corners {c : Corner} :
    c ∈ g.corners ↔ c.symbol ∈ g.nonterminals ∧ ∃ before after,
      g.Produces c.left (before ++ c.symbol :: after) ∧ g.BodyVanishes before ∧
        c.alone = after.all g.vanishing.contains := by
  have vanish : ∀ body, (∀ t ∈ body, g.vanishing.contains t = true) ↔ g.BodyVanishes body :=
    fun body => forall₂_congr fun t _ => List.contains_iff_mem.trans mem_vanishing
  constructor
  · intro member
    obtain ⟨rule, listed, member⟩ := List.mem_flatMap.mp member
    obtain ⟨body, chosen, member⟩ := List.mem_flatMap.mp member
    obtain ⟨⟨s, after⟩, front, rfl⟩ := List.mem_map.mp member
    obtain ⟨nonterminal, before, rfl, all⟩ := mem_frontOf.mp front
    exact ⟨nonterminal, before, after, produces_iff.mpr ⟨rule, listed, rfl, chosen⟩,
      (vanish before).mp all, rfl⟩
  · rintro ⟨nonterminal, before, after, produces, gone, alone⟩
    obtain ⟨rule, listed, same, chosen⟩ := produces_iff.mp produces
    have front : (c.symbol, after) ∈ g.frontOf g.vanishing.contains (before ++ c.symbol :: after) :=
      mem_frontOf.mpr ⟨nonterminal, before, rfl, (vanish before).mpr gone⟩
    refine List.mem_flatMap.mpr ⟨rule, listed, List.mem_flatMap.mpr ⟨_, chosen,
      List.mem_map.mpr ⟨(c.symbol, after), front, ?_⟩⟩⟩
    dsimp only
    rw [same, ← alone]

theorem leads_corners :
    Digraph.Leads (g.corners.map fun c => (c.left, c.symbol)).eraseDups = g.LeftCorner := by
  funext s t
  rw [Digraph.Leads, List.mem_eraseDups, List.mem_map]
  apply propext
  constructor
  · rintro ⟨c, listed, same⟩
    obtain ⟨rfl, rfl⟩ := Prod.mk.inj same
    obtain ⟨nonterminal, before, after, produces, vanish, _⟩ := mem_corners.mp listed
    exact ⟨nonterminal, before, after, produces, vanish⟩
  · rintro ⟨nonterminal, before, after, produces, vanish⟩
    exact ⟨⟨s, t, _⟩, mem_corners.mpr ⟨nonterminal, before, after, produces, vanish, rfl⟩, rfl⟩

theorem leads_unitCorners :
    Digraph.Leads ((g.corners.filter Corner.alone).map fun c => (c.left, c.symbol)).eraseDups =
      g.UnitCorner := by
  have vanish : ∀ body, body.all g.vanishing.contains = true ↔ g.BodyVanishes body := fun body =>
    List.all_eq_true.trans (forall₂_congr fun t _ => List.contains_iff_mem.trans mem_vanishing)
  funext s t
  rw [Digraph.Leads, List.mem_eraseDups, List.mem_map]
  apply propext
  constructor
  · rintro ⟨c, listed, same⟩
    obtain ⟨rfl, rfl⟩ := Prod.mk.inj same
    obtain ⟨listed, alone⟩ := List.mem_filter.mp listed
    obtain ⟨nonterminal, before, after, produces, gone, rest⟩ := mem_corners.mp listed
    exact ⟨nonterminal, before, after, produces, gone, (vanish after).mp (rest.symm.trans alone)⟩
  · rintro ⟨nonterminal, before, after, produces, gone, rest⟩
    refine ⟨⟨s, t, true⟩, List.mem_filter.mpr ⟨mem_corners.mpr ?_, rfl⟩, rfl⟩
    exact ⟨nonterminal, before, after, produces, gone, ((vanish after).mpr rest).symm⟩

section Origin

variable (behind : Body → Prop) {corner : Symbol → Symbol → Prop}
  (parts : ∀ first second, behind (first ++ second) ↔ behind first ∧ behind second)
  (left : ∀ s body, g.Produces s body → behind body → behind [s])
  (link : ∀ s t before after, t ∈ g.nonterminals → g.Produces s (before ++ t :: after) →
    g.BodyVanishes before → behind after → corner s t)

include parts left link

/-- What a derivation brings to the front comes from a symbol behind vanishing ones, along
corners. If `behind` holds of the rest of the form, and with a body also of its left side, then
it holds of what stands behind that symbol as well. -/
theorem origin_of_derives {form rest : Body} {t : Symbol} (derives : g.Derives form (t :: rest))
    (last : behind rest) (nonterminal : t ∈ g.nonterminals) :
    ∃ before s after, form = before ++ s :: after ∧ g.BodyVanishes before ∧ behind after ∧
      s ∈ g.nonterminals ∧ ReflTransGen corner s t := by
  induction derives using ReflTransGen.head_induction_on with
  | refl => exact ⟨[], t, rest, rfl, by simp [BodyVanishes], last, nonterminal, .refl⟩
  | head step _ ih =>
    obtain @⟨u, body, first, tail, produces⟩ := step
    obtain ⟨before, s, after, same, gone, holds, member, corners⟩ := ih
    rcases split_middle same.symm with
      ⟨later, rfl, rfl⟩ | ⟨front, right, rfl, rfl, rfl⟩ | ⟨later, rfl, rfl⟩
    · obtain ⟨holds, tailHolds⟩ := (parts _ _).mp holds
      obtain ⟨laterHolds, bodyHolds⟩ := (parts _ _).mp holds
      have rest : behind (later ++ ([u] ++ tail)) :=
        (parts _ _).mpr ⟨laterHolds, (parts _ _).mpr ⟨left u body produces bodyHolds, tailHolds⟩⟩
      exact ⟨before, s, later ++ u :: tail, by simp, gone, rest, member, corners⟩
    · obtain ⟨gone, vanish⟩ := bodyVanishes_append.mp gone
      obtain ⟨rightHolds, tailHolds⟩ := (parts _ _).mp holds
      have here := link u s front right member produces vanish rightHolds
      exact ⟨first, u, tail, rfl, gone, tailHolds, produces.nonterminal, .head here corners⟩
    · obtain ⟨gone, laterGone⟩ := bodyVanishes_append.mp gone
      obtain ⟨gone, middle⟩ := bodyVanishes_append.mp gone
      have passed : g.BodyVanishes (u :: later) :=
        List.forall_mem_cons.mpr ⟨.intro produces middle, laterGone⟩
      exact ⟨first ++ u :: later, s, after, by simp, bodyVanishes_append.mpr ⟨gone, passed⟩, holds,
        member, corners⟩

theorem corners_of_derivesPlus {s t : Symbol} {rest : Body}
    (derives : g.DerivesPlus [s] (t :: rest)) (last : behind rest) (nonterminal : t ∈ g.nonterminals) :
    TransGen corner s t := by
  obtain ⟨body, step, later⟩ := TransGen.head'_iff.mp derives
  obtain ⟨before, u, after, rfl, gone, holds, member, corners⟩ :=
    origin_of_derives behind parts left link later last nonterminal
  exact .head' (link s u before after member step.singleton gone holds) corners

end Origin

theorem nonterminal_of_derivesPlus {s : Symbol} {form : Body} (derives : g.DerivesPlus [s] form) :
    s ∈ g.nonterminals := by
  obtain ⟨body, step, _⟩ := TransGen.head'_iff.mp derives
  exact step.singleton.nonterminal

theorem derivesPlus_of_leftCorners {s t : Symbol} (corners : TransGen g.LeftCorner s t) :
    ∃ rest, g.DerivesPlus [s] (t :: rest) := by
  have single : ∀ {s t}, g.LeftCorner s t → ∃ rest, g.DerivesPlus [s] (t :: rest) := by
    rintro s t ⟨_, before, after, produces, vanish⟩
    have gone := (bodyVanishes_iff_derives.mp vanish).append_right (t :: after)
    exact ⟨after, .head' produces.step gone⟩
  induction corners with
  | single corner => exact single corner
  | tail _ corner ih =>
    obtain ⟨rest, derives⟩ := ih
    obtain ⟨more, next⟩ := single corner
    exact ⟨more ++ rest, derives.trans (next.append_right rest)⟩

theorem derivesPlus_of_unitCorners {s t : Symbol} (corners : TransGen g.UnitCorner s t) :
    g.DerivesPlus [s] [t] := by
  have single : ∀ {s t}, g.UnitCorner s t → g.DerivesPlus [s] [t] := by
    rintro s t ⟨_, before, after, produces, gone, behind⟩
    have alone := (bodyVanishes_iff_derives.mp gone).append
      ((bodyVanishes_iff_derives.mp behind).append_left [t])
    exact .head' produces.step alone
  induction corners with
  | single corner => exact single corner
  | tail _ corner ih => exact ih.trans (single corner)

theorem leftRecursive_iff_cycle {s : Symbol} : g.LeftRecursive s ↔ TransGen g.LeftCorner s s := by
  constructor
  · rintro ⟨rest, derives⟩
    refine corners_of_derivesPlus (fun _ => True) (by simp) (by simp) ?_ derives trivial
      (nonterminal_of_derivesPlus derives)
    exact fun _ _ before after member produces gone _ => ⟨member, before, after, produces, gone⟩
  · exact derivesPlus_of_leftCorners

theorem cyclic_iff_cycle {s : Symbol} : g.Cyclic s ↔ TransGen g.UnitCorner s s := by
  constructor
  · intro derives
    refine corners_of_derivesPlus g.BodyVanishes (fun _ _ => bodyVanishes_append) ?_ ?_
      derives (by simp [BodyVanishes]) (nonterminal_of_derivesPlus derives)
    · exact fun _ _ produces vanish => List.forall_mem_singleton.mpr (.intro produces vanish)
    · exact fun _ _ before after member produces gone rest =>
        ⟨member, before, after, produces, gone, rest⟩
  · exact derivesPlus_of_unitCorners

theorem leftRecursion?_eq_none_iff : g.leftRecursion? = none ↔ ∀ s, ¬ g.LeftRecursive s := by
  rw [leftRecursion?, Digraph.cycle?_eq_none_iff, leads_corners]
  exact forall_congr' fun s => not_congr leftRecursive_iff_cycle.symm

theorem not_leftRecursive (missed : g.leftRecursion? = none) (s : Symbol) : ¬ g.LeftRecursive s :=
  leftRecursion?_eq_none_iff.mp missed s

theorem selfDerivation?_eq_none_iff : g.selfDerivation? = none ↔ ∀ s, ¬ g.Cyclic s := by
  rw [selfDerivation?, Digraph.cycle?_eq_none_iff, leads_unitCorners]
  exact forall_congr' fun s => not_congr cyclic_iff_cycle.symm

end Predictive.Grammar
