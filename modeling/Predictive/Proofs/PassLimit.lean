import Mathlib.Data.Finset.Card
import Predictive.Proofs.EliminationProgress

/-! Elimination of a grammar without left recursion, and how many passes it needs. Every body
weighs what its left corners can bring to the front: a nonterminal counts as a power of the
longest body, with the number of nonterminals that its left corners lead to as the exponent. A
derivation never adds weight, and a symbol that vanishes takes its own away. Passes beyond the
weight are enough; the limit on passes grows with the product of the two numbers only, so that
a deep nest of vanishing symbols exceeds it. -/

namespace Predictive

namespace Grammar
open Relation

variable {g : Grammar}

/-- An empty body counts as one symbol long. -/
def longestBody (g : Grammar) : Nat :=
  (g.rules.flatMap Rule.bodies).foldl (fun n body => max n body.length) 1

theorem passLimit_eq : g.passLimit = g.rules.length * (g.longestBody + 1) + 1 := rfl

theorem le_foldl_max (bodies : List Body) (n : Nat) :
    n ≤ bodies.foldl (fun n body => max n body.length) n ∧
      ∀ body ∈ bodies, body.length ≤ bodies.foldl (fun n body => max n body.length) n := by
  induction bodies generalizing n with
  | nil => simp
  | cons first later ih =>
    obtain ⟨bound, each⟩ := ih (max n first.length)
    exact ⟨(Nat.le_max_left _ _).trans bound,
      List.forall_mem_cons.mpr ⟨(Nat.le_max_right _ _).trans bound, each⟩⟩

theorem longestBody_pos : 0 < g.longestBody :=
  (le_foldl_max (g.rules.flatMap Rule.bodies) 1).1

theorem length_le_longestBody {s : Symbol} {body : Body} (produces : g.Produces s body) :
    body.length ≤ g.longestBody := by
  obtain ⟨rule, listed, _, chosen⟩ := produces_iff.mp produces
  exact (le_foldl_max _ 1).2 body (List.mem_flatMap.mpr ⟨rule, listed, chosen⟩)

open Classical in
/-- The number of nonterminals that left corners lead to. -/
noncomputable def depth (g : Grammar) (s : Symbol) : Nat :=
  (g.nonterminals.toFinset.filter (TransGen g.LeftCorner s)).card

noncomputable def share (g : Grammar) (s : Symbol) : Nat :=
  if g.isNonterminal s then g.longestBody ^ g.depth s else 0

/-- The shares of the symbols that can come first. -/
noncomputable def weight (g : Grammar) : Body → Nat
  | [] => 0
  | s :: rest => g.share s + if g.vanishing.contains s then g.weight rest else 0

theorem share_of_nonterminal {s : Symbol} (nonterminal : s ∈ g.nonterminals) :
    g.share s = g.longestBody ^ g.depth s :=
  if_pos (isNonterminal_iff.mpr nonterminal)

theorem weight_append (first second : Body) :
    g.weight (first ++ second) =
      g.weight first + if first.all g.vanishing.contains then g.weight second else 0 := by
  induction first with
  | nil => simp [weight]
  | cons s rest ih =>
    rw [List.cons_append, weight, weight, ih, List.all_cons]
    by_cases vanish : g.vanishing.contains s = true
    · rw [if_pos vanish, if_pos vanish, vanish, Bool.true_and, Nat.add_assoc]
    · rw [if_neg vanish, if_neg vanish, eq_false_of_ne_true vanish, Bool.false_and]
      simp

/-- The weight of a body is bounded by its length if each share in it is. -/
theorem weight_le {bound : Nat} {body : Body}
    (each : ∀ before t after, body = before ++ t :: after → g.BodyVanishes before →
      t ∈ g.nonterminals → g.longestBody ^ g.depth t ≤ bound) :
    g.weight body ≤ body.length * bound := by
  induction body with
  | nil => simp [weight]
  | cons s rest ih =>
    have first : g.share s ≤ bound := by
      unfold share
      split
      next nonterminal =>
        exact each [] s rest rfl (by simp [BodyVanishes]) (isNonterminal_iff.mp nonterminal)
      · exact Nat.zero_le _
    have later : (if g.vanishing.contains s then g.weight rest else 0) ≤ rest.length * bound := by
      split
      next vanish =>
        have gone := mem_vanishing.mp (List.contains_iff_mem.mp vanish)
        refine ih fun before t after same vanishes => ?_
        exact each (s :: before) t after (by rw [same]; rfl) (List.forall_mem_cons.mpr ⟨gone, vanishes⟩)
      · exact Nat.zero_le _
    rw [weight, List.length_cons, Nat.succ_mul, Nat.add_comm]
    exact Nat.add_le_add later first

section Acyclic

variable (acyclic : ∀ s, ¬ g.LeftRecursive s)
include acyclic

theorem depth_lt {s t : Symbol} (corner : g.LeftCorner s t) : g.depth t < g.depth s := by
  classical
  apply Finset.card_lt_card
  have inside : t ∈ g.nonterminals.toFinset := List.mem_toFinset.mpr corner.1
  refine Finset.ssubset_iff_of_subset (fun u member => ?_) |>.mpr ⟨t, ?_, ?_⟩
  · obtain ⟨listed, corners⟩ := Finset.mem_filter.mp member
    exact Finset.mem_filter.mpr ⟨listed, .head corner corners⟩
  · exact Finset.mem_filter.mpr ⟨inside, .single corner⟩
  · exact fun member =>
      acyclic t (leftRecursive_iff_cycle.mpr (Finset.mem_filter.mp member).2)

/-- A nonterminal does not lead back to itself. -/
theorem depth_lt_length {s : Symbol} (nonterminal : s ∈ g.nonterminals) :
    g.depth s < g.rules.length := by
  classical
  have fewer : g.depth s < g.nonterminals.toFinset.card := by
    refine Finset.card_lt_card (Finset.filter_ssubset.mpr ⟨s, List.mem_toFinset.mpr nonterminal, ?_⟩)
    exact fun cycle => acyclic s (leftRecursive_iff_cycle.mpr cycle)
  have total := List.toFinset_card_le g.nonterminals
  rw [nonterminals, List.length_map] at total
  exact fewer.trans_le total

theorem weight_le_of_produces {s : Symbol} {body : Body} (produces : g.Produces s body) :
    g.weight body ≤ g.longestBody ^ g.depth s := by
  have deeper : ∀ before t after, body = before ++ t :: after → g.BodyVanishes before →
      t ∈ g.nonterminals → g.depth t < g.depth s := fun before t after same vanish nonterminal =>
    depth_lt acyclic ⟨nonterminal, before, after, same ▸ produces, vanish⟩
  -- What comes first lies deeper, which leaves one factor for the length of the body.
  cases level : g.depth s with
  | zero =>
    have nothing : g.weight body ≤ body.length * 0 :=
      weight_le fun before t after same vanish nonterminal =>
        absurd (level ▸ deeper before t after same vanish nonterminal) (Nat.not_lt_zero _)
    exact nothing.trans (Nat.zero_le _)
  | succ d =>
    have bound := weight_le fun before t after same vanish nonterminal =>
      Nat.pow_le_pow_right longestBody_pos
        (Nat.le_of_lt_succ (level ▸ deeper before t after same vanish nonterminal))
    calc g.weight body ≤ body.length * g.longestBody ^ d := bound
      _ ≤ g.longestBody * g.longestBody ^ d :=
        Nat.mul_le_mul_right _ (length_le_longestBody produces)
      _ = g.longestBody ^ (d + 1) := Nat.pow_succ'.symm

theorem Step.weight_le {form next : Body} (step : g.Step form next) :
    g.weight next ≤ g.weight form := by
  obtain @⟨s, body, before, after, produces⟩ := step
  have nonterminal := share_of_nonterminal produces.nonterminal
  have here : g.weight (body ++ after) ≤ g.weight (s :: after) := by
    rw [weight_append, weight, nonterminal]
    refine Nat.add_le_add (weight_le_of_produces acyclic produces) ?_
    split
    next all =>
      have gone : s ∈ g.vanishing := mem_vanishing.mpr (.intro produces fun t member =>
        mem_vanishing.mp (List.contains_iff_mem.mp (List.all_eq_true.mp all t member)))
      rw [if_pos (List.contains_iff_mem.mpr gone)]
    · exact Nat.zero_le _
  rw [List.append_assoc, weight_append, weight_append before (s :: after)]
  refine Nat.add_le_add_left ?_ _
  split
  · exact here
  · exact Nat.le_refl 0

theorem Derives.weight_le {form last : Body} (derives : g.Derives form last) :
    g.weight last ≤ g.weight form := by
  induction derives with
  | refl => exact Nat.le_refl _
  | tail _ step ih => exact (step.weight_le acyclic).trans ih

end Acyclic
end Grammar

namespace LeftRecursion
open Relation

variable {g : Grammar} {finished later : List Rule} {rule : Rule} {next : Symbol}

/-- The rule says nothing new: each body derives from the left side as it stands. -/
structure Implied (g : Grammar) (rule : Rule) : Prop where
  derived : Derived g rule
  within : rule.Within g.size

theorem Implied.derives (implied : Implied g rule) {body : Body} (chosen : body ∈ rule.bodies) :
    g.DerivesPlus [rule.left] body := by
  have derives := implied.derived.bodies body chosen
  rwa [oldPart_eq fun s member => (implied.within.symbols body chosen s member).2] at derives

theorem implied_of_resolved (valid : g.WellFormed) (listed : rule ∈ g.rules)
    (before : ∀ rule ∈ finished, Implied g rule) {bodies : List Body}
    (resolved : Resolved finished rule.bodies bodies) : Implied g ⟨rule.left, bodies⟩ where
  derived := (derived_of_listed valid listed).resolved (fun rule listed => (before rule listed).derived)
    resolved
  within := Eliminates.kept_within (fun rule listed => (before rule listed).within)
    (valid.rules rule listed) resolved

/-- The state between two rules, of which none had to be split. -/
structure Unsplit (g : Grammar) (finished : List Rule) (next : Symbol) (later : List Rule) : Prop where
  next : next = g.size
  listed : ∀ rule ∈ later, rule ∈ g.rules
  implied : ∀ rule ∈ finished, Implied g rule
  ordered : Ordered finished

section Acyclic

variable (acyclic : ∀ s, ¬ g.LeftRecursive s)
include acyclic

theorem weighs_of_implied (implied : ∀ rule ∈ finished, Implied g rule) : Weighs g.weight finished := by
  intro rule listed front chosen rest
  have derives := (implied rule listed).derives chosen
  refine ⟨Grammar.Derives.weight_le acyclic (derives.append_right rest).to_reflTransGen, ?_⟩
  rintro rfl
  have nonterminal := Grammar.nonterminal_of_derivesPlus derives
  have vanishes : rule.left ∈ g.vanishing := Grammar.mem_vanishing.mpr
    (Grammar.bodyVanishes_iff_derives.mpr derives.to_reflTransGen rule.left List.mem_cons_self)
  rw [Grammar.weight, if_pos (List.contains_iff_mem.mpr vanishes),
    Grammar.share_of_nonterminal nonterminal]
  exact Nat.lt_add_of_pos_left (Nat.pow_pos Grammar.longestBody_pos)

theorem course_of_acyclic (valid : g.WellFormed) : Course (Unsplit g) (Implied g) where
  keep {finished next rule later bodies} unsplit resolved direct := by
    have listed := unsplit.listed rule List.mem_cons_self
    have implied := implied_of_resolved valid listed unsplit.implied resolved
    exact ⟨implied, unsplit.next, fun other member => unsplit.listed other (List.mem_cons_of_mem _ member),
      List.forall_mem_append.mpr ⟨unsplit.implied, List.forall_mem_singleton.mpr implied⟩,
      .concat unsplit.ordered (avoids_kept resolved direct)⟩
  split {finished next rule later bodies} unsplit resolved recursive := by
    have listed := unsplit.listed rule List.mem_cons_self
    have derived := (derived_of_listed valid listed).resolved
      (fun rule listed => (unsplit.implied rule listed).derived) resolved
    obtain ⟨rest, tail⟩ := List.exists_mem_of_ne_nil _ recursive
    exact absurd ⟨_, derived.tail tail⟩ (acyclic rule.left)

/-- With enough passes the elimination goes through; with too few it stops at a nonterminal. -/
theorem outcome_of_acyclic (valid : g.WellFormed) (limit : Nat) :
    (∃ rules, (eliminate limit [] g.size g.rules).outcome = .ok rules ∧
        ∀ rule ∈ rules, Implied g rule) ∨
      limit ≤ g.longestBody ^ (g.rules.length - 1) ∧
        ∃ s ∈ g.nonterminals, (eliminate limit [] g.size g.rules).outcome = .error [s] := by
  have start : Unsplit g [] g.size g.rules := ⟨rfl, fun _ listed => listed, by simp, .nil⟩
  rcases (course_of_acyclic acyclic valid).outcome limit start with
    done | ⟨rule, listed, failed, finished, next, later, unsplit, stuck⟩
  · exact .inl done
  · have nonterminal : rule.left ∈ g.nonterminals := List.mem_map_of_mem listed
    refine .inr ⟨Nat.le_of_not_lt fun enough => ?_, rule.left, nonterminal, failed⟩
    have each : ∀ body ∈ rule.bodies, ∃ result, resolve finished limit body = some result := by
      intro body chosen
      have produces : g.Produces rule.left body :=
        Grammar.produces_iff.mpr ⟨rule, listed, rfl, chosen⟩
      have level := Grammar.depth_lt_length acyclic nonterminal
      have bound := (Grammar.weight_le_of_produces acyclic produces).trans
        (Nat.pow_le_pow_right Grammar.longestBody_pos (Nat.le_sub_one_of_lt level))
      exact exists_resolve_of_weight unsplit.ordered (weighs_of_implied acyclic unsplit.implied) body
        (bound.trans_lt enough)
    obtain ⟨parts, found⟩ := exists_mapM each
    cases stuck.symm.trans found

theorem not_leftRecursive_of_implied {h : Grammar} (implied : ∀ rule ∈ h.rules, Implied g rule)
    (s : Symbol) : ¬ h.LeftRecursive s := by
  rintro ⟨rest, derives⟩
  refine acyclic s ⟨rest, TransGen.closed (fun form next step => ?_) _ _ derives⟩
  obtain @⟨t, body, before, after, produces⟩ := step
  obtain ⟨rule, listed, rfl, chosen⟩ := Grammar.produces_iff.mp produces
  have here := (((implied rule listed).derives chosen).append_right after).append_left before
  rw [← List.append_assoc before body after] at here
  exact here

end Acyclic
end LeftRecursion

namespace Grammar

variable {g : Grammar}

/-- Where no nonterminal is left recursive, enough passes always let elimination go through.
The limit is a product where a power may be needed: below the power, elimination may stop too
early and refuse a nonterminal that lies on no cycle. -/
theorem eliminated_of_acyclic (reachable : Reachable g) (acyclic : ∀ s, ¬ g.LeftRecursive s) :
    (∀ limit, g.longestBody ^ (g.rules.length - 1) < limit →
        ∃ rules, (LeftRecursion.eliminate limit [] g.size g.rules).outcome = .ok rules) ∧
      ∀ supply, (∃ h, (g.eliminateLeftRecursionWith supply).result = .ok h ∧ ∀ s, ¬ h.LeftRecursive s) ∨
        g.rules.length * (g.longestBody + 1) + 1 ≤ g.longestBody ^ (g.rules.length - 1) ∧
          ∃ s ∈ g.nonterminals,
            (g.eliminateLeftRecursionWith supply).result = .error (g.irreducible [s]) := by
  have valid := reachable.wellFormed
  have reducible : g.selfDerivation? = none :=
    selfDerivation?_eq_none_iff.mpr fun s cyclic => acyclic s ⟨[], cyclic⟩
  refine ⟨fun limit enough => ?_, fun supply => ?_⟩
  · rcases LeftRecursion.outcome_of_acyclic acyclic valid limit with ⟨rules, done, _⟩ | ⟨short, _⟩
    · exact ⟨rules, done⟩
    · exact absurd enough (Nat.not_lt.mpr short)
  · rcases LeftRecursion.outcome_of_acyclic acyclic valid g.passLimit with
      ⟨rules, ended, implied⟩ | ⟨short, s, nonterminal, failed⟩
    · obtain ⟨h, done⟩ := eliminated_of_outcome supply reducible ended fun h same =>
        leftRecursion?_eq_none_iff.mpr
          (LeftRecursion.not_leftRecursive_of_implied acyclic fun rule listed =>
            implied rule (same ▸ listed))
      obtain ⟨_, _, _, missed⟩ := eliminates_of_eliminateLeftRecursion done
      exact .inl ⟨h, done, not_leftRecursive missed⟩
    · rw [passLimit_eq] at short
      exact .inr ⟨short, s, nonterminal,
        refused_of_outcome supply reducible (valid.nonterminal_bounds nonterminal).2 failed⟩

/-- `A` stands for thirty-six symbols, which vanish one pass at a time once `D` leads to them. -/
def layered : Grammar :=
  ⟨["A", "B", "C", "D"],
    [⟨2, [[3, 3, 3, 3, 3, 3]]⟩, ⟨3, [[4, 4, 4, 4, 4, 4]]⟩, ⟨4, [[]]⟩, ⟨5, [[2]]⟩], some 2⟩

theorem reachable_layered : Reachable layered := by
  have built : ofEntries [⟨"A", [["B", "B", "B", "B", "B", "B"]]⟩,
      ⟨"B", [["C", "C", "C", "C", "C", "C"]]⟩, ⟨"C", [["ε"]]⟩, ⟨"D", [["A"]]⟩] = .ok layered := rfl
  exact .entries built

theorem not_leftRecursive_layered : ∀ s, ¬ layered.LeftRecursive s :=
  leftRecursion?_eq_none_iff.mp (by cbv)

theorem layered_eliminated :
    ∃ rules, (LeftRecursion.eliminate 217 [] layered.size layered.rules).outcome = .ok rules :=
  (eliminated_of_acyclic reachable_layered not_leftRecursive_layered).1 217 (by decide)

/-- No nonterminal is left recursive, and still elimination refuses the last one. -/
theorem layered_refused :
    Reachable layered ∧ (∀ s, ¬ layered.LeftRecursive s) ∧
      layered.eliminateLeftRecursion.result = .error (.leftRecursive "D" ["D"]) :=
  ⟨reachable_layered, not_leftRecursive_layered, by cbv⟩

end Grammar
end Predictive
