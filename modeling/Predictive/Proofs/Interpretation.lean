import Mathlib.Algebra.Order.Kleene
import Predictive.Proofs.Eliminated

/-! Rules as inequalities in a Kleene algebra. An interpretation gives a value to each
symbol; a body stands for the product of its symbols and a list of bodies for their sum.
Elimination is sound for each interpretation under which the rules are: where a new symbol
comes in, it stands for the star of what was behind the left side. -/

namespace Predictive
open Computability

variable {K : Type} [KleeneAlgebra K]

def Body.value (value : Symbol → K) (body : Body) : K := (body.map value).prod

def total (value : Symbol → K) (bodies : List Body) : K := (bodies.map (Body.value value)).sum

namespace Rule

/-- The bodies stand for no more than the left side. -/
def Sound (value : Symbol → K) (rule : Rule) : Prop := total value rule.bodies ≤ value rule.left

/-- The left side stands for no more than the bodies. -/
def Complete (value : Symbol → K) (rule : Rule) : Prop := value rule.left ≤ total value rule.bodies

end Rule

section Values

variable {value value' : Symbol → K} {bodies : List Body}

theorem value_nil : Body.value value [] = 1 := rfl

theorem value_cons (s : Symbol) (rest : Body) :
    Body.value value (s :: rest) = value s * Body.value value rest := by
  rw [Body.value, List.map_cons, List.prod_cons, Body.value]

theorem value_append (first second : Body) :
    Body.value value (first ++ second) = Body.value value first * Body.value value second := by
  rw [Body.value, List.map_append, List.prod_append, Body.value, Body.value]

theorem value_singleton (s : Symbol) : Body.value value [s] = value s := by
  rw [value_cons, value_nil, mul_one]

theorem value_mono (le : ∀ s, value s ≤ value' s) (body : Body) :
    Body.value value body ≤ Body.value value' body := by
  induction body with
  | nil => exact le_refl _
  | cons s rest ih =>
    rw [value_cons, value_cons]
    exact mul_le_mul' (le s) ih

theorem value_congr {body : Body} (same : ∀ s ∈ body, value s = value' s) :
    Body.value value body = Body.value value' body := by
  rw [Body.value, Body.value, List.map_congr_left same]

theorem total_cons (body : Body) (later : List Body) :
    total value (body :: later) = Body.value value body + total value later := by
  rw [total, List.map_cons, List.sum_cons, total]

theorem total_append (first second : List Body) :
    total value (first ++ second) = total value first + total value second := by
  rw [total, List.map_append, List.sum_append, total, total]

theorem total_singleton (body : Body) : total value [body] = Body.value value body := by
  rw [total, List.map_singleton, List.sum_singleton]

theorem total_le_iff {x : K} :
    total value bodies ≤ x ↔ ∀ body ∈ bodies, Body.value value body ≤ x := by
  induction bodies with
  | nil => simp [total]
  | cons body later ih => rw [total_cons, add_le_iff, ih, List.forall_mem_cons]

theorem value_le_total {body : Body} (member : body ∈ bodies) :
    Body.value value body ≤ total value bodies :=
  total_le_iff.mp (le_refl _) body member

theorem total_mono (le : ∀ s, value s ≤ value' s) : total value bodies ≤ total value' bodies :=
  total_le_iff.mpr fun body member => (value_mono le body).trans (value_le_total member)

theorem total_congr (same : ∀ body ∈ bodies, ∀ s ∈ body, value s = value' s) :
    total value bodies = total value' bodies := by
  rw [total, total, List.map_congr_left fun body member => value_congr (same body member)]

theorem total_map_append (rest : Body) :
    total value (bodies.map (· ++ rest)) = total value bodies * Body.value value rest := by
  induction bodies with
  | nil => simp [total]
  | cons body later ih => rw [List.map_cons, total_cons, total_cons, ih, value_append, add_mul]

theorem total_map_cons (s : Symbol) :
    total value (bodies.map (s :: ·)) = value s * total value bodies := by
  induction bodies with
  | nil => simp [total]
  | cons body later ih => rw [List.map_cons, total_cons, total_cons, ih, value_cons, mul_add]

theorem sound_iff {rule : Rule} :
    rule.Sound value ↔ ∀ body ∈ rule.bodies, Body.value value body ≤ value rule.left :=
  total_le_iff

theorem Rule.Sound.extend {rule : Rule} {size : Nat} (sound : rule.Sound value)
    (within : rule.Within size) (same : ∀ s < size, value' s = value s) : rule.Sound value' := by
  rw [Rule.Sound, same rule.left within.left.2, total_congr fun body member s inside =>
    same s (within.symbols body member s inside).2]
  exact sound

end Values

namespace LeftRecursion

variable {value : Symbol → K} {finished : List Rule} {bodies result : List Body}

theorem Resolved.total_le (resolved : Resolved finished bodies result)
    (sound : ∀ rule ∈ finished, rule.Sound value) : total value result ≤ total value bodies := by
  refine total_le_iff.mpr (resolved.all_keep ?_ fun body member => value_le_total member)
  intro rule listed rest below body member
  rw [value_append]
  rw [value_cons] at below
  exact (mul_le_mul' (sound_iff.mp (sound rule listed) body member) (le_refl _)).trans below

theorem le_total_substitute {rule : Rule} (complete : rule.Complete value) (bodies : List Body) :
    total value bodies ≤ total value (rule.substitute bodies) := by
  induction bodies with
  | nil => exact le_refl _
  | cons body later ih =>
    rw [Rule.substitute, List.flatMap_cons, total_cons, total_append]
    refine add_le_add ?_ ih
    cases body with
    | nil => exact (total_singleton []).ge
    | cons s rest =>
      dsimp only
      split
      next same =>
        rw [total_map_append, value_cons, same]
        exact mul_le_mul' complete (le_refl _)
      · exact (total_singleton _).ge

theorem Resolved.le_total (resolved : Resolved finished bodies result)
    (complete : ∀ rule ∈ finished, rule.Complete value) :
    total value bodies ≤ total value result := by
  induction resolved with
  | nil => exact le_refl _
  | kept _ _ ih =>
    rw [total_cons, total_cons]
    exact add_le_add (le_refl _) ih
  | @passed body bodies first result _ _ onward ih =>
    have passed : total value [body] ≤ total value (pass finished body) := by
      refine pass_induction (total value [body] ≤ total value ·) (le_refl _) ?_
      intro rule listed bodies before
      exact before.trans (le_total_substitute (complete rule listed) bodies)
    rw [total_cons, total_append, ← total_singleton]
    exact add_le_add (passed.trans onward) ih

variable {left next : Symbol}

theorem mem_tails_or_bases (left : Symbol) {body : Body} (member : body ∈ bodies) :
    (∃ rest ∈ tailsOf left bodies, body = left :: rest) ∨ body ∈ notBeginning left bodies := by
  by_cases begins : body.head? = some left
  · obtain ⟨rest, rfl⟩ := List.head?_eq_some_iff.mp begins
    exact .inl ⟨rest, mem_tailsOf.mpr member, rfl⟩
  · exact .inr (List.mem_filter.mpr ⟨member, by simpa using begins⟩)

theorem total_restarted : total value (restarted left next bodies).bodies =
    total value (notBeginning left bodies) * value next := by
  rw [restarted, total_map_append, value_singleton]

theorem total_repetition : total value (repetition left next bodies).bodies =
    total value (tailsOf left bodies) * value next + 1 := by
  rw [repetition, total_append, total_map_append, value_singleton, total_singleton, value_nil]

/-- The two rules are sound when the new symbol stands for the star. -/
theorem sound_of_star (below : total value bodies ≤ value left)
    (star : value next = (total value (tailsOf left bodies))∗) :
    (restarted left next bodies).Sound value ∧ (repetition left next bodies).Sound value := by
  have bases : total value (notBeginning left bodies) ≤ value left :=
    total_le_iff.mpr fun body member =>
      total_le_iff.mp below body (List.mem_filter.mp member).1
  have tails : value left * total value (tailsOf left bodies) ≤ value left := by
    rw [← total_map_cons]
    apply total_le_iff.mpr
    intro body member
    obtain ⟨rest, inside, rfl⟩ := List.mem_map.mp member
    exact total_le_iff.mp below _ (mem_tailsOf.mp inside)
  constructor
  · rw [Rule.Sound, total_restarted, star]
    exact mul_kstar_le bases tails
  · rw [Rule.Sound, total_repetition, repetition, star]
    exact add_le mul_kstar_le_kstar one_le_kstar

/-- Older symbols keep their values when the new one gets the star. -/
theorem exists_star (below : total value bodies ≤ value left) (old : left < next)
    (bounds : ∀ body ∈ bodies, ∀ s ∈ body, 0 < s ∧ s < next) :
    ∃ starred : Symbol → K, (∀ s < next, starred s = value s) ∧
      (restarted left next bodies).Sound starred ∧ (repetition left next bodies).Sound starred := by
  let starred := Function.update value next (total value (tailsOf left bodies))∗
  have agree : ∀ s < next, starred s = value s := fun s older =>
    Function.update_of_ne (Nat.ne_of_lt older) _ _
  have unchanged : ∀ part, (∀ body ∈ part, ∀ s ∈ body, 0 < s ∧ s < next) →
      total starred part = total value part := fun part bounds =>
    total_congr fun body member s inside => agree s (bounds body member s inside).2
  have star : starred next = (total starred (tailsOf left bodies))∗ := by
    rw [unchanged _ (bounds_of_tailsOf bounds)]
    exact Function.update_self _ _ _
  rw [← unchanged _ bounds, ← agree left old] at below
  exact ⟨starred, agree, sound_of_star below star⟩

/-- Conversely, with the new symbol worth no more than the star, the two rules say no more
than the bodies they come from. -/
theorem total_le_of_star (sound : (restarted left next bodies).Sound value)
    (complete : (restarted left next bodies).Complete value)
    (repeated : (repetition left next bodies).Sound value)
    (star : value next ≤ (total value (tailsOf left bodies))∗) :
    total value bodies ≤ value left := by
  rw [Rule.Sound, total_restarted] at sound
  rw [Rule.Complete, total_restarted] at complete
  rw [Rule.Sound, total_repetition, add_le_iff] at repeated
  obtain ⟨onward, ending⟩ := repeated
  have reached : (total value (tailsOf left bodies))∗ ≤ value next :=
    kstar_le_of_mul_le_right ending onward
  apply total_le_iff.mpr
  intro body member
  rcases mem_tails_or_bases left member with ⟨rest, tail, rfl⟩ | base
  · calc Body.value value (left :: rest)
        = value left * Body.value value rest := value_cons left rest
      _ ≤ total value (notBeginning left bodies) * (total value (tailsOf left bodies))∗ *
            total value (tailsOf left bodies) :=
          mul_le_mul' (complete.trans (mul_le_mul' (le_refl _) star)) (value_le_total tail)
      _ ≤ total value (notBeginning left bodies) * value next := by
          rw [mul_assoc]
          exact mul_le_mul' (le_refl _) (kstar_mul_le_kstar.trans reached)
      _ ≤ value left := sound
  · calc Body.value value body
        = Body.value value body * 1 := (mul_one _).symm
      _ ≤ total value (notBeginning left bodies) * value next :=
          mul_le_mul' (value_le_total base) ending
      _ ≤ value left := sound

namespace Eliminates

variable {later rules : List Rule} {introduced : List Introduction}

/-- An interpretation under which the rules are sound can be extended to the new symbols,
so that the new rules are sound as well. -/
theorem exists_extension (done : Eliminates finished next later introduced rules)
    (finishedWithin : ∀ rule ∈ finished, rule.Within next)
    (laterWithin : ∀ rule ∈ later, rule.Within next)
    (finishedSound : ∀ rule ∈ finished, rule.Sound value)
    (laterSound : ∀ rule ∈ later, rule.Sound value) :
    ∃ value' : Symbol → K, (∀ s < next, value' s = value s) ∧ ∀ rule ∈ rules, rule.Sound value' := by
  induction done generalizing value with
  | nil => exact ⟨value, fun _ _ => rfl, by simp⟩
  | @keep finished next rule later introduced rules bodies resolved _ _ ih =>
    obtain ⟨here, others⟩ := List.forall_mem_cons.mp laterWithin
    obtain ⟨soundHere, soundOthers⟩ := List.forall_mem_cons.mp laterSound
    have within : Rule.Within next ⟨rule.left, bodies⟩ := kept_within finishedWithin here resolved
    have sound : Rule.Sound value ⟨rule.left, bodies⟩ :=
      (resolved.total_le finishedSound).trans soundHere
    obtain ⟨value', same, soundRules⟩ := ih
      (List.forall_mem_append.mpr ⟨finishedWithin, List.forall_mem_singleton.mpr within⟩) others
      (List.forall_mem_append.mpr ⟨finishedSound, List.forall_mem_singleton.mpr sound⟩) soundOthers
    exact ⟨value', same, List.forall_mem_cons.mpr ⟨sound.extend within same, soundRules⟩⟩
  | @split finished next rule later introduced rules bodies resolved founded _ ih =>
    obtain ⟨here, others⟩ := List.forall_mem_cons.mp laterWithin
    obtain ⟨soundHere, soundOthers⟩ := List.forall_mem_cons.mp laterSound
    have bounds := bounds_of_resolved finishedWithin resolved here.symbols
    obtain ⟨starred, agree, restart, repeated⟩ :=
      exists_star ((resolved.total_le finishedSound).trans soundHere) here.left.2 bounds
    -- Nothing older contains the new symbol, so that its value does not matter there.
    have extend : ∀ rules : List Rule, (∀ rule ∈ rules, rule.Within next) →
        (∀ rule ∈ rules, rule.Sound value) → ∀ rule ∈ rules, rule.Sound starred :=
      fun _ within sound rule listed => (sound rule listed).extend (within rule listed) agree
    have first := restarted_within here founded bounds
    obtain ⟨value', same, soundRules⟩ := ih
      (List.forall_mem_append.mpr ⟨fun rule listed => (finishedWithin rule listed).mono (Nat.le_succ _),
        List.forall_mem_singleton.mpr first⟩)
      (fun rule listed => (others rule listed).mono (Nat.le_succ _))
      (List.forall_mem_append.mpr ⟨extend finished finishedWithin finishedSound,
        List.forall_mem_singleton.mpr restart⟩)
      (extend later others soundOthers)
    refine ⟨value', fun s old => (same s (Nat.lt_succ_of_lt old)).trans (agree s old), ?_⟩
    exact List.forall_mem_cons.mpr ⟨restart.extend first same, List.forall_mem_cons.mpr
      ⟨repeated.extend (repetition_within here bounds) same, soundRules⟩⟩

theorem sound_of_result (done : Eliminates finished next later introduced rules)
    (finishedComplete : ∀ rule ∈ finished, rule.Complete value)
    (sound : ∀ rule ∈ rules, rule.Sound value) (complete : ∀ rule ∈ rules, rule.Complete value)
    (stars : ∀ next tails, ⟨next, tails.map (· ++ [next]) ++ [[]]⟩ ∈ rules →
      value next ≤ (total value tails)∗) : ∀ rule ∈ later, rule.Sound value := by
  induction done with
  | nil => simp
  | @keep finished next rule later introduced rules bodies resolved _ _ ih =>
    obtain ⟨here, others⟩ := List.forall_mem_cons.mp sound
    obtain ⟨completeHere, completeOthers⟩ := List.forall_mem_cons.mp complete
    have before : ∀ rule ∈ finished ++ [_], rule.Complete value :=
      List.forall_mem_append.mpr ⟨finishedComplete, List.forall_mem_singleton.mpr completeHere⟩
    refine List.forall_mem_cons.mpr ⟨(resolved.le_total finishedComplete).trans here, ?_⟩
    exact ih before others completeOthers fun next tails member =>
      stars next tails (List.mem_cons_of_mem _ member)
  | @split finished next rule later introduced rules bodies resolved _ _ ih =>
    obtain ⟨here, repeated, others⟩ := by simpa only [List.forall_mem_cons] using sound
    obtain ⟨completeHere, _, completeOthers⟩ := by simpa only [List.forall_mem_cons] using complete
    have star := stars next (tailsOf rule.left bodies) (List.mem_cons_of_mem _ List.mem_cons_self)
    have before : ∀ rule ∈ finished ++ [_], rule.Complete value :=
      List.forall_mem_append.mpr ⟨finishedComplete, List.forall_mem_singleton.mpr completeHere⟩
    have now := total_le_of_star here completeHere repeated star
    refine List.forall_mem_cons.mpr ⟨(resolved.le_total finishedComplete).trans now, ?_⟩
    exact ih before others completeOthers fun next tails member =>
      stars next tails (List.mem_cons_of_mem _ (List.mem_cons_of_mem _ member))

end Eliminates
end LeftRecursion

/-! A derivation never adds to what a form stands for. -/

namespace Grammar

variable {g : Grammar} {value : Symbol → K}

theorem Step.value_le {form next : Body} (step : g.Step form next)
    (sound : ∀ rule ∈ g.rules, rule.Sound value) :
    Body.value value next ≤ Body.value value form := by
  obtain ⟨before, after, produces⟩ := step
  obtain ⟨rule, listed, rfl, member⟩ := produces_iff.mp produces
  rw [value_append, value_append, value_append, value_cons, ← mul_assoc]
  have below := sound_iff.mp (sound rule listed) _ member
  exact mul_le_mul' (mul_le_mul' (le_refl _) below) (le_refl _)

theorem Derives.value_le {form last : Body} (derives : g.Derives form last)
    (sound : ∀ rule ∈ g.rules, rule.Sound value) :
    Body.value value last ≤ Body.value value form := by
  induction derives with
  | refl => exact le_refl _
  | tail _ step ih => exact (step.value_le sound).trans ih

end Grammar
end Predictive
