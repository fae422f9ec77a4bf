import Mathlib.Logic.Hydra
import Predictive.Proofs.FactoredForm
import Predictive.Proofs.FactoringLookahead
import Predictive.Proofs.Forks

/-! New symbols replaced by their alternatives. In a stored registry this is done one place at a time: a
body in which a new symbol stands gives way to the bodies with the alternatives in its place. What the
bodies unfold to stays the same all the while. Every replacement leaves less to be replaced, so in
whatever order it is done, it ends; and then the bodies are what they unfold to. -/

namespace Predictive
namespace Grammar

variable {g h : Grammar} {size : Nat}

namespace Unfolds

variable {bodies later fulls rests : List Body} {front : Body}

theorem append (unfolds : h.Unfolds size bodies fulls) (behind : h.Unfolds size later rests) :
    h.Unfolds size (bodies ++ later) (fulls ++ rests) := by
  induction unfolds with
  | nil => exact behind
  | old kept _ ih => exact .old kept ih
  | new kept fresh several named _ _ ih =>
    rw [List.append_assoc]
    exact .new kept fresh several named ih

theorem of_bodies_append (unfolds : h.Unfolds size (bodies ++ later) fulls) :
    ∃ part others, fulls = part ++ others ∧ h.Unfolds size bodies part ∧
      h.Unfolds size later others := by
  induction bodies generalizing fulls with
  | nil => exact ⟨[], fulls, rfl, .nil, unfolds⟩
  | cons body bodies ih =>
    obtain ⟨first, rest, rfl, here, behind⟩ := unfolds.of_cons
    obtain ⟨part, others, rfl, inside, last⟩ := ih behind
    exact ⟨first ++ part, others, (List.append_assoc _ _ _).symm, here.append inside, last⟩

theorem map_front (unfolds : h.Unfolds size bodies fulls) (old : ∀ s ∈ front, s < size) :
    h.Unfolds size (bodies.map (front ++ ·)) (fulls.map (front ++ ·)) := by
  induction unfolds with
  | nil => exact .nil
  | old kept _ ih => exact .old (List.forall_mem_append.mpr ⟨old, kept⟩) ih
  | @new inside n bodies inner fulls kept fresh several named _ _ ih =>
    rw [List.map_append, List.map_map, List.map_cons, ← List.append_assoc]
    have split : (front ++ ·) ∘ (inside ++ ·) = (front ++ inside ++ · : Body → Body) :=
      funext fun rest => (List.append_assoc front inside rest).symm
    rw [split]
    exact .new (List.forall_mem_append.mpr ⟨old, kept⟩) fresh several named ih

/-- Where there is nothing to replace, the bodies are what they unfold to. -/
theorem of_old (unfolds : h.Unfolds size bodies fulls) (old : ∀ body ∈ bodies, ∀ s ∈ body, s < size) :
    fulls = bodies := by
  induction unfolds with
  | nil => rfl
  | old _ _ ih => exact congrArg _ (ih (List.forall_mem_cons.mp old).2)
  | @new front n _ _ _ _ fresh =>
    exact absurd ((List.forall_mem_cons.mp old).1 n (by simp)) (Nat.not_lt.mpr fresh)

/-- The alternatives of a new symbol unfold to the same as the body that it ends. -/
theorem replace {n : Symbol} {before after : Body}
    (unfolds : h.Unfolds size [before ++ n :: after] fulls) (fresh : size ≤ n) :
    h.Unfolds size ((h.bodiesOf n).map (before ++ · ++ after)) fulls := by
  obtain ⟨old, tails, behind, rfl⟩ := unfolds.of_append
  obtain ⟨rfl, _, named⟩ := behind.cons_new fresh
  simp only [List.append_nil]
  exact named.map_front old

end Unfolds
end Grammar

namespace Registry
open Grammar

variable {g h : Grammar}

/-- At one place of one body, a symbol from `size` on gives way to its alternatives. -/
inductive Replaces (r : Registry) (size : Nat) : List (List Symbol) → List (List Symbol) → Prop where
  | place {earlier later before after n} (fresh : size ≤ n) :
      Replaces r size (earlier ++ (before ++ n :: after) :: later)
        (earlier ++ (r.bodiesOf n).map (fun body => normalize (before ++ body ++ after)) ++ later)

/-! It ends -/

/-- What is left to be replaced in a body. The later a symbol was added, the less there is behind it. -/
def pending (size bound : Nat) (body : List Symbol) : Nat :=
  ((body.filter (size ≤ ·)).map (bound - ·)).sum

section Pending

variable {size bound : Nat} {body other : List Symbol}

theorem pending_append : pending size bound (body ++ other) =
    pending size bound body + pending size bound other := by
  simp [pending]

theorem pending_old (old : ∀ s ∈ body, s < size) : pending size bound body = 0 := by
  have none : body.filter (size ≤ ·) = [] :=
    List.filter_eq_nil_iff.mpr fun s member => by simpa using old s member
  simp [pending, none]

theorem pending_new {n : Symbol} (fresh : size ≤ n) : pending size bound [n] = bound - n := by
  simp [pending, fresh]

theorem pending_shown (low : Symbol.empty < size) :
    pending size bound (shown body) = pending size bound body := by
  cases body with
  | nil => simp [pending, shown, Nat.not_le.mpr low]
  | cons => rfl

theorem pending_normalize (low : Symbol.empty < size) :
    pending size bound (normalize body) = pending size bound body := by
  have bared : (bare body).filter (size ≤ ·) = body.filter (size ≤ ·) := by
    rw [bare, List.filter_filter]
    refine List.filter_congr fun s _ => ?_
    by_cases fresh : size ≤ s
    · have other : s ≠ Symbol.empty := Nat.ne_of_gt (Nat.lt_of_lt_of_le low fresh)
      simp [fresh, other]
    · simp [fresh]
  rw [normalize, pending_shown low, pending, pending, bared]

end Pending

theorem pending_lt (unfolding : g.Unfolding h) (valid : h.WellFormed) {n : Symbol} {body : Body}
    (produces : h.Produces n body) : pending g.size h.size body < h.size - n := by
  have below := (valid.nonterminal_bounds produces.nonterminal).2
  by_cases old : ∀ s ∈ body, s < g.size
  · rw [pending_old old]
    exact Nat.sub_pos_of_lt below
  · simp only [not_forall, Nat.not_lt] at old
    obtain ⟨m, member, fresh⟩ := old
    have later := (unfolding.rising n body m produces member).resolve_left (Nat.not_lt.mpr fresh)
    obtain ⟨front, rfl, old⟩ := unfolding.last_new produces member fresh
    rw [pending_append, pending_old old, Nat.zero_add, pending_new fresh]
    exact Nat.sub_lt_sub_left below later

theorem cutExpand_of_lt {earlier parts later : List Nat} {whole : Nat} (less : ∀ part ∈ parts, part < whole) :
    Relation.CutExpand (· < ·) (earlier ++ parts ++ later : Multiset Nat)
      (earlier ++ whole :: later : List Nat) := by
  refine ⟨parts, whole, less, ?_⟩
  simp only [Multiset.coe_add, ← Multiset.coe_singleton, Multiset.coe_eq_coe, List.append_assoc]
  apply List.Perm.append_left
  rw [← List.append_assoc, List.cons_append]
  exact (List.perm_append_singleton whole _).trans (List.perm_append_comm.cons whole)

theorem Replaces.cutExpand {r : Registry} {size bound : Nat} {bodies others : List (List Symbol)}
    (replaces : r.Replaces size bodies others) (low : Symbol.empty < size)
    (less : ∀ n, size ≤ n → ∀ body ∈ r.bodiesOf n, pending size bound body < bound - n) :
    Relation.CutExpand (· < ·) (others.map (pending size bound) : Multiset Nat)
      (bodies.map (pending size bound)) := by
  cases replaces with
  | @place earlier later before after n fresh =>
    rw [List.map_append, List.map_append, List.map_append, List.map_cons]
    apply cutExpand_of_lt
    intro count member
    obtain ⟨part, listed, rfl⟩ := List.mem_map.mp member
    obtain ⟨body, chosen, rfl⟩ := List.mem_map.mp listed
    have fewer := less n fresh body chosen
    rw [pending_normalize low, ← List.singleton_append, pending_append, pending_append, pending_append,
      pending_append, pending_new fresh]
    omega

theorem replaces_wellFounded (unfolding : g.Unfolding h) (valid : h.WellFormed) :
    WellFounded fun others bodies => h.registry.Replaces g.size bodies others := by
  have low : Symbol.empty < g.size := Nat.succ_pos _
  have less : ∀ n, g.size ≤ n → ∀ body ∈ h.registry.bodiesOf n,
      pending g.size h.size body < h.size - n := by
    intro n _ body chosen
    rw [stored_bodies valid] at chosen
    obtain ⟨old, produces, rfl⟩ := List.mem_map.mp chosen
    rw [pending_shown low]
    exact pending_lt unfolding valid produces
  refine Subrelation.wf (fun replaces => replaces.cutExpand low less) ?_
  exact InvImage.wf (fun bodies : List (List Symbol) => (bodies.map (pending g.size h.size) : Multiset Nat))
    (WellFounded.cutExpand Nat.lt_wfRel.wf)

theorem exists_replaced {r : Registry} {size : Nat}
    (ends : WellFounded fun others bodies => r.Replaces size bodies others)
    (bodies : List (List Symbol)) :
    ∃ last, Relation.ReflTransGen (r.Replaces size) bodies last ∧ ∀ body ∈ last, ∀ s ∈ body, s < size := by
  induction bodies using ends.induction with
  | _ bodies ih =>
    by_cases old : ∀ body ∈ bodies, ∀ s ∈ body, s < size
    · exact ⟨bodies, .refl, old⟩
    · simp only [not_forall, Nat.not_lt] at old
      obtain ⟨body, listed, n, member, fresh⟩ := old
      obtain ⟨earlier, later, rfl⟩ := List.append_of_mem listed
      obtain ⟨before, after, rfl⟩ := List.append_of_mem member
      obtain ⟨last, run, old⟩ := ih _ (.place fresh)
      exact ⟨last, .head (.place fresh) run, old⟩

/-! It ends well -/

theorem bare_stored (valid : g.WellFormed) {s : Symbol} {body : Body} (produces : g.Produces s body) :
    bare (shown body) = body :=
  (bare_shown body).trans (bare_eq_self (valid.empty_not_mem produces))

/-- Bodies as they are stored, with what they unfold to. -/
structure Unfinished (h : Grammar) (size : Nat) (bodies : List (List Symbol)) (fulls : List Body) :
    Prop where
  normal : ∀ body ∈ bodies, normalize body = body
  unfolds : h.Unfolds size (bodies.map bare) fulls

namespace Unfinished

variable {size : Nat} {bodies others : List (List Symbol)} {fulls : List Body}

theorem replace (unfinished : Unfinished h size bodies fulls) (valid : h.WellFormed)
    (low : Symbol.empty < size) (replaces : h.registry.Replaces size bodies others) :
    Unfinished h size others fulls := by
  obtain ⟨normal, unfolds⟩ := unfinished
  cases replaces with
  | @place earlier later before after n fresh =>
    obtain ⟨front, behind⟩ := List.forall_mem_append.mp normal
    have bared : bare (before ++ n :: after) = bare before ++ n :: bare after := by
      have kept : n ≠ Symbol.empty := Nat.ne_of_gt (Nat.lt_of_lt_of_le low fresh)
      simp [bare, kept]
    have replaced : ((h.registry.bodiesOf n).map fun body => normalize (before ++ body ++ after)).map bare =
        (h.bodiesOf n).map (bare before ++ · ++ bare after) := by
      rw [stored_bodies valid, List.map_map, List.map_map]
      refine List.map_congr_left fun body chosen => ?_
      simp only [Function.comp_apply, bare_normalize]
      rw [bare, List.filter_append, List.filter_append]
      exact congrArg (bare before ++ · ++ bare after) (bare_stored valid chosen)
    constructor
    · refine List.forall_mem_append.mpr ⟨List.forall_mem_append.mpr ⟨front, fun part member => ?_⟩,
        (List.forall_mem_cons.mp behind).2⟩
      obtain ⟨body, _, rfl⟩ := List.mem_map.mp member
      exact congrArg shown (bare_normalize _)
    · rw [List.map_append, List.map_cons, bared] at unfolds
      obtain ⟨first, rest, rfl, start, unfolds⟩ := unfolds.of_bodies_append
      obtain ⟨part, last, rfl, here, finish⟩ := unfolds.of_cons
      rw [List.map_append, List.map_append, replaced, List.append_assoc]
      exact start.append ((here.replace fresh).append finish)

theorem run (unfinished : Unfinished h size bodies fulls) (valid : h.WellFormed)
    (low : Symbol.empty < size) (run : Relation.ReflTransGen (h.registry.Replaces size) bodies others) :
    Unfinished h size others fulls := by
  induction run with
  | refl => exact unfinished
  | tail _ step ih => exact ih.replace valid low step

theorem finished (unfinished : Unfinished h size bodies fulls)
    (old : ∀ body ∈ bodies, ∀ s ∈ body, s < size) : bodies = fulls.map shown := by
  have same : fulls = bodies.map bare := by
    apply unfinished.unfolds.of_old
    intro body member s inside
    obtain ⟨stored, listed, rfl⟩ := List.mem_map.mp member
    exact old stored listed s (List.mem_of_mem_filter inside)
  rw [same, List.map_map]
  exact ((List.map_congr_left unfinished.normal).trans (List.map_id bodies)).symm

end Unfinished

/-- At first the bodies are as the new rules have them. -/
theorem exists_unfinished (unfolding : g.Unfolding h) (valid : h.WellFormed) {s : Symbol}
    (nonterminal : s ∈ g.nonterminals) : ∃ fulls, Unfinished h g.size (h.registry.bodiesOf s) fulls ∧
      fulls.Perm (g.bodiesOf s) := by
  obtain ⟨fulls, unfolds, same⟩ := unfolding.bodies s nonterminal
  refine ⟨fulls, ⟨fun stored chosen => ?_, ?_⟩, same⟩
  · rw [stored_bodies valid] at chosen
    obtain ⟨body, produces, rfl⟩ := List.mem_map.mp chosen
    rw [normalize, bare_stored valid produces]
  · rw [stored_bodies valid, map_bare_shown fun _ produces => valid.empty_not_mem produces]
    exact unfolds

/-- In `r'`, every symbol that `r` does not have can be put back: it stands in one place, at the end of
a body, and is a fork; and when all of them are put back, the nonterminals of `r` have their bodies
again, each as often as before. -/
structure Reversible (r r' : Registry) : Prop where
  once : ∀ n ∈ r'.order, r.items.length ≤ n → (r'.order.flatMap r'.bodiesOf).flatten.count n = 1
  last : ∀ n ∈ r'.order, r.items.length ≤ n → ∃ s ∈ r'.order, ∃ body ∈ r'.bodiesOf s,
    body.getLast? = some n
  several : ∀ n ∈ r'.order, r.items.length ≤ n → 2 ≤ (r'.bodiesOf n).length
  apart : ∀ n ∈ r'.order, r.items.length ≤ n → ∀ s ≠ Symbol.empty, ∃ body ∈ r'.bodiesOf n,
    body.head? ≠ some s
  /-- There is no way to go on with replacements forever. -/
  ends : WellFounded fun others bodies => r'.Replaces r.items.length bodies others
  reached : ∀ s ∈ r.order, ∃ bodies,
    Relation.ReflTransGen (r'.Replaces r.items.length) (r'.bodiesOf s) bodies ∧
      ∀ body ∈ bodies, ∀ t ∈ body, t < r.items.length
  /-- Whatever the order of the replacements. -/
  restored : ∀ s ∈ r.order, ∀ bodies,
    Relation.ReflTransGen (r'.Replaces r.items.length) (r'.bodiesOf s) bodies →
      (∀ body ∈ bodies, ∀ t ∈ body, t < r.items.length) → bodies.Perm (r.bodiesOf s)

theorem count_shown {n : Symbol} (other : n ≠ Symbol.empty) (bodies : List Body) :
    (bodies.map shown).flatten.count n = bodies.flatten.count n := by
  induction bodies with
  | nil => rfl
  | cons body later ih =>
    rw [List.map_cons, List.flatten_cons, List.flatten_cons, List.count_append, List.count_append, ih]
    cases body with
    | nil => simp [shown, other.symm]
    | cons => rfl

theorem count_registry (valid : g.WellFormed) {n : Symbol} (other : n ≠ Symbol.empty) :
    (g.registry.order.flatMap g.registry.bodiesOf).flatten.count n =
      (g.rules.flatMap Rule.bodies).flatten.count n := by
  have stored : g.registry.order.flatMap g.registry.bodiesOf =
      (g.rules.flatMap Rule.bodies).map shown := by
    have order : g.registry.order = g.rules.map Rule.left := rfl
    rw [order, List.flatMap_map, List.map_flatMap]
    exact List.flatMap_congr fun rule listed => valid.numbered.bodiesOf_registry listed
  rw [stored, count_shown other]

/-- What factoring splits off can be put back. -/
theorem factored_reversible {r : Registry} (obtained : r.Obtained) (supply : NameSupply) :
    r.Reversible (r.factorWith supply).1 := by
  obtain ⟨g, reachable, rfl⟩ := obtained.exists_reachable
  have valid := reachable.wellFormed
  have valid' := valid.factored supply
  have unfolding := valid.unfolding supply
  have forked n := valid.forked_factorWith (n := n) supply
  have counted n := valid.count_factorWith (n := n) supply
  rw [factorWith_registry valid]
  generalize (g.factorWith supply).result = h at *
  have ends := replaces_wellFounded unfolding valid'
  have size : g.registry.items.length = g.size := next_registry
  constructor <;> rw [size]
  case once =>
    intro n nonterminal fresh
    have other : n ≠ Symbol.empty := Nat.ne_of_gt (Nat.lt_of_lt_of_le (Nat.succ_pos _) fresh)
    rw [count_registry valid' other]
    exact counted n nonterminal fresh
  case last =>
    intro n nonterminal fresh
    obtain ⟨left, body, produces, inside⟩ := exists_occurrence (counted n nonterminal fresh)
    obtain ⟨front, rfl, _⟩ := unfolding.last_new produces inside fresh
    refine ⟨left, produces.nonterminal, shown (front ++ [n]), ?_, by simp [shown]⟩
    rw [stored_bodies valid']
    exact List.mem_map_of_mem produces
  case several =>
    intro n nonterminal fresh
    rw [stored_bodies valid', List.length_map]
    exact (forked n nonterminal fresh).several
  case apart =>
    intro n nonterminal fresh s filled
    rw [stored_bodies valid']
    exact (forked n nonterminal fresh).apart_shown filled
  case ends => exact ends
  case reached => exact fun s _ => exists_replaced ends _
  case restored =>
    intro s nonterminal bodies run old
    obtain ⟨fulls, unfinished, same⟩ := exists_unfinished unfolding valid' nonterminal
    rw [(unfinished.run valid' (Nat.succ_pos _) run).finished old, stored_bodies valid]
    exact same.map shown

theorem scattered_reversible :
    scattered.factor = scatteredFactored ∧ scattered.Reversible scatteredFactored ∧
      Relation.ReflTransGen (scatteredFactored.Replaces 7) [[3, 7], [0], [0]]
        [[3, 4, 5], [3, 4, 6], [3], [0], [0]] ∧
      [[3, 4, 5], [3, 4, 6], [3], [0], [0]].Perm (scattered.bodiesOf 2) := by
  have factored : scattered.factor = scatteredFactored := by cbv
  have reversible := factored_reversible obtained_scattered scattered.ownSupply
  rw [← factor, factored] at reversible
  have first : scatteredFactored.Replaces 7 [[3, 7], [0], [0]] [[3, 4, 8], [3], [0], [0]] :=
    @Replaces.place scatteredFactored 7 [] [[0], [0]] [3] [] 7 (by decide)
  have second : scatteredFactored.Replaces 7 [[3, 4, 8], [3], [0], [0]]
      [[3, 4, 5], [3, 4, 6], [3], [0], [0]] :=
    @Replaces.place scatteredFactored 7 [] [[3], [0], [0]] [3, 4] [] 8 (by decide)
  have run := (Relation.ReflTransGen.single first).tail second
  exact ⟨factored, reversible, run, reversible.restored 2 (by decide) _ run (by decide)⟩

end Registry
end Predictive
