import Predictive.Proofs.EliminationOrder

/-! How an elimination goes on. It treats one rule after the other and stops only at a rule
that is not resolved within the limit or has no alternative to start with. A pass through rules
in order leaves a body unsettled only behind an empty alternative, so what counts those bounds
the passes. The bodies that come out derive from their left sides, introduced symbols apart. -/

namespace Predictive

theorem exists_mapM {α β : Type} {f : α → Option β} {items : List α}
    (each : ∀ a ∈ items, ∃ b, f a = some b) : ∃ results, items.mapM f = some results := by
  induction items with
  | nil => exact ⟨[], rfl⟩
  | cons a later ih =>
    obtain ⟨⟨b, first⟩, behind⟩ := List.forall_mem_cons.mp each
    obtain ⟨results, found⟩ := ih behind
    exact ⟨b :: results, by simp [List.mapM_cons, first, found]⟩

namespace LeftRecursion

variable {limit : Nat} {finished later : List Rule} {rule : Rule} {next : Symbol}

theorem resolve_settled {body : Body} (passes : Nat) (done : settled finished body = true) :
    resolve finished passes body = some [body] := by
  unfold resolve
  rw [if_pos done]

theorem exists_resolve_of_pass {passes : Nat} {body : Body}
    (each : ∀ b ∈ pass finished body, ∃ result, resolve finished passes b = some result) :
    ∃ result, resolve finished (passes + 1) body = some result := by
  by_cases done : settled finished body = true
  · exact ⟨[body], resolve_settled _ done⟩
  · obtain ⟨results, found⟩ := exists_mapM each
    refine ⟨results.flatten, ?_⟩
    unfold resolve
    rw [if_neg done]
    simp [found]

/-! The number of passes -/

/-- Each rule avoids its own left side and those before it. -/
inductive Ordered : List Rule → Prop where
  | nil : Ordered []
  | concat {finished : List Rule} {rule : Rule} (before : Ordered finished)
      (avoids : rule.Avoids (finished.map Rule.left ++ [rule.left])) : Ordered (finished ++ [rule])

/-- The weight does not grow where a finished rule is substituted and falls where nothing takes
the place of its left side. -/
def Weighs (weight : Body → Nat) (finished : List Rule) : Prop :=
  ∀ rule ∈ finished, ∀ front ∈ rule.bodies, ∀ rest,
    weight (front ++ rest) ≤ weight (rule.left :: rest) ∧
      (front = [] → weight rest < weight (rule.left :: rest))

section Weight

variable {weight : Body → Nat} (ordered : Ordered finished) (weighs : Weighs weight finished)

include ordered weighs

theorem settled_or_lighter (body : Body) : ∀ b ∈ pass finished body,
    weight b ≤ weight body ∧ (settled finished b = true ∨ weight b < weight body) := by
  induction ordered with
  | nil => simp [pass, settled]
  | @concat finished rule _ avoids ih =>
    obtain ⟨before, here⟩ := List.forall_mem_append.mp weighs
    replace here := here rule (List.mem_singleton_self rule)
    intro b member
    rw [pass, List.foldl_append] at member
    rcases mem_substitute.mp member with ⟨stays, other⟩ | ⟨front, chosen, rest, inside, rfl⟩
    · obtain ⟨bound, done | lighter⟩ := ih before b stays
      · refine ⟨bound, .inl (settled_iff.mpr ?_)⟩
        rw [List.map_append, List.forall_mem_append]
        exact ⟨settled_iff.mp done, List.forall_mem_singleton.mpr other⟩
      · exact ⟨bound, .inr lighter⟩
    · obtain ⟨bound, _⟩ := ih before _ inside
      obtain ⟨onward, falls⟩ := here front chosen rest
      refine ⟨onward.trans bound, ?_⟩
      -- Behind an empty alternative anything may come first, but the weight has fallen.
      cases front with
      | nil => exact .inr ((falls rfl).trans_le bound)
      | cons t front =>
        refine .inl (settled_iff.mpr fun s listed => avoids _ chosen s ?_)
        rwa [List.map_append] at listed

theorem exists_resolve_of_weight {passes : Nat} (body : Body) (enough : weight body < passes) :
    ∃ result, resolve finished passes body = some result := by
  induction passes generalizing body with
  | zero => exact absurd enough (Nat.not_lt_zero _)
  | succ passes ih =>
    refine exists_resolve_of_pass fun b member => ?_
    rcases (settled_or_lighter ordered weighs body b member).2 with done | lighter
    · exact ⟨[b], resolve_settled passes done⟩
    · exact ih b (lighter.trans_le (Nat.le_of_lt_succ enough))

end Weight

/-! The outcome, one rule at a time -/

theorem outcome_stuck (stuck : rule.bodies.mapM (resolve finished limit) = none) :
    (eliminate limit finished next (rule :: later)).outcome = .error [rule.left] := by
  simp [eliminate, stuck, Elimination.failed]

variable {parts : List (List Body)} (found : rule.bodies.mapM (resolve finished limit) = some parts)
include found

theorem outcome_keep (direct : tailsOf rule.left parts.flatten = []) :
    (eliminate limit finished next (rule :: later)).outcome =
      (eliminate limit (finished ++ [⟨rule.left, parts.flatten⟩]) next later).outcome.map
        ([⟨rule.left, parts.flatten⟩] ++ ·) := by
  simp [eliminate, found, direct, Elimination.adding]

theorem outcome_split (recursive : tailsOf rule.left parts.flatten ≠ [])
    (founded : notBeginning rule.left parts.flatten ≠ []) :
    (eliminate limit finished next (rule :: later)).outcome =
      (eliminate limit (finished ++ [restarted rule.left next parts.flatten]) (next + 1)
        later).outcome.map
        ([restarted rule.left next parts.flatten, repetition rule.left next parts.flatten] ++ ·) := by
  simp [eliminate, found, recursive, founded, Elimination.adding, Elimination.introducing, restarted,
    repetition]

omit found

/-- An invariant of the treatment under which each recursive rule has something to start with,
and what it gives for the rules that come out. -/
structure Course (invariant : List Rule → Symbol → List Rule → Prop) (holds : Rule → Prop) : Prop where
  keep : ∀ {finished next rule later bodies}, invariant finished next (rule :: later) →
    Resolved finished rule.bodies bodies → tailsOf rule.left bodies = [] →
      holds ⟨rule.left, bodies⟩ ∧ invariant (finished ++ [⟨rule.left, bodies⟩]) next later
  split : ∀ {finished next rule later bodies}, invariant finished next (rule :: later) →
    Resolved finished rule.bodies bodies → tailsOf rule.left bodies ≠ [] →
      notBeginning rule.left bodies ≠ [] ∧
        holds (restarted rule.left next bodies) ∧ holds (repetition rule.left next bodies) ∧
        invariant (finished ++ [restarted rule.left next bodies]) (next + 1) later

variable {invariant : List Rule → Symbol → List Rule → Prop} {holds : Rule → Prop}

/-- Such a treatment ends well, or at a rule that the limit is too low for. -/
theorem Course.outcome (course : Course invariant holds) (limit : Nat) (start : invariant finished next later) :
    (∃ rules, (eliminate limit finished next later).outcome = .ok rules ∧ ∀ rule ∈ rules, holds rule) ∨
      ∃ rule ∈ later, (eliminate limit finished next later).outcome = .error [rule.left] ∧
        ∃ finished next later, invariant finished next (rule :: later) ∧
          rule.bodies.mapM (resolve finished limit) = none := by
  induction later generalizing finished next with
  | nil => exact .inl ⟨[], rfl, by simp⟩
  | cons rule later ih =>
    cases found : rule.bodies.mapM (resolve finished limit) with
    | none => exact .inr ⟨rule, List.mem_cons_self, outcome_stuck found, _, _, _, start, found⟩
    | some parts =>
      have resolved := resolved_of_mapM found
      by_cases direct : tailsOf rule.left parts.flatten = []
      · obtain ⟨here, onward⟩ := course.keep start resolved direct
        rw [outcome_keep found direct]
        rcases ih onward with ⟨rules, done, all⟩ | ⟨other, listed, failed, stuck⟩
        · exact .inl ⟨_ :: rules, by rw [done]; rfl, List.forall_mem_cons.mpr ⟨here, all⟩⟩
        · exact .inr ⟨other, List.mem_cons_of_mem _ listed, by rw [failed]; rfl, stuck⟩
      · obtain ⟨founded, first, second, onward⟩ := course.split start resolved direct
        rw [outcome_split found direct founded]
        rcases ih onward with ⟨rules, done, all⟩ | ⟨other, listed, failed, stuck⟩
        · exact .inl ⟨_ :: _ :: rules, by rw [done]; rfl,
            List.forall_mem_cons.mpr ⟨first, List.forall_mem_cons.mpr ⟨second, all⟩⟩⟩
        · exact .inr ⟨other, List.mem_cons_of_mem _ listed, by rw [failed]; rfl, stuck⟩

/-! The bodies and derivations -/

variable {g : Grammar}

/-- The body without the symbols that were introduced. -/
def oldPart (g : Grammar) (body : Body) : Body := body.filter (· < g.size)

theorem oldPart_append (first second : Body) :
    oldPart g (first ++ second) = oldPart g first ++ oldPart g second :=
  List.filter_append ..

theorem oldPart_eq {body : Body} (old : ∀ s ∈ body, s < g.size) : oldPart g body = body :=
  List.filter_eq_self.mpr fun s member => decide_eq_true (old s member)

theorem oldPart_cons {s : Symbol} (old : s < g.size) (rest : Body) :
    oldPart g (s :: rest) = s :: oldPart g rest :=
  List.filter_cons_of_pos (decide_eq_true old)

theorem oldPart_concat (fresh : g.size ≤ next) (body : Body) :
    oldPart g (body ++ [next]) = oldPart g body := by
  simp [oldPart, fresh]

/-- What the bodies of the rule are made of derives from its left side in the old grammar. -/
structure Derived (g : Grammar) (rule : Rule) : Prop where
  left : rule.left < g.size
  bodies : ∀ body ∈ rule.bodies, g.DerivesPlus [rule.left] (oldPart g body)

theorem derived_of_listed (valid : g.WellFormed) (listed : rule ∈ g.rules) : Derived g rule where
  left := (valid.rules rule listed).left.2
  bodies body chosen := by
    have produces : g.Produces rule.left body := Grammar.produces_iff.mpr ⟨rule, listed, rfl, chosen⟩
    rw [oldPart_eq fun s member => (valid.body_bounds produces member).2]
    exact .single produces.step

theorem Derived.resolved {bodies : List Body} (derived : Derived g rule)
    (before : ∀ rule ∈ finished, Derived g rule) (resolved : Resolved finished rule.bodies bodies) :
    Derived g ⟨rule.left, bodies⟩ where
  left := derived.left
  bodies := by
    refine resolved.all_keep ?_ derived.bodies
    intro other listed rest derives body chosen
    obtain ⟨old, derived⟩ := before other listed
    rw [oldPart_cons old] at derives
    rw [oldPart_append]
    exact derives.trans ((derived body chosen).append_right (oldPart g rest))

theorem Derived.restarted {bodies : List Body} (derived : Derived g ⟨rule.left, bodies⟩)
    (fresh : g.size ≤ next) : Derived g (restarted rule.left next bodies) where
  left := derived.left
  bodies body member := by
    obtain ⟨base, kept, rfl⟩ := List.mem_map.mp member
    rw [oldPart_concat fresh]
    exact derived.bodies base (List.mem_filter.mp kept).1

/-- A body that begins with its left side shows a left recursion. -/
theorem Derived.tail {rest : Body} (derived : Derived g rule)
    (tail : rest ∈ tailsOf rule.left rule.bodies) :
    g.DerivesPlus [rule.left] (rule.left :: oldPart g rest) := by
  have derives := derived.bodies _ (mem_tailsOf.mp tail)
  rwa [oldPart_cons derived.left] at derives

end LeftRecursion

namespace Grammar

variable {g : Grammar}

variable (supply : NameSupply) (reducible : g.selfDerivation? = none)
include reducible

theorem eliminated_of_outcome {rules : List Rule}
    (ended : (LeftRecursion.eliminate g.passLimit [] g.size g.rules).outcome = .ok rules)
    (acyclic : ∀ h : Grammar, h.rules = rules → h.leftRecursion? = none) :
    ∃ h, (g.eliminateLeftRecursionWith supply).result = .ok h := by
  let named := (g.introduce (supply.reserveGrammar g)
    (LeftRecursion.eliminate g.passLimit [] g.size g.rules).introduced).result
  have free : ({ named with rules } : Grammar).leftRecursion? = none := acyclic _ rfl
  refine ⟨{ named with rules }, ?_⟩
  unfold eliminateLeftRecursionWith
  simp only [reducible, ended]
  rw [free]

theorem refused_of_outcome {s : Symbol} (declared : s < g.size)
    (ended : (LeftRecursion.eliminate g.passLimit [] g.size g.rules).outcome = .error [s]) :
    (g.eliminateLeftRecursionWith supply).result = .error (g.irreducible [s]) := by
  unfold eliminateLeftRecursionWith
  simp [reducible, ended, irreducible, nameOf_introduce _ _ _ declared]

end Grammar
end Predictive
