import Predictive.LeftRecursion.Elimination
import Predictive.Proofs.Naming
import Predictive.Proofs.WellFormed

/-! What an elimination that succeeds has done, one rule after the other. Everything that
is true of its result is shown along these two relations and not along the search. -/

namespace Predictive.LeftRecursion

/-- `result` comes from `bodies` by passes over those that are not settled. -/
inductive Resolved (finished : List Rule) : List Body → List Body → Prop where
  | nil : Resolved finished [] []
  | kept {body bodies result} (settled : settled finished body = true)
      (rest : Resolved finished bodies result) : Resolved finished (body :: bodies) (body :: result)
  | passed {body bodies first result} (onward : Resolved finished (pass finished body) first)
      (rest : Resolved finished bodies result) :
      Resolved finished (body :: bodies) (first ++ result)

/-- A pass is one substitution after the other. -/
theorem pass_induction {finished : List Rule} {body : Body} (holds : List Body → Prop)
    (start : holds [body])
    (substitute : ∀ rule ∈ finished, ∀ bodies, holds bodies → holds (rule.substitute bodies)) :
    holds (pass finished body) :=
  List.foldlRecOn finished _ start fun bodies before rule listed =>
    substitute rule listed bodies before

/-- A body stays, or it has the finished nonterminal at its front replaced. -/
theorem mem_substitute {rule : Rule} {bodies : List Body} {body : Body} :
    body ∈ rule.substitute bodies ↔ (body ∈ bodies ∧ body.head? ≠ some rule.left) ∨
      ∃ front ∈ rule.bodies, ∃ rest, rule.left :: rest ∈ bodies ∧ body = front ++ rest := by
  rw [Rule.substitute, List.mem_flatMap]
  constructor
  · rintro ⟨old, inside, member⟩
    cases old with
    | nil =>
      obtain rfl := List.mem_singleton.mp member
      exact .inl ⟨inside, by simp⟩
    | cons s rest =>
      dsimp only at member
      split at member
      next same =>
        obtain ⟨front, chosen, rfl⟩ := List.mem_map.mp member
        exact .inr ⟨front, chosen, rest, same ▸ inside, rfl⟩
      next other =>
        obtain rfl := List.mem_singleton.mp member
        exact .inl ⟨inside, by simpa using other⟩
  · rintro (⟨inside, other⟩ | ⟨front, chosen, rest, inside, rfl⟩)
    · refine ⟨body, inside, ?_⟩
      cases body with
      | nil => exact List.mem_singleton_self []
      | cons s rest => simp_all
    · exact ⟨_, inside, by simp [chosen]⟩

theorem Resolved.append {finished : List Rule} {first second result result' : List Body}
    (resolved : Resolved finished first result) (resolved' : Resolved finished second result') :
    Resolved finished (first ++ second) (result ++ result') := by
  induction resolved with
  | nil => exact resolved'
  | kept settled _ ih => exact .kept settled ih
  | passed onward _ _ ih =>
    rw [List.append_assoc]
    exact .passed onward ih

private theorem resolved_of_parts {finished : List Rule} {passes : Nat} {bodies : List Body}
    {parts : List (List Body)}
    (single : ∀ body result, resolve finished passes body = some result →
      Resolved finished [body] result)
    (found : bodies.mapM (resolve finished passes) = some parts) :
    Resolved finished bodies parts.flatten := by
  induction bodies generalizing parts with
  | nil =>
    obtain rfl : parts = [] := by simpa using found.symm
    exact .nil
  | cons body later ih =>
    rw [List.mapM_cons] at found
    obtain ⟨first, here, found⟩ := Option.bind_eq_some_iff.mp found
    obtain ⟨others, there, same⟩ := Option.bind_eq_some_iff.mp found
    obtain rfl := Option.some.inj same
    exact (single body first here).append (ih there)

theorem resolved_of_resolve {finished : List Rule} {passes : Nat} {body : Body}
    {result : List Body} (found : resolve finished passes body = some result) :
    Resolved finished [body] result := by
  induction passes generalizing body result with
  | zero =>
    unfold resolve at found
    split at found
    next settled =>
      obtain rfl := Option.some.inj found
      exact .kept settled .nil
    · cases found
  | succ passes ih =>
    unfold resolve at found
    split at found
    next settled =>
      obtain rfl := Option.some.inj found
      exact .kept settled .nil
    next =>
      obtain ⟨parts, passed, rfl⟩ := Option.map_eq_some_iff.mp found
      have onward := resolved_of_parts (fun body result => ih) passed
      simpa using Resolved.passed onward .nil

/-- What is resolved body by body is resolved. -/
theorem resolved_of_mapM {finished : List Rule} {passes : Nat} {bodies : List Body}
    {parts : List (List Body)} (found : bodies.mapM (resolve finished passes) = some parts) :
    Resolved finished bodies parts.flatten :=
  resolved_of_parts (fun _ _ => resolved_of_resolve) found

namespace Resolved

variable {finished : List Rule} {bodies result : List Body}

theorem all_settled (resolved : Resolved finished bodies result) :
    ∀ body ∈ result, settled finished body = true := by
  induction resolved with
  | nil => simp
  | kept settled _ ih => exact List.forall_mem_cons.mpr ⟨settled, ih⟩
  | passed _ _ first later => exact List.forall_mem_append.mpr ⟨first, later⟩

/-- What substituting a finished rule keeps holds of the result. -/
theorem all_keep {holds : Body → Prop}
    (keep : ∀ rule ∈ finished, ∀ rest, holds (rule.left :: rest) → ∀ body ∈ rule.bodies,
      holds (body ++ rest))
    (resolved : Resolved finished bodies result) (before : ∀ body ∈ bodies, holds body) :
    ∀ body ∈ result, holds body := by
  have substitute : ∀ rule ∈ finished, ∀ bodies, (∀ body ∈ bodies, holds body) →
      ∀ body ∈ rule.substitute bodies, holds body := by
    intro rule listed bodies before body member
    rcases mem_substitute.mp member with ⟨stays, _⟩ | ⟨front, chosen, rest, inside, rfl⟩
    · exact before body stays
    · exact keep rule listed rest (before _ inside) front chosen
  induction resolved with
  | nil => exact before
  | kept _ _ ih =>
    obtain ⟨here, later⟩ := List.forall_mem_cons.mp before
    exact List.forall_mem_cons.mpr ⟨here, ih later⟩
  | passed _ _ onward ih =>
    obtain ⟨here, later⟩ := List.forall_mem_cons.mp before
    have passed := pass_induction _ (List.forall_mem_singleton.mpr here) substitute
    exact List.forall_mem_append.mpr ⟨onward passed, ih later⟩

/-- What some alternative of each finished rule keeps, some body of the result has. -/
theorem exists_keep (holds : Body → Prop)
    (keep : ∀ rule ∈ finished, ∀ rest, holds (rule.left :: rest) →
      ∃ body ∈ rule.bodies, holds (body ++ rest))
    (resolved : Resolved finished bodies result) (before : ∃ body ∈ bodies, holds body) :
    ∃ body ∈ result, holds body := by
  have substitute : ∀ rule ∈ finished, ∀ bodies, (∃ body ∈ bodies, holds body) →
      ∃ body ∈ rule.substitute bodies, holds body := by
    rintro rule listed bodies ⟨body, inside, here⟩
    by_cases begins : body.head? = some rule.left
    · obtain ⟨rest, rfl⟩ := List.head?_eq_some_iff.mp begins
      obtain ⟨front, chosen, kept⟩ := keep rule listed rest here
      exact ⟨front ++ rest, mem_substitute.mpr (.inr ⟨front, chosen, rest, inside, rfl⟩), kept⟩
    · exact ⟨body, mem_substitute.mpr (.inl ⟨inside, begins⟩), here⟩
  induction resolved with
  | nil => exact before
  | @kept body bodies result _ _ ih =>
    obtain ⟨found, inside, here⟩ := before
    rcases List.mem_cons.mp inside with rfl | later
    · exact ⟨found, List.mem_cons_self, here⟩
    · obtain ⟨last, member, kept⟩ := ih ⟨found, later, here⟩
      exact ⟨last, List.mem_cons_of_mem _ member, kept⟩
  | @passed body bodies first result _ _ onward ih =>
    obtain ⟨found, inside, here⟩ := before
    rcases List.mem_cons.mp inside with rfl | later
    · have passed := pass_induction (∃ body ∈ ·, holds body)
        ⟨found, List.mem_singleton_self found, here⟩ substitute
      obtain ⟨last, member, kept⟩ := onward passed
      exact ⟨last, List.mem_append_left _ member, kept⟩
    · obtain ⟨last, member, kept⟩ := ih ⟨found, later, here⟩
      exact ⟨last, List.mem_append_right _ member, kept⟩

theorem ne_nil (filled : ∀ rule ∈ finished, rule.bodies ≠ [])
    (resolved : Resolved finished bodies result) (nonempty : bodies ≠ []) : result ≠ [] := by
  obtain ⟨body, inside⟩ := List.exists_mem_of_ne_nil _ nonempty
  obtain ⟨last, member, _⟩ := resolved.exists_keep (fun _ => True) (fun rule listed _ _ => by
    obtain ⟨front, chosen⟩ := List.exists_mem_of_ne_nil _ (filled rule listed)
    exact ⟨front, chosen, trivial⟩) ⟨body, inside, trivial⟩
  exact List.ne_nil_of_mem member

end Resolved

/-- The alternatives that do not begin with the left side, each continued by `next`. -/
def restarted (left next : Symbol) (bodies : List Body) : Rule :=
  ⟨left, (notBeginning left bodies).map (· ++ [next])⟩

/-- What stands behind the left side, any number of times. -/
def repetition (left next : Symbol) (bodies : List Body) : Rule :=
  ⟨next, (tailsOf left bodies).map (· ++ [next]) ++ [[]]⟩

inductive Eliminates : List Rule → Symbol → List Rule → List Introduction → List Rule → Prop where
  | nil {finished next} : Eliminates finished next [] [] []
  | keep {finished next rule later introduced rules bodies}
      (resolved : Resolved finished rule.bodies bodies) (direct : tailsOf rule.left bodies = [])
      (rest : Eliminates (finished ++ [⟨rule.left, bodies⟩]) next later introduced rules) :
      Eliminates finished next (rule :: later) introduced (⟨rule.left, bodies⟩ :: rules)
  | split {finished next rule later introduced rules bodies}
      (resolved : Resolved finished rule.bodies bodies)
      (founded : notBeginning rule.left bodies ≠ [])
      (rest : Eliminates (finished ++ [restarted rule.left next bodies]) (next + 1) later
        introduced rules) :
      Eliminates finished next (rule :: later) (⟨rule.left, .leftRecursion⟩ :: introduced)
        (restarted rule.left next bodies :: repetition rule.left next bodies :: rules)

private theorem except_map_ok {ε α β : Type} {f : α → β} {result : Except ε α} {b : β}
    (done : result.map f = .ok b) : ∃ a, result = .ok a ∧ f a = b := by
  cases result with
  | error _ => cases done
  | ok a => exact ⟨a, rfl, Except.ok.inj done⟩

theorem eliminates_of_ok {limit : Nat} {finished later rules : List Rule} {next : Symbol}
    (done : (eliminate limit finished next later).outcome = .ok rules) :
    Eliminates finished next later (eliminate limit finished next later).introduced rules := by
  induction later generalizing finished next rules with
  | nil =>
    obtain rfl := Except.ok.inj done
    exact .nil
  | cons rule later ih =>
    unfold eliminate at done ⊢
    split at done
    · cases done
    next parts found =>
      have resolved := resolved_of_mapM found
      dsimp only at done ⊢
      split at done
      next direct =>
        rw [if_pos direct]
        obtain ⟨others, rest, rfl⟩ := except_map_ok done
        exact .keep resolved (List.isEmpty_iff.mp direct) (ih rest)
      next recursive =>
        rw [if_neg recursive]
        split at done
        · cases done
        next founded =>
          rw [if_neg founded]
          obtain ⟨others, rest, rfl⟩ := except_map_ok done
          exact .split resolved (by simpa using founded) (ih rest)

namespace Eliminates

variable {finished later rules : List Rule} {next : Symbol} {introduced : List Introduction}

private theorem first_of_range {n first count : Nat} :
    n = first ∨ first + 1 ≤ n ∧ n < first + 1 + count ↔
      first ≤ n ∧ n < first + (count + 1) := by
  omega

theorem lefts (done : Eliminates finished next later introduced rules) (s : Symbol) :
    s ∈ rules.map Rule.left ↔
      s ∈ later.map Rule.left ∨ next ≤ s ∧ s < next + introduced.length := by
  induction done with
  | @nil finished next =>
    simp only [List.map_nil, List.not_mem_nil, List.length_nil, false_or, Nat.add_zero]
    exact ⟨False.elim, fun bounds => Nat.lt_irrefl _ (Nat.lt_of_le_of_lt bounds.1 bounds.2)⟩
  | keep _ _ _ ih =>
    rw [List.map_cons, List.map_cons, List.mem_cons, List.mem_cons, ih, or_assoc]
  | @split finished next rule later introduced rules bodies _ _ _ ih =>
    rw [List.map_cons, List.map_cons, List.map_cons, List.mem_cons, List.mem_cons, List.mem_cons,
      ih, List.length_cons, ← first_of_range]
    simp only [restarted, repetition, or_assoc, or_left_comm]

theorem distinct (done : Eliminates finished next later introduced rules)
    (before : (later.map Rule.left).Nodup) (below : ∀ s ∈ later.map Rule.left, s < next) :
    (rules.map Rule.left).Nodup := by
  induction done with
  | nil => exact before
  | @keep finished next rule later introduced rules bodies _ _ rest ih =>
    obtain ⟨fresh, others⟩ := List.nodup_cons.mp before
    obtain ⟨low, lower⟩ := List.forall_mem_cons.mp below
    refine List.nodup_cons.mpr ⟨fun member => ?_, ih others lower⟩
    rcases (rest.lefts _).mp member with again | ⟨high, _⟩
    · exact fresh again
    · exact Nat.lt_irrefl _ (Nat.lt_of_le_of_lt high low)
  | @split finished next rule later introduced rules bodies _ _ rest ih =>
    obtain ⟨fresh, others⟩ := List.nodup_cons.mp before
    obtain ⟨low, lower⟩ := List.forall_mem_cons.mp below
    have tail := ih others fun s member => Nat.lt_succ_of_lt (lower s member)
    refine List.nodup_cons.mpr ⟨fun member => ?_, List.nodup_cons.mpr ⟨fun member => ?_, tail⟩⟩
    · rcases List.mem_cons.mp member with same | member
      · exact Nat.ne_of_lt low same
      · rcases (rest.lefts _).mp member with again | ⟨high, _⟩
        · exact fresh again
        · exact Nat.lt_irrefl _ (Nat.lt_trans high low)
    · rcases (rest.lefts _).mp member with again | ⟨high, _⟩
      · exact Nat.lt_irrefl _ (lower _ again)
      · exact Nat.lt_irrefl _ high

/-- The symbols of the bodies stay below a bound under substitution. -/
theorem bounds_of_resolved {size : Nat} {bodies result : List Body}
    (finishedWithin : ∀ rule ∈ finished, rule.Within size)
    (resolved : Resolved finished bodies result)
    (before : ∀ body ∈ bodies, ∀ s ∈ body, 0 < s ∧ s < size) :
    ∀ body ∈ result, ∀ s ∈ body, 0 < s ∧ s < size := by
  refine resolved.all_keep ?_ before
  intro rule listed rest bounds body chosen
  obtain ⟨_, bounds⟩ := List.forall_mem_cons.mp bounds
  exact List.forall_mem_append.mpr ⟨(finishedWithin rule listed).symbols body chosen, bounds⟩

theorem kept_within {size : Nat} {rule : Rule} {bodies : List Body}
    (finishedWithin : ∀ rule ∈ finished, rule.Within size) (within : rule.Within size)
    (resolved : Resolved finished rule.bodies bodies) : Rule.Within size ⟨rule.left, bodies⟩ where
  left := within.left
  bodies := resolved.ne_nil (fun rule listed => (finishedWithin rule listed).bodies) within.bodies
  symbols := bounds_of_resolved finishedWithin resolved within.symbols

private theorem bounds_append {size : Nat} {next : Symbol} {bodies : List Body} (positive : 0 < next)
    (bound : next < size) (bounds : ∀ body ∈ bodies, ∀ s ∈ body, 0 < s ∧ s < next) :
    ∀ body ∈ bodies.map (· ++ [next]), ∀ s ∈ body, 0 < s ∧ s < size := by
  intro body member
  obtain ⟨old, inside, rfl⟩ := List.mem_map.mp member
  exact bounds_concat (bounds old inside) positive bound

theorem restarted_within {next : Symbol} {rule : Rule} {bodies : List Body}
    (within : rule.Within next) (founded : notBeginning rule.left bodies ≠ [])
    (bounds : ∀ body ∈ bodies, ∀ s ∈ body, 0 < s ∧ s < next) :
    (restarted rule.left next bodies).Within (next + 1) := by
  obtain ⟨low, below⟩ := within.left
  refine ⟨⟨low, Nat.lt_succ_of_lt below⟩, by simpa [restarted] using founded, ?_⟩
  apply bounds_append (Nat.zero_lt_of_lt below) (Nat.lt_succ_self next)
  intro body member
  exact bounds body (List.mem_filter.mp member).1

theorem repetition_within {next : Symbol} {rule : Rule} {bodies : List Body}
    (within : rule.Within next) (bounds : ∀ body ∈ bodies, ∀ s ∈ body, 0 < s ∧ s < next) :
    (repetition rule.left next bodies).Within (next + 1) := by
  obtain ⟨low, below⟩ := within.left
  refine ⟨⟨Nat.le_trans low (Nat.le_of_lt below), Nat.lt_succ_self next⟩, by simp [repetition], ?_⟩
  refine List.forall_mem_append.mpr ⟨?_, by simp⟩
  exact bounds_append (Nat.zero_lt_of_lt below) (Nat.lt_succ_self next) (bounds_of_tailsOf bounds)

theorem within (done : Eliminates finished next later introduced rules)
    (finishedWithin : ∀ rule ∈ finished, rule.Within next)
    (laterWithin : ∀ rule ∈ later, rule.Within next) :
    ∀ rule ∈ rules, rule.Within (next + introduced.length) := by
  induction done with
  | nil => simp
  | @keep finished next rule later introduced rules bodies resolved _ _ ih =>
    obtain ⟨here, others⟩ := List.forall_mem_cons.mp laterWithin
    have kept := kept_within finishedWithin here resolved
    refine List.forall_mem_cons.mpr ⟨kept.mono (Nat.le_add_right _ _), ih ?_ others⟩
    exact List.forall_mem_append.mpr ⟨finishedWithin, List.forall_mem_singleton.mpr kept⟩
  | @split finished next rule later introduced rules bodies resolved founded _ ih =>
    obtain ⟨here, others⟩ := List.forall_mem_cons.mp laterWithin
    have bounds := bounds_of_resolved finishedWithin resolved here.symbols
    have first := restarted_within here founded bounds
    have total : next + 1 + introduced.length = next + (introduced.length + 1) := by
      rw [Nat.add_assoc, Nat.add_comm 1]
    have rest := ih (List.forall_mem_append.mpr
      ⟨fun rule listed => (finishedWithin rule listed).mono (Nat.le_succ _),
        List.forall_mem_singleton.mpr first⟩)
      fun rule listed => (others rule listed).mono (Nat.le_succ _)
    rw [total] at rest
    have larger : next + 1 ≤ next + (introduced.length + 1) := total ▸ Nat.le_add_right _ _
    exact List.forall_mem_cons.mpr ⟨first.mono larger,
      List.forall_mem_cons.mpr ⟨(repetition_within here bounds).mono larger, rest⟩⟩

end Eliminates
end Predictive.LeftRecursion

namespace Predictive.Grammar

variable {g h : Grammar}

/-- An elimination that succeeds gives the rules of its outcome to the grammar with the new names. -/
theorem outcome_of_eliminateLeftRecursion {supply : NameSupply}
    (done : (g.eliminateLeftRecursionWith supply).result = .ok h) :
    (LeftRecursion.eliminate g.passLimit [] g.size g.rules).outcome = .ok h.rules ∧
      h = { (g.introduce (supply.reserveGrammar g)
        (LeftRecursion.eliminate g.passLimit [] g.size g.rules).introduced).result with
          rules := h.rules } ∧
      h.leftRecursion? = none := by
  unfold eliminateLeftRecursionWith at done
  dsimp only at done
  split at done
  · cases done
  · dsimp only at done
    split at done
    · cases done
    next rules ended =>
      split at done
      · cases done
      next acyclic =>
        obtain rfl := Except.ok.inj done
        exact ⟨ended, rfl, acyclic⟩

/-- Elimination that succeeds extends the grammar by the symbols it introduces, eliminates
rule by rule, and leaves no cycle of left corners. -/
theorem eliminates_of_eliminateLeftRecursion {supply : NameSupply}
    (done : (g.eliminateLeftRecursionWith supply).result = .ok h) :
    ∃ introduced, LeftRecursion.Eliminates [] g.size g.rules introduced h.rules ∧
      g.Extends h introduced.length ∧ h.leftRecursion? = none := by
  obtain ⟨ended, same, acyclic⟩ := outcome_of_eliminateLeftRecursion done
  have extension := extends_introduce g supply
    (LeftRecursion.eliminate g.passLimit [] g.size g.rules).introduced h.rules
  rw [← same] at extension
  exact ⟨_, LeftRecursion.eliminates_of_ok ended, extension, acyclic⟩

theorem WellFormed.of_eliminates {introduced : List Introduction} (valid : g.WellFormed)
    (eliminates : LeftRecursion.Eliminates [] g.size g.rules introduced h.rules)
    (extension : g.Extends h introduced.length) : h.WellFormed := by
  refine valid.of_extends extension ?_ (eliminates.within (by simp) valid.rules) fun s member => ?_
  · exact eliminates.distinct valid.lefts fun s member => (valid.nonterminal_bounds member).2
  · exact (eliminates.lefts s).mpr (.inl member)

theorem WellFormed.eliminated {supply : NameSupply} (valid : g.WellFormed)
    (done : (g.eliminateLeftRecursionWith supply).result = .ok h) : h.WellFormed := by
  obtain ⟨introduced, eliminates, extension, _⟩ := eliminates_of_eliminateLeftRecursion done
  exact valid.of_eliminates eliminates extension

end Predictive.Grammar
