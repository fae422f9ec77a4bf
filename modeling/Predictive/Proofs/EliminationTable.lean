import Predictive.Proofs.Alternatives
import Predictive.Proofs.Comparison
import Predictive.Proofs.LeftRecursionConflict
import Predictive.Proofs.PassLimit

/-! Elimination brings no conflict in. A grammar without conflicts, all of whose nonterminals are of
use, is not left recursive, so no rule is split and all that elimination does is to substitute. Where
the alternatives of a finished nonterminal take its place at the front of a body, a letter that
announces one of the results announces the body as well as the alternative; so it announces one of
them at most, and none if it did not announce the body. This is told throughout by what the old
grammar has ahead: the new one has no more. -/

namespace Predictive

namespace Grammar

variable {g h : Grammar} {start letter s t : Symbol} {body last front rest : Body}

theorem announces_of_implied (implied : ∀ s body, h.Produces s body → g.Derives [s] body)
    (starts : h.start = g.start) (lefts : h.nonterminals = g.nonterminals) (valid : g.WellFormed)
    (valid' : h.WellFormed) (root : g.start = some start) (sizes : h.size = g.size)
    (announced : h.announces letter s body = true) : g.announces letter s body = true := by
  obtain ⟨listed, ahead⟩ := (announces_iff valid' (starts.trans root)).mp announced
  have letters : letter ∈ g.letters := by
    rw [mem_letters valid, ← sizes, ← lefts, ← mem_letters valid']
    exact listed
  refine (announces_iff valid root).mpr ⟨letters, ahead.imp ?_ ?_⟩
  · exact bodyBegins_of_implied implied
  · exact And.imp (bodyVanishes_of_implied implied)
      (follows_of_implied implied starts fun _ member => lefts ▸ member)

/-! One substitution -/

section Substitution

variable (valid : g.WellFormed) (starts : g.start = some start)

include valid starts

theorem announces_of_derives (derives : g.Derives body last)
    (announced : g.announces letter s last = true) : g.announces letter s body = true := by
  obtain ⟨listed, ahead⟩ := (announces_iff valid starts).mp announced
  refine (announces_iff valid starts).mpr ⟨listed, ahead.imp (fun begins => ?_) ?_⟩
  · obtain ⟨later, derives'⟩ := bodyBegins_iff_derives.mp begins
    exact bodyBegins_iff_derives.mpr ⟨later, derives.trans derives'⟩
  · rintro ⟨vanish, follows⟩
    exact ⟨bodyVanishes_iff_derives.mpr (derives.trans (bodyVanishes_iff_derives.mp vanish)), follows⟩

/-- What announces a body announces what it begins with, in place of the nonterminal that stood
there. -/
theorem announces_front (derives : g.Derives [s] (t :: rest)) (nonterminal : t ∈ g.nonterminals)
    (announced : g.announces letter s (front ++ rest) = true) :
    g.announces letter t front = true := by
  obtain ⟨listed, ahead⟩ := (announces_iff valid starts).mp announced
  refine (announces_iff valid starts).mpr ⟨listed, ?_⟩
  rw [bodyBegins_append, bodyVanishes_append] at ahead
  have place : g.Derives [s] ([] ++ t :: rest) := derives
  have behind : g.BodyBegins letter rest ∨ g.BodyVanishes rest ∧ g.Follows letter s →
      g.Follows letter t := follows_of_behind place nonterminal
  rcases ahead with (begins | ⟨vanish, begins⟩) | ⟨⟨vanish, gone⟩, follows⟩
  · exact .inl begins
  · exact .inr ⟨vanish, behind (.inl begins)⟩
  · exact .inr ⟨vanish, behind (.inr ⟨gone, follows⟩)⟩

end Substitution
end Grammar

namespace LeftRecursion

variable {g : Grammar} {start left letter : Symbol} {finished : List Rule}

/-- The rule says nothing new, and no letter announces two of its alternatives. -/
structure Discerning (g : Grammar) (rule : Rule) : Prop where
  implied : Implied g rule
  single : ∀ letter, rule.bodies.countP (g.announces letter rule.left) ≤ 1

section Counting

variable (valid : g.WellFormed) (starts : g.start = some start)

include valid starts

/-- Of the alternatives that take the place of a nonterminal, a letter announces one if it announced
the body, and none if it did not. -/
theorem countP_alternatives {rule : Rule} (discerning : Discerning g rule) {rest : Body}
    (derives : g.Derives [left] (rule.left :: rest)) :
    (rule.bodies.map (· ++ rest)).countP (g.announces letter left) ≤
      [rule.left :: rest].countP (g.announces letter left) := by
  obtain ⟨body, chosen⟩ := List.exists_mem_of_ne_nil _ discerning.implied.within.bodies
  have nonterminal := Grammar.nonterminal_of_derivesPlus (discerning.implied.derives chosen)
  rw [List.countP_map]
  by_cases announced : g.announces letter left (rule.left :: rest) = true
  · rw [List.countP_singleton, if_pos announced]
    refine (List.countP_mono_left fun front _ here => ?_).trans (discerning.single letter)
    exact Grammar.announces_front valid starts derives nonterminal here
  · rw [List.countP_eq_zero.mpr]
    · exact Nat.zero_le _
    · intro front chosen here
      have onward := (discerning.implied.derives chosen).append_right rest
      exact announced (Grammar.announces_of_derives valid starts onward.to_reflTransGen here)

theorem countP_substitute {rule : Rule} (discerning : Discerning g rule) {bodies : List Body}
    (derives : ∀ body ∈ bodies, g.Derives [left] body) :
    (rule.substitute bodies).countP (g.announces letter left) ≤
      bodies.countP (g.announces letter left) := by
  induction bodies with
  | nil => exact Nat.le_refl 0
  | cons body later ih =>
    obtain ⟨here, behind⟩ := List.forall_mem_cons.mp derives
    have split : rule.substitute (body :: later) = rule.substitute [body] ++ rule.substitute later := by
      simp [Rule.substitute]
    change _ ≤ ([body] ++ later).countP _
    rw [split, List.countP_append, List.countP_append]
    refine Nat.add_le_add ?_ (ih behind)
    cases body with
    | nil => exact Nat.le_refl _
    | cons s rest =>
      by_cases same : s = rule.left
      · subst same
        have alone : rule.substitute [rule.left :: rest] = rule.bodies.map (· ++ rest) := by
          simp [Rule.substitute]
        rw [alone]
        exact countP_alternatives valid starts discerning here
      · have alone : rule.substitute [s :: rest] = [s :: rest] := by
          simp [Rule.substitute, same]
        rw [alone]

variable (before : ∀ rule ∈ finished, Discerning g rule)

include before

theorem countP_pass {body : Body} (derives : g.Derives [left] body) :
    (∀ b ∈ pass finished body, g.Derives [left] b) ∧
      (pass finished body).countP (g.announces letter left) ≤
        [body].countP (g.announces letter left) := by
  apply pass_induction fun bodies => (∀ b ∈ bodies, g.Derives [left] b) ∧
    bodies.countP (g.announces letter left) ≤ [body].countP (g.announces letter left)
  · exact ⟨List.forall_mem_singleton.mpr derives, Nat.le_refl _⟩
  · intro rule listed bodies known
    obtain ⟨known, fewer⟩ := known
    have discerning := before rule listed
    refine ⟨fun b member => ?_, (countP_substitute valid starts discerning known).trans fewer⟩
    rcases mem_substitute.mp member with ⟨stays, _⟩ | ⟨front, chosen, rest, inside, rfl⟩
    · exact known b stays
    · have onward := (discerning.implied.derives chosen).append_right rest
      exact (known _ inside).trans onward.to_reflTransGen

/-- Resolving bodies does not make a letter announce more of them. -/
theorem countP_resolved {bodies result : List Body} (resolved : Resolved finished bodies result)
    (derives : ∀ body ∈ bodies, g.Derives [left] body) :
    result.countP (g.announces letter left) ≤ bodies.countP (g.announces letter left) := by
  induction resolved with
  | nil => exact Nat.le_refl 0
  | @kept body bodies result _ _ ih =>
    have behind := ih (List.forall_mem_cons.mp derives).2
    rw [List.countP_cons, List.countP_cons]
    exact Nat.add_le_add_right behind _
  | @passed body bodies first result _ _ onward ih =>
    obtain ⟨here, behind⟩ := List.forall_mem_cons.mp derives
    obtain ⟨known, fewer⟩ := countP_pass valid starts before here
    rw [List.countP_append, ← List.singleton_append, List.countP_append]
    exact Nat.add_le_add ((onward known).trans fewer) (ih behind)

end Counting

variable {later rules : List Rule} {next : Symbol} {introduced : List Introduction}

theorem Eliminates.map_left (done : Eliminates finished next later introduced rules)
    (unsplit : introduced = []) : rules.map Rule.left = later.map Rule.left := by
  induction done with
  | nil => rfl
  | split => cases unsplit
  | keep _ _ _ ih => exact congrArg (_ :: ·) (ih unsplit)

/-- Without conflicts to begin with, no letter comes to announce two alternatives of a rule. -/
theorem Eliminates.discerning (done : Eliminates finished next later introduced rules)
    (valid : g.WellFormed) (starts : g.start = some start) (apart : g.Apart)
    (unsplit : introduced = []) (listed : ∀ rule ∈ later, rule ∈ g.rules)
    (before : ∀ rule ∈ finished, Discerning g rule) : ∀ rule ∈ rules, Discerning g rule := by
  induction done with
  | nil => simp
  | split => cases unsplit
  | @keep finished next rule later introduced rules bodies resolved _ _ ih =>
    obtain ⟨here, behind⟩ := List.forall_mem_cons.mp listed
    have implied := implied_of_resolved valid here (fun rule listed => (before rule listed).implied)
      resolved
    have single : ∀ letter, bodies.countP (g.announces letter rule.left) ≤ 1 := by
      intro letter
      have fewer : bodies.countP (g.announces letter rule.left) ≤
          rule.bodies.countP (g.announces letter rule.left) :=
        countP_resolved valid starts before resolved fun body chosen =>
          Grammar.Produces.derives (Grammar.produces_iff.mpr ⟨rule, here, rfl, chosen⟩)
      rw [← valid.bodiesOf_eq here] at fewer
      exact fewer.trans (Grammar.apart_iff_countP.mp apart rule.left letter)
    have discerning : Discerning g ⟨rule.left, bodies⟩ := ⟨implied, single⟩
    exact List.forall_mem_cons.mpr ⟨discerning, ih unsplit behind
      (List.forall_mem_append.mpr ⟨before, List.forall_mem_singleton.mpr discerning⟩)⟩

end LeftRecursion

namespace Grammar

variable {g h : Grammar} {supply : NameSupply}

/-- Without left recursion no symbol has to be introduced. -/
theorem introduced_of_acyclic (valid : g.WellFormed) (acyclic : ∀ s, ¬ g.LeftRecursive s)
    (done : (g.eliminateLeftRecursionWith supply).result = .ok h) :
    (LeftRecursion.eliminate g.passLimit [] g.size g.rules).introduced = [] := by
  obtain ⟨ended, _⟩ := outcome_of_eliminateLeftRecursion done
  have eliminates := LeftRecursion.eliminates_of_ok ended
  rcases LeftRecursion.outcome_of_acyclic acyclic valid g.passLimit with
    ⟨rules, ended', implied⟩ | ⟨_, _, _, failed⟩
  · obtain rfl := Except.ok.inj (ended.symm.trans ended')
    -- The first symbol introduced would be the left side of a rule, and out of its bounds.
    by_contra some
    have first := (eliminates.lefts g.size).mpr
      (.inr ⟨Nat.le_refl _, Nat.lt_add_of_pos_right (List.length_pos_iff.mpr some)⟩)
    obtain ⟨rule, listed, same⟩ := List.mem_map.mp first
    exact Nat.lt_irrefl _ (same ▸ (implied rule listed).within.left.2)
  · cases ended.symm.trans failed

theorem apart_of_discerning (valid : g.WellFormed) (valid' : h.WellFormed) {start : Symbol}
    (root : g.start = some start) (starts : h.start = g.start)
    (lefts : h.nonterminals = g.nonterminals) (sizes : h.size = g.size)
    (discerning : ∀ rule ∈ h.rules, LeftRecursion.Discerning g rule) : h.Apart := by
  have implied : ∀ s body, h.Produces s body → g.Derives [s] body := by
    intro s body produces
    obtain ⟨rule, listed, rfl, chosen⟩ := produces_iff.mp produces
    exact ((discerning rule listed).implied.derives chosen).to_reflTransGen
  apply apart_iff_countP.mpr
  intro s letter
  by_cases nonterminal : s ∈ h.nonterminals
  · obtain ⟨rule, listed, rfl⟩ := List.mem_map.mp nonterminal
    rw [valid'.bodiesOf_eq listed]
    refine (List.countP_mono_left fun body _ announced => ?_).trans ((discerning rule listed).single letter)
    exact announces_of_implied implied starts lefts valid valid' root sizes announced
  · have none : h.bodiesOf s = [] := by
      apply List.eq_nil_iff_forall_not_mem.mpr
      exact fun body produces => nonterminal (Produces.nonterminal produces)
    simp [none]

/-- Where every nonterminal is of use and no cell is in conflict, elimination introduces nothing and
brings no conflict in, whatever it substitutes. -/
theorem eliminated_table (reachable : Reachable g)
    (accessible : ∀ s ∈ g.nonterminals, g.Accessible s)
    (productive : ∀ s ∈ g.nonterminals, g.Productive s)
    (settled : ∀ cells, g.table ≠ .error (.conflicting cells))
    (done : (g.eliminateLeftRecursionWith supply).result = .ok h) :
    h.declared = g.declared ∧ h.nonterminals = g.nonterminals ∧ h.start = g.start ∧
      (∀ cells, h.table ≠ .error (.conflicting cells)) ∧
      (g.start.isSome → ∃ table, h.table = .ok table) := by
  have valid := reachable.wellFormed
  have valid' := valid.eliminated done
  have acyclic : ∀ s, ¬ g.LeftRecursive s := by
    intro s recursive
    obtain ⟨_, derives⟩ := recursive
    obtain ⟨start, _, _, root, _⟩ := accessible s (nonterminal_of_derivesPlus derives)
    obtain ⟨table, built⟩ := table_of_apart valid root (apart_of_settled valid root settled)
    exact not_leftRecursive_of_table (table_grammar built) valid accessible productive s ⟨_, derives⟩
  have unsplit := introduced_of_acyclic valid acyclic done
  obtain ⟨ended, same, _⟩ := outcome_of_eliminateLeftRecursion done
  have eliminates := LeftRecursion.eliminates_of_ok ended
  have lefts : h.nonterminals = g.nonterminals := eliminates.map_left unsplit
  rw [unsplit] at same
  have declared : h.declared = g.declared := by rw [same]; rfl
  have starts : h.start = g.start := by rw [same]; rfl
  refine ⟨declared, lefts, starts, ?_⟩
  cases root : g.start with
  | none => simp [table_of_no_start (starts.trans root)]
  | some start =>
    have apart := apart_of_settled valid root settled
    have discerning := eliminates.discerning valid root apart unsplit (fun _ listed => listed) (by simp)
    have sizes : h.size = g.size := by rw [size, size, declared]
    have apart' := apart_of_discerning valid valid' root starts lefts sizes discerning
    obtain ⟨table, built⟩ := table_of_apart valid' (starts.trans root) apart'
    exact ⟨by simp [built], fun _ => ⟨table, built⟩⟩

/-- `A` vanishes and brings `S` to the front of `T`, and then both are replaced. -/
def exposing : Grammar :=
  ⟨["S", "A", "T", "a", "b", "c", "d", "e"],
    [⟨2, [[5, 4], [6]]⟩, ⟨3, [[7], []]⟩, ⟨4, [[3, 2, 8], [9]]⟩], some 2⟩

def exposingEliminated : Grammar :=
  ⟨["S", "A", "T", "a", "b", "c", "d", "e"],
    [⟨2, [[5, 4], [6]]⟩, ⟨3, [[7], []]⟩, ⟨4, [[7, 2, 8], [5, 4, 8], [6, 8], [9]]⟩], some 2⟩

theorem exposing_eliminated_table :
    exposing.eliminateLeftRecursion.result = .ok exposingEliminated ∧
      ∃ table, exposingEliminated.table = .ok table := by
  have built : ofEntries [⟨"S", [["a", "T"], ["b"]]⟩, ⟨"A", [["c"], ["ε"]]⟩,
    ⟨"T", [["A", "S", "d"], ["e"]]⟩] = .ok exposing := rfl
  have done : exposing.eliminateLeftRecursion.result = .ok exposingEliminated := by cbv
  have first : exposing.Produces 2 [5, 4] := by decide
  have second : exposing.Produces 4 [3, 2, 8] := by decide
  have reaches : exposing.Derives [2] ([5] ++ [3, 2, 8]) :=
    first.derives.trans (second.derives.append_left [5])
  have all : ∀ s ∈ exposing.nonterminals, s = 2 ∨ s = 3 ∨ s = 4 := by decide
  have accessible : ∀ s ∈ exposing.nonterminals, exposing.Accessible s := by
    intro s member
    rcases all s member with rfl | rfl | rfl
    · exact ⟨2, [], [], rfl, .refl⟩
    · exact ⟨2, [5], [2, 8], rfl, reaches⟩
    · exact ⟨2, [5], [], rfl, first.derives⟩
  have productive : ∀ s ∈ exposing.nonterminals, exposing.Productive s := by
    intro s member
    rcases all s member with rfl | rfl | rfl
    · exact ⟨[6], by decide, Produces.derives (by decide)⟩
    · exact ⟨[], by decide, Produces.derives (by decide)⟩
    · exact ⟨[9], by decide, Produces.derives (by decide)⟩
  have none : exposing.disputed exposing.lookaheads = [] := by cbv
  obtain ⟨table, settled⟩ := table_of_disputed (g := exposing) rfl none
  obtain ⟨_, _, _, _, kept⟩ :=
    eliminated_table (.entries built) accessible productive (by simp [settled]) done
  exact ⟨done, kept rfl⟩

end Grammar
end Predictive
