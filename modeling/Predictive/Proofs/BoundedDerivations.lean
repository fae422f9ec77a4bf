import Predictive.Proofs.LeftmostDerivations
import Predictive.Sentences

/-! The search for short sentences follows leftmost derivations and gives up those in which a form
gets too long. It also gives up forms with too many letters, but a letter never goes away again, so
no derivation of a short word is lost by that. -/

namespace Predictive.Grammar
open Relation

variable (g : Grammar)

/-- A leftmost derivation in which no form is longer than `bound`. -/
inductive LeftmostWithin (bound : Nat) : List Production → Body → Body → Prop where
  | done {form} (short : form.length ≤ bound) : LeftmostWithin bound [] form form
  | step {p later first second last} (short : first.length ≤ bound)
      (head : g.LeftmostStep p first second) (tail : LeftmostWithin bound later second last) :
      LeftmostWithin bound (p :: later) first last

variable {g} {bound : Nat} {ps : List Production} {first last : Body}

namespace LeftmostWithin

theorem leftmost (within : g.LeftmostWithin bound ps first last) : g.Leftmost ps first last := by
  induction within with
  | done _ => exact .done _
  | step _ head _ ih => exact .step head ih

theorem short (within : g.LeftmostWithin bound ps first last) : first.length ≤ bound := by
  cases within <;> assumption

theorem mono {larger : Nat} (within : g.LeftmostWithin bound ps first last) (le : bound ≤ larger) :
    g.LeftmostWithin larger ps first last := by
  induction within with
  | done short => exact .done (Nat.le_trans short le)
  | step short head _ ih => exact .step (Nat.le_trans short le) head ih

theorem concat {p : Production} {next : Body} (within : g.LeftmostWithin bound ps first last)
    (step : g.LeftmostStep p last next) (short : next.length ≤ bound) :
    g.LeftmostWithin bound (ps ++ [p]) first next := by
  induction within with
  | done before => exact .step before step (.done short)
  | step before head _ ih => exact .step before head (ih step)

end LeftmostWithin

/-! Letters and lengths along a leftmost derivation -/

theorem Leftmost.letters_le (leftmost : g.Leftmost ps first last) :
    first.countP (!g.isNonterminal ·) ≤ last.countP (!g.isNonterminal ·) := by
  induction leftmost with
  | done _ => exact Nat.le_refl _
  | step head _ ih =>
    obtain ⟨after, _, listed⟩ := head
    have expanded := isNonterminal_iff.mpr (mem_productions listed).nonterminal
    refine Nat.le_trans ?_ ih
    simp only [List.countP_append, List.countP_cons, expanded, Bool.not_true]
    simp

/-! Without empty bodies forms never get shorter, so none is longer than the last. -/

theorem LeftmostStep.length_le {p : Production} (step : g.LeftmostStep p first last)
    (nonempty : ∀ s, ¬ g.Produces s []) : first.length ≤ last.length := by
  obtain ⟨after, _, listed⟩ := step
  have filled : 0 < p.body.length :=
    List.length_pos_iff.mpr fun empty => nonempty p.left (empty ▸ mem_productions listed)
  simp only [List.length_append, List.length_cons]
  omega

theorem Leftmost.length_le (leftmost : g.Leftmost ps first last)
    (nonempty : ∀ s, ¬ g.Produces s []) : first.length ≤ last.length := by
  induction leftmost with
  | done _ => exact Nat.le_refl _
  | step head _ ih => exact Nat.le_trans (head.length_le nonempty) ih

theorem Leftmost.within (leftmost : g.Leftmost ps first last) (nonempty : ∀ s, ¬ g.Produces s [])
    (short : last.length ≤ bound) : g.LeftmostWithin bound ps first last := by
  induction leftmost with
  | done _ => exact .done short
  | step head tail ih =>
    have before := Nat.le_trans (head.length_le nonempty) (tail.length_le nonempty)
    exact .step (Nat.le_trans before short) head (ih short)

/-! What the search follows -/

theorem leftmost?_append {before : Body} (word : g.IsWord before) {s : Symbol}
    (nonterminal : s ∈ g.nonterminals) (after : Body) :
    g.leftmost? (before ++ s :: after) = some (before, s, after) := by
  induction before with
  | nil => simp [leftmost?, isNonterminal_iff.mpr nonterminal]
  | cons t before ih =>
    obtain ⟨letter, later⟩ := List.forall_mem_cons.mp word
    simp [leftmost?, letter, ih later]

/-- What is not a word has a first nonterminal. -/
theorem exists_leftmost {form : Body} (expandable : ¬ g.IsWord form) :
    ∃ before s after, form = before ++ s :: after ∧ g.IsWord before ∧ s ∈ g.nonterminals := by
  induction form with
  | nil => exact absurd (List.forall_mem_nil _) expandable
  | cons t rest ih =>
    cases kind : g.isNonterminal t with
    | true => exact ⟨[], t, rest, rfl, List.forall_mem_nil _, isNonterminal_iff.mp kind⟩
    | false =>
      obtain ⟨before, s, after, rfl, word, nonterminal⟩ := ih fun word =>
        expandable (List.forall_mem_cons.mpr ⟨kind, word⟩)
      exact ⟨t :: before, s, after, rfl, List.forall_mem_cons.mpr ⟨kind, word⟩, nonterminal⟩

theorem leftmost?_of_isWord {form : Body} (word : g.IsWord form) : g.leftmost? form = none := by
  induction form with
  | nil => rfl
  | cons t rest ih =>
    obtain ⟨letter, later⟩ := List.forall_mem_cons.mp word
    simp [leftmost?, letter, ih later]

variable {limit : Nat}

theorem fits_iff {form : Body} : g.fits limit form = true ↔
    form.countP (!g.isNonterminal ·) ≤ limit ∧ form.length ≤ g.formLimit limit := by
  simp [fits]

theorem mem_successors {form next : Body} : next ∈ g.successors limit form ↔
    (∃ p, g.LeftmostStep p form next) ∧ g.fits limit next = true := by
  unfold successors
  constructor
  · intro member
    by_cases word : g.IsWord form
    · rw [leftmost?_of_isWord word] at member
      cases member
    · obtain ⟨before, s, after, rfl, front, nonterminal⟩ := exists_leftmost word
      rw [leftmost?_append front nonterminal] at member
      obtain ⟨chosen, fits⟩ := List.mem_filter.mp member
      obtain ⟨body, produces, rfl⟩ := List.mem_map.mp chosen
      obtain ⟨p, listed, rfl, rfl⟩ := Produces.listed produces
      exact ⟨⟨p, .expand after front listed⟩, fits⟩
  · rintro ⟨⟨p, step⟩, fits⟩
    obtain ⟨after, front, listed⟩ := step
    have produces := mem_productions listed
    rw [leftmost?_append front produces.nonterminal]
    exact List.mem_filter.mpr ⟨List.mem_map_of_mem produces, fits⟩

theorem exists_leftmostWithin {origin form : Body} (short : origin.length ≤ g.formLimit limit)
    (reached : Reaches (g.successors limit) origin form) :
    ∃ ps, g.LeftmostWithin (g.formLimit limit) ps origin form := by
  induction reached with
  | start => exact ⟨[], .done short⟩
  | step _ member ih =>
    obtain ⟨ps, within⟩ := ih
    obtain ⟨⟨p, step⟩, fits⟩ := mem_successors.mp member
    exact ⟨_, within.concat step (fits_iff.mp fits).2⟩

theorem LeftmostWithin.reaches (within : g.LeftmostWithin (g.formLimit limit) ps first last)
    (few : last.countP (!g.isNonterminal ·) ≤ limit) {origin : Body}
    (reached : Reaches (g.successors limit) origin first) :
    Reaches (g.successors limit) origin last := by
  induction within with
  | done _ => exact reached
  | step _ head tail ih =>
    have fits := fits_iff.mpr ⟨Nat.le_trans tail.leftmost.letters_le few, tail.short⟩
    exact ih few (.step reached (mem_successors.mpr ⟨⟨_, head⟩, fits⟩))

end Predictive.Grammar
