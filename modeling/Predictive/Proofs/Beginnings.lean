import Predictive.Lookahead.First
import Predictive.Proofs.Rules

/-! Vanishing symbols and the letters that a symbol can begin with, as inductive facts
about the rules. They are what the saturations compute and what derivations show. -/

namespace Predictive

/-- A pass over a body stops at the first symbol that is right, or that does not vanish. -/
theorem Body.reaches_iff {vanishes here : Symbol → Bool} {body : Body} :
    body.reaches vanishes here = true ↔ ∃ before s after, body = before ++ s :: after ∧
      (∀ t ∈ before, vanishes t = true) ∧ here s = true := by
  induction body with
  | nil => simp [Body.reaches]
  | cons t rest ih =>
    rw [Body.reaches, Bool.or_eq_true, Bool.and_eq_true, ih]
    constructor
    · rintro (right | ⟨vanish, before, s, after, rfl, all, right⟩)
      · exact ⟨[], t, rest, rfl, by simp, right⟩
      · exact ⟨t :: before, s, after, rfl, List.forall_mem_cons.mpr ⟨vanish, all⟩, right⟩
    · rintro ⟨before, s, after, same, all, right⟩
      cases before with
      | nil =>
        obtain ⟨rfl, rfl⟩ := List.cons.inj same
        exact .inl right
      | cons u before =>
        obtain ⟨rfl, rfl⟩ := List.cons.inj same
        obtain ⟨vanish, all⟩ := List.forall_mem_cons.mp all
        exact .inr ⟨vanish, before, s, after, rfl, all, right⟩

namespace Grammar

variable (g : Grammar)

inductive Vanishes : Symbol → Prop where
  | intro {s body} (produces : g.Produces s body) (all : ∀ t ∈ body, Vanishes t) : Vanishes s

inductive Begins (letter : Symbol) : Symbol → Prop where
  | self : Begins letter letter
  | intro {s before t after} (produces : g.Produces s (before ++ t :: after))
      (vanish : ∀ u ∈ before, g.Vanishes u) (begins : Begins letter t) : Begins letter s

def BodyVanishes (body : Body) : Prop := ∀ s ∈ body, g.Vanishes s

def BodyBegins (letter : Symbol) (body : Body) : Prop :=
  ∃ before s after, body = before ++ s :: after ∧ g.BodyVanishes before ∧ g.Begins letter s

variable {g} {letter : Symbol}

theorem Vanishes.nonterminal {s : Symbol} (vanishes : g.Vanishes s) : s ∈ g.nonterminals := by
  obtain ⟨produces, _⟩ := vanishes
  exact produces.nonterminal

theorem bodyVanishes_append {first second : Body} :
    g.BodyVanishes (first ++ second) ↔ g.BodyVanishes first ∧ g.BodyVanishes second :=
  List.forall_mem_append

theorem bodyBegins_cons {s : Symbol} {rest : Body} :
    g.BodyBegins letter (s :: rest) ↔
      g.Begins letter s ∨ g.Vanishes s ∧ g.BodyBegins letter rest := by
  constructor
  · rintro ⟨before, t, after, same, vanish, begins⟩
    cases before with
    | nil =>
      obtain ⟨rfl, rfl⟩ := List.cons.inj same
      exact .inl begins
    | cons u before =>
      obtain ⟨rfl, rfl⟩ := List.cons.inj same
      obtain ⟨first, later⟩ := List.forall_mem_cons.mp vanish
      exact .inr ⟨first, before, t, after, rfl, later, begins⟩
  · rintro (begins | ⟨vanishes, before, t, after, rfl, vanish, begins⟩)
    · exact ⟨[], s, rest, rfl, by simp [BodyVanishes], begins⟩
    · exact ⟨s :: before, t, after, rfl, List.forall_mem_cons.mpr ⟨vanishes, vanish⟩, begins⟩

theorem bodyBegins_append {first second : Body} :
    g.BodyBegins letter (first ++ second) ↔
      g.BodyBegins letter first ∨ g.BodyVanishes first ∧ g.BodyBegins letter second := by
  induction first with
  | nil => simp [BodyBegins, BodyVanishes]
  | cons s rest ih =>
    rw [List.cons_append, bodyBegins_cons, bodyBegins_cons, ih, BodyVanishes, BodyVanishes,
      List.forall_mem_cons]
    rw [and_or_left, or_assoc, and_assoc]

theorem Produces.begins {s : Symbol} {body : Body} (produces : g.Produces s body)
    (begins : g.BodyBegins letter body) : g.Begins letter s := by
  obtain ⟨before, t, after, rfl, vanish, begins⟩ := begins
  exact .intro produces vanish begins

/-- Only the letter itself begins with it as it stands. -/
theorem Begins.produces {s : Symbol} (begins : g.Begins letter s) (other : s ≠ letter) :
    ∃ body, g.Produces s body ∧ g.BodyBegins letter body := by
  cases begins with
  | self => exact absurd rfl other
  | intro produces vanish begins => exact ⟨_, produces, _, _, _, rfl, vanish, begins⟩

theorem mem_vanishing {s : Symbol} : s ∈ g.vanishing ↔ g.Vanishes s := by
  constructor
  · refine saturate_induction (by simp) ?_ s
    intro known sound t _ admits
    obtain ⟨body, produces, all⟩ := List.any_eq_true.mp admits
    exact .intro produces fun u member =>
      sound u (List.contains_iff_mem.mp (List.all_eq_true.mp all u member))
  · intro vanishes
    induction vanishes with
    | intro produces all ih =>
      refine mem_saturate_of_rule produces.nonterminal (List.any_eq_true.mpr ⟨_, produces, ?_⟩)
      exact List.all_eq_true.mpr fun u member => List.contains_iff_mem.mpr (ih u member)

theorem mem_starters {s : Symbol} :
    s ∈ g.starters g.vanishing letter ∨ s = letter ↔ g.Begins letter s := by
  constructor
  · rintro (member | rfl)
    · refine saturate_induction (by simp) ?_ s member
      intro known sound t _ admits
      obtain ⟨body, produces, reaches⟩ := List.any_eq_true.mp admits
      obtain ⟨before, u, after, rfl, vanish, here⟩ := Body.reaches_iff.mp reaches
      refine .intro produces (fun v inside => ?_) ?_
      · exact mem_vanishing.mp (List.contains_iff_mem.mp (vanish v inside))
      · rcases Bool.or_eq_true_iff.mp here with same | known
        · exact eq_of_beq same ▸ .self
        · exact sound u (List.contains_iff_mem.mp known)
    · exact .self
  · intro begins
    induction begins with
    | self => exact .inr rfl
    | @intro s before t after produces vanish _ ih =>
      refine .inl (mem_saturate_of_rule produces.nonterminal
        (List.any_eq_true.mpr ⟨_, produces, Body.reaches_iff.mpr ⟨before, t, after, rfl, ?_, ?_⟩⟩))
      · exact fun u member => List.contains_iff_mem.mpr (mem_vanishing.mpr (vanish u member))
      · rcases ih with member | rfl
        · exact Bool.or_eq_true_iff.mpr (.inr (List.contains_iff_mem.mpr member))
        · exact Bool.or_eq_true_iff.mpr (.inl (beq_self_eq_true _))

/-! The computed sets, for the letters of the grammar. -/

theorem lookup_letters {letters : List Symbol} (sets : Symbol → List Symbol) {letter : Symbol}
    (listed : letter ∈ letters) :
    (letters.map fun letter => (letter, sets letter)).lookup letter = some (sets letter) := by
  induction letters with
  | nil => simp at listed
  | cons first later ih =>
    rw [List.map_cons, List.lookup_cons]
    by_cases same : letter = first
    · simp [same]
    · have rest : letter ∈ later := by simpa [same] using listed
      simp [beq_false_of_ne same, ih rest]

theorem vanishes_firstSets {s : Symbol} : g.firstSets.vanishes s = true ↔ g.Vanishes s := by
  rw [← mem_vanishing]
  exact List.contains_iff_mem

theorem bodyVanishes_firstSets {body : Body} :
    g.firstSets.bodyVanishes body = true ↔ g.BodyVanishes body := by
  simp only [FirstSets.bodyVanishes, List.all_eq_true, vanishes_firstSets, BodyVanishes]

theorem begins_firstSets {s : Symbol} (listed : letter ∈ g.letters) :
    g.firstSets.begins letter s = true ↔ g.Begins letter s := by
  rw [← mem_starters, FirstSets.begins, Bool.or_eq_true, beq_iff_eq, or_comm]
  simp only [firstSets, FirstSets.ofGrammar, lookup_letters _ listed, Option.getD_some,
    List.contains_iff_mem]

theorem bodyBegins_firstSets {body : Body} (listed : letter ∈ g.letters) :
    g.firstSets.bodyBegins letter body = true ↔ g.BodyBegins letter body := by
  simp only [FirstSets.bodyBegins, Body.reaches_iff, vanishes_firstSets, begins_firstSets listed,
    BodyBegins, BodyVanishes]

end Grammar
end Predictive
