import Predictive.Derivation
import Predictive.Proofs.Rules

/-! Derivations in a context. Parts of a form derive independently of each other, so a
derivation from two forms in a row comes apart into a derivation from each. -/

namespace Predictive

/-- A place in three parts in a row lies in one of them. -/
theorem split_middle {α : Type} {before after first middle last : List α} {a : α}
    (same : before ++ a :: after = first ++ middle ++ last) :
    (∃ rest, first = before ++ a :: rest ∧ after = rest ++ middle ++ last) ∨
      (∃ left right, middle = left ++ a :: right ∧ before = first ++ left ∧
        after = right ++ last) ∨
      ∃ rest, last = rest ++ a :: after ∧ before = first ++ middle ++ rest := by
  rcases List.append_eq_append_iff.mp same with ⟨rest, inside, behind⟩ | ⟨rest, rfl, rfl⟩
  · cases rest with
    | nil => exact .inr (.inr ⟨[], behind.symm, by simpa using inside.symm⟩)
    | cons b rest =>
      obtain ⟨rfl, rfl⟩ := List.cons.inj behind
      rcases List.append_eq_append_iff.mp inside with ⟨left, rfl, found⟩ | ⟨left, rfl, found⟩
      · exact .inr (.inl ⟨left, rest, found, rfl, rfl⟩)
      · cases left with
        | nil => exact .inr (.inl ⟨[], rest, found.symm, by simp, rfl⟩)
        | cons b left =>
          obtain ⟨rfl, rfl⟩ := List.cons.inj found
          exact .inl ⟨left, rfl, rfl⟩
  · exact .inr (.inr ⟨rest, rfl, rfl⟩)

namespace Grammar
open Relation

variable {g : Grammar}

theorem Step.append_left {form next : Body} (step : g.Step form next) (before : Body) :
    g.Step (before ++ form) (before ++ next) := by
  obtain ⟨earlier, after, produces⟩ := step
  simpa only [List.append_assoc] using Step.expand (before ++ earlier) after produces

theorem Step.append_right {form next : Body} (step : g.Step form next) (after : Body) :
    g.Step (form ++ after) (next ++ after) := by
  obtain ⟨before, later, produces⟩ := step
  simpa only [List.append_assoc, List.cons_append] using Step.expand before (later ++ after) produces

theorem Derives.append_left {form last : Body} (derives : g.Derives form last) (before : Body) :
    g.Derives (before ++ form) (before ++ last) :=
  ReflTransGen.lift (before ++ ·) (fun _ _ (step : g.Step _ _) => step.append_left before) _ _ derives

theorem Derives.append_right {form last : Body} (derives : g.Derives form last) (after : Body) :
    g.Derives (form ++ after) (last ++ after) :=
  ReflTransGen.lift (· ++ after) (fun _ _ (step : g.Step _ _) => step.append_right after) _ _ derives

theorem Derives.append {form last form' last' : Body} (derives : g.Derives form last)
    (derives' : g.Derives form' last') : g.Derives (form ++ form') (last ++ last') :=
  (derives.append_right form').trans (derives'.append_left last)

theorem Produces.step {s : Symbol} {body : Body} (produces : g.Produces s body) :
    g.Step [s] body := by
  have step := Step.expand [] [] produces
  rwa [List.nil_append, List.nil_append, List.append_nil] at step

theorem Produces.derives {s : Symbol} {body : Body} (produces : g.Produces s body) :
    g.Derives [s] body :=
  .single produces.step

theorem DerivesPlus.append_right {form last : Body} (derives : g.DerivesPlus form last)
    (after : Body) : g.DerivesPlus (form ++ after) (last ++ after) :=
  TransGen.lift (· ++ after) (fun _ _ (step : g.Step _ _) => step.append_right after) _ _ derives

theorem DerivesPlus.append_left {form last : Body} (derives : g.DerivesPlus form last)
    (before : Body) : g.DerivesPlus (before ++ form) (before ++ last) :=
  TransGen.lift (before ++ ·) (fun _ _ (step : g.Step _ _) => step.append_left before) _ _ derives

theorem Produces.derives_cons {s : Symbol} {body last : Body} (produces : g.Produces s body)
    {rest : Body} (derives : g.Derives (body ++ rest) last) : g.Derives (s :: rest) last :=
  .head (Step.expand [] rest produces) derives

theorem Step.split {first second next : Body} (step : g.Step (first ++ second) next) :
    (∃ left, g.Step first left ∧ next = left ++ second) ∨
      ∃ right, g.Step second right ∧ next = first ++ right := by
  generalize same : first ++ second = form at step
  obtain ⟨before, after, produces⟩ := step
  rename_i s body
  rcases List.append_eq_append_iff.mp same with ⟨middle, rfl, rfl⟩ | ⟨middle, rfl, rest⟩
  · exact .inr ⟨_, .expand middle after produces, by simp⟩
  · cases middle with
    | nil =>
      obtain rfl : s :: after = second := by simpa using rest
      exact .inr ⟨_, .expand [] after produces, by simp⟩
    | cons t middle =>
      obtain ⟨rfl, rfl⟩ : s = t ∧ after = middle ++ second := by simpa using rest
      exact .inl ⟨_, .expand before middle produces, by simp⟩

theorem Derives.split {first second last : Body} (derives : g.Derives (first ++ second) last) :
    ∃ left right, last = left ++ right ∧ g.Derives first left ∧ g.Derives second right := by
  induction derives with
  | refl => exact ⟨first, second, rfl, .refl, .refl⟩
  | tail _ step ih =>
    obtain ⟨left, right, rfl, before, after⟩ := ih
    rcases step.split with ⟨next, moved, rfl⟩ | ⟨next, moved, rfl⟩
    · exact ⟨next, right, rfl, before.tail moved, after⟩
    · exact ⟨left, next, rfl, before, after.tail moved⟩

theorem Derives.split_cons {s : Symbol} {rest last : Body} (derives : g.Derives (s :: rest) last) :
    ∃ left right, last = left ++ right ∧ g.Derives [s] left ∧ g.Derives rest right :=
  Derives.split (show g.Derives ([s] ++ rest) last from derives)

theorem Step.singleton {s : Symbol} {next : Body} (step : g.Step [s] next) :
    g.Produces s next := by
  generalize same : [s] = form at step
  obtain ⟨before, after, produces⟩ := step
  cases before with
  | nil =>
    obtain ⟨rfl, rfl⟩ := List.cons.inj same
    simpa using produces
  | cons t before => simp at same

/-- A derivation from one symbol is either over or begins with a body of that symbol. -/
theorem Derives.of_singleton {s : Symbol} {last : Body} (derives : g.Derives [s] last) :
    last = [s] ∨ ∃ body, g.Produces s body ∧ g.Derives body last := by
  rcases derives.cases_head with same | ⟨body, step, later⟩
  · exact .inl same.symm
  · exact .inr ⟨body, step.singleton, later⟩

theorem IsWord.append {first second : Body} :
    g.IsWord (first ++ second) ↔ g.IsWord first ∧ g.IsWord second := by
  simp only [IsWord, List.mem_append]
  exact ⟨fun word => ⟨fun s member => word s (.inl member), fun s member => word s (.inr member)⟩,
    fun words s member => member.elim (words.1 s) (words.2 s)⟩

theorem IsWord.no_step {word next : Body} (isWord : g.IsWord word) : ¬ g.Step word next := by
  rintro ⟨before, after, produces⟩
  have letter := isWord _ (List.mem_append_right before List.mem_cons_self)
  exact not_isNonterminal_iff.mp letter produces.nonterminal

theorem IsWord.eq_of_derives {word last : Body} (isWord : g.IsWord word)
    (derives : g.Derives word last) : last = word := by
  rcases derives.cases_head with same | ⟨_, step, _⟩
  · exact same.symm
  · exact absurd step isWord.no_step

end Grammar
end Predictive
