import Predictive.Proofs.Derivations

/-! Leftmost derivations of words, read from left to right: the symbol in front is passed
if it is a letter and expanded if it is a nonterminal. In this form they fall apart with
the form they start from, and every derivation of a word can be brought into it. -/

namespace Predictive.Grammar
open Relation

variable (g : Grammar)

/-- The productions, in the order of their use, turn the form into the word. -/
inductive Yields : List Production → Body → Body → Prop where
  | nil : Yields [] [] []
  | letter {ps s form word} (letter : s ∉ g.nonterminals) (rest : Yields ps form word) :
      Yields ps (s :: form) (s :: word)
  | expand {p ps form word} (listed : p ∈ g.productions) (rest : Yields ps (p.body ++ form) word) :
      Yields (p :: ps) (p.left :: form) word

variable {g} {ps : List Production} {form word : Body}

namespace Yields

theorem isWord (yields : g.Yields ps form word) : g.IsWord word := by
  induction yields with
  | nil => simp [IsWord]
  | letter letter _ ih => exact List.forall_mem_cons.mpr ⟨not_isNonterminal_iff.mpr letter, ih⟩
  | expand _ _ ih => exact ih

theorem derives (yields : g.Yields ps form word) : g.Derives form word := by
  induction yields with
  | nil => exact .refl
  | @letter _ s _ _ _ _ ih => exact ih.append_left [s]
  | expand listed _ ih => exact (mem_productions listed).derives_cons ih

theorem listed (yields : g.Yields ps form word) : ∀ p ∈ ps, p ∈ g.productions := by
  induction yields with
  | nil => simp
  | letter _ _ ih => exact ih
  | expand listed _ ih => exact List.forall_mem_cons.mpr ⟨listed, ih⟩

theorem of_isWord (isWord : g.IsWord word) : g.Yields [] word word := by
  induction word with
  | nil => exact .nil
  | cons s word ih =>
    obtain ⟨letter, later⟩ := List.forall_mem_cons.mp isWord
    exact .letter (not_isNonterminal_iff.mp letter) (ih later)

theorem append {ps' : List Production} {form' word' : Body} (yields : g.Yields ps form word)
    (yields' : g.Yields ps' form' word') : g.Yields (ps ++ ps') (form ++ form') (word ++ word') := by
  induction yields with
  | nil => exact yields'
  | letter letter _ ih => exact .letter letter ih
  | expand listed _ ih =>
    rw [List.append_assoc] at ih
    exact .expand listed ih

theorem split {first second : Body} (yields : g.Yields ps (first ++ second) word) :
    ∃ ps₁ ps₂ word₁ word₂, ps = ps₁ ++ ps₂ ∧ word = word₁ ++ word₂ ∧
      g.Yields ps₁ first word₁ ∧ g.Yields ps₂ second word₂ := by
  generalize same : first ++ second = form at yields
  induction yields generalizing first with
  | nil =>
    obtain ⟨rfl, rfl⟩ := List.append_eq_nil_iff.mp same
    exact ⟨[], [], [], [], rfl, rfl, .nil, .nil⟩
  | @letter ps s form word letter rest ih =>
    cases first with
    | nil =>
      obtain rfl : second = s :: form := same
      exact ⟨[], ps, [], s :: word, rfl, rfl, .nil, .letter letter rest⟩
    | cons t first =>
      obtain ⟨rfl, later⟩ := List.cons.inj same
      obtain ⟨ps₁, ps₂, word₁, word₂, rfl, rfl, left, right⟩ := ih later
      exact ⟨ps₁, ps₂, t :: word₁, word₂, rfl, rfl, .letter letter left, right⟩
  | @expand p ps form word listed rest ih =>
    cases first with
    | nil =>
      obtain rfl : second = p.left :: form := same
      exact ⟨[], p :: ps, [], word, rfl, rfl, .nil, .expand listed rest⟩
    | cons t first =>
      obtain ⟨rfl, rfl⟩ := List.cons.inj same
      obtain ⟨ps₁, ps₂, word₁, word₂, rfl, rfl, left, right⟩ := ih (List.append_assoc ..)
      exact ⟨p :: ps₁, ps₂, word₁, word₂, rfl, rfl, .expand listed left, right⟩

/-- Letters yield themselves only, and without any production. -/
theorem eq_of_isWord (yields : g.Yields ps form word) (isWord : g.IsWord form) :
    ps = [] ∧ word = form := by
  induction yields with
  | nil => exact ⟨rfl, rfl⟩
  | letter _ _ ih =>
    obtain ⟨rfl, rfl⟩ := ih (List.forall_mem_cons.mp isWord).2
    exact ⟨rfl, rfl⟩
  | expand listed _ =>
    have letter := (List.forall_mem_cons.mp isWord).1
    exact absurd (mem_productions listed).nonterminal (not_isNonterminal_iff.mp letter)

end Yields

theorem exists_yields (derives : g.Derives form word) (isWord : g.IsWord word) :
    ∃ ps, g.Yields ps form word := by
  induction derives using ReflTransGen.head_induction_on with
  | refl => exact ⟨[], .of_isWord isWord⟩
  | head step _ ih =>
    obtain @⟨s, body, before, after, produces⟩ := step
    obtain ⟨p, listed, rfl, rfl⟩ := produces.listed
    obtain ⟨ps, yields⟩ := ih
    rw [List.append_assoc] at yields
    obtain ⟨ps₁, ps₂, word₁, word₂, rfl, rfl, left, right⟩ := yields.split
    exact ⟨ps₁ ++ p :: ps₂, left.append (.expand listed right)⟩

/-! The same productions in the same order make up a leftmost derivation. -/

theorem Leftmost.letter {s : Symbol} (leftmost : g.Leftmost ps form word)
    (letter : s ∉ g.nonterminals) : g.Leftmost ps (s :: form) (s :: word) := by
  induction leftmost with
  | done form => exact .done _
  | step head _ ih =>
    obtain ⟨after, isWord, listed⟩ := head
    have front : g.IsWord (s :: _) :=
      List.forall_mem_cons.mpr ⟨not_isNonterminal_iff.mpr letter, isWord⟩
    exact .step (.expand after front listed) ih

theorem Yields.leftmost (yields : g.Yields ps form word) : g.Leftmost ps form word := by
  induction yields with
  | nil => exact .done []
  | letter letter _ ih => exact ih.letter letter
  | @expand p _ form _ listed _ ih =>
    have front : g.IsWord [] := by simp [IsWord]
    have head : g.LeftmostStep p (p.left :: form) (p.body ++ form) := .expand form front listed
    exact .step head ih

theorem Leftmost.yields (leftmost : g.Leftmost ps form word) (isWord : g.IsWord word) :
    g.Yields ps form word := by
  induction leftmost with
  | done form => exact .of_isWord isWord
  | step head _ ih =>
    obtain ⟨after, front, listed⟩ := head
    have yields := ih isWord
    rw [List.append_assoc] at yields
    obtain ⟨ps₁, ps₂, word₁, word₂, rfl, rfl, left, right⟩ := yields.split
    obtain ⟨rfl, rfl⟩ := left.eq_of_isWord front
    exact left.append (.expand listed right)

end Predictive.Grammar
