/-! Least fixed points over a finite list of candidates. In every round the rule may
look at what is known already; the rounds end when one adds nothing. -/

namespace Predictive

variable {α : Type} [BEq α]

def unknown (candidates known : List α) : List α :=
  candidates.filter (!known.contains ·)

def admitted (candidates : List α) (rule : List α → α → Bool) (known : List α) : List α :=
  (unknown candidates known).filter (rule known)

theorem length_unknown_lt [LawfulBEq α] (candidates : List α) (rule : List α → α → Bool)
    (known : List α) (grows : admitted candidates rule known ≠ []) :
    (unknown candidates (admitted candidates rule known ++ known)).length <
      (unknown candidates known).length := by
  obtain ⟨a, found⟩ := List.exists_mem_of_ne_nil _ grows
  have waiting : a ∈ unknown candidates known := (List.mem_filter.mp found).1
  have narrowed : unknown candidates (admitted candidates rule known ++ known) =
      (unknown candidates known).filter (!(admitted candidates rule known).contains ·) := by
    simp only [unknown, List.filter_filter]
    congr 1
    funext b
    by_cases old : b ∈ known <;> by_cases new : b ∈ admitted candidates rule known <;>
      simp [old]
  rw [narrowed]
  exact List.length_filter_lt_length_iff_exists.mpr ⟨a, waiting, by simp [found]⟩

/-- The least list that contains `known` and every candidate that the rule admits. -/
def saturate [LawfulBEq α] (candidates : List α) (rule : List α → α → Bool)
    (known : List α) : List α :=
  if admitted candidates rule known = [] then known
  else saturate candidates rule (admitted candidates rule known ++ known)
termination_by (unknown candidates known).length
decreasing_by
  apply length_unknown_lt
  assumption

variable [LawfulBEq α] {candidates : List α} {rule : List α → α → Bool}

theorem mem_saturate_of_mem {known : List α} {a : α} (member : a ∈ known) :
    a ∈ saturate candidates rule known := by
  fun_induction saturate candidates rule known with
  | case1 known ended => exact member
  | case2 known grows ih => exact ih (List.mem_append_right _ member)

/-- Nothing that the rule admits at the end is left out. -/
theorem mem_saturate_of_rule {known : List α} {a : α} (candidate : a ∈ candidates)
    (admits : rule (saturate candidates rule known) a = true) :
    a ∈ saturate candidates rule known := by
  fun_induction saturate candidates rule known with
  | case1 known ended =>
    by_cases member : a ∈ known
    · exact member
    · have waiting : a ∈ unknown candidates known :=
        List.mem_filter.mpr ⟨candidate, by simpa using member⟩
      have found : a ∈ admitted candidates rule known := List.mem_filter.mpr ⟨waiting, admits⟩
      rw [ended] at found
      exact absurd found List.not_mem_nil
  | case2 known grows ih => exact ih admits

/-- What holds of all that is known, and of all that the rule admits on such knowledge,
holds in the end. -/
theorem saturate_induction {known : List α} {holds : α → Prop} (start : ∀ a ∈ known, holds a)
    (step : ∀ known, (∀ b ∈ known, holds b) → ∀ a ∈ candidates, rule known a = true → holds a) :
    ∀ a ∈ saturate candidates rule known, holds a := by
  fun_induction saturate candidates rule known with
  | case1 known ended => exact start
  | case2 known grows ih =>
    apply ih
    intro a member
    rcases List.mem_append.mp member with new | old
    · obtain ⟨waiting, admits⟩ := List.mem_filter.mp new
      exact step known start a (List.mem_filter.mp waiting).1 admits
    · exact start a old

end Predictive
