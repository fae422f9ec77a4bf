import Mathlib.Data.List.TakeWhile
import Predictive.Text.Blank

/-! Blanks around a text. What is left without them neither begins nor ends with a blank, and a text of
which this is true is left as it is. -/

namespace Predictive.Text

variable {text : List Char}

theorem head?_dropWhile (text : List Char) : ∀ c ∈ (text.dropWhile isBlank).head?, isBlank c = false := by
  intro c first
  have stops := List.head?_dropWhile_not isBlank text
  rw [Option.mem_def.mp first] at stops
  simpa using stops

theorem trimStart_of_blanks (blanks : ∀ c ∈ text, isBlank c = true) : trimStart text = [] :=
  List.dropWhile_eq_nil_iff.mpr blanks

theorem trimStart_append {gap : List Char} (blanks : ∀ c ∈ gap, isBlank c = true)
    (begins : ∀ c ∈ text.head?, isBlank c = false) : trimStart (gap ++ text) = text := by
  rw [trimStart, List.dropWhile_append_of_pos blanks]
  cases text with
  | nil => rfl
  | cons c rest => exact List.dropWhile_cons_of_neg (by simp [begins c rfl])

/-- Every text is blank up to where something is left to read. -/
theorem exists_gap (text : List Char) : ∃ gap, text = gap ++ trimStart text ∧ (∀ c ∈ gap, isBlank c = true) ∧
    ∀ c ∈ (trimStart text).head?, isBlank c = false :=
  ⟨text.takeWhile isBlank, List.takeWhile_append_dropWhile.symm, fun _ inside => List.mem_takeWhile_imp inside,
    head?_dropWhile text⟩

theorem isPrefix_trim (text : List Char) : trim text <+: trimStart text := by
  rw [← List.reverse_suffix, trim, List.reverse_reverse]
  exact List.dropWhile_suffix _

theorem isInfix_trim (text : List Char) : trim text <:+: text :=
  (isPrefix_trim text).isInfix.trans (List.dropWhile_suffix _).isInfix

theorem trim_ends (text : List Char) : (∀ c ∈ (trim text).head?, isBlank c = false) ∧
    ∀ c ∈ (trim text).getLast?, isBlank c = false := by
  constructor
  · intro c first
    obtain ⟨rest, seen⟩ := isPrefix_trim text
    apply head?_dropWhile text c
    rw [← trimStart, ← seen, List.head?_append, Option.mem_def.mp first]
    rfl
  · rw [trim, List.getLast?_reverse]
    exact head?_dropWhile _

theorem trim_append {before after : List Char} (filled : text ≠ [])
    (first : ∀ c ∈ text.head?, isBlank c = false) (last : ∀ c ∈ text.getLast?, isBlank c = false)
    (leading : ∀ c ∈ before, isBlank c = true) (trailing : ∀ c ∈ after, isBlank c = true) :
    trim (before ++ (text ++ after)) = text := by
  have start : ∀ c ∈ (text ++ after).head?, isBlank c = false := by
    cases text with
    | nil => exact absurd rfl filled
    | cons c rest => exact first
  have back : trimStart (after.reverse ++ text.reverse) = text.reverse :=
    trimStart_append (fun c inside => trailing c (List.mem_reverse.mp inside)) (by rwa [List.head?_reverse])
  rw [trim, trimStart_append leading start, List.reverse_append, ← trimStart, back, List.reverse_reverse]

theorem trim_eq_self (first : ∀ c ∈ text.head?, isBlank c = false)
    (last : ∀ c ∈ text.getLast?, isBlank c = false) : trim text = text := by
  cases text with
  | nil => rfl
  | cons c rest =>
    have whole := trim_append (List.cons_ne_nil c rest) first last (List.forall_mem_nil _) (List.forall_mem_nil _)
    rwa [List.nil_append, List.append_nil] at whole

theorem trim_trim (text : List Char) : trim (trim text) = trim text :=
  trim_eq_self (trim_ends text).1 (trim_ends text).2

end Predictive.Text
