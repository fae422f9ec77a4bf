import Mathlib.Data.List.TakeWhile
import Predictive.Text.Lexeme

/-! What the symbols in a right side look like, and what keeps them apart. Blanks are never part of
a symbol, so a blank between two texts does not change how either of them is read, and symbols that
are written with blanks between them are read as they are. -/

namespace Predictive.Text

/-! Blanks are no name characters. -/

/-- The code points in the ranges of a table. -/
def points (table : List (Nat × Nat)) : List Nat :=
  table.flatMap fun (first, last) => List.range' first (last + 1 - first)

theorem mem_points_of_covers {table : List (Nat × Nat)} {n : Nat} (covered : covers table n = true) :
    n ∈ points table := by
  induction table with
  | nil => cases covered
  | cons range later ih =>
    obtain ⟨first, last⟩ := range
    simp only [covers, Bool.if_false_left, Bool.and_eq_true, Bool.not_eq_true', decide_eq_false_iff_not,
      Bool.or_eq_true, decide_eq_true_eq] at covered
    obtain ⟨low, high | other⟩ := covered
    · refine List.mem_append_left _ (List.mem_range'_1.mpr ?_)
      omega
    · exact List.mem_append_right _ (ih other)

theorem not_alphanumeric_of_isBlank {c : Char} (blank : isBlank c = true) :
    isAlphanumeric c = false := by
  have apart : ∀ n ∈ points blanks, covers alphanumerics n = false := by decide +kernel
  exact apart _ (mem_points_of_covers blank)

theorem not_isNameChar_of_isBlank {c : Char} (blank : isBlank c = true) : isNameChar c = false := by
  have letter := not_alphanumeric_of_isBlank blank
  have underscore : c ≠ '_' := by
    rintro rfl
    revert blank
    decide
  have prime : c ≠ '\x27' := by
    rintro rfl
    revert blank
    decide
  simp [isNameChar, letter, underscore, prime]

theorem not_isBlank_of_isNameChar {c : Char} (name : isNameChar c = true) : isBlank c = false := by
  by_contra blank
  rw [not_isNameChar_of_isBlank (by simpa using blank)] at name
  cases name

theorem not_isBlank_of_isEpsilon {c : Char} (epsilon : isEpsilon c = true) : isBlank c = false := by
  simp only [isEpsilon, Bool.or_eq_true, beq_iff_eq] at epsilon
  rcases epsilon with rfl | rfl <;> decide

theorem not_isEpsilon_of_isNameChar {c : Char} (name : isNameChar c = true) : isEpsilon c = false := by
  simp only [isNameChar, Bool.and_eq_true, Bool.not_eq_true'] at name
  exact name.2

/-! Reading one symbol -/

variable {c : Char} {rest : List Char}

@[simp] theorem lexemes_nil : lexemes [] = [] := by
  rw [lexemes]

theorem lexemes_cons_blank (blank : isBlank c = true) : lexemes (c :: rest) = lexemes rest := by
  rw [lexemes, if_pos blank]

theorem lexemes_cons_epsilon (epsilon : isEpsilon c = true) :
    lexemes (c :: rest) = "ε" :: lexemes rest := by
  rw [lexemes, if_neg (by simp [not_isBlank_of_isEpsilon epsilon]), if_pos epsilon]

theorem lexemes_cons_name (name : isNameChar c = true) : lexemes (c :: rest) =
    String.ofList (c :: rest.takeWhile isNameChar) :: lexemes (rest.dropWhile isNameChar) := by
  rw [lexemes, if_neg (by simp [not_isBlank_of_isNameChar name]),
    if_neg (by simp [not_isEpsilon_of_isNameChar name]), if_pos name]

theorem lexemes_cons_sign (blank : isBlank c = false) (epsilon : isEpsilon c = false)
    (name : isNameChar c = false) : lexemes (c :: rest) = String.ofList [c] :: lexemes rest := by
  rw [lexemes, if_neg (by simp [blank]), if_neg (by simp [epsilon]), if_neg (by simp [name])]

/-- A run ends at the latest where something else follows. -/
theorem span_append {p : Char → Bool} (stops : p c = false) (text : List Char) :
    (text ++ c :: rest).takeWhile p = text.takeWhile p ∧
      (text ++ c :: rest).dropWhile p = text.dropWhile p ++ c :: rest := by
  induction text with
  | nil => simp [stops]
  | cons d text ih => cases inside : p d <;> simp [inside, ih]

/-- A blank ends whatever stands before it. -/
theorem lexemes_append_blank (text : List Char) (blank : isBlank c = true) :
    lexemes (text ++ c :: rest) = lexemes text ++ lexemes rest := by
  fun_induction lexemes text with
  | case1 => exact lexemes_cons_blank blank
  | case2 d text here ih => exact (lexemes_cons_blank here).trans ih
  | case3 d text here epsilon ih => exact (lexemes_cons_epsilon epsilon).trans (congrArg _ ih)
  | case4 d text here epsilon name ih =>
    obtain ⟨run, behind⟩ := span_append (not_isNameChar_of_isBlank blank) text
    rw [List.cons_append, lexemes_cons_name name, run, behind, ih]
    rfl
  | case5 d text here epsilon name ih =>
    simp only [Bool.not_eq_true] at here epsilon name
    rw [List.cons_append, lexemes_cons_sign here epsilon name, ih]
    rfl

/-! Symbols as they are written -/

/-- The sign for the empty word, a name, or any other sign. -/
inductive Lexical : List Char → Prop where
  | emptyWord : Lexical ['ε']
  | name {chars : List Char} (filled : chars ≠ []) (named : ∀ c ∈ chars, isNameChar c = true) : Lexical chars
  | sign {c : Char} (blank : isBlank c = false) (epsilon : isEpsilon c = false)
      (name : isNameChar c = false) : Lexical [c]

theorem lexical_of_mem {t : String} {text : List Char} (member : t ∈ lexemes text) :
    Lexical t.toList := by
  fun_induction lexemes text with
  | case1 => cases member
  | case2 c rest blank ih => exact ih member
  | case3 c rest blank epsilon ih =>
    rcases List.mem_cons.mp member with rfl | later
    · exact .emptyWord
    · exact ih later
  | case4 c rest blank epsilon name ih =>
    rcases List.mem_cons.mp member with rfl | later
    · rw [String.toList_ofList]
      refine .name (List.cons_ne_nil _ _) (List.forall_mem_cons.mpr ⟨name, fun d inside => ?_⟩)
      exact List.mem_takeWhile_imp inside
    · exact ih later
  | case5 c rest blank epsilon name ih =>
    simp only [Bool.not_eq_true] at blank epsilon name
    rcases List.mem_cons.mp member with rfl | later
    · rw [String.toList_ofList]
      exact .sign blank epsilon name
    · exact ih later

/-- A symbol is made of what stands in the text, but for the sign of the empty word. -/
theorem mem_of_mem_lexemes {t : String} {text : List Char} (member : t ∈ lexemes text) {c : Char}
    (inside : c ∈ t.toList) : c ∈ text ∨ c = 'ε' := by
  fun_induction lexemes text with
  | case1 => cases member
  | case2 d rest blank ih => exact (ih member).imp_left (List.mem_cons_of_mem d)
  | case3 d rest blank epsilon ih =>
    rcases List.mem_cons.mp member with rfl | later
    · exact .inr (List.mem_singleton.mp inside)
    · exact (ih later).imp_left (List.mem_cons_of_mem d)
  | case4 d rest blank epsilon name ih =>
    rcases List.mem_cons.mp member with rfl | later
    · rw [String.toList_ofList] at inside
      exact .inl (List.cons_subset_cons d (List.takeWhile_sublist _).subset inside)
    · exact (ih later).imp_left fun found =>
        List.mem_cons_of_mem d ((List.dropWhile_sublist _).subset found)
  | case5 d rest blank epsilon name ih =>
    rcases List.mem_cons.mp member with rfl | later
    · rw [String.toList_ofList] at inside
      exact .inl (List.mem_singleton.mp inside ▸ List.mem_cons_self)
    · exact (ih later).imp_left (List.mem_cons_of_mem d)

namespace Lexical

variable {chars : List Char}

theorem ne_nil (lexical : Lexical chars) : chars ≠ [] := by
  cases lexical with
  | emptyWord => exact List.cons_ne_nil _ _
  | name filled => exact filled
  | sign => exact List.cons_ne_nil _ _

theorem not_isBlank (lexical : Lexical chars) : ∀ c ∈ chars, isBlank c = false := by
  cases lexical with
  | emptyWord => exact List.forall_mem_singleton.mpr (not_isBlank_of_isEpsilon (by decide))
  | name _ named => exact fun c inside => not_isBlank_of_isNameChar (named c inside)
  | sign blank => exact List.forall_mem_singleton.mpr blank

/-- A symbol is read as itself. -/
theorem lexemes_eq (lexical : Lexical chars) : lexemes chars = [String.ofList chars] := by
  cases lexical with
  | emptyWord =>
    rw [lexemes_cons_epsilon (by decide), lexemes_nil]
  | name filled named =>
    obtain ⟨c, rest, rfl⟩ := List.exists_cons_of_ne_nil filled
    obtain ⟨first, later⟩ := List.forall_mem_cons.mp named
    rw [lexemes_cons_name first, List.takeWhile_eq_self_iff.mpr later,
      List.dropWhile_eq_nil_iff.mpr later, lexemes_nil]
  | sign blank epsilon name => rw [lexemes_cons_sign blank epsilon name, lexemes_nil]

end Lexical

/-- The symbols with blanks between them. -/
def joined (symbols : List String) : List Char := (" ".intercalate symbols).toList

theorem joined_cons_cons (t u : String) (later : List String) :
    joined (t :: u :: later) = t.toList ++ ' ' :: joined (u :: later) := by
  simp [joined, String.intercalate_cons_cons]

theorem joined_singleton (t : String) : joined [t] = t.toList := by
  simp [joined]

/-- Symbols that are written with blanks between them are read again. -/
theorem lexemes_joined {symbols : List String} (lexical : ∀ t ∈ symbols, Lexical t.toList) :
    lexemes (joined symbols) = symbols := by
  induction symbols with
  | nil => exact lexemes_nil
  | cons t later ih =>
    obtain ⟨first, others⟩ := List.forall_mem_cons.mp lexical
    cases later with
    | nil => rw [joined_singleton, first.lexemes_eq, String.ofList_toList]
    | cons u later =>
      rw [joined_cons_cons, lexemes_append_blank _ (by decide), first.lexemes_eq, ih others,
        String.ofList_toList]
      rfl

end Predictive.Text
