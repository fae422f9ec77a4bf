import Mathlib.Data.List.Basic
import Predictive.Proofs.Lexemes

/-! Where the symbols of a right side stand in it. Each has a place of its own: the sign for the empty
word, a run of name characters that cannot be made longer on either side, or another sign. Between the
places there are blanks only, so that nothing of the text is lost. -/

namespace Predictive.Text

/-- Between the two texts the piece is read as that symbol. -/
inductive Stands (front : List Char) : List Char → List Char → String → Prop where
  | emptyWord {c : Char} {behind : List Char} (epsilon : isEpsilon c = true) : Stands front [c] behind "ε"
  | name {piece behind : List Char} (filled : piece ≠ []) (named : ∀ c ∈ piece, isNameChar c = true)
      (begins : ∀ c ∈ front.getLast?, isNameChar c = false)
      (ends : ∀ c ∈ behind.head?, isNameChar c = false) : Stands front piece behind (String.ofList piece)
  | sign {c : Char} {behind : List Char} (blank : isBlank c = false) (epsilon : isEpsilon c = false)
      (name : isNameChar c = false) : Stands front [c] behind (String.ofList [c])

/-- No run of name characters goes on from the one text into the other. -/
def Apart (first second : List Char) : Prop :=
  ∀ c ∈ first.getLast?, ∀ d ∈ second.head?, isNameChar c = true → isNameChar d = false

/-- Both shapes of the letter epsilon become one. -/
def unified (c : Char) : Char := if c = 'ϵ' then 'ε' else c

variable {c : Char} {text first front piece behind rest : List Char} {symbol other : String}

theorem unified_of_isEpsilon (epsilon : isEpsilon c = true) : unified c = 'ε' := by
  rw [isEpsilon, Bool.or_eq_true, beq_iff_eq, beq_iff_eq] at epsilon
  rcases epsilon with rfl | rfl <;> rfl

theorem unified_of_not_isEpsilon (epsilon : isEpsilon c = false) : unified c = c := by
  rw [isEpsilon, Bool.or_eq_false_iff] at epsilon
  exact if_neg (by simpa using epsilon.2)

theorem not_isNameChar_of_isEpsilon (epsilon : isEpsilon c = true) : isNameChar c = false := by
  rw [isNameChar, epsilon]
  exact Bool.and_false _

theorem span_name (named : ∀ c ∈ piece, isNameChar c = true) (ends : ∀ c ∈ behind.head?, isNameChar c = false) :
    (piece ++ behind).takeWhile isNameChar = piece ∧ (piece ++ behind).dropWhile isNameChar = behind := by
  rw [List.takeWhile_append_of_pos named, List.dropWhile_append_of_pos named]
  cases behind with
  | nil => simp
  | cons d behind => simp [ends d rfl]

namespace Stands

theorem lexemes_append (stands : Stands front piece behind symbol) :
    lexemes (piece ++ behind) = symbol :: lexemes behind := by
  cases stands with
  | emptyWord epsilon => exact lexemes_cons_epsilon epsilon
  | sign blank epsilon name => exact lexemes_cons_sign blank epsilon name
  | name filled named _ ends =>
    obtain ⟨c, rest, rfl⟩ := List.exists_cons_of_ne_nil filled
    obtain ⟨first, later⟩ := List.forall_mem_cons.mp named
    obtain ⟨run, left⟩ := span_name later ends
    rw [List.cons_append, lexemes_cons_name first, run, left]

theorem not_isBlank (stands : Stands front piece behind symbol) : ∀ c ∈ piece, isBlank c = false := by
  cases stands with
  | emptyWord epsilon => exact List.forall_mem_singleton.mpr (not_isBlank_of_isEpsilon epsilon)
  | name _ named => exact fun c inside => not_isBlank_of_isNameChar (named c inside)
  | sign blank => exact List.forall_mem_singleton.mpr blank

/-- What is read is what is written, but for the shape of an epsilon. -/
theorem map_unified (stands : Stands front piece behind symbol) : piece.map unified = symbol.toList := by
  cases stands with
  | emptyWord epsilon =>
    rw [List.map_singleton, unified_of_isEpsilon epsilon]
    rfl
  | name _ named =>
    rw [String.toList_ofList]
    refine (List.map_congr_left fun c inside => ?_).trans (List.map_id' _)
    exact unified_of_not_isEpsilon (not_isEpsilon_of_isNameChar (named c inside))
  | sign blank epsilon => rw [List.map_singleton, unified_of_not_isEpsilon epsilon, String.toList_ofList]

/-- No more than the next character tells that a symbol is over. -/
theorem of_append (stands : Stands front piece (behind ++ rest) symbol) : Stands front piece behind symbol := by
  cases stands with
  | emptyWord epsilon => exact .emptyWord epsilon
  | sign blank epsilon name => exact .sign blank epsilon name
  | name filled named begins ends =>
    refine .name filled named begins fun c first => ends c ?_
    rw [List.head?_append, Option.mem_def.mp first]
    rfl

theorem apart (stands : Stands front piece behind symbol) : Apart piece behind := by
  cases stands with
  | emptyWord epsilon =>
    intro c last _ _ name
    obtain rfl := Option.some.inj last
    simp [not_isNameChar_of_isEpsilon epsilon] at name
  | name _ _ _ ends => exact fun _ _ d first _ => ends d first
  | sign blank epsilon other =>
    intro c last _ _ name
    obtain rfl := Option.some.inj last
    simp [other] at name

/-- A symbol stays where it is when more is put in front of all. -/
theorem behind_append (apart : Apart first (front ++ (piece ++ behind)))
    (stands : Stands front piece behind symbol) : Stands (first ++ front) piece behind symbol := by
  cases stands with
  | emptyWord epsilon => exact .emptyWord epsilon
  | sign blank epsilon name => exact .sign blank epsilon name
  | name filled named begins ends =>
    refine .name filled named (fun c last => ?_) ends
    cases front with
    | cons d front =>
      rw [List.getLast?_append_of_ne_nil _ (List.cons_ne_nil d front)] at last
      exact begins c last
    | nil =>
      rw [List.append_nil] at last
      obtain ⟨d, rest, rfl⟩ := List.exists_cons_of_ne_nil filled
      by_contra name
      have ended := apart c last d rfl (by simpa using name)
      rw [named d List.mem_cons_self] at ended
      cases ended

end Stands

/-- A text is taken apart symbol by symbol. -/
theorem lexemes_induction {motive : List Char → Prop} (nil : motive [])
    (blank : ∀ c rest, isBlank c = true → motive rest → motive (c :: rest))
    (symbol : ∀ piece rest symbol, Stands [] piece rest symbol → motive rest → motive (piece ++ rest))
    (text : List Char) : motive text := by
  fun_induction lexemes text with
  | case1 => exact nil
  | case2 c rest here ih => exact blank c rest here ih
  | case3 c rest _ epsilon ih => exact symbol [c] rest _ (.emptyWord epsilon) ih
  | case4 c rest _ _ name ih =>
    have run : ∀ d ∈ c :: rest.takeWhile isNameChar, isNameChar d = true :=
      List.forall_mem_cons.mpr ⟨name, fun d inside => List.mem_takeWhile_imp inside⟩
    have ended : ∀ d ∈ (rest.dropWhile isNameChar).head?, isNameChar d = false := by
      intro d next
      have stops := List.head?_dropWhile_not isNameChar rest
      rw [Option.mem_def.mp next] at stops
      simpa using stops
    have whole := symbol _ _ _ (.name (List.cons_ne_nil c _) run (by simp) ended) ih
    rwa [List.cons_append, List.takeWhile_append_dropWhile] at whole
  | case5 c rest here epsilon name ih =>
    simp only [Bool.not_eq_true] at here epsilon name
    exact symbol [c] rest _ (.sign here epsilon name) ih

/-- Put together again, the symbols are the text without its blanks. -/
theorem flatMap_lexemes (text : List Char) :
    (lexemes text).flatMap String.toList = (text.filter (!isBlank ·)).map unified := by
  induction text using lexemes_induction with
  | nil => rw [lexemes_nil]; rfl
  | blank c rest blank ih => rw [lexemes_cons_blank blank, ih, List.filter_cons_of_neg (by simp [blank])]
  | symbol piece rest symbol stands ih =>
    have solid : piece.filter (!isBlank ·) = piece :=
      List.filter_eq_self.mpr fun c inside => by simp [stands.not_isBlank c inside]
    rw [stands.lexemes_append, List.flatMap_cons, ih, List.filter_append, solid, List.map_append,
      stands.map_unified]

/-- Every symbol has its place, with the symbols before it on one side and those behind it on the other. -/
theorem exists_stands {before after : List String} (split : lexemes text = before ++ symbol :: after) :
    ∃ front piece behind, text = front ++ (piece ++ behind) ∧ lexemes front = before ∧
      lexemes behind = after ∧ Stands front piece behind symbol := by
  induction text using lexemes_induction generalizing before with
  | nil =>
    rw [lexemes_nil] at split
    simp at split
  | blank c rest blank ih =>
    rw [lexemes_cons_blank blank] at split
    obtain ⟨front, piece, behind, rfl, read, later, stands⟩ := ih split
    -- A symbol found in the rest is maximal there; the blank does not make it longer.
    have apart : Apart [c] (front ++ (piece ++ behind)) := by
      intro d last _ _ name
      obtain rfl := Option.some.inj last
      simp [not_isNameChar_of_isBlank blank] at name
    exact ⟨c :: front, piece, behind, rfl, (lexemes_cons_blank blank).trans read, later,
      stands.behind_append apart⟩
  | symbol piece rest read first ih =>
    rw [first.lexemes_append] at split
    cases before with
    | nil =>
      obtain ⟨rfl, rfl⟩ := List.cons.inj split
      exact ⟨[], piece, rest, rfl, lexemes_nil, rfl, first⟩
    | cons other before =>
      rw [List.cons_append] at split
      obtain ⟨rfl, onward⟩ := List.cons.inj split
      obtain ⟨front, inner, behind, rfl, same, later, stands⟩ := ih onward
      exact ⟨piece ++ front, inner, behind, (List.append_assoc ..).symm,
        first.of_append.lexemes_append.trans (congrArg _ same), later, stands.behind_append first.apart⟩

/-- A right side is read without loss: a blank separates what stands on its two sides, the symbols make up
the text without its blanks, each of them is the sign for the empty word, a run of name characters that
ends where no name character follows and begins where none stands before, or another sign, and written
with blanks between them they are read again. -/
theorem lexemes_exact (text : List Char) :
    (∀ blank other, isBlank blank = true → lexemes (text ++ blank :: other) = lexemes text ++ lexemes other) ∧
      (lexemes text).flatMap String.toList = (text.filter (!isBlank ·)).map unified ∧
      (∀ before symbol after, lexemes text = before ++ symbol :: after →
        ∃ front piece behind, text = front ++ (piece ++ behind) ∧ lexemes front = before ∧
          lexemes behind = after ∧ Stands front piece behind symbol) ∧
      lexemes (joined (lexemes text)) = lexemes text :=
  ⟨fun _ _ blank => lexemes_append_blank text blank, flatMap_lexemes text, fun _ _ _ => exists_stands,
    lexemes_joined fun _ => lexical_of_mem⟩

/-- Quotes and underscores belong to a name, and an epsilon ends it without any blank. -/
theorem abutting_lexemes :
    isBlank '\u00A0' = true ∧ lexemes "_x\x27ϵy1\u00A0+y".toList = ["_x\x27", "ε", "y1", "+", "y"] ∧
      lexemes "_x\x27ϵy1\u00A0+y".toList = lexemes "_x\x27ϵy1".toList ++ lexemes "+y".toList ∧
      ∃ front piece behind, "_x\x27ϵy1\u00A0+y".toList = front ++ (piece ++ behind) ∧
        lexemes front = ["_x\x27", "ε"] ∧ lexemes behind = ["+", "y"] ∧ Stands front piece behind "y1" := by
  have blank : isBlank '\u00A0' = true := by decide
  have read : lexemes "_x\x27ϵy1\u00A0+y".toList = ["_x\x27", "ε", "y1", "+", "y"] := by cbv
  exact ⟨blank, read, (lexemes_exact "_x\x27ϵy1".toList).1 _ "+y".toList blank,
    (lexemes_exact _).2.2.1 ["_x\x27", "ε"] "y1" ["+", "y"] read⟩

end Predictive.Text
