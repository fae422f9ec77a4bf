import Mathlib.Data.List.Forall2
import Predictive.Listing.Rules

/-! Text that stays inside its cell. In a table that is written for LaTeX an ampersand ends a cell,
unless a backslash stands right before it, and a line break ends the line. Escaping leaves no such
ampersand, and neither does anything that a cell is put together with. -/

namespace Predictive

theorem not_mem_intercalate {α : Type} {a : α} {separator : List α} {parts : List (List α)}
    (between : a ∉ separator) (each : ∀ part ∈ parts, a ∉ part) : a ∉ separator.intercalate parts := by
  induction parts with
  | nil => exact List.not_mem_nil
  | cons part later ih =>
    obtain ⟨here, behind⟩ := List.forall_mem_cons.mp each
    cases later with
    | nil => simpa using here
    | cons next later =>
      have rest := ih behind
      rw [List.intercalate_cons_cons]
      simp [here, between, rest]

namespace Tex

/-- How many ampersands of the text, which comes right after `previous`, end a cell. -/
def separatorsAfter (previous : Option Char) : List Char → Nat
  | [] => 0
  | c :: rest =>
    (if c = '&' ∧ previous ≠ some '\\' then 1 else 0) + separatorsAfter (some c) rest

def separators (text : List Char) : Nat := separatorsAfter none text

structure Confined (text : List Char) : Prop where
  cell : separators text = 0
  line : '\n' ∉ text

variable {first second text : List Char} {previous : Option Char}

theorem separatorsAfter_append (previous : Option Char) (first second : List Char) :
    separatorsAfter previous (first ++ second) =
      separatorsAfter previous first + separatorsAfter (first.getLast?.or previous) second := by
  induction first generalizing previous with
  | nil => simp [separatorsAfter]
  | cons c rest ih =>
    have last : (c :: rest).getLast?.or previous = rest.getLast?.or (some c) := by
      rw [List.getLast?_cons]
      cases rest.getLast? <;> rfl
    rw [List.cons_append, separatorsAfter, separatorsAfter, ih, last, Nat.add_assoc]

theorem separatorsAfter_eq_zero (none : separators text = 0) (previous : Option Char) :
    separatorsAfter previous text = 0 := by
  cases text with
  | nil => rfl
  | cons c rest =>
    unfold separators at none
    rw [separatorsAfter] at none ⊢
    split at none
    · omega
    · next plain => simp_all

theorem separators_append (none : separators second = 0) (first : List Char) :
    separators (first ++ second) = separators first := by
  rw [separators, separatorsAfter_append, separatorsAfter_eq_zero none, Nat.add_zero, separators]

theorem Confined.append (front : Confined first) (back : Confined second) : Confined (first ++ second) where
  cell := (separators_append back.cell first).trans front.cell
  line := by simp [front.line, back.line]

theorem Confined.intercalate {separator : List Char} {parts : List (List Char)}
    (between : Confined separator) (each : ∀ part ∈ parts, Confined part) :
    Confined (separator.intercalate parts) := by
  refine ⟨?_, not_mem_intercalate between.line fun part member => (each part member).line⟩
  induction parts with
  | nil => rfl
  | cons part later ih =>
    obtain ⟨here, behind⟩ := List.forall_mem_cons.mp each
    cases later with
    | nil => simpa using here.cell
    | cons next later =>
      rw [List.intercalate_cons_cons, separators_append (ih behind), separators_append between.cell]
      exact here.cell

theorem confined_escapeChar {c : Char} (unbroken : c ≠ '\n') : Confined (escapeChar c).toList := by
  unfold escapeChar
  split
  case h_16 plain _ _ _ _ _ _ _ _ _ _ _ _ _ _ =>
    rw [String.toList_singleton]
    have other : c ≠ '&' := plain
    exact ⟨by simp [separators, separatorsAfter, other], by simpa using unbroken.symm⟩
  all_goals exact ⟨by decide, by decide⟩

theorem confined_escapeChars (unbroken : '\n' ∉ text) : Confined (escapeChars text).toList := by
  fun_induction escapeChars text with
  | case1 => exact ⟨rfl, List.not_mem_nil⟩
  | case2 rest ih =>
    rw [String.toList_append]
    exact .append ⟨by decide, by decide⟩ (ih (List.not_mem_of_not_mem_cons unbroken))
  | case3 c rest _ ih =>
    rw [String.toList_append]
    exact (confined_escapeChar (List.ne_of_not_mem_cons unbroken).symm).append
      (ih (List.not_mem_of_not_mem_cons unbroken))

theorem confined_escape {text : String} (unbroken : '\n' ∉ text.toList) : Confined (escape text).toList :=
  confined_escapeChars unbroken

/-! The sign for the empty word -/

/-- A command changes nothing about the ampersands, for it has none and does not end in a backslash. -/
theorem separatorsAfter_replaced {command : List Char} (none : separators command = 0) {last : Char}
    (ends : command.getLast? = some last) (other : last ≠ '\\') {before : Option Char}
    (alike : previous = some '\\' ↔ before = some '\\') (text : List Char) :
    separatorsAfter previous (text.flatMap fun c => if c == 'ε' then command else [c]) =
      separatorsAfter before text := by
  induction text generalizing previous before with
  | nil => rfl
  | cons c rest ih =>
    rw [List.flatMap_cons, separatorsAfter_append]
    by_cases epsilon : c = 'ε'
    · subst epsilon
      have step : separatorsAfter before ('ε' :: rest) = separatorsAfter (some 'ε') rest := by
        simp [separatorsAfter]
      rw [step, if_pos (by rfl), separatorsAfter_eq_zero none, ends, Nat.zero_add]
      exact ih (by simp [other])
    · have single : (if c == 'ε' then command else [c]) = [c] := if_neg (by simpa using epsilon)
      rw [single, List.getLast?_singleton, Option.some_or, ih Iff.rfl]
      simp [separatorsAfter, alike]

theorem Confined.withEpsilon {text : String} (inside : Confined text.toList) :
    Confined (Tex.withEpsilon "\\epsilon" text).toList := by
  have same : (Tex.withEpsilon "\\epsilon" text).toList =
      text.toList.flatMap fun c => if c == 'ε' then "\\epsilon".toList else [c] := by
    rw [Tex.withEpsilon, String.toList_join, List.flatMap_map]
    refine List.flatMap_congr fun c _ => ?_
    split <;> simp
  rw [same]
  constructor
  · have ends : "\\epsilon".toList.getLast? = some 'n' := by decide
    rw [separators, separatorsAfter_replaced (by decide) ends (by decide) Iff.rfl]
    exact inside.cell
  · intro broken
    obtain ⟨c, member, replaced⟩ := List.mem_flatMap.mp broken
    split at replaced
    · exact absurd replaced (by decide)
    · exact inside.line (List.mem_singleton.mp replaced ▸ member)

end Tex

namespace RuleListing

/-- No name in it has a line break. -/
structure Unbroken (listing : RuleListing) : Prop where
  left : '\n' ∉ listing.left.toList
  rights : ∀ right ∈ listing.rights, ∀ name ∈ right, '\n' ∉ name.toList

variable {listing : RuleListing}

theorem Unbroken.latex (unbroken : listing.Unbroken) : Tex.Confined (listing.latex false).toList := by
  unfold RuleListing.latex
  split
  · exact ⟨rfl, List.not_mem_nil⟩
  · refine Tex.Confined.withEpsilon ?_
    simp only [String.toList_append, String.toList_intercalate, List.map_map]
    refine ((Tex.confined_escape unbroken.left).append ⟨by decide, by decide⟩).append
      (.intercalate ⟨by decide, by decide⟩ fun part member => ?_)
    obtain ⟨right, listed, rfl⟩ := List.mem_map.mp member
    rw [Function.comp_apply, String.toList_intercalate]
    refine .intercalate ⟨by decide, by decide⟩ fun part member => ?_
    obtain ⟨_, escaped, rfl⟩ := List.mem_map.mp member
    obtain ⟨name, inside, rfl⟩ := List.mem_map.mp escaped
    exact Tex.confined_escape (unbroken.rights right listed name inside)

theorem Unbroken.inline (unbroken : listing.Unbroken) : '\n' ∉ (listing.inline 0).toList := by
  unfold RuleListing.inline
  split
  · exact List.not_mem_nil
  · have bodies : '\n' ∉ (" | ".intercalate (listing.rights.map (" ".intercalate ·))).toList := by
      rw [String.toList_intercalate, List.map_map]
      refine not_mem_intercalate (by decide) fun part member => ?_
      obtain ⟨right, listed, rfl⟩ := List.mem_map.mp member
      rw [Function.comp_apply, String.toList_intercalate]
      refine not_mem_intercalate (by decide) fun part member => ?_
      obtain ⟨name, inside, rfl⟩ := List.mem_map.mp member
      exact unbroken.rights right listed name inside
    have left : '\n' ∉ (Columns.flushRight 0 listing.left).toList := by
      simp [Columns.flushRight, Columns.spaces, unbroken.left]
    simp only [String.toList_append, List.mem_append, not_or]
    exact ⟨⟨left, by decide⟩, bodies⟩

end RuleListing
end Predictive
