import Predictive.Proofs.Written

/-! Entries that are written out are read again as they are, with all alternatives on one line or
with a line for each. -/

namespace Predictive.Source
open Text

theorem Arrowless.append_space {before after : List Char} (first : Arrowless before)
    (second : Arrowless after) : Arrowless (before ++ ' ' :: after) := by
  refine List.isChain_append.mpr ⟨first, List.isChain_cons.mpr ⟨fun d _ arrow => ?_, second⟩, ?_⟩
  · exact absurd arrow.1 (by decide)
  · intro c _ d space arrow
    obtain rfl := Option.some.inj space
    exact absurd arrow.2 (by decide)

theorem Arrowless.space {text : List Char} (arrowless : Arrowless text) : Arrowless (' ' :: text) :=
  Arrowless.append_space .nil arrowless

/-! Right sides -/

variable {body : List String} {bodies : List (List String)}

/-- Alternatives with bars between them. -/
def barred (bodies : List (List String)) : List Char :=
  (" | ".intercalate (bodies.map (" ".intercalate ·))).toList

theorem readLine_of_pieces {text left right : List Char} (pieces : splitArrows (trim text) = [left, right])
    (filled : trim left ≠ []) (solid : ∀ c ∈ trim left, isBlank c = false) :
    readLine text = .rule (String.ofList (trim left)) (readBodies right) := by
  have shown : (trim text).isEmpty = false := by
    cases same : trim text with
    | nil =>
      rw [same] at pieces
      simp [splitArrows] at pieces
    | cons => rfl
  have named : (trim left).isEmpty = false := by simpa using filled
  have whole : (trim left).any isBlank = false := by simpa using solid
  unfold readLine
  simp only [shown, pieces, named, whole, Bool.false_eq_true, if_false]

theorem readLine_of_bar {text right : List Char} (trimmed : trim text = '|' :: right)
    (arrowless : Arrowless ('|' :: right)) : readLine text = .continuation (readBodies right) := by
  unfold readLine
  simp only [trimmed, List.isEmpty_cons, splitArrows_of_arrowless arrowless, Bool.false_eq_true, if_false]

/-- The lines are read as the entry, wherever its left side is new. -/
def Tells (entry : Entry) (lines : List Line) : Prop :=
  ∀ number reading later, entry.left ∉ reading.entries.map Entry.left →
    readLines number reading (lines ++ later) = readLines (number + lines.length)
      ⟨reading.entries ++ [entry], some entry.left, reading.skipped⟩ later

/-- Entries with different left sides are read one after the other. -/
theorem entries_readLines {layout : Entry → List Line} {entries : List Entry}
    (tells : ∀ entry ∈ entries, Tells entry (layout entry)) {reading : Reading} (number : Nat)
    (distinct : ((reading.entries ++ entries).map Entry.left).Nodup) :
    (readLines number reading (entries.flatMap layout)).entries = reading.entries ++ entries := by
  induction entries generalizing reading number with
  | nil => simp [readLines]
  | cons entry later ih =>
    obtain ⟨first, others⟩ := List.forall_mem_cons.mp tells
    have new : entry.left ∉ reading.entries.map Entry.left := by
      rw [List.map_append, List.map_cons] at distinct
      exact fun old => (List.nodup_append.mp distinct).2.2 _ old _ List.mem_cons_self rfl
    rw [List.append_cons] at distinct
    rw [List.flatMap_cons, first number reading _ new, ih others _ distinct, ← List.append_cons]

theorem splitOn_lines {lines : List String} (filled : lines ≠ [])
    (unbroken : ∀ line ∈ lines, '\n' ∉ line.toList) :
    ("\n".intercalate lines).toList.splitOn '\n' = lines.map String.toList := by
  rw [String.toList_intercalate]
  refine List.splitOn_intercalate '\n' (fun piece member => ?_) (mt List.map_eq_nil_iff.mp filled)
  obtain ⟨line, listed, rfl⟩ := List.mem_map.mp member
  exact unbroken line listed

/-- A text of these lines. -/
theorem entries_read {lines : List String} (unbroken : ∀ line ∈ lines, '\n' ∉ line.toList) :
    (read ("\n".intercalate lines)).entries =
      (readLines 1 ⟨[], none, []⟩ (lines.map fun line => readLine line.toList)).entries := by
  cases lines with
  | nil => decide
  | cons line later =>
    rw [read, splitOn_lines (List.cons_ne_nil _ _) unbroken, List.map_map]
    rfl

end Predictive.Source
