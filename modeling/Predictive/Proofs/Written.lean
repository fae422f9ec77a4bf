import Mathlib.Data.List.Chain
import Predictive.Grammar.Source
import Predictive.Proofs.Lexemes
import Predictive.Proofs.Trimming

/-! What can be read from a text. A left side is one piece without blanks and arrows, however odd it
is otherwise; right sides consist of symbols, and no symbol contains a bar or an arrow. -/

namespace Predictive

namespace Text

/-- The text begins and ends with something else than a blank, and has no other blanks inside than
spaces. -/
structure Tight (text : List Char) : Prop where
  filled : text ≠ []
  first : ∀ c ∈ text.head?, isBlank c = false
  last : ∀ c ∈ text.getLast?, isBlank c = false
  spaced : ∀ c ∈ text, isBlank c = true → c = ' '

theorem tight_of_solid {text : List Char} (filled : text ≠ [])
    (solid : ∀ c ∈ text, isBlank c = false) : Tight text where
  filled := filled
  first := fun c first => solid c (List.mem_of_mem_head? first)
  last := fun c last => solid c (List.mem_of_getLast? last)
  spaced := fun c inside blank => by simp [solid c inside] at blank

theorem Tight.append_space {before after : List Char} (first : Tight before) (second : Tight after) :
    Tight (before ++ ' ' :: after) where
  filled := List.append_ne_nil_of_left_ne_nil first.filled _
  first := by
    rw [List.head?_append_of_ne_nil _ first.filled]
    exact first.first
  last := by
    rw [← List.singleton_append, ← List.append_assoc, List.getLast?_append_of_ne_nil _ second.filled]
    exact second.last
  spaced := by
    intro c inside blank
    rcases List.mem_append.mp inside with here | there
    · exact first.spaced c here blank
    · exact (List.mem_cons.mp there).elim id fun later => second.spaced c later blank

theorem Tight.unbroken {text : List Char} (tight : Tight text) (indent : Nat) :
    '\n' ∉ List.replicate indent ' ' ++ text := by
  intro inside
  rcases List.mem_append.mp inside with space | inside
  · exact absurd (List.eq_of_mem_replicate space) (by decide)
  · exact absurd (tight.spaced _ inside (by decide)) (by decide)

end Text

namespace Source
open Text

/-- No arrow begins in the text. -/
def Arrowless (text : List Char) : Prop := text.IsChain fun c d => ¬ (c = '-' ∧ d = '>')

theorem splitArrows_cons {c : Char} {rest piece : List Char} {pieces : List (List Char)}
    (apart : ∀ d ∈ rest.head?, ¬ (c = '-' ∧ d = '>')) (split : splitArrows rest = piece :: pieces) :
    splitArrows (c :: rest) = (c :: piece) :: pieces := by
  rw [splitArrows, split]
  rintro later rfl rfl
  exact apart '>' rfl ⟨rfl, rfl⟩

theorem splitArrows_of_arrowless {text : List Char} (arrowless : Arrowless text) :
    splitArrows text = [text] := by
  induction text with
  | nil => rfl
  | cons c rest ih =>
    obtain ⟨apart, later⟩ := List.isChain_cons.mp arrowless
    exact splitArrows_cons apart (ih later)

theorem splitArrows_ne_nil (text : List Char) : splitArrows text ≠ [] := by
  fun_induction splitArrows text <;> simp

theorem prefix_of_splitArrows {text piece : List Char} {pieces : List (List Char)}
    (split : splitArrows text = piece :: pieces) : piece <+: text := by
  fun_induction splitArrows text generalizing piece pieces with
  | case1 =>
    obtain ⟨rfl, _⟩ := List.cons.inj split
    exact List.prefix_rfl
  | case2 rest ih =>
    obtain ⟨rfl, _⟩ := List.cons.inj split
    exact List.nil_prefix
  | case3 c rest _ none => exact absurd none (splitArrows_ne_nil rest)
  | case4 c rest _ first others same ih =>
    obtain ⟨rfl, _⟩ := List.cons.inj split
    exact (List.prefix_cons_inj c).mpr (ih same)

theorem arrowless_of_mem_splitArrows {text piece : List Char} (member : piece ∈ splitArrows text) :
    Arrowless piece := by
  fun_induction splitArrows text generalizing piece with
  | case1 =>
    rw [List.mem_singleton.mp member]
    exact .nil
  | case2 rest ih =>
    rcases List.mem_cons.mp member with rfl | later
    · exact .nil
    · exact ih later
  | case3 c rest _ none => exact absurd none (splitArrows_ne_nil rest)
  | case4 c rest apart first others same ih =>
    rw [same] at ih
    rcases List.mem_cons.mp member with rfl | later
    · refine List.isChain_cons.mpr ⟨fun d next arrow => ?_, ih List.mem_cons_self⟩
      obtain ⟨rfl, rfl⟩ := arrow
      obtain ⟨tail, rfl⟩ := List.head?_eq_some_iff.mp next
      obtain ⟨behind, rfl⟩ := prefix_of_splitArrows same
      exact apart _ rfl rfl
    · exact ih (List.mem_cons_of_mem first later)

/-! Right sides -/

/-- How a symbol of a right side can be spelled. -/
structure Spelled (t : String) : Prop where
  lexical : Lexical t.toList
  barless : '|' ∉ t.toList

theorem not_mem_of_mem_splitOn {c : Char} {text piece : List Char} (member : piece ∈ text.splitOn c) :
    c ∉ piece := by
  induction text generalizing piece with
  | nil =>
    rw [List.splitOn_nil, List.mem_singleton] at member
    exact member ▸ List.not_mem_nil
  | cons d rest ih =>
    rw [List.splitOn_cons_eq_if_modifyHead] at member
    split at member
    · rcases List.mem_cons.mp member with rfl | later
      · exact List.not_mem_nil
      · exact ih later
    next other =>
      obtain ⟨first, others, split⟩ := List.exists_cons_of_ne_nil (List.splitOn_ne_nil c rest)
      rw [split, List.modifyHead_cons] at member
      rw [split] at ih
      rcases List.mem_cons.mp member with rfl | later
      · have apart : c ≠ d := fun same => other (beq_iff_eq.mpr same.symm)
        exact List.not_mem_cons_of_ne_of_not_mem apart (ih List.mem_cons_self)
      · exact ih (List.mem_cons_of_mem first later)

theorem readBodies_ne_nil (right : List Char) : readBodies right ≠ [] := by
  rw [readBodies, Ne, List.map_eq_nil_iff]
  exact List.splitOn_ne_nil _ _

theorem readBodies_spelled {right : List Char} {body : List String} (member : body ∈ readBodies right) :
    ∀ t ∈ body, Spelled t := by
  obtain ⟨piece, inside, rfl⟩ := List.mem_map.mp member
  intro t symbol
  refine ⟨lexical_of_mem symbol, fun bar => ?_⟩
  rcases mem_of_mem_lexemes symbol bar with written | sign
  · exact not_mem_of_mem_splitOn inside written
  · exact absurd sign (by decide)

end Source

/-! Entries -/

/-- The entry could stand in a text. -/
structure Entry.Written (entry : Entry) : Prop where
  filled : entry.left.toList ≠ []
  solid : ∀ c ∈ entry.left.toList, Text.isBlank c = false
  arrowless : Source.Arrowless entry.left.toList
  bodies : entry.bodies ≠ []
  spelled : ∀ body ∈ entry.bodies, ∀ t ∈ body, Source.Spelled t

namespace Source
open Text

def Line.Written : Line → Prop
  | .rule left bodies => (⟨left, bodies⟩ : Entry).Written
  | .continuation bodies => ∀ body ∈ bodies, ∀ t ∈ body, Spelled t
  | _ => True

theorem written_readLine (text : List Char) : (readLine text).Written := by
  unfold readLine
  dsimp only
  split
  · trivial
  · split
    next left right pieces =>
      split
      · trivial
      next filled =>
        split
        · trivial
        next solid =>
          have piece : Arrowless left := arrowless_of_mem_splitArrows (pieces ▸ List.mem_cons_self)
          have left : String.toList _ = trim left := String.toList_ofList
          refine ⟨?_, ?_, ?_, readBodies_ne_nil right, fun body member => readBodies_spelled member⟩
          · simpa [left] using filled
          · simpa [left] using solid
          · rw [left]
            exact piece.infix (isInfix_trim _)
    · trivial
    · split
      · exact fun body member => readBodies_spelled member
      · trivial

/-- Alternatives are added to the entry of their left side, or it becomes the last one. -/
theorem map_left_extend (left : String) (bodies : List (List String)) (entries : List Entry) :
    (extend left bodies entries).map Entry.left =
      if left ∈ entries.map Entry.left then entries.map Entry.left
      else entries.map Entry.left ++ [left] := by
  induction entries with
  | nil => rfl
  | cons entry later ih =>
    unfold extend
    by_cases same : entry.left = left
    · simp [same]
    · rw [if_neg same, List.map_cons, List.map_cons, ih]
      by_cases known : left ∈ later.map Entry.left
      · rw [if_pos known, if_pos (List.mem_cons_of_mem _ known)]
      · have unknown : left ∉ entry.left :: later.map Entry.left :=
          List.not_mem_cons_of_ne_of_not_mem (Ne.symm same) known
        rw [if_neg known, if_neg unknown, List.cons_append]

theorem written_extend {left : String} {bodies : List (List String)} {entries : List Entry}
    (spelled : ∀ body ∈ bodies, ∀ t ∈ body, Spelled t)
    (new : left ∉ entries.map Entry.left → (⟨left, bodies⟩ : Entry).Written)
    (old : ∀ entry ∈ entries, entry.Written) : ∀ entry ∈ extend left bodies entries, entry.Written := by
  induction entries with
  | nil => exact List.forall_mem_singleton.mpr (new List.not_mem_nil)
  | cons entry later ih =>
    obtain ⟨first, others⟩ := List.forall_mem_cons.mp old
    unfold extend
    split
    · refine List.forall_mem_cons.mpr ⟨⟨first.filled, first.solid, first.arrowless, ?_, ?_⟩, others⟩
      · exact List.append_ne_nil_of_left_ne_nil first.bodies bodies
      · exact List.forall_mem_append.mpr ⟨first.spelled, spelled⟩
    next other =>
      refine List.forall_mem_cons.mpr ⟨first, ih (fun unknown => new ?_) others⟩
      exact List.not_mem_cons_of_ne_of_not_mem (Ne.symm other) unknown

structure Reading.Written (reading : Reading) : Prop where
  entries : ∀ entry ∈ reading.entries, entry.Written
  distinct : (reading.entries.map Entry.left).Nodup
  current : ∀ left, reading.current = some left → left ∈ reading.entries.map Entry.left

theorem Reading.Written.extend {reading : Reading} (written : reading.Written) {left : String}
    {bodies : List (List String)} (spelled : ∀ body ∈ bodies, ∀ t ∈ body, Spelled t)
    (new : left ∉ reading.entries.map Entry.left → (⟨left, bodies⟩ : Entry).Written) :
    Written { reading with entries := Source.extend left bodies reading.entries, current := some left } where
  entries := written_extend spelled new written.entries
  distinct := by
    rw [map_left_extend]
    split
    · exact written.distinct
    next unknown => exact List.nodup_append.mpr ⟨written.distinct, by simp, by grind⟩
  current := by
    intro other same
    obtain rfl := Option.some.inj same
    rw [map_left_extend]
    split
    · assumption
    · exact List.mem_append_right _ List.mem_cons_self

theorem Reading.Written.add {reading : Reading} (written : reading.Written) {line : Line}
    (fair : line.Written) (number : Nat) : (reading.add number line).Written := by
  cases line with
  | blank => exact written
  | rule left bodies => exact written.extend fair.spelled fun _ => fair
  | continuation bodies =>
    simp only [Reading.add]
    cases continues : reading.current with
    | some left =>
      have extended := written.extend fair fun unknown => absurd (written.current left continues) unknown
      simpa only [continues] using extended
    | none => exact ⟨written.entries, written.distinct, written.current⟩
  | faulty problem =>
    have closed : ∀ left : String, none = some left → left ∈ reading.entries.map Entry.left := nofun
    cases problem with
    | noArrow => exact ⟨written.entries, written.distinct, written.current⟩
    | _ => exact ⟨written.entries, written.distinct, closed⟩

/-- Whatever the text, what has been read of it could be written again. -/
theorem written_read (text : String) : (read text).Written := by
  have lines : ∀ (lines : List (List Char)) number (reading : Reading), reading.Written →
      (readLines number reading (lines.map readLine)).Written := by
    intro lines
    induction lines with
    | nil => exact fun _ _ written => written
    | cons line later ih =>
      exact fun number reading written => ih _ _ (written.add (written_readLine line) number)
  exact lines _ 1 _ ⟨by simp, List.nodup_nil, nofun⟩

end Source
end Predictive
