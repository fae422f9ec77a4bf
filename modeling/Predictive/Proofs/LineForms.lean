import Predictive.Proofs.Rereading

/-! What a line is read as, whatever blanks stand around its parts. A line with an arrow is a rule exactly if
it has no other arrow and its left side is one piece; its alternatives are read one by one between the
bars, so that it does not matter on which line they stand. -/

namespace Predictive

namespace Text

variable {gap text : List Char}

theorem lexemes_blanks_append (blanks : ∀ c ∈ gap, isBlank c = true) (text : List Char) :
    lexemes (gap ++ text) = lexemes text := by
  induction gap with
  | nil => rfl
  | cons c gap ih =>
    obtain ⟨first, later⟩ := List.forall_mem_cons.mp blanks
    rw [List.cons_append, lexemes_cons_blank first, ih later]

theorem lexemes_of_blanks (blanks : ∀ c ∈ gap, isBlank c = true) : lexemes gap = [] := by
  rw [← List.append_nil gap, lexemes_blanks_append blanks, lexemes_nil]

theorem lexemes_append_blanks (text : List Char) (blanks : ∀ c ∈ gap, isBlank c = true) :
    lexemes (text ++ gap) = lexemes text := by
  cases gap with
  | nil => rw [List.append_nil]
  | cons c gap =>
    obtain ⟨first, later⟩ := List.forall_mem_cons.mp blanks
    rw [lexemes_append_blank text first, lexemes_of_blanks later, List.append_nil]

/-- Every text is blank behind something that does not end with a blank. -/
theorem exists_gap_behind (text : List Char) : ∃ kept gap, text = kept ++ gap ∧
    (∀ c ∈ gap, isBlank c = true) ∧ ∀ c ∈ kept.getLast?, isBlank c = false := by
  obtain ⟨gap, same, blanks, begins⟩ := exists_gap text.reverse
  refine ⟨(trimStart text.reverse).reverse, gap.reverse, ?_, ?_, ?_⟩
  · rw [← List.reverse_append, ← same, List.reverse_reverse]
  · exact fun c inside => blanks c (List.mem_reverse.mp inside)
  · rwa [List.getLast?_reverse]

theorem trim_trimStart (text : List Char) : trim (trimStart text) = trim text := by
  have again : trimStart (trimStart text) = trimStart text :=
    trimStart_append (List.forall_mem_nil _) (head?_dropWhile text)
  rw [trim, trim, again]

/-- What is trimmed away are the blanks around the text. -/
theorem exists_trimmed (text : List Char) : ∃ before after, text = before ++ (trim text ++ after) ∧
    (∀ c ∈ before, isBlank c = true) ∧ ∀ c ∈ after, isBlank c = true := by
  obtain ⟨before, same, leading, _⟩ := exists_gap text
  obtain ⟨gap, mirrored, trailing, _⟩ := exists_gap (trimStart text).reverse
  refine ⟨before, gap.reverse, ?_, leading, fun c inside => trailing c (List.mem_reverse.mp inside)⟩
  have ended : trimStart text = trim text ++ gap.reverse := by
    rw [← List.reverse_reverse (trimStart text), mirrored, List.reverse_append]
    rfl
  rw [← ended, ← same]

end Text

namespace Source
open Text

/-! Arrows -/

variable {gap text front right : List Char} {pieces : List (List Char)}

theorem splitArrows_append_arrow (before after : List Char) :
    splitArrows (before ++ '-' :: '>' :: after) = splitArrows before ++ splitArrows after := by
  fun_induction splitArrows before with
  | case1 => rw [List.nil_append, splitArrows]; rfl
  | case2 rest ih => rw [List.cons_append, List.cons_append, splitArrows, ih]; rfl
  | case3 c rest _ none => exact absurd none (splitArrows_ne_nil rest)
  | case4 c rest apart first others same ih =>
    rw [same] at ih
    refine splitArrows_cons (fun d next arrow => ?_) ih
    cases rest with
    | nil =>
      obtain rfl := Option.some.inj next
      exact absurd arrow.2 (by decide)
    | cons e rest =>
      obtain rfl := Option.some.inj next
      exact apart rest arrow.1 (by rw [arrow.2])

theorem eq_of_splitArrows {piece : List Char} (single : splitArrows text = [piece]) : text = piece := by
  fun_induction splitArrows text generalizing piece with
  | case1 => exact (List.cons.inj single).1
  | case2 rest => exact absurd (List.cons.inj single).2 (splitArrows_ne_nil rest)
  | case3 c rest _ none => exact absurd none (splitArrows_ne_nil rest)
  | case4 c rest _ first others same ih =>
    obtain ⟨rfl, rfl⟩ := List.cons.inj single
    exact congrArg (c :: ·) (ih same)

theorem arrowless_of_blanks (blanks : ∀ c ∈ gap, isBlank c = true) : Arrowless gap := by
  refine (List.pairwise_of_forall_mem_list fun c inside d _ arrow => ?_).isChain
  have hyphen := blanks c inside
  rw [arrow.1] at hyphen
  exact absurd hyphen (by decide)

theorem Arrowless.blanks_append (arrowless : Arrowless text) (blanks : ∀ c ∈ gap, isBlank c = true) :
    Arrowless (gap ++ text) := by
  refine List.isChain_append.mpr ⟨arrowless_of_blanks blanks, arrowless, fun c last d _ arrow => ?_⟩
  have hyphen := blanks c (List.mem_of_getLast? last)
  rw [arrow.1] at hyphen
  exact absurd hyphen (by decide)

theorem Arrowless.append_blanks (arrowless : Arrowless text) (blanks : ∀ c ∈ gap, isBlank c = true) :
    Arrowless (text ++ gap) := by
  refine List.isChain_append.mpr ⟨arrowless, arrowless_of_blanks blanks, fun c _ d first arrow => ?_⟩
  have bracket := blanks d (List.mem_of_mem_head? first)
  rw [arrow.2] at bracket
  exact absurd bracket (by decide)

theorem arrowless_trim_iff : Arrowless (trim text) ↔ Arrowless text := by
  constructor
  · intro arrowless
    obtain ⟨before, after, same, leading, trailing⟩ := exists_trimmed text
    rw [same]
    exact (arrowless.append_blanks trailing).blanks_append leading
  · exact fun arrowless => arrowless.infix (isInfix_trim text)

/-! Bars -/

/-- The pieces with bars between them. -/
def bars (pieces : List (List Char)) : List Char := ['|'].intercalate pieces

theorem bars_singleton (piece : List Char) : bars [piece] = piece := by
  simp [bars]

theorem bars_cons_cons (piece next : List Char) (later : List (List Char)) :
    bars (piece :: next :: later) = piece ++ '|' :: bars (next :: later) := by
  simp [bars, List.intercalate_cons_cons]

theorem arrowless_append_bar_iff {first second : List Char} :
    Arrowless (first ++ '|' :: second) ↔ Arrowless first ∧ Arrowless second := by
  constructor
  · intro arrowless
    have behind : second <:+ first ++ '|' :: second := (List.suffix_cons '|' second).trans (List.suffix_append _ _)
    have before := arrowless.infix (List.prefix_append _ _).isInfix
    exact ⟨before, arrowless.infix behind.isInfix⟩
  · intro arrowless
    obtain ⟨before, after⟩ := arrowless
    refine List.isChain_append.mpr ⟨before, List.isChain_cons.mpr ⟨fun d _ arrow => ?_, after⟩, ?_⟩
    · exact absurd arrow.1 (by decide)
    · intro c _ d bar arrow
      obtain rfl := Option.some.inj bar
      exact absurd arrow.2 (by decide)

theorem arrowless_bars_iff : Arrowless (bars pieces) ↔ ∀ piece ∈ pieces, Arrowless piece := by
  induction pieces with
  | nil => simp [bars, Arrowless]
  | cons piece later ih =>
    cases later with
    | nil => rw [bars_singleton, List.forall_mem_singleton]
    | cons next later => rw [bars_cons_cons, List.forall_mem_cons, arrowless_append_bar_iff, ih]

theorem readBodies_append_bar (first second : List Char) :
    readBodies (first ++ '|' :: second) = readBodies first ++ readBodies second := by
  rw [readBodies, List.splitOn_append_cons_self, List.map_append]
  rfl

theorem readBodies_bars (filled : pieces ≠ []) : readBodies (bars pieces) = pieces.flatMap readBodies := by
  induction pieces with
  | nil => exact absurd rfl filled
  | cons piece later ih =>
    cases later with
    | nil => rw [bars_singleton, List.flatMap_singleton]
    | cons next later =>
      rw [bars_cons_cons, readBodies_append_bar, ih (List.cons_ne_nil _ _)]
      rfl

theorem readBodies_of_barless (barless : '|' ∉ text) : readBodies text = [lexemes text] := by
  rw [readBodies, List.splitOn_eq_singleton barless, List.map_singleton]

theorem barless_of_blanks (blanks : ∀ c ∈ gap, isBlank c = true) : '|' ∉ gap :=
  fun bar => absurd (blanks _ bar) (by decide)

theorem readBodies_blanks_append (blanks : ∀ c ∈ gap, isBlank c = true) (text : List Char) :
    readBodies (gap ++ text) = readBodies text := by
  have free := barless_of_blanks blanks
  by_cases bar : '|' ∈ text
  · obtain ⟨first, second, rfl, barless⟩ := List.eq_append_cons_of_mem bar
    have longer : '|' ∉ gap ++ first := by simp [free, barless]
    rw [← List.append_assoc, readBodies_append_bar, readBodies_append_bar, readBodies_of_barless longer,
      readBodies_of_barless barless, lexemes_blanks_append blanks]
  · have longer : '|' ∉ gap ++ text := by simp [free, bar]
    rw [readBodies_of_barless longer, readBodies_of_barless bar, lexemes_blanks_append blanks]

theorem readBodies_append_blanks (text : List Char) (blanks : ∀ c ∈ gap, isBlank c = true) :
    readBodies (text ++ gap) = readBodies text := by
  have free := barless_of_blanks blanks
  by_cases bar : '|' ∈ text
  · -- The blanks belong to what stands behind the last bar.
    obtain ⟨second, first, mirrored, barless⟩ := List.eq_append_cons_of_mem (List.mem_reverse.mpr bar)
    have same : text = first.reverse ++ '|' :: second.reverse := by
      rw [← List.reverse_reverse text, mirrored]
      simp
    have last : '|' ∉ second.reverse := by simpa using barless
    have longer : '|' ∉ second.reverse ++ gap := by simp [free, barless]
    rw [same, List.append_assoc, List.cons_append, readBodies_append_bar, readBodies_append_bar,
      readBodies_of_barless longer, readBodies_of_barless last, lexemes_append_blanks _ blanks]
  · have longer : '|' ∉ text ++ gap := by simp [free, bar]
    rw [readBodies_of_barless longer, readBodies_of_barless bar, lexemes_append_blanks text blanks]

theorem readBodies_trim (text : List Char) : readBodies (trim text) = readBodies text := by
  obtain ⟨before, after, same, leading, trailing⟩ := exists_trimmed text
  conv_rhs => rw [same, readBodies_blanks_append leading, readBodies_append_blanks _ trailing]

/-! Lines -/

/-- What stands on the two sides of the arrow of a rule. -/
structure Halves (front right : List Char) : Prop where
  front_arrowless : Arrowless front
  right_arrowless : Arrowless right
  filled : trim front ≠ []
  solid : ∀ c ∈ trim front, isBlank c = false

theorem pieces_of_readLine {line : List Char} {left : String} {bodies : List (List String)}
    (read : readLine line = .rule left bodies) :
    ∃ front right, splitArrows (trim line) = [front, right] ∧ trim front ≠ [] ∧
      ∀ c ∈ trim front, isBlank c = false := by
  unfold readLine at read
  dsimp only at read
  split at read
  · cases read
  · split at read
    next front right pieces =>
      split at read
      · cases read
      next filled =>
        split at read
        · cases read
        next solid => exact ⟨front, right, pieces, by simpa using filled, by simpa using solid⟩
    · cases read
    · split at read <;> cases read

/-- Where there are no more than two pieces, no piece has an arrow inside. -/
theorem eq_of_splitArrows_append {before after first second : List Char}
    (two : splitArrows before ++ splitArrows after = [first, second]) : before = first ∧ after = second := by
  obtain ⟨piece, pieces, split⟩ := List.exists_cons_of_ne_nil (splitArrows_ne_nil before)
  rw [split, List.cons_append] at two
  obtain ⟨rfl, rest⟩ := List.cons.inj two
  rcases List.append_eq_singleton_iff.mp rest with ⟨rfl, single⟩ | ⟨_, none⟩
  · exact ⟨eq_of_splitArrows split, eq_of_splitArrows single⟩
  · exact absurd none (splitArrows_ne_nil after)

theorem trim_arrow (begins : ∀ c ∈ front.head?, isBlank c = false) (ends : ∀ c ∈ right.getLast?, isBlank c = false)
    {before after : List Char} (leading : ∀ c ∈ before, isBlank c = true)
    (trailing : ∀ c ∈ after, isBlank c = true) :
    trim ((before ++ front) ++ '-' :: '>' :: (right ++ after)) = front ++ '-' :: '>' :: right := by
  have whole : (before ++ front) ++ '-' :: '>' :: (right ++ after) =
      before ++ ((front ++ '-' :: '>' :: right) ++ after) := by simp
  rw [whole]
  refine trim_append (by simp) (fun c first => ?_) (fun c last => ?_) leading trailing
  · cases front with
    | nil =>
      obtain rfl := Option.some.inj first
      decide
    | cons d front => exact begins c first
  · rw [List.getLast?_append_of_ne_nil _ (List.cons_ne_nil _ _), List.getLast?_cons_cons] at last
    cases right with
    | nil =>
      obtain rfl := Option.some.inj last
      decide
    | cons d right => exact ends c (by rwa [List.getLast?_cons_cons] at last)

theorem trim_bar (ends : ∀ c ∈ right.getLast?, isBlank c = false) {before after : List Char}
    (leading : ∀ c ∈ before, isBlank c = true) (trailing : ∀ c ∈ after, isBlank c = true) :
    trim (before ++ '|' :: (right ++ after)) = '|' :: right := by
  have barred : '|' :: right ≠ [] := List.cons_ne_nil _ _
  refine trim_append barred (fun c first => ?_) (fun c last => ?_) leading trailing
  · obtain rfl := Option.some.inj first
    decide
  · cases right with
    | nil =>
      obtain rfl := Option.some.inj last
      decide
    | cons d right => exact ends c (by rwa [List.getLast?_cons_cons] at last)

theorem readLine_arrow_iff {name : String} {bodies : List (List String)} :
    readLine (front ++ '-' :: '>' :: right) = .rule name bodies ↔
      Halves front right ∧ name = String.ofList (trim front) ∧ bodies = readBodies right := by
  obtain ⟨gap, same, leading, begins⟩ := exists_gap front
  obtain ⟨kept, tail, rfl, trailing, ends⟩ := exists_gap_behind right
  have named := trim_trimStart front
  generalize trimStart front = start at same begins named
  subst same
  have pieces : splitArrows (trim ((gap ++ start) ++ '-' :: '>' :: (kept ++ tail))) =
      splitArrows start ++ splitArrows kept := by
    rw [trim_arrow begins ends leading trailing, splitArrows_append_arrow]
  have bodies_eq := readBodies_append_blanks kept trailing
  constructor
  · intro read
    obtain ⟨first, second, split, filled, solid⟩ := pieces_of_readLine read
    obtain ⟨rfl, rfl⟩ := eq_of_splitArrows_append (pieces.symm.trans split)
    have told := readLine_of_pieces split filled solid
    rw [read, named, ← bodies_eq] at told
    rw [named] at filled solid
    have parts : ∀ piece ∈ [start, kept], Arrowless piece := fun piece member =>
      arrowless_of_mem_splitArrows (split ▸ member)
    obtain ⟨before, others⟩ := List.forall_mem_cons.mp parts
    have after : Arrowless kept := List.forall_mem_singleton.mp others
    injection told with left told
    exact ⟨⟨before.blanks_append leading, after.append_blanks trailing, filled, solid⟩, left, told⟩
  · intro told
    obtain ⟨halves, rfl, rfl⟩ := told
    have before := halves.front_arrowless.infix (List.suffix_append gap start).isInfix
    have after := halves.right_arrowless.infix (List.prefix_append kept tail).isInfix
    rw [splitArrows_of_arrowless before, splitArrows_of_arrowless after] at pieces
    have read := readLine_of_pieces pieces
    rw [named, ← bodies_eq] at read
    exact read halves.filled halves.solid

/-- A rule as a line, with any blanks around its parts. -/
def RuleLine (left : List Char) (rights : List (List Char)) (line : List Char) : Prop :=
  ∃ front pieces, line = front ++ '-' :: '>' :: bars pieces ∧ trim front = left ∧ pieces.map trim = rights

/-- Further alternatives as a line, with any blanks around them. -/
def BarLine (rights : List (List Char)) (line : List Char) : Prop :=
  ∃ gap pieces, line = gap ++ '|' :: bars pieces ∧ (∀ c ∈ gap, isBlank c = true) ∧ pieces.map trim = rights

/-- The left side is one piece, and no alternative has an arrow in it. -/
structure Fair (left : List Char) (rights : List (List Char)) : Prop where
  filled : left ≠ []
  solid : ∀ c ∈ left, isBlank c = false
  left_arrowless : Arrowless left
  arrowless : ∀ right ∈ rights, Arrowless right

variable {left line : List Char} {rights more : List (List Char)} {name : String} {bodies : List (List String)}

theorem arrowless_trimmed_iff : (∀ right ∈ pieces.map trim, Arrowless right) ↔ Arrowless (bars pieces) := by
  rw [arrowless_bars_iff, List.forall_mem_map]
  exact forall₂_congr fun piece _ => arrowless_trim_iff

theorem readBodies_trimmed (filled : pieces ≠ []) :
    readBodies (bars pieces) = (pieces.map trim).flatMap readBodies := by
  rw [readBodies_bars filled, List.flatMap_map]
  exact List.flatMap_congr fun piece _ => (readBodies_trim piece).symm

theorem RuleLine.read_iff (written : RuleLine left rights line) (some : rights ≠ []) :
    readLine line = .rule name bodies ↔
      Fair left rights ∧ name = String.ofList left ∧ bodies = rights.flatMap readBodies := by
  obtain ⟨front, pieces, rfl, rfl, rfl⟩ := written
  rw [readLine_arrow_iff, readBodies_trimmed (mt List.map_eq_nil_iff.mpr some)]
  refine and_congr_left fun _ => ⟨fun halves => ?_, fun fair => ?_⟩
  · exact ⟨halves.filled, halves.solid, arrowless_trim_iff.mpr halves.front_arrowless,
      arrowless_trimmed_iff.mpr halves.right_arrowless⟩
  · exact ⟨arrowless_trim_iff.mp fair.left_arrowless, arrowless_trimmed_iff.mp fair.arrowless, fair.filled,
      fair.solid⟩

theorem BarLine.read (written : BarLine rights line) (some : rights ≠ [])
    (arrowless : ∀ right ∈ rights, Arrowless right) :
    readLine line = .continuation (rights.flatMap readBodies) := by
  obtain ⟨gap, pieces, rfl, leading, rfl⟩ := written
  obtain ⟨kept, tail, same, trailing, ends⟩ := exists_gap_behind (bars pieces)
  have free := arrowless_trimmed_iff.mp arrowless
  rw [← readBodies_trimmed (mt List.map_eq_nil_iff.mpr some), same, readBodies_append_blanks kept trailing]
  rw [same] at free
  have begun : Arrowless ([] ++ '|' :: kept) :=
    arrowless_append_bar_iff.mpr ⟨.nil, free.infix (List.prefix_append kept tail).isInfix⟩
  exact readLine_of_bar (trim_bar ends leading trailing) begun

/-- A line that is blank, or that has no arrow and does not begin with a bar. -/
def Idle (line : List Char) : Prop :=
  (∀ c ∈ line, isBlank c = true) ∨ Arrowless line ∧ ∀ c ∈ (trimStart line).head?, c ≠ '|'

theorem Idle.read (idle : Idle line) : readLine line = .blank ∨ readLine line = .faulty .noArrow := by
  rcases idle with blanks | ⟨arrowless, barless⟩
  · have empty : trim line = [] := by
      rw [trim, trimStart_of_blanks blanks]
      rfl
    exact .inl (by simp [readLine, empty])
  · have single := splitArrows_of_arrowless (arrowless_trim_iff.mpr arrowless)
    cases shown : trim line with
    | nil => exact .inl (by simp [readLine, shown])
    | cons c rest =>
      have first : c ≠ '|' := by
        obtain ⟨tail, begun⟩ := isPrefix_trim line
        rw [shown] at begun
        exact barless c (by rw [← begun]; rfl)
      rw [shown] at single
      exact .inr (by simp [readLine, shown, single, first])

end Source
end Predictive
