import Mathlib.Logic.Relation
import Predictive.Proofs.LineForms
import Predictive.Proofs.ListedRules

/-! A text may be laid out in different ways. Lines that tell nothing may stand anywhere, and the
alternatives of a rule may be spread over several lines: all that counts is which alternatives each left
side gets, in which order, and which left side a bar would continue. -/

namespace Predictive.Source
open Text

/-- One change of layout. -/
inductive Relaid : List (List Char) → List (List Char) → Prop where
  /-- A line that tells nothing is put in. -/
  | inserted {before after : List (List Char)} {line : List Char} (idle : Idle line) :
      Relaid (before ++ after) (before ++ line :: after)
  /-- The last alternatives of a rule are moved to a line of their own. -/
  | broken {before after rights more : List (List Char)} {left line first second : List Char}
      (accepted : ∃ name bodies, readLine line = .rule name bodies)
      (whole : RuleLine left (rights ++ more) line) (some : rights ≠ []) (others : more ≠ [])
      (here : RuleLine left rights first) (below : BarLine more second ∨ RuleLine left more second) :
      Relaid (before ++ line :: after) (before ++ first :: second :: after)

/-- The readings differ in what was skipped only. -/
structure Alike (first second : Reading) : Prop where
  entries : first.entries = second.entries
  current : first.current = second.current

theorem Alike.refl (reading : Reading) : Alike reading reading := ⟨rfl, rfl⟩

theorem Alike.add {first second : Reading} (alike : Alike first second) (number other : Nat) (line : Line) :
    Alike (first.add number line) (second.add other line) := by
  obtain ⟨entries, current⟩ := alike
  cases line with
  | blank => exact ⟨entries, current⟩
  | rule left bodies => exact ⟨congrArg (extend left bodies) entries, rfl⟩
  | continuation bodies =>
    simp only [Reading.add, current]
    cases second.current with
    | none => exact ⟨entries, current⟩
    | some left => exact ⟨congrArg (extend left bodies) entries, rfl⟩
  | faulty problem =>
    cases problem with
    | noArrow => exact ⟨entries, current⟩
    | _ => exact ⟨entries, rfl⟩

theorem Alike.readLines {first second : Reading} (alike : Alike first second) (number other : Nat)
    (lines : List Line) : Alike (readLines number first lines) (readLines other second lines) := by
  induction lines generalizing first second number other with
  | nil => exact alike
  | cons line later ih => exact ih (alike.add number other line) _ _

theorem readLines_append (number : Nat) (reading : Reading) (first second : List Line) :
    readLines number reading (first ++ second) =
      readLines (number + first.length) (readLines number reading first) second := by
  induction first generalizing number reading with
  | nil => rfl
  | cons line later ih =>
    rw [List.cons_append, readLines, readLines, ih, List.length_cons, Nat.add_right_comm, Nat.add_assoc]

/-- Alternatives may be added one after the other. -/
theorem extend_extend (left : String) (first second : List (List String)) (entries : List Entry) :
    extend left second (extend left first entries) = extend left (first ++ second) entries := by
  induction entries with
  | nil => simp [extend]
  | cons entry later ih =>
    by_cases same : entry.left = left
    · simp [extend, same]
    · simp [extend, same, ih]

theorem Idle.alike {line : List Char} (idle : Idle line) (reading : Reading) (number : Nat) :
    Alike (reading.add number (readLine line)) reading := by
  rcases idle.read with same | same
  · rw [same]
    exact .refl reading
  · rw [same]
    exact ⟨rfl, rfl⟩

/-- Wherever its alternatives are divided, a rule adds the same to what has been read. -/
theorem alike_divided {line : Line} (left : String) (bodies more : List (List String))
    (below : line = .continuation more ∨ line = .rule left more) (reading : Reading) (number next : Nat) :
    Alike ((reading.add number (.rule left bodies)).add next line)
      (reading.add number (.rule left (bodies ++ more))) := by
  rcases below with rfl | rfl
  · exact ⟨extend_extend left bodies more reading.entries, rfl⟩
  · exact ⟨extend_extend left bodies more reading.entries, rfl⟩

/-- A change of layout changes nothing but what is skipped. -/
theorem Relaid.alike {lines others : List (List Char)} (relaid : Relaid lines others) (number : Nat)
    (reading : Reading) :
    Alike (readLines number reading (others.map readLine)) (readLines number reading (lines.map readLine)) := by
  cases relaid with
  | @inserted before after line idle =>
    rw [List.map_append, List.map_append, List.map_cons, readLines_append, readLines_append, readLines]
    exact (idle.alike _ _).readLines _ _ _
  | @broken before after rights more left line first second accepted whole some others here below =>
    obtain ⟨name, bodies, accepted⟩ := accepted
    obtain ⟨fair, rfl, rfl⟩ := (whole.read_iff (List.append_ne_nil_of_left_ne_nil some more)).mp accepted
    -- A line is accepted for its left side and for having no other arrow, and its parts inherit both.
    obtain ⟨front, back⟩ := List.forall_mem_append.mp fair.arrowless
    have upper := (here.read_iff some).mpr ⟨⟨fair.filled, fair.solid, fair.left_arrowless, front⟩, rfl, rfl⟩
    have lower : readLine second = .continuation (more.flatMap readBodies) ∨
        readLine second = .rule (String.ofList left) (more.flatMap readBodies) := by
      rcases below with bar | rule
      · exact .inl (bar.read others back)
      · exact .inr ((rule.read_iff others).mpr ⟨⟨fair.filled, fair.solid, fair.left_arrowless, back⟩, rfl, rfl⟩)
    rw [List.map_append, List.map_append, List.map_cons, List.map_cons, List.map_cons, readLines_append,
      readLines_append, readLines, readLines, readLines, accepted, upper, List.flatMap_append]
    exact (alike_divided _ _ _ lower _ _ _).readLines _ _ _

end Predictive.Source

namespace Predictive
open Source

namespace Source

/-- The lines of a text, character by character. -/
def lines (text : String) : List (List Char) := (linesOf text).map String.toList

/-- What has been read before the first line. -/
def unread : Reading := ⟨[], none, []⟩

/-- The line break at the end makes no difference. -/
theorem alike_read (text : String) : Alike (read text) (readLines 1 unread ((lines text).map readLine)) := by
  have pieces : lines text = if (text.toList.splitOn '\n').getLast? = some [] then
      (text.toList.splitOn '\n').dropLast else text.toList.splitOn '\n' := by
    unfold lines linesOf
    rw [List.map_map]
    exact (List.map_congr_left fun line _ => String.toList_ofList).trans (List.map_id' _)
  rw [pieces, read]
  split
  next ended =>
    obtain ⟨front, same⟩ := List.getLast?_eq_some_iff.mp ended
    rw [same, List.dropLast_concat, List.map_append, readLines_append]
    exact .refl _
  next => exact .refl _

theorem entries_of_relaid {first second : List (List Char)} (relaid : Relation.EqvGen Relaid first second) :
    (readLines 1 unread (second.map readLine)).entries = (readLines 1 unread (first.map readLine)).entries := by
  induction relaid with
  | rel _ _ changed => exact (changed.alike 1 unread).entries
  | refl _ => rfl
  | symm _ _ _ ih => exact ih.symm
  | trans _ _ _ _ _ before after => exact after.trans before

end Source

namespace Grammar

/-- The layout of a text does not matter: with lines that tell nothing put in or taken out anywhere, and
the alternatives of its rules divided among lines or joined, any number of times, it is refused with the
same error, or it is a text of the same grammar, down to how that is stored. -/
theorem ofText_relaid {text other : String} (relaid : Relation.EqvGen Relaid (lines text) (lines other)) :
    ofText other = ofText text ∧ Registry.ofText other = Registry.ofText text := by
  have same : (read other).entries = (read text).entries := by
    rw [(alike_read other).entries, (alike_read text).entries]
    exact entries_of_relaid relaid
  exact ⟨congrArg ofEntries same, congrArg Registry.ofEntries same⟩

/-- One alternative is empty and the left side has a bar in it. -/
theorem divided_alternatives (after : List (List Char)) : Relaid ([] ++ "a|b->x||y".toList :: after)
    ([] ++ "a|b -> x |\r".toList :: "\ta|b  ->y\r".toList :: after) := by
  have read : readLine "a|b->x||y".toList = .rule "a|b" [["x"], [], ["y"]] := by cbv
  refine @Relaid.broken [] after [['x'], []] [['y']] "a|b".toList _ _ _ ⟨_, _, read⟩ ?_ ?_ ?_ ?_ ?_
  · exact ⟨"a|b".toList, [['x'], [], ['y']], by decide, by decide, by decide⟩
  · exact List.cons_ne_nil _ _
  · exact List.cons_ne_nil _ _
  · exact ⟨"a|b ".toList, [" x ".toList, ['\r']], by decide, by decide, by decide⟩
  · exact .inr ⟨"\ta|b  ".toList, ["y\r".toList], by decide, by decide, by decide⟩

/-- A line that tells nothing comes before the bar, and the line with two arrows is the last one. -/
theorem relaid_text :
    Relation.EqvGen Relaid (lines "a|b->x||y\n|z\nc -> d -> e")
        (lines "a|b -> x |\r\n\ta|b  ->y\r\nsee below\n|z\nc -> d -> e\n") ∧
      ofText "a|b -> x |\r\n\ta|b  ->y\r\nsee below\n|z\nc -> d -> e\n" =
        ofText "a|b->x||y\n|z\nc -> d -> e" ∧
      Registry.ofText "a|b -> x |\r\n\ta|b  ->y\r\nsee below\n|z\nc -> d -> e\n" =
        Registry.ofText "a|b->x||y\n|z\nc -> d -> e" := by
  have arrowless : Arrowless "see below".toList := by
    unfold Arrowless
    decide
  have unbarred : ∀ c ∈ (Text.trimStart "see below".toList).head?, c ≠ '|' := by
    have first : (Text.trimStart "see below".toList).head? = some 's' := by decide
    rw [first]
    rintro c same
    obtain rfl := Option.some.inj same
    decide
  have noted : Relaid (["a|b -> x |\r".toList, "\ta|b  ->y\r".toList] ++ ["|z".toList, "c -> d -> e".toList])
      (["a|b -> x |\r".toList, "\ta|b  ->y\r".toList] ++
        "see below".toList :: ["|z".toList, "c -> d -> e".toList]) := .inserted (.inr ⟨arrowless, unbarred⟩)
  have relaid : Relation.EqvGen Relaid (lines "a|b->x||y\n|z\nc -> d -> e")
      (lines "a|b -> x |\r\n\ta|b  ->y\r\nsee below\n|z\nc -> d -> e\n") :=
    .trans _ _ _ (.rel _ _ (divided_alternatives _)) (.rel _ _ noted)
  exact ⟨relaid, ofText_relaid relaid⟩

end Grammar
end Predictive
