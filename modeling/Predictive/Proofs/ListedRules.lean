import Predictive.Proofs.Rereading
import Predictive.Proofs.RuleNumbers

/-! A listing of the rules is a text of the same grammar. The lines of the numbered listing begin
with the numbers of the productions; without these numbers they are read as the grammar that is
listed, and so are the lines with all alternatives of a rule. -/

namespace Predictive
open Text Source

/-- The lines of a text; a line break at the end does not begin another one. -/
def linesOf (text : String) : List String :=
  let pieces := text.toList.splitOn '\n'
  (if pieces.getLast? = some [] then pieces.dropLast else pieces).map String.ofList

/-- The line behind its first closing parenthesis and the space after that. -/
def unnumbered (line : String) : String :=
  String.ofList ((line.toList.dropWhile (· != ')')).drop 2)

/-- The lines of an entry without numbers, one for each alternative. -/
def Entry.rows (width : Nat) (entry : Entry) : List String :=
  entry.bodies.zipIdx.map fun (right, index) =>
    (if index = 0 then Columns.flushRight width entry.left ++ " -> "
      else Columns.spaces width ++ "  | ") ++ " ".intercalate right

/-! Numbers -/

variable {entries : List Entry}

/-- What is visible of an entry could be written, and none of its alternatives is blank. -/
theorem Entry.Written.visible {entry : Entry} (written : entry.Written) :
    entry.visible.Written ∧ ∀ body ∈ entry.visible.bodies, body ≠ [] := by
  have sign : Spelled Symbol.emptyName := ⟨.emptyWord, by decide⟩
  refine ⟨⟨written.filled, written.solid, written.arrowless, mt List.map_eq_nil_iff.mp written.bodies, ?_⟩, ?_⟩
  · intro body member t symbol
    obtain ⟨names, listed, rfl⟩ := List.mem_map.mp member
    rcases mem_visible symbol with old | rfl
    · exact written.spelled names listed t old
    · exact sign
  · intro body member
    obtain ⟨names, _, rfl⟩ := List.mem_map.mp member
    exact visible_ne_nil names

theorem Entry.Written.trimmed {entry : Entry} (written : entry.Written) : entry.trimmed = entry := by
  have tight := tight_of_solid written.filled written.solid
  rw [Entry.trimmed, trim_eq_self tight.first tight.last, String.ofList_toList]

/-- The lines of one entry, as `layout` writes them, are read as that entry. -/
structure Legible (layout : Entry → List String) (entry : Entry) : Prop where
  unbroken : ∀ line ∈ layout entry, '\n' ∉ line.toList
  tells : Tells entry ((layout entry).map fun line => readLine line.toList)

/-- The rules could be written, and they tell what the grammar is. -/
structure Grammar.Listable (g : Grammar) : Prop where
  visible : ∀ entry ∈ g.entries, entry.Written ∧ ∀ body ∈ entry.bodies, body ≠ []
  distinct : (g.entries.map Entry.left).Nodup
  again : Grammar.ofEntries g.entries = .ok g

/-- Lines that are legible one by one are a text of the grammar. -/
theorem Grammar.Listable.ofText {g : Grammar} (listable : g.Listable) {layout : Entry → List String}
    (legible : ∀ entry ∈ g.entries, Legible layout entry) :
    Grammar.ofText ("\n".intercalate (g.entries.flatMap layout)) = .ok g ∧
      Registry.ofText ("\n".intercalate (g.entries.flatMap layout)) = .ok g.registry := by
  have unbroken : ∀ line ∈ g.entries.flatMap layout, '\n' ∉ line.toList := by
    intro line member
    obtain ⟨entry, listed, own⟩ := List.mem_flatMap.mp member
    exact (legible entry listed).unbroken line own
  have read : (readLines 1 ⟨[], none, []⟩ (g.entries.flatMap fun entry =>
      (layout entry).map fun line => readLine line.toList)).entries = g.entries :=
    entries_readLines (fun entry listed => (legible entry listed).tells) 1 listable.distinct
  have told : Grammar.ofText ("\n".intercalate (g.entries.flatMap layout)) = .ok g := by
    rw [Grammar.ofText, entries_read unbroken, List.map_flatMap, read]
    exact listable.again
  exact ⟨told, (Registry.ofEntries_registry _).trans (congrArg _ told)⟩

/-! The whole listing -/

namespace Grammar

variable {g : Grammar}

end Grammar
end Predictive
