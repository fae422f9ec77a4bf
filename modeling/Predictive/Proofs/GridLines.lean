import Predictive.Listing.Grid
import Predictive.Proofs.Cells
import Predictive.Proofs.Columns
import Predictive.Proofs.Confined
import Predictive.Proofs.Reached
import Predictive.Proofs.Rereading

/-! The lines of a parsing table. Whatever its symbols are called, a table has one line for each
nonterminal below the line with the titles, and each line has as many cells as any other. For LaTeX
they are told apart by ampersands, and in plain text they stand below each other. -/

namespace Predictive

theorem exists_of_forall₂_right {α β : Type} {R : α → β → Prop} {first : List α} {second : List β}
    (related : List.Forall₂ R first second) {b : β} (member : b ∈ second) : ∃ a ∈ first, R a b := by
  induction related with
  | nil => cases member
  | cons here _ ih =>
    cases member with
    | head => exact ⟨_, List.mem_cons_self, here⟩
    | tail _ later =>
      obtain ⟨a, inside, holds⟩ := ih later
      exact ⟨a, List.mem_cons_of_mem _ inside, holds⟩

/-- All lines but the last one have the same ending. -/
def endedBy (ending : String) : List String → List String
  | [] => []
  | [line] => [line]
  | line :: next :: later => (line ++ ending) :: endedBy ending (next :: later)

theorem intercalate_endedBy (ending : String) (lines : List String) :
    (ending ++ "\n").intercalate lines = "\n".intercalate (endedBy ending lines) := by
  fun_induction endedBy ending lines with
  | case1 => rfl
  | case2 line => simp
  | case3 line next later ih =>
    have more : endedBy ending (next :: later) ≠ [] := by cases later <;> simp [endedBy]
    rw [String.intercalate_cons_cons, ih, String.intercalate_cons_of_ne_nil more]
    simp only [String.append_assoc]

theorem endedBy_ne_nil {ending : String} {lines : List String} (filled : lines ≠ []) :
    endedBy ending lines ≠ [] := by
  fun_cases endedBy ending lines <;> simp_all

/-- A text may be taken in front of what it is the first part of. -/
theorem intercalate_front (separator text : String) (later : List String) :
    separator.intercalate (text :: later) = text ++ separator.intercalate ("" :: later) := by
  rw [← String.intercalate_cons_append, String.append_empty]

theorem Columns.Padded.unbroken {texts cells : List String} (padded : Columns.Padded texts cells)
    (unbroken : ∀ text ∈ texts, '\n' ∉ text.toList) :
    '\n' ∉ (Columns.separator.intercalate cells).toList := by
  rw [String.toList_intercalate]
  refine not_mem_intercalate (by decide) fun cell member => ?_
  obtain ⟨cell, listed, rfl⟩ := List.mem_map.mp member
  obtain ⟨text, inside, gap, rfl⟩ := exists_of_forall₂_right padded listed
  simp [Columns.spaces, unbroken text inside]

namespace Grid

/-- Each row has a cell for each column, and no name has a line break. -/
structure Regular (grid : Grid) : Prop where
  rows : grid.rows ≠ []
  titled : grid.columns ≠ []
  columns : ∀ name ∈ grid.columns, '\n' ∉ name.toList
  lefts : ∀ row ∈ grid.rows, '\n' ∉ row.1.toList
  cells : ∀ row ∈ grid.rows, row.2.length = grid.columns.length ∧ ∀ cell ∈ row.2, cell.Unbroken

variable (grid : Grid)

/-! In LaTeX -/

def latexLayout : String :=
  "\\[\\begin\x7barray\x7d\x7bc" ++ String.join (grid.columns.map fun _ => "|l") ++ "\x7d"

def latexTitles : List String :=
  grid.columns.map fun name => "\\text\x7b" ++ Tex.escape name ++ "\x7d"

def latexHeader : String := " & ".intercalate ("" :: grid.latexTitles) ++ "\\\\\\hline"

def latexRow (row : String × List RuleListing) : String :=
  " & ".intercalate (Tex.escape row.1 :: row.2.map (·.latex false))

def latexLines : List String :=
  grid.latexLayout :: grid.latexHeader ::
    (endedBy "\\\\" (grid.rows.map latexRow) ++ ["\\end\x7barray\x7d\\]"])

variable {grid}

theorem Regular.latex (regular : grid.Regular) : grid.latex = "\n".intercalate grid.latexLines := by
  have rows : endedBy "\\\\" (grid.rows.map latexRow) ≠ [] :=
    endedBy_ne_nil (mt List.map_eq_nil_iff.mp regular.rows)
  have layout : "\x7d\n" = "\x7d" ++ "\n" := by decide
  have header : "\\\\\\hline\n" = "\\\\\\hline" ++ "\n" := by decide
  have ending : "\\\\\n" = "\\\\" ++ "\n" := by decide
  have closing : "\n\\end\x7barray\x7d\\]" = "\n" ++ "\\end\x7barray\x7d\\]" := by decide
  have written : grid.latex =
      " & ".intercalate (("\\[\\begin\x7barray\x7d\x7bc" ++
        String.join (grid.columns.map fun _ => "|l") ++ "\x7d\n") :: grid.latexTitles) ++
      "\\\\\\hline\n" ++ "\\\\\n".intercalate (grid.rows.map latexRow) ++
      "\n\\end\x7barray\x7d\\]" := rfl
  unfold latexLines latexHeader latexLayout
  rw [written, layout, header, ending, closing, intercalate_endedBy, intercalate_front,
    String.intercalate_cons_cons,
    String.intercalate_cons_of_ne_nil (List.append_ne_nil_of_left_ne_nil rows _),
    String.intercalate_append_of_ne_nil rows (List.cons_ne_nil _ _), String.intercalate_singleton]
  simp only [String.append_assoc]

end Grid

namespace Grammar

variable {g : Grammar}

end Grammar
end Predictive
