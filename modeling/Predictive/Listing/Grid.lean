import Predictive.Listing.Rules
import Predictive.Lookahead.Table

/-! A parsing table as a grid, one row for each nonterminal and one column for each
letter. A cell shows the alternative that it selects. -/

namespace Predictive

structure Grid where
  columns : List String
  rows : List (String × List RuleListing)
  deriving DecidableEq, Repr

namespace Grid

variable (grid : Grid)

def cells : List (List String) :=
  ("" :: grid.columns) ::
    grid.rows.map fun (left, row) => left :: row.map (·.inline 0)

def plain : String :=
  let widths := Columns.widths grid.cells
  "\n".intercalate (grid.cells.map fun row =>
    Columns.separator.intercalate (widths.zipWith Columns.flushRight row))

def latex : String :=
  let layout := "\\[\\begin\x7barray\x7d\x7bc" ++
    String.join (grid.columns.map fun _ => "|l") ++ "\x7d\n"
  let titles := grid.columns.map fun name => "\\text\x7b" ++ Tex.escape name ++ "\x7d"
  let rows := grid.rows.map fun (left, row) =>
    " & ".intercalate (Tex.escape left :: row.map (·.latex false))
  " & ".intercalate (layout :: titles) ++ "\\\\\\hline\n" ++ "\\\\\n".intercalate rows ++
    "\n\\end\x7barray\x7d\\]"

def json : Json :=
  .object [
    ("terminals", .strings grid.columns),
    ("rows", .array (grid.rows.map fun (left, row) =>
      .array [.string left, .array (row.map RuleListing.json)]))]

def render (grid : Grid) : Format → String
  | .plain => grid.plain
  | .latex => grid.latex
  | .json => grid.json.render

end Grid

namespace Table

def grid (table : Table) : Grid :=
  let g := table.grammar
  let row := fun s =>
    (g.nameOf s, table.columns.map fun letter =>
      let chosen := (table.get? s letter).toList
      ⟨g.nameOf s, chosen.map Production.number, chosen.map fun p => g.bodyNames p.body⟩)
  ⟨table.columns.map g.nameOf, g.nonterminals.map row⟩

end Table
end Predictive
