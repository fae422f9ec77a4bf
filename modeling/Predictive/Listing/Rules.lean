import Predictive.Format.Columns
import Predictive.Format.Basic
import Predictive.Format.Json
import Predictive.Format.Tex
import Predictive.Grammar.Basic

/-! The rules of a grammar as text, with their numbers. -/

namespace Predictive

/-- The alternatives of one left side. The numbers belong to the alternatives in order,
and an alternative without one is shown unnumbered. -/
structure RuleListing where
  left : String
  numbers : List Nat
  rights : List (List String)
  deriving DecidableEq, Repr

namespace RuleListing

variable (listing : RuleListing)

/-- One line for each alternative, with the left sides flush right at `width`. -/
def lines (width : Nat) : List String :=
  let digits := Columns.widest (listing.numbers.map toString)
  listing.rights.zipIdx.map fun (right, index) =>
    let number :=
      match listing.numbers[index]? with
      | some n => "(" ++ Columns.flushRight digits (toString n) ++ ") "
      | none => ""
    let left :=
      if index = 0 then Columns.flushRight width listing.left ++ " -> "
      else Columns.spaces width ++ "  | "
    number ++ left ++ " ".intercalate right

def multiline (width : Nat) : String := "\n".intercalate (listing.lines width)

/-- All alternatives on one line and without numbers. -/
def inline (width : Nat) : String :=
  if listing.rights.isEmpty then ""
  else
    Columns.flushRight width listing.left ++ " -> " ++
      " | ".intercalate (listing.rights.map (" ".intercalate ·))

/-- With `aligned` the arrow stands in a column of its own. -/
def latex (aligned : Bool) : String :=
  if listing.rights.isEmpty then ""
  else
    let arrow := if aligned then " & \\rightarrow &" else " \\rightarrow "
    let rights := listing.rights.map fun right => " \\ ".intercalate (right.map Tex.escape)
    Tex.withEpsilon "\\epsilon"
      (Tex.escape listing.left ++ arrow ++ " \\mid ".intercalate rights)

def json : Json :=
  .object [
    ("left", .string listing.left),
    ("numbers", .array (listing.numbers.map .number)),
    ("rights", .array (listing.rights.map .strings))]

end RuleListing

namespace Grammar

def ruleListings (g : Grammar) : List RuleListing :=
  g.rules.map fun rule =>
    let own := g.productions.filter (·.left == rule.left)
    ⟨g.nameOf rule.left, own.map Production.number, own.map fun p => g.bodyNames p.body⟩

def listRules (g : Grammar) : Format → String
  | .plain =>
    let listings := g.ruleListings
    let width := Columns.widest (listings.map RuleListing.left)
    "\n".intercalate (listings.map (·.multiline width))
  | .latex =>
    "\\\\\n".intercalate (["\\[\\begin\x7barray\x7d\x7bcll\x7d"] ++
      g.ruleListings.map (·.latex true) ++ ["\\end\x7barray\x7d\\]"])
  | .json => (Json.object [("productions", .array (g.ruleListings.map RuleListing.json))]).render

end Grammar
end Predictive
