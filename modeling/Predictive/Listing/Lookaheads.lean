import Predictive.Format.Columns
import Predictive.Format.Basic
import Predictive.Format.Json
import Predictive.Format.Tex
import Predictive.Lookahead.Table

/-! FIRST and FOLLOW of every nonterminal, with the names of each set in dictionary
order. -/

namespace Predictive

structure LookaheadListing where
  name : String
  nullable : Bool
  first : List String
  follow : List String
  deriving DecidableEq, Repr

namespace LookaheadListing

variable (listing : LookaheadListing)

def verdict : String := if listing.nullable then "true" else "false"

def plain (width : Nat) : String :=
  Columns.separator.intercalate [
    Columns.flushRight width listing.name,
    Columns.flushRight 5 listing.verdict,
    ", ".intercalate listing.first,
    ", ".intercalate listing.follow]

def latex : String :=
  let set := fun names : List String =>
    Tex.withEpsilon "$\\epsilon$" ("\\ ".intercalate (names.map Tex.escape))
  " & ".intercalate
    [Tex.escape listing.name, listing.verdict, set listing.first, set listing.follow]

def json : Json :=
  .object [
    ("name", .string listing.name),
    ("nullable", .boolean listing.nullable),
    ("first", .strings listing.first),
    ("follow", .strings listing.follow)]

end LookaheadListing

namespace Grammar

/-- The names of a set of symbols, in dictionary order. -/
def sortedNames (g : Grammar) (symbols : List Symbol) : List String :=
  (symbols.map g.nameOf).mergeSort fun a b => !decide (b < a)

def lookaheadListings (g : Grammar) (sets : Lookaheads) : List LookaheadListing :=
  g.nonterminals.map fun s =>
    ⟨g.nameOf s, sets.first.vanishes s, g.sortedNames (sets.first.ofBody [s]),
      g.sortedNames (sets.follow.of s)⟩

def listLookaheads (g : Grammar) (sets : Lookaheads) : Format → String
  | .plain =>
    let listings := g.lookaheadListings sets
    let width := Columns.widest (listings.map LookaheadListing.name)
    "\n".intercalate (listings.map (·.plain width))
  | .latex =>
    "\\begin\x7btabular\x7d\x7bc|c|c|c\x7d\n" ++
      "Symbol & Nullable & First & Follow\\\\\\hline\n" ++
      "\\\\\n ".intercalate ((g.lookaheadListings sets).map LookaheadListing.latex) ++
      "\\\\\n\\end\x7btabular\x7d"
  | .json =>
    (Json.object
      [("data", .array ((g.lookaheadListings sets).map LookaheadListing.json))]).render

end Grammar
end Predictive
