import Predictive.Listing.Rules
import Predictive.Parser.Trace
import Predictive.Registry.Basic

/-! The numbers of productions on a registry. A production is told by its nonterminal and its place
among the bodies there. Its number is looked up in a list of all productions; a listing does not look
it up but counts along. -/

namespace Predictive

structure ProductionId where
  left : Symbol
  index : Nat
  deriving DecidableEq, Repr

/-- A production as it is shown. -/
structure NumberedRule where
  number : Nat
  left : String
  right : List String
  deriving DecidableEq, Repr

/-- Each number with the alternative next to it. -/
def RuleListing.numberedRules (listing : RuleListing) : List NumberedRule :=
  listing.numbers.zipWith (⟨·, listing.left, ·⟩) listing.rights

/-- What an expansion shows. -/
def Action.numberedRule? : Action → Option NumberedRule
  | .expansion number left right => some ⟨number, left, right⟩
  | _ => none

def Item.productionIds : Item → List ProductionId
  | nonterminal symbol _ bodies => (List.range bodies.length).map (⟨symbol, ·⟩)
  | _ => []

namespace Registry

variable (r : Registry)

/-- The items of the nonterminals in order. -/
def nonterminalItems : List Item := (r.order.filterMap (r.items[·]?)).filter Item.isNonterminal

def production (id : ProductionId) : List Symbol := (r.bodiesOf id.left).getD id.index []

def productionIds : List ProductionId := r.nonterminalItems.flatMap Item.productionIds

/-- The place in the list of all productions, counted from 1, or 0 for what is not in it. -/
def ruleNumber (id : ProductionId) : Nat := (r.productionIds.idxOf? id).elim 0 (· + 1)

def numberedRule (id : ProductionId) : NumberedRule :=
  ⟨r.ruleNumber id, r.nameOf id.left, (r.production id).map r.nameOf⟩

/-- Puts one more body under the next number. -/
def countBody (state : Nat × RuleListing) (body : List Symbol) : Nat × RuleListing :=
  let (number, listing) := state
  (number + 1,
    ⟨listing.left, listing.numbers ++ [number + 1], listing.rights ++ [body.map r.nameOf]⟩)

/-- Counts on through the bodies of one nonterminal. -/
def countItem (state : Nat × List RuleListing) (item : Item) : Nat × List RuleListing :=
  let (number, listings) := state
  let (number, listing) := item.bodies.foldl r.countBody (number, ⟨item.name, [], []⟩)
  (number, listings ++ [listing])

def ruleListings : List RuleListing := (r.nonterminalItems.foldl r.countItem (0, [])).2

end Registry
end Predictive
