import Predictive.Factoring
import Predictive.LeftRecursion.Elimination

/-! What one name supply is asked for in the course of its life, by hand and by transformations, and
what became of it: every name that was reserved and every name that was given out, in order. A
transformation reserves all names of its grammar before anything else, and its notes tell which names
it was given, also when it fails. -/

namespace Predictive

namespace NameSupply

/-- The taken names that a name with more and more primes can still come upon. -/
def ahead (supply : NameSupply) (name : String) : List String :=
  supply.taken.filter (name.length ≤ ·.length)

end NameSupply

inductive Event where
  | reserved (name : String)
  /-- The name was given out for a base name. -/
  | issued (base name : String)
  deriving DecidableEq, Repr

namespace Event

def name : Event → String
  | reserved name => name
  | issued _ name => name

def issued? : Event → Option String
  | reserved _ => none
  | issued _ name => some name

end Event

/-- The name that the note tells of. -/
def Note.issued? : Note → Option Event
  | .leftRecursive left fresh => some (.issued left fresh)
  | .factored _ left fresh => some (.issued left fresh)
  | _ => none

structure Ledger where
  supply : NameSupply
  events : List Event
  deriving DecidableEq, Repr

inductive Request where
  | reserve (name : String)
  | reserveGrammar (g : Grammar)
  | fresh (base : String)
  | eliminateLeftRecursion (g : Grammar)
  | factor (g : Grammar)
  deriving DecidableEq, Repr

namespace Ledger

def empty : Ledger := ⟨.empty, []⟩

def ofGrammar (g : Grammar) : Ledger := ⟨.ofGrammar g, g.knownNames.map .reserved⟩

/-- A new ledger, with nothing taken or for a grammar. -/
def opened : Option Grammar → Ledger
  | none => .empty
  | some g => .ofGrammar g

def reserve (ledger : Ledger) (name : String) : Ledger :=
  ⟨ledger.supply.reserve name, ledger.events ++ [.reserved name]⟩

def reserveGrammar (ledger : Ledger) (g : Grammar) : Ledger :=
  ⟨ledger.supply.reserveGrammar g, ledger.events ++ g.knownNames.map .reserved⟩

def fresh (ledger : Ledger) (base : String) : Ledger :=
  let (name, supply) := ledger.supply.fresh base
  ⟨supply, ledger.events ++ [.issued base name]⟩

def transform {α : Type} (ledger : Ledger) (g : Grammar) (run : NameSupply → Transformed α) : Ledger :=
  let done := run ledger.supply
  ⟨done.supply, ledger.events ++ g.knownNames.map .reserved ++ done.notes.filterMap Note.issued?⟩

def serve (ledger : Ledger) : Request → Ledger
  | .reserve name => ledger.reserve name
  | .reserveGrammar g => ledger.reserveGrammar g
  | .fresh base => ledger.fresh base
  | .eliminateLeftRecursion g => ledger.transform g g.eliminateLeftRecursionWith
  | .factor g => ledger.transform g g.factorWith

end Ledger
end Predictive
