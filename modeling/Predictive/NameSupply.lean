import Predictive.Grammar.Basic

/-! Names for new nonterminals. A supply remembers every name that is in use, and
turns a base name into a new one by adding as few primes as it can. -/

namespace Predictive

structure NameSupply where
  taken : List String
  deriving DecidableEq, Repr

namespace NameSupply

def empty : NameSupply := ⟨[]⟩

def reserve (supply : NameSupply) (name : String) : NameSupply :=
  ⟨supply.taken.insert name⟩

def reserveAll (supply : NameSupply) (names : List String) : NameSupply :=
  names.foldl reserve supply

def reserveGrammar (supply : NameSupply) (g : Grammar) : NameSupply :=
  supply.reserveAll g.knownNames

def ofGrammar (g : Grammar) : NameSupply := empty.reserveGrammar g

def primed (base : String) (primes : Nat) : String :=
  base ++ String.ofList (List.replicate primes '\x27')

/-- As many primes as there are taken names are always enough, for one of the names up
to there has to be free. -/
def primesFor (supply : NameSupply) (base : String) : Nat :=
  ((List.range supply.taken.length).find? fun primes =>
    !supply.taken.contains (primed base primes)).getD supply.taken.length

def fresh (supply : NameSupply) (base : String) : String × NameSupply :=
  let name := primed base (supply.primesFor base)
  (name, supply.reserve name)

end NameSupply
end Predictive
