import Predictive.NameSupply
import Predictive.Note

/-! What the grammar transformations share. A transformation works on symbols only
and lists the nonterminals that it introduces; they are numbered on from the size of
the grammar in that order. Names come afterwards, so no transformation can depend on
the state of the name supply. -/

namespace Predictive

inductive Cause where
  | leftRecursion
  | factoring (alternatives : Nat)
  deriving DecidableEq, Repr

/-- A new nonterminal, named after the one it was split from. -/
structure Introduction where
  parent : Symbol
  cause : Cause
  deriving DecidableEq, Repr

def Introduction.note (introduction : Introduction) (left fresh : String) : Note :=
  match introduction.cause with
  | .leftRecursion => .leftRecursive left fresh
  | .factoring alternatives => .factored alternatives left fresh

/-- A result, with the supply after it and the notes made on the way. Supply and notes
remain when the result is an error. -/
structure Transformed (α : Type) where
  result : α
  supply : NameSupply
  notes : List Note

/-- Declares the introduced nonterminals, in order. -/
def Grammar.introduce (g : Grammar) (supply : NameSupply) :
    List Introduction → Transformed Grammar
  | [] => ⟨g, supply, []⟩
  | introduction :: later =>
    let left := g.nameOf introduction.parent
    let (fresh, supply) := supply.fresh left
    let rest := introduce { g with declared := g.declared ++ [fresh] } supply later
    { rest with notes := introduction.note left fresh :: rest.notes }

end Predictive
