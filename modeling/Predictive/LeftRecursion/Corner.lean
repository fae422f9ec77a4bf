import Predictive.Digraph
import Predictive.Lookahead.First

/-! Left corners: the nonterminals that a derivation from a left side can bring to the
front in one step, namely those with nothing but vanishing symbols before them. A cycle
of left corners is a left recursion. Where the rest of each body vanishes as well, the
cycle derives a nonterminal from itself alone, which no change of the rules can remove. -/

namespace Predictive

structure Corner where
  left : Symbol
  symbol : Symbol
  /-- The rest of the body vanishes too. -/
  alone : Bool
  deriving DecidableEq, Repr

namespace Grammar

/-- The nonterminals that can come first in the body, each with what stands behind it. -/
def frontOf (g : Grammar) (vanishes : Symbol → Bool) : Body → List (Symbol × Body)
  | [] => []
  | s :: rest =>
    (if g.isNonterminal s then [(s, rest)] else []) ++
      (if vanishes s then g.frontOf vanishes rest else [])

def corners (g : Grammar) : List Corner :=
  let vanishing := g.vanishing
  g.rules.flatMap fun rule => rule.bodies.flatMap fun body =>
    (g.frontOf vanishing.contains body).map fun (s, rest) =>
      ⟨rule.left, s, rest.all vanishing.contains⟩

/-- A cycle along which each nonterminal derives the next with nothing around it. -/
def selfDerivation? (g : Grammar) : Option (List Symbol) :=
  Digraph.cycle? ((g.corners.filter Corner.alone).map fun c => (c.left, c.symbol)).eraseDups

def leftRecursion? (g : Grammar) : Option (List Symbol) :=
  Digraph.cycle? (g.corners.map fun c => (c.left, c.symbol)).eraseDups

end Grammar
end Predictive
