/-! Why a grammar is refused. -/

namespace Predictive

/-- A table cell that several alternatives claim. -/
structure Conflict where
  nonterminal : String
  lookahead : String
  candidates : List (List String)
  deriving DecidableEq, Repr

inductive GrammarError where
  | undeclared (name : String)
  | noProductions (name : String)
  | noStart
  /-- The nonterminals of `cycle` lead back to `name`, where it begins and ends. -/
  | leftRecursive (name : String) (cycle : List String)
  | conflicting (cells : List Conflict)
  deriving DecidableEq, Repr

def Conflict.message (c : Conflict) : String :=
  let claims := c.candidates.map fun body => c.nonterminal ++ " -> " ++ " ".intercalate body
  "M[" ++ c.nonterminal ++ ", " ++ c.lookahead ++ "] is claimed by " ++ ", ".intercalate claims

def GrammarError.message : GrammarError → String
  | undeclared name => "\"" ++ name ++ "\" is not a declared nonterminal"
  | noProductions name => "nonterminal \"" ++ name ++ "\" has no productions"
  | noStart => "grammar has no start symbol"
  | leftRecursive name cycle =>
    "left recursion of \"" ++ name ++ "\" cannot be eliminated: " ++ " => ".intercalate cycle
  | conflicting cells => "grammar is not LL(1): " ++ "; ".intercalate (cells.map Conflict.message)

end Predictive
