import Predictive.Grammar.Basic
import Predictive.Text.Token

/-! The terminals of a grammar as the vocabulary of its input. -/

namespace Predictive.Grammar

def vocabulary (g : Grammar) : List (List Char) := g.terminals.map fun s => (g.nameOf s).toList

def tokens (g : Grammar) (input : String) : List String :=
  (Text.tokens g.vocabulary input.toList).map String.ofList

end Predictive.Grammar
