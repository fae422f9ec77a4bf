import Predictive.Grammar.Body
import Predictive.Saturation

/-! Which symbols vanish, and which letters a symbol can begin with. Both are least
fixed points over the nonterminals: vanishing is computed once, beginnings once for
every letter. A letter begins with itself. -/

namespace Predictive

namespace Grammar

/-- The nonterminals that derive the empty word. -/
def vanishing (g : Grammar) : List Symbol :=
  saturate g.nonterminals (fun known s => (g.bodiesOf s).any (·.all known.contains)) []

/-- The nonterminals that derive a form beginning with `letter`. -/
def starters (g : Grammar) (vanishing : List Symbol) (letter : Symbol) : List Symbol :=
  saturate g.nonterminals
    (fun known s => (g.bodiesOf s).any
      (·.reaches vanishing.contains fun t => t == letter || known.contains t)) []

end Grammar

structure FirstSets where
  vanishing : List Symbol
  /-- Each letter with the nonterminals that can begin with it. -/
  starters : List (Symbol × List Symbol)

namespace FirstSets

def ofGrammar (g : Grammar) : FirstSets :=
  let vanishing := g.vanishing
  ⟨vanishing, g.letters.map fun letter => (letter, g.starters vanishing letter)⟩

variable (sets : FirstSets)

def vanishes (s : Symbol) : Bool := sets.vanishing.contains s

def begins (letter s : Symbol) : Bool :=
  s == letter || ((sets.starters.lookup letter).getD []).contains s

def bodyVanishes (body : Body) : Bool := body.all sets.vanishes

def bodyBegins (letter : Symbol) (body : Body) : Bool :=
  body.reaches sets.vanishes (sets.begins letter)

/-- FIRST of a sequence of symbols. The empty word belongs to it when the whole
sequence vanishes. -/
def ofBody (body : Body) : List Symbol :=
  (if sets.bodyVanishes body then [Symbol.empty] else []) ++
    (sets.starters.map Prod.fst).filter (sets.bodyBegins · body)

end FirstSets

def Grammar.firstSets (g : Grammar) : FirstSets := .ofGrammar g

end Predictive
