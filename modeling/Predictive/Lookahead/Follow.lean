import Predictive.Lookahead.First

/-! Which letters can stand right behind a nonterminal. A letter follows where the
rest of a body can begin with it; where the rest vanishes, whatever follows the left
side follows as well. The end mark follows the start symbol, and without a start
symbol nothing follows anything. -/

namespace Predictive

/-- A nonterminal inside a body of `left`, with what stands behind it there. -/
structure Occurrence where
  symbol : Symbol
  left : Symbol
  rest : Body
  deriving DecidableEq, Repr

namespace Grammar

def occurrences (g : Grammar) : List Occurrence :=
  g.rules.flatMap fun rule => rule.bodies.flatMap fun body =>
    (body.positions.filter fun position => g.isNonterminal position.1).map
      fun (s, rest) => ⟨s, rule.left, rest⟩

/-- The nonterminals that `letter` can follow. -/
def followedBy (g : Grammar) (first : FirstSets) (letter : Symbol) : List Symbol :=
  let occurrences := g.occurrences
  saturate g.nonterminals
    (fun known s => (letter == Symbol.endMark && g.start == some s) ||
      occurrences.any fun place => place.symbol == s &&
        (first.bodyBegins letter place.rest ||
          (known.contains place.left && first.bodyVanishes place.rest))) []

end Grammar

structure FollowSets where
  /-- Each letter with the nonterminals that it can follow. -/
  followed : List (Symbol × List Symbol)

namespace FollowSets

def ofGrammar (g : Grammar) (first : FirstSets) : FollowSets :=
  if g.start.isNone then ⟨[]⟩
  else ⟨g.letters.map fun letter => (letter, g.followedBy first letter)⟩

variable (sets : FollowSets)

def follows (letter s : Symbol) : Bool :=
  ((sets.followed.lookup letter).getD []).contains s

/-- FOLLOW of a nonterminal. -/
def of (s : Symbol) : List Symbol :=
  (sets.followed.map Prod.fst).filter (sets.follows · s)

end FollowSets

/-- What announces a form: the letters in its FIRST set, and if that has the empty word's symbol, those
of the FOLLOW set as well. -/
def announced (first follow : List Symbol) : List Symbol :=
  first.filter (· != Symbol.empty) ++ if first.contains Symbol.empty then follow else []

def Grammar.followSets (g : Grammar) (first : FirstSets) : FollowSets := .ofGrammar g first

end Predictive
