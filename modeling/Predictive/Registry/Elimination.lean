import Predictive.LeftRecursion.Elimination
import Predictive.Registry.Basic

/-! Left-recursion elimination on a registry. The nonterminals are treated one after the other
in the order they had at first; each is written back before the next is looked at, and a new
one is entered behind the one it was split from. -/

namespace Predictive.Registry

/-- Replaces `left` at the front of bodies by each of the alternatives. -/
def substitute (left : Symbol) (alternatives bodies : List (List Symbol)) :
    List (List Symbol) :=
  bodies.flatMap fun body =>
    if body.head? = some left then alternatives.map (concat · body.tail) else [body]

/-- Substitutes `left` if some body begins with it, and keeps track of whether one ever did. -/
def visit (r : Registry) (state : List (List Symbol) × Bool) (left : Symbol) :
    List (List Symbol) × Bool :=
  if state.1.any (·.head? == some left) then
    (substitute left (r.bodiesOf left) state.1, true)
  else state

/-- One visit of every earlier nonterminal. -/
def pass (r : Registry) (earlier : List Symbol) (bodies : List (List Symbol)) :
    List (List Symbol) × Bool :=
  earlier.foldl r.visit (bodies, false)

/-- Makes passes until one has nothing to substitute. -/
def settle (r : Registry) (earlier : List Symbol) (passes : Nat)
    (bodies : List (List Symbol)) : Option (List (List Symbol)) :=
  match r.pass earlier bodies, passes with
  | (bodies, false), _ => some bodies
  | (_, true), 0 => none
  | (bodies, true), passes + 1 => settle r earlier passes bodies

/-- Moves what begins with `left` behind a new nonterminal. -/
def restart (r : Registry) (left : Symbol) (name : String)
    (recursive others : List (List Symbol)) : Registry :=
  ((r.addNonterminalAfter left name).setBodies left (others.map (concat · [r.next]))).setBodies
    r.next (recursive.map (concat ·.tail [r.next]) ++ [[Symbol.empty]])

def eliminateFrom (limit : Nat) (earlier : List Symbol) (r : Registry) (supply : NameSupply) :
    List Symbol → Except GrammarError Registry × NameSupply
  | [] => (.ok r, supply)
  | left :: later =>
    let name := r.nameOf left
    match r.settle earlier limit (r.bodiesOf left) with
    | none => (.error (.leftRecursive name [name]), supply)
    | some bodies =>
      let (recursive, others) := bodies.partition (·.head? == some left)
      if recursive.isEmpty then
        eliminateFrom limit (earlier ++ [left]) (r.setBodies left others) supply later
      else if others.isEmpty then (.error (.leftRecursive name [name, name]), supply)
      else
        let (fresh, supply) := supply.fresh name
        eliminateFrom limit (earlier ++ [left]) (r.restart left fresh recursive others) supply
          later

def passLimit (r : Registry) : Nat :=
  let longest := ((r.order.flatMap r.bodiesOf).map List.length).foldl max 0
  r.order.length * (longest + 1) + 1

/-- A left recursion that is left over is an error. -/
def checked (r : Registry) : Except GrammarError Registry :=
  match r.grammar.leftRecursion? with
  | some cycle => .error (r.grammar.irreducible cycle)
  | none => .ok r

def eliminateLeftRecursionWith (r : Registry) (supply : NameSupply) :
    Except GrammarError Registry × NameSupply :=
  let supply := supply.reserveAll (r.names.map Prod.fst)
  match r.grammar.selfDerivation? with
  | some cycle => (.error (r.grammar.irreducible cycle), supply)
  | none =>
    let (result, supply) := r.eliminateFrom r.passLimit [] supply r.order
    (result.bind checked, supply)

def eliminateLeftRecursion (r : Registry) : Except GrammarError Registry :=
  (r.eliminateLeftRecursionWith r.ownSupply).1

end Predictive.Registry
