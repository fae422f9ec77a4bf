import Predictive.LeftRecursion.Corner
import Predictive.Transformation

/-! Left-recursion elimination. The nonterminals are treated in rule order. Bodies that
begin with an earlier nonterminal have it replaced by its finished alternatives until
none does; what then still begins with the left side itself is moved behind a new
nonterminal, `A -> A α | β` becoming `A -> β A'` and `A' -> α A' | ε`.

An earlier nonterminal that vanishes can expose another one, so several passes may be
needed, and through a hidden left recursion they need not end. Hence the limit. -/

namespace Predictive

/-- Replaces the nonterminal of `rule` at the front of bodies by its alternatives. -/
def Rule.substitute (rule : Rule) (bodies : List Body) : List Body :=
  bodies.flatMap fun
    | [] => [[]]
    | s :: rest => if s = rule.left then rule.bodies.map (· ++ rest) else [s :: rest]

namespace LeftRecursion

/-- The body does not begin with the left side of a finished rule. -/
def settled (finished : List Rule) (body : Body) : Bool :=
  body.head?.all fun s => finished.all (·.left != s)

/-- One substitution of every finished rule, in order. -/
def pass (finished : List Rule) (body : Body) : List Body :=
  finished.foldl (fun bodies rule => rule.substitute bodies) [body]

/-- Makes passes until all that has become of the body is settled. -/
def resolve (finished : List Rule) (passes : Nat) (body : Body) : Option (List Body) :=
  if settled finished body then some [body]
  else
    match passes with
    | 0 => none
    | passes + 1 => ((pass finished body).mapM (resolve finished passes)).map List.flatten

/-- The new nonterminals in order, and either the new rules or the cycle that remains. -/
structure Elimination where
  introduced : List Introduction
  outcome : Except (List Symbol) (List Rule)

namespace Elimination

def failed (cycle : List Symbol) : Elimination := ⟨[], .error cycle⟩

def adding (rules : List Rule) (later : Elimination) : Elimination :=
  { later with outcome := later.outcome.map (rules ++ ·) }

def introducing (introduction : Introduction) (later : Elimination) : Elimination :=
  { later with introduced := introduction :: later.introduced }

end Elimination

/-- Treats the remaining rules; the next new nonterminal is `next`. -/
def eliminate (limit : Nat) (finished : List Rule) (next : Symbol) : List Rule → Elimination
  | [] => ⟨[], .ok []⟩
  | rule :: later =>
    match rule.bodies.mapM (resolve finished limit) with
    | none => .failed [rule.left]
    | some resolved =>
      let bodies := resolved.flatten
      let tails := tailsOf rule.left bodies
      let bases := notBeginning rule.left bodies
      if tails.isEmpty then
        let done : Rule := ⟨rule.left, bodies⟩
        (eliminate limit (finished ++ [done]) next later).adding [done]
      else if bases.isEmpty then .failed [rule.left, rule.left]
      else
        let done : Rule := ⟨rule.left, bases.map (· ++ [next])⟩
        let repetition : Rule := ⟨next, tails.map (· ++ [next]) ++ [[]]⟩
        ((eliminate limit (finished ++ [done]) (next + 1) later).adding
          [done, repetition]).introducing ⟨rule.left, .leftRecursion⟩

end LeftRecursion

namespace Grammar

/-- How many passes a nonterminal may take. An empty body counts as one symbol long. -/
def passLimit (g : Grammar) : Nat :=
  let longest := (g.rules.flatMap Rule.bodies).foldl (fun n body => max n body.length) 1
  g.rules.length * (longest + 1) + 1

def irreducible (g : Grammar) (cycle : List Symbol) : GrammarError :=
  let names := cycle.map g.nameOf
  .leftRecursive (names.headD "") names

def eliminateLeftRecursionWith (g : Grammar) (supply : NameSupply) :
    Transformed (Except GrammarError Grammar) :=
  let supply := supply.reserveGrammar g
  match g.selfDerivation? with
  | some cycle => ⟨.error (g.irreducible cycle), supply, []⟩
  | none =>
    let elimination := LeftRecursion.eliminate g.passLimit [] g.size g.rules
    let extended := g.introduce supply elimination.introduced
    let named := extended.result
    let result :=
      match elimination.outcome with
      | .error cycle => .error (named.irreducible cycle)
      | .ok rules =>
        let result := { named with rules }
        match result.leftRecursion? with
        | some cycle => .error (result.irreducible cycle)
        | none => .ok result
    { extended with result }

def eliminateLeftRecursion (g : Grammar) : Transformed (Except GrammarError Grammar) :=
  g.eliminateLeftRecursionWith (.ofGrammar g)

end Grammar
end Predictive
