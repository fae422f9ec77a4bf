import Predictive.Lookahead.Filling
import Predictive.Lookahead.Follow

/-! FIRST and FOLLOW in rounds, for all symbols at once. A table holds a set for every symbol; in
FIRST the empty word's symbol says that it vanishes. A round for FIRST takes the rules in order, a
round for FOLLOW the places where nonterminals stand, each on what those before it have just added;
rounds follow each other as long as one adds something. -/

namespace Predictive

def FirstTable : Type := Symbol → List Symbol

namespace FirstTable

def nullable (table : FirstTable) (s : Symbol) : Bool := (table s).contains Symbol.empty

/-- What a sequence of symbols can begin with, as far as the table tells. -/
def ofSequence (table : FirstTable) : List Symbol → List Symbol
  | [] => [Symbol.empty]
  | s :: rest =>
    (table s).filter (· != Symbol.empty) ++ if table.nullable s then table.ofSequence rest else []

/-- What the bodies of the rule add to the set of its left side. -/
def gain (table : FirstTable) (rule : Rule) : List Symbol :=
  ((rule.bodies.flatMap fun body => table.ofSequence (Grammar.shown body)).filter
    (!(table rule.left).contains ·)).eraseDups

def extend (table : FirstTable) (rule : Rule) : FirstTable := fun s =>
  if s = rule.left then table s ++ table.gain rule else table s

/-- One round, and whether it added anything. -/
def round (table : FirstTable) : List Rule → FirstTable × Bool
  | [] => (table, false)
  | rule :: later =>
    let (last, more) := round (table.extend rule) later
    (last, !(table.gain rule).isEmpty || more)

end FirstTable

/-- The table after so many rounds. To begin with, nonterminals have no entries and every other
symbol has itself. -/
def Grammar.firstTable (g : Grammar) : Nat → FirstTable
  | 0 => fun s => if g.isNonterminal s then [] else [s]
  | rounds + 1 => ((g.firstTable rounds).round g.rules).1

/-- Every place in a body adds what the rest of the body can begin with, and if the rest can vanish
what follows the left side. -/
def FirstTable.following (first : FirstTable) : Filling Occurrence where
  target := Occurrence.symbol
  offer table place := announced (first.ofSequence place.rest) (table place.left)

/-- The table after so many rounds. To begin with, only the end mark follows the start symbol. -/
def Grammar.followTable (g : Grammar) (first : FirstTable) : Nat → Symbol → List Symbol :=
  first.following.after (fun s => if g.start = some s then [Symbol.endMark] else []) g.occurrences

/-- Whether another round adds anything. -/
def Grammar.followGrows (g : Grammar) (first : FirstTable) (rounds : Nat) : Bool :=
  (first.following.round (g.followTable first rounds) g.occurrences).2

end Predictive
