import Predictive.Grammar.Basic
import Predictive.Grammar.Error
import Predictive.Text.Blank

/-! Building a grammar from named rules. The left sides are the nonterminals, in
the order in which they first appear; the other symbols become terminals in reading
order. Entries with the same left side are one rule, and the first nonterminal is
the start symbol. -/

namespace Predictive

structure Entry where
  left : String
  bodies : List (List String)
  deriving DecidableEq, Repr

namespace Entry

def trimmed (entry : Entry) : Entry :=
  { entry with left := String.ofList (Text.trim entry.left.toList) }

def lefts (entries : List Entry) : List String := (entries.map left).eraseDups

/-- The body symbols in reading order. -/
def symbols (entries : List Entry) : List String :=
  entries.flatMap fun entry => entry.bodies.flatten

/-- The body symbols that can only be terminals, each time they are used. -/
def terminalUses (entries : List Entry) : List String :=
  (symbols entries).filter fun name =>
    !Symbol.reservedNames.contains name && !(lefts entries).contains name

/-- The alternatives of `left` from all its entries. -/
def bodiesOf (entries : List Entry) (left : String) : List (List String) :=
  (entries.filter (·.left == left)).flatMap bodies

end Entry

namespace Grammar

/-- The names as a body, in which the empty word leaves no trace. -/
def bodyOf (g : Grammar) (names : List String) : Body :=
  (names.filterMap g.find?).filter (· != Symbol.empty)

/-- The grammar of entries in which nothing is wrong. -/
def assemble (entries : List Entry) : Grammar :=
  let lefts := Entry.lefts entries
  let names : Grammar := ⟨lefts ++ (Entry.terminalUses entries).eraseDups, [], none⟩
  let rules := lefts.zipIdx.map fun (left, index) =>
    ⟨index + 2, (Entry.bodiesOf entries left).map names.bodyOf⟩
  { names with rules, start := rules.head?.map Rule.left }

/-- A reserved left side is the first thing to be reported, then a terminal that is not
allowed, then a nonterminal without alternatives. -/
def build (allowed : String → Bool) (entries : List Entry) : Except GrammarError Grammar :=
  let entries := entries.map Entry.trimmed
  match (Entry.lefts entries).find? Symbol.reservedNames.contains with
  | some left => .error (.undeclared left)
  | none =>
    match (Entry.terminalUses entries).find? (!allowed ·) with
    | some name => .error (.undeclared name)
    | none =>
      match (Entry.lefts entries).find? fun left => (Entry.bodiesOf entries left).isEmpty with
      | some left => .error (.noProductions left)
      | none => .ok (assemble entries)

def ofEntries (entries : List Entry) : Except GrammarError Grammar :=
  build (fun _ => true) entries

/-- Like `ofEntries`, but every terminal has to be one of `terminals`. -/
def ofEntriesOver (terminals : List String) (entries : List Entry) :
    Except GrammarError Grammar :=
  build terminals.contains entries

/-- The nonterminal of that name. -/
def nonterminal (g : Grammar) (name : String) : Except GrammarError Symbol :=
  match (g.find? name).filter g.isNonterminal with
  | some s => .ok s
  | none => .error (.undeclared name)

def withStart (g : Grammar) (name : String) : Except GrammarError Grammar :=
  (g.nonterminal name).map fun s => { g with start := some s }

end Grammar
end Predictive
