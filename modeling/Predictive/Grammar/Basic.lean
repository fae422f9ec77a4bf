/-! Context-free grammars. Symbols are numbers: the empty word has number 0, the
end mark number 1, and the declared names follow in order of declaration. A symbol
is a nonterminal exactly when it has a rule. The order of the rules is the order
of the nonterminals; it decides rule numbers, table rows and the course of every
transformation. -/

namespace Predictive

abbrev Symbol := Nat

/-- The empty word never occurs in a body: the body that stands for it is empty. -/
abbrev Body := List Symbol

namespace Symbol

def empty : Symbol := 0

def endMark : Symbol := 1

def emptyName : String := "ε"

def endMarkName : String := "$"

def emptyNames : List String := ["ε", "ϵ", "epsilon"]

/-- Names with a fixed meaning, which no grammar may declare. -/
def reservedNames : List String := emptyNames ++ [endMarkName]

end Symbol

inductive Kind where
  | emptyWord
  | endMark
  | terminal
  | nonterminal
  deriving DecidableEq, Repr

structure Rule where
  left : Symbol
  bodies : List Body
  deriving DecidableEq, Repr

/-- One alternative of a rule, under its number in the whole grammar. -/
structure Production where
  number : Nat
  left : Symbol
  body : Body
  deriving DecidableEq, Repr

structure Grammar where
  declared : List String
  rules : List Rule
  start : Option Symbol
  deriving DecidableEq, Repr

namespace Grammar

def empty : Grammar := ⟨[], [], none⟩

variable (g : Grammar)

/-- One more than the largest symbol. -/
def size : Nat := g.declared.length + 2

def nameOf : Symbol → String
  | 0 => Symbol.emptyName
  | 1 => Symbol.endMarkName
  | s + 2 => g.declared.getD s ""

def find? (name : String) : Option Symbol :=
  if name ∈ Symbol.emptyNames then some Symbol.empty
  else if name = Symbol.endMarkName then some Symbol.endMark
  else (g.declared.idxOf? name).map (· + 2)

/-- Every name that a symbol of the grammar answers to. -/
def knownNames : List String := Symbol.reservedNames ++ g.declared

def nonterminals : List Symbol := g.rules.map Rule.left

def isNonterminal (s : Symbol) : Bool := g.rules.any (·.left == s)

def isTerminal (s : Symbol) : Bool :=
  2 ≤ s && s < g.size && !g.isNonterminal s

def kindOf (s : Symbol) : Kind :=
  if s = Symbol.empty then .emptyWord
  else if s = Symbol.endMark then .endMark
  else if g.isNonterminal s then .nonterminal
  else .terminal

def symbols : List Symbol := List.range g.size

def terminals : List Symbol := g.symbols.filter g.isTerminal

/-- What a derived word is made of, and with it what a parser may see next. -/
def letters : List Symbol := g.terminals ++ [Symbol.endMark]

def bodiesOf (s : Symbol) : List Body :=
  (g.rules.filter (·.left == s)).flatMap Rule.bodies

def Produces (s : Symbol) (body : Body) : Prop := body ∈ g.bodiesOf s

instance (s : Symbol) (body : Body) : Decidable (g.Produces s body) :=
  inferInstanceAs (Decidable (body ∈ g.bodiesOf s))

/-- The alternatives in rule order, numbered from 1. -/
def productions : List Production :=
  ((g.rules.flatMap fun rule => rule.bodies.map (rule.left, ·)).zipIdx 1).map
    fun ((left, body), number) => ⟨number, left, body⟩

/-- A body as it is shown, where the empty body is the empty word's symbol. -/
def shown (body : Body) : List Symbol :=
  if body.isEmpty then [Symbol.empty] else body

def bodyNames (body : Body) : List String := (shown body).map g.nameOf

/-- The rules by name, with the empty word's name for an empty body. -/
def namedRules : List (String × List (List String)) :=
  g.rules.map fun rule => (g.nameOf rule.left, rule.bodies.map g.bodyNames)

end Grammar
end Predictive
