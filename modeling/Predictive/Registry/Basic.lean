import Predictive.NameSupply

/-! A grammar as it is stored. Every symbol has an item, a table leads from the names to the
symbols, and the order of the nonterminals and the start symbol are kept beside them. A
`Grammar` leaves most of this to be read off its rules; here each of the four is written
on its own, and every operation has to keep them in step. -/

namespace Predictive

inductive Item where
  | emptyWord
  | endMark
  | terminal (name : String)
  /-- A nonterminal knows its own symbol. Its bodies are stored as they are shown. -/
  | nonterminal (symbol : Symbol) (name : String) (bodies : List (List Symbol))
  deriving DecidableEq, Repr

namespace Item

def name : Item → String
  | emptyWord => Symbol.emptyName
  | endMark => Symbol.endMarkName
  | terminal name => name
  | nonterminal _ name _ => name

def kind : Item → Kind
  | emptyWord => .emptyWord
  | endMark => .endMark
  | terminal _ => .terminal
  | nonterminal .. => .nonterminal

def bodies : Item → List (List Symbol)
  | nonterminal _ _ bodies => bodies
  | _ => []

def isNonterminal : Item → Bool
  | nonterminal .. => true
  | _ => false

def changeBodies (change : List (List Symbol) → List (List Symbol)) : Item → Item
  | nonterminal symbol name bodies => nonterminal symbol name (change bodies)
  | other => other

end Item

structure Registry where
  items : List Item
  names : List (String × Symbol)
  order : List Symbol
  start : Option Symbol
  deriving DecidableEq, Repr

namespace Registry

/-- The names with a fixed meaning. -/
def reserved : List (String × Symbol) :=
  Symbol.emptyNames.map (·, Symbol.empty) ++ [(Symbol.endMarkName, Symbol.endMark)]

def initial : Registry := ⟨[.emptyWord, .endMark], reserved, [], none⟩

/-- From now on the name stands for `s`, whatever it stood for before. -/
def enter (name : String) (s : Symbol) (names : List (String × Symbol)) :
    List (String × Symbol) :=
  names.filter (·.1 != name) ++ [(name, s)]

/-- Puts `s` behind the anchor, or at the end if there is no anchor. -/
def insertAfter (anchor s : Symbol) : List Symbol → List Symbol
  | [] => [s]
  | t :: later => if t = anchor then t :: s :: later else t :: insertAfter anchor s later

/-- What a stored body says: the empty word leaves no trace. -/
def bare (body : List Symbol) : Body := body.filter (· != Symbol.empty)

/-- The empty word is dropped from a body unless nothing else is left. -/
def normalize (body : List Symbol) : List Symbol := Grammar.shown (bare body)

def concat (first rest : List Symbol) : List Symbol := normalize (first ++ rest)

theorem bare_shown (body : List Symbol) : bare (Grammar.shown body) = bare body := by
  cases body <;> rfl

theorem bare_normalize (body : List Symbol) : bare (normalize body) = bare body := by
  rw [normalize, bare_shown, bare, bare, List.filter_filter]
  simp

theorem bare_eq_self {body : List Symbol} (plain : Symbol.empty ∉ body) : bare body = body := by
  apply List.filter_eq_self.mpr
  intro s member
  simpa using ne_of_mem_of_not_mem member plain

variable (r : Registry)

/-- The symbol that the next item will have. -/
def next : Symbol := r.items.length

def symbol? (name : String) : Option Symbol := r.names.lookup name

def isNonterminal (s : Symbol) : Bool := r.items[s]?.any Item.isNonterminal

def nameOf (s : Symbol) : String := r.items[s]?.elim "" Item.name

def bodiesOf (s : Symbol) : List (List Symbol) := r.items[s]?.elim [] Item.bodies

def addTerminal (name : String) : Registry :=
  { r with items := r.items ++ [.terminal name], names := enter name r.next r.names }

def pushNonterminal (name : String) : Registry :=
  { r with
    items := r.items ++ [.nonterminal r.next name []], names := enter name r.next r.names }

def addNonterminal (name : String) : Registry :=
  { r.pushNonterminal name with order := r.order ++ [r.next] }

def addNonterminalAfter (anchor : Symbol) (name : String) : Registry :=
  { r.pushNonterminal name with order := insertAfter anchor r.next r.order }

def addBody (left : Symbol) (body : List Symbol) : Registry :=
  { r with items := r.items.modify left (Item.changeBodies (· ++ [normalize body])) }

def setBodies (left : Symbol) (bodies : List (List Symbol)) : Registry :=
  { r with items := r.items.modify left (Item.changeBodies fun _ => bodies.map normalize) }

/-- A supply of its own, in which all its names are taken. -/
def ownSupply : NameSupply := NameSupply.empty.reserveAll (r.names.map Prod.fst)

/-- What is stored, for those who only read it. -/
def grammar : Grammar where
  declared := (r.items.drop 2).map Item.name
  rules := r.order.map fun s => ⟨s, (r.bodiesOf s).map bare⟩
  start := r.start

end Registry

namespace Grammar

/-- What is stored for a symbol. A nonterminal has one rule. -/
def item (g : Grammar) (s : Symbol) : Item :=
  if s = Symbol.empty then .emptyWord
  else if s = Symbol.endMark then .endMark
  else
    match g.rules.find? (·.left == s) with
    | some rule => .nonterminal s (g.nameOf s) (rule.bodies.map shown)
    | none => .terminal (g.nameOf s)

/-- How the grammar is stored. -/
def registry (g : Grammar) : Registry where
  items := g.symbols.map g.item
  names := Registry.reserved ++ g.declared.zipIdx 2
  order := g.nonterminals
  start := g.start

end Grammar
end Predictive
