import Predictive.Grammar.Source
import Predictive.Registry.Basic

/-! Filling a registry from named rules: first all left sides, then the bodies, whose unknown
symbols become terminals as they are met. -/

namespace Predictive.Registry

/-- A name with a fixed meaning cannot be declared; a nonterminal may be, again. -/
def declare (r : Registry) (name : String) : Except GrammarError Registry :=
  match r.symbol? name with
  | none => .ok (r.addNonterminal name)
  | some s => if r.isNonterminal s then .ok r else .error (.undeclared name)

/-- The symbol of that name, which is a new terminal if there is none. -/
def intern (allowed : String → Bool) (r : Registry) (name : String) :
    Except GrammarError (Symbol × Registry) :=
  match r.symbol? name with
  | some s => .ok (s, r)
  | none =>
    if allowed name then .ok (r.next, r.addTerminal name) else .error (.undeclared name)

def readBody (allowed : String → Bool) (r : Registry) :
    List String → Except GrammarError (List Symbol × Registry)
  | [] => .ok ([], r)
  | name :: later => do
    let (s, r) ← r.intern allowed name
    let (body, r) ← readBody allowed r later
    return (s :: body, r)

def readBodies (allowed : String → Bool) (left : Symbol) (r : Registry) :
    List (List String) → Except GrammarError Registry
  | [] => .ok r
  | names :: later => do
    let (body, r) ← r.readBody allowed names
    readBodies allowed left (r.addBody left body) later

def readEntries (allowed : String → Bool) (r : Registry) :
    List Entry → Except GrammarError Registry
  | [] => .ok r
  | entry :: later => do
    let left := (r.symbol? entry.left).getD Symbol.empty
    let r ← r.readBodies allowed left entry.bodies
    readEntries allowed r later

def build (allowed : String → Bool) (entries : List Entry) : Except GrammarError Registry := do
  let entries := entries.map Entry.trimmed
  let r ← (entries.map Entry.left).foldlM declare initial
  let r ← r.readEntries allowed entries
  match r.order.find? fun s => (r.bodiesOf s).isEmpty with
  | some s => .error (.noProductions (r.nameOf s))
  | none => .ok { r with start := r.order.head? }

def ofEntries (entries : List Entry) : Except GrammarError Registry :=
  build (fun _ => true) entries

def ofEntriesOver (terminals : List String) (entries : List Entry) :
    Except GrammarError Registry :=
  build terminals.contains entries

def ofText (text : String) : Except GrammarError Registry :=
  ofEntries (Source.read text).entries

def withStart (r : Registry) (name : String) : Except GrammarError Registry :=
  match (r.symbol? name).filter r.isNonterminal with
  | some s => .ok { r with start := some s }
  | none => .error (.undeclared name)

end Predictive.Registry
