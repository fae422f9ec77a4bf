import Predictive.Registry.Building
import Predictive.Registry.Elimination
import Predictive.Registry.Factoring

/-! The registries that can come about, and what is asked of a registry at all times: every
lookup that the other stages make without a check rests on it. -/

namespace Predictive.Registry

/-- New, read from a text or filled with entries, and from there on given another start symbol
or transformed, with name supplies in any state. -/
inductive Obtained : Registry → Prop where
  | initial : Obtained .initial
  | text {text r} (built : ofText text = .ok r) : Obtained r
  | entries {entries r} (built : ofEntries entries = .ok r) : Obtained r
  | entriesOver {terminals entries r} (built : ofEntriesOver terminals entries = .ok r) : Obtained r
  | start {r name r'} (before : Obtained r) (moved : r.withStart name = .ok r') : Obtained r'
  | eliminated {r supply r'} (before : Obtained r)
      (transformed : (r.eliminateLeftRecursionWith supply).1 = .ok r') : Obtained r'
  | factored {r} (supply) (before : Obtained r) : Obtained (r.factorWith supply).1

structure Valid (r : Registry) : Prop where
  emptyWord : ∀ s, r.items[s]? = some .emptyWord ↔ s = Symbol.empty
  endMark : ∀ s, r.items[s]? = some .endMark ↔ s = Symbol.endMark
  /-- The reserved names lead to the first two symbols, every other name to the symbol that has
  it, and there are no further names. -/
  names : ∀ name s, (name, s) ∈ r.names ↔
    name ∈ Symbol.emptyNames ∧ s = Symbol.empty ∨
      name = Symbol.endMarkName ∧ s = Symbol.endMark ∨
      2 ≤ s ∧ ∃ item, r.items[s]? = some item ∧ item.name = name
  keys : (r.names.map Prod.fst).Nodup
  order : r.order.Nodup
  listed : ∀ s, s ∈ r.order ↔ r.isNonterminal s = true
  own : ∀ s symbol name bodies, r.items[s]? = some (Item.nonterminal symbol name bodies) →
    symbol = s
  filled : ∀ s ∈ r.order, r.bodiesOf s ≠ []
  bodies : ∀ s, ∀ body ∈ r.bodiesOf s, body ≠ [] ∧ (∀ t ∈ body, t < r.items.length) ∧
    (body = [Symbol.empty] ∨ Symbol.empty ∉ body)
  start : ∀ s, r.start = some s → s ∈ r.order
  startless : r.start = none ↔ r.order = []

end Predictive.Registry
