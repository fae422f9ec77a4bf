import Predictive.Factoring
import Predictive.Grammar.Source
import Predictive.LeftRecursion.Elimination

/-! The grammars that can come about: built from entries, and from there changed by
choosing a start symbol, eliminating left recursion and factoring, in any order and with
name supplies in any state. A grammar read from a text is one built from entries. -/

namespace Predictive.Grammar

inductive Reachable : Grammar → Prop where
  | empty : Reachable .empty
  | entries {entries g} (built : ofEntries entries = .ok g) : Reachable g
  | entriesOver {terminals entries g} (built : ofEntriesOver terminals entries = .ok g) :
      Reachable g
  | start {g name h} (before : Reachable g) (moved : g.withStart name = .ok h) : Reachable h
  | eliminated {g supply h} (before : Reachable g)
      (transformed : (g.eliminateLeftRecursionWith supply).result = .ok h) : Reachable h
  | factored {g} (supply) (before : Reachable g) : Reachable (g.factorWith supply).result

end Predictive.Grammar
