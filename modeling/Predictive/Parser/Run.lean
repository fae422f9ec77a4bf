import Predictive.Proofs.ParserTermination

/-! The parser's loop. Nothing in it bounds the number of moves; it ends because a table
has no conflicts. -/

namespace Predictive
namespace Table

variable (table : Table)

def record (c : Configuration) (action : Action) : Step := c.step table.grammar action

def expansionOf (p : Production) : Action :=
  .expansion p.number (table.grammar.nameOf p.left) (table.grammar.bodyNames p.body)

/-- Moves on until there is a verdict. -/
def runFrom (c : Configuration) : Trace :=
  match moved : table.move c with
  | .matching token next =>
    have : table.Moves c next := .inl ⟨token, moved⟩
    (runFrom next).after [table.record c (.matching token)]
  | .expansion p next =>
    have : table.Moves c next := .inr ⟨p, moved⟩
    (runFrom next).after [table.record c (table.expansionOf p)]
  | .acceptance => ⟨[table.record c .acceptance], .accepted⟩
  | .rejection reason => ⟨[table.record c (.rejection reason)], .rejected reason⟩
  | .stuck => ⟨[], .unending⟩
termination_by (⟨c, table.ends c⟩ : { c // table.Ends c })

def initial (tokens : List String) : Configuration :=
  ⟨[table.start, Symbol.endMark], tokens, 0⟩

def run (tokens : List String) : Trace := table.runFrom (table.initial tokens)

end Table

namespace Grammar

def parse (g : Grammar) (tokens : List String) : Except GrammarError Trace :=
  g.table.map (·.run tokens)

end Grammar
end Predictive
