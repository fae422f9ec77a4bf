import Predictive.Lookahead.Table
import Predictive.Parser.Trace

/-! One move of the table-driven parser. It keeps a stack of symbols still to be read, of
which the top one is matched against the next token or expanded by the production in its
cell. The end mark lies at the bottom of the stack, and a run is over as soon as it comes
up. -/

namespace Predictive

/-- The stack stands top first. -/
structure Configuration where
  stack : List Symbol
  rest : List String
  position : Nat
  deriving DecidableEq, Repr

/-- No move is provided for an empty stack, nor for the empty word on top of it. -/
inductive Move where
  | matching (token : String) (next : Configuration)
  | expansion (production : Production) (next : Configuration)
  | acceptance
  | rejection (reason : Rejection)
  | stuck
  deriving DecidableEq, Repr

namespace Configuration

variable (c : Configuration)

/-- The next token, or the end mark. -/
def lookahead : String := c.rest.headD Symbol.endMarkName

def column? (g : Grammar) : Option Symbol :=
  match c.rest with
  | [] => some Symbol.endMark
  | token :: _ => (g.find? token).filter g.isTerminal

/-- At the end mark only the end of the input will do. -/
def finish : Move :=
  if c.rest.isEmpty then .acceptance else .rejection (.trailing c.lookahead c.position)

def step (g : Grammar) (action : Action) : Step :=
  ⟨(c.stack.map g.nameOf).reverse, c.rest ++ [Symbol.endMarkName], action⟩

end Configuration

namespace Table

variable (table : Table)

def move (c : Configuration) : Move :=
  match c.stack with
  | [] => .stuck
  | top :: below =>
    match table.grammar.kindOf top with
    | .emptyWord => .stuck
    | .endMark => c.finish
    | .nonterminal =>
      match (c.column? table.grammar).bind (table.get? top) with
      | some p => .expansion p { c with stack := p.body ++ below }
      | none => .rejection (.noProduction (table.grammar.nameOf top) c.lookahead c.position)
    | .terminal =>
      let expected := table.grammar.nameOf top
      match c.rest with
      | [] => .rejection (.mismatch expected Symbol.endMarkName c.position)
      | token :: rest =>
        if token = expected then .matching token ⟨below, rest, c.position + 1⟩
        else .rejection (.mismatch expected token c.position)

/-- A configuration with the next one, when the loop goes on. -/
def Moves (c next : Configuration) : Prop :=
  (∃ token, table.move c = .matching token next) ∨ ∃ p, table.move c = .expansion p next

end Table
end Predictive
