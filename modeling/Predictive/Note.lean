import Predictive.Grammar.Error
import Predictive.Grammar.Source

/-! Remarks that accompany an answer: skipped lines, new nonterminals, conflicts. -/

namespace Predictive

inductive Level where
  | error
  | warn
  | info
  | debug
  | trace
  deriving DecidableEq, Repr

namespace Level

def name : Level → String
  | error => "ERROR"
  | warn => "WARN"
  | info => "INFO"
  | debug => "DEBUG"
  | trace => "TRACE"

def rank : Level → Nat
  | error => 1
  | warn => 2
  | info => 3
  | debug => 4
  | trace => 5

end Level

inductive Note where
  | skippedLine (number : Nat) (problem : Source.Problem)
  | leftRecursive (left fresh : String)
  | factored (alternatives : Nat) (left fresh : String)
  | conflictingCells (count : Nat)
  deriving DecidableEq, Repr

namespace Note

def level : Note → Level
  | skippedLine .. => .warn
  | _ => .debug

def message : Note → String
  | skippedLine number problem => s!"line {number}: " ++ problem.message ++ ", skipped"
  | leftRecursive left fresh => left ++ " is left recursive, introducing " ++ fresh
  | factored alternatives left fresh =>
    s!"factoring {alternatives} alternatives of {left} into {fresh}"
  | conflictingCells count => s!"{count} conflicting LL(1) cells"

end Note

def Source.Reading.notes (reading : Source.Reading) : List Note :=
  reading.skipped.map fun (number, problem) => .skippedLine number problem

def GrammarError.notes : GrammarError → List Note
  | conflicting cells => [.conflictingCells cells.length]
  | _ => []

end Predictive
