/-! What a run of the parser leaves behind: every configuration by name, with the
action taken there, and the verdict. -/

namespace Predictive

/-- Positions count tokens from 0; the end of the input is the position behind the last. -/
inductive Rejection where
  | mismatch (expected found : String) (position : Nat)
  | noProduction (nonterminal lookahead : String) (position : Nat)
  | trailing (found : String) (position : Nat)
  deriving DecidableEq, Repr

namespace Rejection

def position : Rejection → Nat
  | mismatch _ _ n | noProduction _ _ n | trailing _ n => n

def message : Rejection → String
  | mismatch expected found n => s!"expected \"{expected}\" but found \"{found}\" at {n}"
  | noProduction nonterminal lookahead n =>
    s!"no production of {nonterminal} applies to \"{lookahead}\" at {n}"
  | trailing found n => s!"unexpected trailing input \"{found}\" at {n}"

end Rejection

inductive Action where
  | matching (token : String)
  | expansion (number : Nat) (left : String) (right : List String)
  | acceptance
  | rejection (reason : Rejection)
  deriving DecidableEq, Repr

/-- A configuration before its action. The stack stands bottom first and the input ends
with the end mark. -/
structure Step where
  stack : List String
  input : List String
  action : Action
  deriving DecidableEq, Repr

inductive Verdict where
  | accepted
  | rejected (reason : Rejection)
  /-- There is neither a verdict nor a move. -/
  | unending
  deriving DecidableEq, Repr

structure Trace where
  steps : List Step
  verdict : Verdict
  deriving DecidableEq, Repr

namespace Trace

def accepted (trace : Trace) : Bool := trace.verdict == .accepted

def after (later : Trace) (steps : List Step) : Trace :=
  { later with steps := steps ++ later.steps }

end Trace
end Predictive
