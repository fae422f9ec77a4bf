/-! The three ways to show a result. -/

namespace Predictive

inductive Format where
  | plain
  | latex
  | json
  deriving DecidableEq, Repr

end Predictive
