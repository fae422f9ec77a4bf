import Predictive.Format.Columns
import Predictive.Format.Basic
import Predictive.Format.Json
import Predictive.Format.Tex
import Predictive.Parser.Trace

/-! A parser run as a table of stack, input and action. -/

namespace Predictive

def Action.text : Action → String
  | .matching token => "match " ++ token
  | .expansion number left right => s!"({number}) {left} -> " ++ " ".intercalate right
  | .acceptance => "accept"
  | .rejection reason => "error: " ++ reason.message

structure StepListing where
  stack : String
  input : String
  action : String
  deriving DecidableEq, Repr

def Step.listing (step : Step) : StepListing :=
  ⟨" ".intercalate step.stack, " ".intercalate step.input, step.action.text⟩

/-- Why the input was not accepted. -/
def Verdict.complaint? : Verdict → Option String
  | .accepted => none
  | .rejected reason => some reason.message
  | .unending => some "the parser is stuck"

namespace Trace

variable (trace : Trace)

def listings : List StepListing := trace.steps.map Step.listing

def plain : String :=
  let rows := ⟨"Stack", "Input", "Action"⟩ :: trace.listings
  let stackWidth := Columns.widest (rows.map StepListing.stack)
  let inputWidth := Columns.widest (rows.map StepListing.input)
  let lines := rows.map fun row =>
    Columns.separator.intercalate [Columns.flushLeft stackWidth row.stack,
      Columns.flushRight inputWidth row.input, row.action]
  let verdict :=
    match trace.verdict.complaint? with
    | none => "accepted"
    | some complaint => "rejected: " ++ complaint
  "\n".intercalate lines ++ "\n" ++ verdict

def latex : String :=
  let lines := trace.listings.map fun row =>
    " & ".intercalate [Tex.escape row.stack, Tex.escape row.input,
      Tex.withEpsilon "$\\epsilon$" (Tex.escape row.action)]
  "\\begin\x7btabular\x7d\x7bl|r|l\x7d\n" ++ "Stack & Input & Action\\\\\\hline\n" ++
    "\\\\\n".intercalate lines ++ "\n\\end\x7btabular\x7d"

def json : Json :=
  let step := fun row : StepListing => Json.object
    [("stack", .string row.stack), ("input", .string row.input), ("action", .string row.action)]
  .object [
    ("steps", .array (trace.listings.map step)),
    ("accepted", .boolean trace.accepted),
    ("error", (trace.verdict.complaint?.map Json.string).getD .null)]

def render (trace : Trace) : Format → String
  | .plain => trace.plain
  | .latex => trace.latex
  | .json => trace.json.render

end Trace
end Predictive
