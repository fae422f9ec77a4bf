import Predictive.Grammar.Body
import Predictive.Transformation

/-! Left factoring. Alternatives of a rule that begin with the same symbol are replaced
by one, which holds all that they have in common and ends in a new nonterminal for the
rest; the new rule is factored in turn. Empty alternatives are left as they are. -/

namespace Predictive

/-- A rule that factoring adds, and the introduction of its left side. -/
structure Split where
  rule : Rule
  introduction : Introduction
  deriving DecidableEq, Repr

namespace Factoring

/-- Bounds the work that is left: the symbols of the bodies and the bodies themselves. -/
def weight : List Body → Nat
  | [] => 0
  | body :: later => body.length + 1 + weight later

theorem weight_filter_le (p : Body → Bool) (bodies : List Body) :
    weight (bodies.filter p) ≤ weight bodies := by
  induction bodies with
  | nil => simp
  | cons body later ih =>
    rw [List.filter_cons]
    split <;> simp only [weight] <;> omega

theorem weight_tailsOf_le (s : Symbol) (bodies : List Body) :
    weight (tailsOf s bodies) ≤ weight bodies := by
  induction bodies with
  | nil => simp [tailsOf]
  | cons body later ih =>
    unfold tailsOf at ih ⊢
    rw [List.filterMap_cons]
    cases body with
    | nil => simp only [weight]; omega
    | cons t rest =>
      by_cases same : t = s <;> simp only [same, if_true, if_false, weight,
        List.length_cons] <;> omega

theorem weight_drop_le (n : Nat) (bodies : List Body) :
    weight (bodies.map (·.drop n)) ≤ weight bodies := by
  induction bodies with
  | nil => simp
  | cons body later ih =>
    simp only [List.map_cons, weight, List.length_drop]
    omega

/-- Factors the alternatives of `left`; the next new nonterminal is `next`. The splits
are in the order of their introduction. -/
def factor (left next : Symbol) : List Body → List Body × List Split
  | [] => ([], [])
  | [] :: later =>
    let (bodies, splits) := factor left next later
    ([] :: bodies, splits)
  | (s :: body) :: later =>
    let same := tailsOf s later
    if same.isEmpty then
      let (bodies, splits) := factor left next later
      ((s :: body) :: bodies, splits)
    else
      let shared := Body.commonToAll body same
      let (rests, inner) :=
        factor next (next + 1) ((body :: same).map (·.drop shared.length))
      let (bodies, splits) :=
        factor left (next + 1 + inner.length) (notBeginning s later)
      let introduction := ⟨left, .factoring (same.length + 1)⟩
      ((s :: shared ++ [next]) :: bodies, ⟨⟨next, rests⟩, introduction⟩ :: inner ++ splits)
termination_by bodies => weight bodies
decreasing_by
  · simp only [weight]; omega
  · simp only [weight]; omega
  · have tails := weight_tailsOf_le s later
    refine Nat.lt_of_le_of_lt (weight_drop_le _ _) ?_
    simp only [weight, List.length_cons]
    omega
  · have rest := weight_filter_le (·.head? != some s) later
    simp only [weight, notBeginning, List.length_cons]
    omega

/-- Each rule, followed by the rules that were split from it. -/
def factorRules (next : Symbol) : List Rule → List Rule × List Split
  | [] => ([], [])
  | rule :: later =>
    let (bodies, splits) := factor rule.left next rule.bodies
    let (rules, others) := factorRules (next + splits.length) later
    (⟨rule.left, bodies⟩ :: splits.map Split.rule ++ rules, splits ++ others)

end Factoring

namespace Grammar

def factorWith (g : Grammar) (supply : NameSupply) : Transformed Grammar :=
  let (rules, splits) := Factoring.factorRules g.size g.rules
  let extended := g.introduce (supply.reserveGrammar g) (splits.map Split.introduction)
  { extended with result := { extended.result with rules } }

def factor (g : Grammar) : Transformed Grammar :=
  g.factorWith (.ofGrammar g)

end Grammar
end Predictive
