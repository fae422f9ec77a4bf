import Predictive.Lookahead.Table

/-! The table filled production by production. Each production is entered into the cells of its
row, under the letters that announce it. A cell that gets more than one is in conflict, and the
conflicts are sorted in the end. A production may go through its letters in any order and more than
once, and the cells may be gone through in any order. -/

namespace Predictive

/-- The letters that announce the production: those that its body begins with, and if it vanishes
those that follow its left side. -/
def Lookaheads.announcing (sets : Lookaheads) (p : Production) : List Symbol :=
  announced (sets.first.ofBody p.body) (sets.follow.of p.left)

/-- The productions entered so far, for every row and column. -/
def Candidates : Type := Symbol × Symbol → List Production

namespace Candidates

/-- A production comes into a cell only once. -/
def enter (candidates : Candidates) (p : Production) (letter : Symbol) : Candidates := fun cell =>
  if cell = (p.left, letter) ∧ p ∉ candidates cell then candidates cell ++ [p] else candidates cell

def enterAll (candidates : Candidates) (p : Production) (letters : List Symbol) : Candidates :=
  letters.foldl (·.enter p ·) candidates

def gather (letters : Production → List Symbol) (productions : List Production) : Candidates :=
  productions.foldl (fun candidates p => candidates.enterAll p (letters p)) fun _ => []

end Candidates

namespace Grammar

variable (g : Grammar)

/-- Where a cell stands in the table. -/
def placeOf (cell : Symbol × Symbol) : Nat × Nat :=
  (g.nonterminals.idxOf cell.1, g.letters.idxOf cell.2)

/-- By row, and in a row by column. -/
def precedes (a b : Symbol × Symbol) : Bool :=
  (g.placeOf a).1 < (g.placeOf b).1 ||
    ((g.placeOf a).1 == (g.placeOf b).1 && (g.placeOf a).2 ≤ (g.placeOf b).2)

def contested (candidates : Candidates) (cells : List (Symbol × Symbol)) : List Claim :=
  ((cells.filter fun cell => 1 < (candidates cell).length).mergeSort g.precedes).map
    fun cell => ⟨cell.1, cell.2, candidates cell⟩

/-- The production in each cell, or the conflicts. -/
def settle (candidates : Candidates) (cells : List (Symbol × Symbol)) :
    Except GrammarError (Symbol → Symbol → Option Production) :=
  match g.contested candidates cells with
  | [] => .ok fun row column => (candidates (row, column)).head?
  | claims => .error (.conflicting (claims.map g.conflictOf))

end Grammar
end Predictive
