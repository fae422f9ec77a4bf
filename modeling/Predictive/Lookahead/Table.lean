import Predictive.Lookahead.Follow
import Predictive.Grammar.Error

/-! The parsing table. A production claims the letters that its body can begin with,
and if the body vanishes those that follow its left side. Where each cell has at most
one claim, the next letter decides which production to use. -/

namespace Predictive

structure Lookaheads where
  first : FirstSets
  follow : FollowSets

namespace Lookaheads

def ofGrammar (g : Grammar) : Lookaheads :=
  let first := g.firstSets
  ⟨first, g.followSets first⟩

def predicts (sets : Lookaheads) (p : Production) (letter : Symbol) : Bool :=
  sets.first.bodyBegins letter p.body ||
    (sets.first.bodyVanishes p.body && sets.follow.follows letter p.left)

end Lookaheads

/-- The productions that claim a cell, in order of number. -/
structure Claim where
  row : Symbol
  column : Symbol
  claimants : List Production
  deriving DecidableEq, Repr

structure Cell where
  row : Symbol
  column : Symbol
  production : Production
  deriving DecidableEq, Repr

def Claim.cells (claim : Claim) : List Cell :=
  claim.claimants.map (⟨claim.row, claim.column, ·⟩)

namespace Grammar

def lookaheads (g : Grammar) : Lookaheads := .ofGrammar g

def conflictOf (g : Grammar) (claim : Claim) : Conflict :=
  ⟨g.nameOf claim.row, g.nameOf claim.column, claim.claimants.map fun p => g.bodyNames p.body⟩

/-- The claims on every cell, by row and then by column. -/
def claims (g : Grammar) (sets : Lookaheads) : List Claim :=
  let productions := g.productions
  let letters := g.letters
  g.nonterminals.flatMap fun row =>
    let own := productions.filter (·.left == row)
    letters.map fun column => ⟨row, column, own.filter (sets.predicts · column)⟩

end Grammar

/-- A table without conflicts, filled by the lookaheads of its own grammar. -/
structure Table where
  grammar : Grammar
  start : Symbol
  cells : List Cell
  starts : grammar.start = some start
  filled : cells = (grammar.claims grammar.lookaheads).flatMap Claim.cells
  settled : ∀ claim ∈ grammar.claims grammar.lookaheads, claim.claimants.length ≤ 1
  deriving DecidableEq, Repr

namespace Table

def columns (table : Table) : List Symbol := table.grammar.letters

def get? (table : Table) (row column : Symbol) : Option Production :=
  (table.cells.find? fun cell => cell.row == row && cell.column == column).map Cell.production

def lookup? (table : Table) (row column : String) : Option Production := do
  table.get? (← table.grammar.find? row) (← table.grammar.find? column)

end Table

namespace Grammar

variable (g : Grammar)

/-- The claims that are not alone in their cell. -/
def disputed (sets : Lookaheads) : List Claim :=
  (g.claims sets).filter (1 < ·.claimants.length)

/-- The lookaheads of the grammar, computed once and kept. -/
def OwnLookaheads : Type := { sets : Lookaheads // sets = g.lookaheads }

def ownLookaheads : g.OwnLookaheads := ⟨g.lookaheads, rfl⟩

theorem settled_of_disputed {g : Grammar} {sets : g.OwnLookaheads}
    (none : g.disputed sets.val = []) :
    ∀ claim ∈ g.claims g.lookaheads, claim.claimants.length ≤ 1 := by
  intro claim member
  rw [sets.property] at none
  have single := List.filter_eq_nil_iff.mp none claim member
  exact Nat.not_lt.mp (by simpa using single)

def tableFrom (sets : g.OwnLookaheads) : Except GrammarError Table :=
  match starts : g.start with
  | none => .error .noStart
  | some start =>
    match none : g.disputed sets.val with
    | [] =>
      .ok ⟨g, start, (g.claims sets.val).flatMap Claim.cells, starts, by rw [sets.property],
        settled_of_disputed none⟩
    | disputed => .error (.conflicting (disputed.map g.conflictOf))

def table : Except GrammarError Table := g.tableFrom g.ownLookaheads

end Grammar
end Predictive
