import Predictive.Grammar.Basic

/-! Tables of sets that are filled in rounds. A round takes its items in order, and each of
them enters into the set of one symbol what it has to offer, on the table as the items before
it have left it. Rounds follow each other as long as one adds something. -/

namespace Predictive

structure Filling (α : Type) where
  target : α → Symbol
  /-- What the item accounts for, as far as the table tells. -/
  offer : (Symbol → List Symbol) → α → List Symbol

namespace Filling

variable {α : Type} (filling : Filling α)

/-- What the item adds to the set of its target. -/
def gain (table : Symbol → List Symbol) (item : α) : List Symbol :=
  ((filling.offer table item).filter (!(table (filling.target item)).contains ·)).eraseDups

def extend (table : Symbol → List Symbol) (item : α) : Symbol → List Symbol := fun s =>
  if s = filling.target item then table s ++ filling.gain table item else table s

/-- One round, and whether it added anything. -/
def round (table : Symbol → List Symbol) : List α → (Symbol → List Symbol) × Bool
  | [] => (table, false)
  | item :: later =>
    let (last, more) := round (filling.extend table item) later
    (last, !(filling.gain table item).isEmpty || more)

/-- The table after so many rounds. -/
def after (table : Symbol → List Symbol) (items : List α) : Nat → Symbol → List Symbol
  | 0 => table
  | rounds + 1 => (filling.round (after table items rounds) items).1

end Filling
end Predictive
