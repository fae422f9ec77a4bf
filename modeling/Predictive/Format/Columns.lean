/-! Text in columns. Widths count characters, and a text that is too wide is kept whole. -/

namespace Predictive.Columns

def spaces (n : Nat) : String := String.ofList (List.replicate n ' ')

def flushRight (width : Nat) (text : String) : String :=
  spaces (width - text.length) ++ text

def flushLeft (width : Nat) (text : String) : String :=
  text ++ spaces (width - text.length)

def widest (texts : List String) : Nat :=
  (texts.map String.length).foldl max 0

/-- The width of every column, for rows of equal length. -/
def widths : List (List String) → List Nat
  | [] => []
  | row :: later => later.foldl (fun widths row => widths.zipWith max (row.map String.length))
      (row.map String.length)

def separator : String := " | "

end Predictive.Columns
