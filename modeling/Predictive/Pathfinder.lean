import Predictive.Digraph

/-! The search for a path, pass by pass. It notes from where it came to each node that it meets, and
lines the node up. When the target comes up, it goes back from note to note until it is at the source
again. -/

namespace Predictive

inductive Pathfinder (α : Type) where
  | searching (parents : List (α × α)) (queue : List α)
  /-- The path is known from `node` on, and goes on with `behind`. -/
  | returning (parents : List (α × α)) (node : α) (behind : List α)
  | ended (path : Option (List α))
  deriving DecidableEq, Repr

namespace Pathfinder

variable {α : Type} [BEq α]

/-- Enters an edge with the nodes that its source leads to. -/
def enter : List (α × List α) → α × α → List (α × List α)
  | [], edge => [(edge.1, [edge.2])]
  | (node, targets) :: later, edge =>
    if node == edge.1 then (node, targets ++ [edge.2]) :: later
    else (node, targets) :: enter later edge

/-- The nodes that each node leads to, in the order of the edges. -/
def graph (edges : List (α × α)) : List (α × List α) := edges.foldl enter []

def meet (node : α) (marks : List (α × α) × List α) (next : α) : List (α × α) × List α :=
  if (marks.1.lookup next).isSome then marks else (marks.1 ++ [(next, node)], marks.2 ++ [next])

def opened (source : α) : Pathfinder α := .searching [(source, source)] [source]

/-- There is nothing after a node without a parent. -/
def pass (graph : List (α × List α)) (source target : α) : Pathfinder α → Option (Pathfinder α)
  | .searching _ [] => some (.ended none)
  | .searching parents (node :: queue) =>
    if node == target then some (.returning parents node [])
    else
      let (parents, queue) := ((graph.lookup node).getD []).foldl (meet node) (parents, queue)
      some (.searching parents queue)
  | .returning parents node behind =>
    if node == source then some (.ended (some (node :: behind)))
    else (parents.lookup node).map fun parent => .returning parents parent (node :: behind)
  | .ended path => some (.ended path)

def passes (graph : List (α × List α)) (source target : α) : Nat → Pathfinder α → Option (Pathfinder α)
  | 0, finder => some finder
  | count + 1, finder => (finder.pass graph source target).bind (passes graph source target count)

end Pathfinder
end Predictive
