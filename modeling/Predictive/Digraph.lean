/-! Cycles of a directed graph that is given by its edges. The search goes breadth
first, so the way back that it finds is a shortest one; among equally short ones the
order of the edges decides. -/

namespace Predictive.Digraph

variable {α : Type} [BEq α]

/-- The nodes one step from `node` that were not met before. -/
def discovered (edges : List (α × α)) (seen : List α) (node : α) : List α :=
  ((edges.filter fun edge => edge.1 == node && !seen.contains edge.2).map Prod.snd).eraseDups

/-- The edges that lead to a node not met before. -/
def unexplored (edges : List (α × α)) (seen : List α) : List (α × α) :=
  edges.filter fun edge => !seen.contains edge.2

theorem length_eraseDups_le (nodes : List α) : nodes.eraseDups.length ≤ nodes.length := by
  match nodes with
  | [] => simp
  | node :: later =>
    have kept := List.length_filter_le (fun other => !other == node) later
    have distinct := length_eraseDups_le (later.filter fun other => !other == node)
    simp only [List.eraseDups_cons, List.length_cons]
    omega
termination_by nodes.length
decreasing_by
  simp only [List.length_cons]
  omega

/-- Every discovery uses up an unexplored edge. -/
theorem length_unexplored [LawfulBEq α] (edges : List (α × α)) (seen : List α) (node : α) :
    (unexplored edges (seen ++ discovered edges seen node)).length +
      (discovered edges seen node).length ≤ (unexplored edges seen).length := by
  have split := List.length_eq_countP_add_countP
    (fun edge : α × α => (discovered edges seen node).contains edge.2) (l := unexplored edges seen)
  simp only [List.countP_eq_length_filter, Bool.not_eq_true, Bool.decide_eq_false] at split
  have remaining : unexplored edges (seen ++ discovered edges seen node) =
      (unexplored edges seen).filter
        fun edge => !(discovered edges seen node).contains edge.2 := by
    simp only [unexplored, List.filter_filter]
    congr 1
    funext edge
    by_cases old : edge.2 ∈ seen <;> simp [old]
  have used : (edges.filter fun edge => edge.1 == node && !seen.contains edge.2).length ≤
      ((unexplored edges seen).filter
        fun edge => (discovered edges seen node).contains edge.2).length := by
    simp only [unexplored, List.filter_filter, ← List.countP_eq_length_filter]
    apply List.countP_mono_left
    intro edge member leads
    have found : edge.2 ∈ discovered edges seen node :=
      List.mem_eraseDups.mpr (List.mem_map_of_mem (List.mem_filter.mpr ⟨member, leads⟩))
    simp only [Bool.and_eq_true] at leads ⊢
    exact ⟨by simpa using found, leads.2⟩
  have distinct := length_eraseDups_le
    ((edges.filter fun edge => edge.1 == node && !seen.contains edge.2).map Prod.snd)
  rw [List.length_map] at distinct
  rw [remaining]
  change (discovered edges seen node).length ≤ _ at distinct
  omega

/-- The queue holds the nodes to visit, each with the way to it, newest node first. -/
def search [LawfulBEq α] (edges : List (α × α)) (target : α) (seen : List α) :
    List (α × List α) → Option (List α)
  | [] => none
  | (node, past) :: queue =>
    if node == target then some (node :: past).reverse
    else
      let next := discovered edges seen node
      search edges target (seen ++ next) (queue ++ next.map (·, node :: past))
termination_by queue => (unexplored edges seen).length + queue.length
decreasing_by
  have bound := length_unexplored edges seen node
  simp only [List.length_append, List.length_map, List.length_cons]
  omega

/-- A shortest path, both ends included. -/
def path? [LawfulBEq α] (edges : List (α × α)) (source target : α) : Option (List α) :=
  search edges target [source] [(source, [])]

/-- The first edge that lies on a cycle, followed by a shortest way back to where it
begins. The walk begins and ends at the same node. -/
def cycle? [LawfulBEq α] (edges : List (α × α)) : Option (List α) :=
  edges.findSome? fun edge => (path? edges edge.2 edge.1).map (edge.1 :: ·)

end Predictive.Digraph
