import Mathlib.Data.List.Permutation
import Predictive.Pathfinder
import Predictive.Proofs.ShortestWays

/-! The search for a path, from its first pass to its last. Its notes lead back from every node that
it met, along the way that the queue would keep with the node; so it ends, and with the same path. -/

namespace Predictive.Pathfinder
open Predictive.Digraph Relation

variable {α : Type} [BEq α] {edges : List (α × α)} {source target node : α} {parents : List (α × α)}
  {seen past : List α}

/-- Where the edges from a node lead. -/
def successors (edges : List (α × α)) (node : α) : List α :=
  (edges.filter (·.1 == node)).map Prod.snd

/-- The nodes that are new, each of them once. -/
def unmet (seen nodes : List α) : List α := (nodes.filter fun next => !seen.contains next).eraseDups

theorem discovered_eq (seen : List α) (node : α) :
    discovered edges seen node = unmet seen (successors edges node) := by
  rw [discovered, successors, unmet, List.filter_map, List.filter_filter]
  simp only [Function.comp_apply, Bool.and_comm]

/-- The notes lead from the node back to the source, by way of the nodes that are listed. -/
inductive Marked (parents : List (α × α)) (source : α) : α → List α → Prop where
  | source : Marked parents source source []
  | next {node parent past} (other : node ≠ source) (noted : parents.lookup node = some parent)
    (rest : Marked parents source parent past) : Marked parents source node (parent :: past)

theorem Marked.append (marked : Marked parents source node past) (more : List (α × α)) :
    Marked (parents ++ more) source node past := by
  induction marked with
  | source => exact .source
  | next other noted _ ih =>
    exact .next other (by rw [List.lookup_append, noted, Option.some_or]) ih

/-- Some number of passes brings the path up. -/
def Finds (edges : List (α × α)) (source target : α) (finder : Pathfinder α) (path : Option (List α)) :
    Prop :=
  ∃ count, passes (graph edges) source target count finder = some (.ended path)

theorem Finds.before {finder next : Pathfinder α} {path : Option (List α)}
    (step : finder.pass (graph edges) source target = some next)
    (finds : Finds edges source target next path) : Finds edges source target finder path := by
  obtain ⟨count, ended⟩ := finds
  exact ⟨count + 1, by rw [passes, step, Option.bind_some, ended]⟩

variable [LawfulBEq α]

/-! The graph -/

theorem lookup_enter (graph : List (α × List α)) (edge : α × α) (node : α) :
    ((enter graph edge).lookup node).getD [] = (graph.lookup node).getD [] ++ successors [edge] node := by
  induction graph with
  | nil =>
    by_cases same : node = edge.1
    · simp [enter, successors, same]
    · simp [enter, successors, List.lookup_cons, beq_false_of_ne same, Ne.symm same]
  | cons first later ih =>
    obtain ⟨other, targets⟩ := first
    rw [enter]
    by_cases here : other = edge.1
    · by_cases same : node = other
      · simp [← here, ← same, successors]
      · have different : other ≠ node := Ne.symm same
        simp [← here, successors, List.lookup_cons, beq_false_of_ne same, different]
    · by_cases same : node = other
      · have different : edge.1 ≠ other := Ne.symm here
        simp [here, same, successors, different]
      · simp [here, List.lookup_cons, beq_false_of_ne same, ih]

theorem lookup_foldl_enter (edges : List (α × α)) (graph : List (α × List α)) (node : α) :
    ((edges.foldl enter graph).lookup node).getD [] =
      (graph.lookup node).getD [] ++ successors edges node := by
  induction edges generalizing graph with
  | nil => exact (List.append_nil _).symm
  | cons edge later ih =>
    have split : successors (edge :: later) node = successors [edge] node ++ successors later node := by
      rw [successors, ← List.singleton_append, List.filter_append, List.map_append]
      rfl
    rw [List.foldl_cons, ih, lookup_enter, split, List.append_assoc]

theorem lookup_graph (edges : List (α × α)) (node : α) :
    ((graph edges).lookup node).getD [] = successors edges node :=
  lookup_foldl_enter edges [] node

/-! Meeting the nodes next to one -/

theorem not_mem_of_mem_unmet {nodes : List α} {next : α} (new : next ∈ unmet seen nodes) :
    next ∉ seen := by
  have kept := (List.mem_filter.mp (List.mem_eraseDups.mp new)).2
  simpa using kept

theorem unmet_cons (seen : List α) (next : α) (later : List α) :
    unmet seen (next :: later) =
      if next ∈ seen then unmet seen later else next :: unmet (seen ++ [next]) later := by
  have others : later.filter (fun other => !(seen ++ [next]).contains other) =
      (later.filter fun other => !seen.contains other).filter (!· == next) := by
    rw [List.filter_filter]
    refine List.filter_congr fun other _ => ?_
    by_cases same : other = next <;> simp [same]
  rw [unmet, List.filter_cons]
  by_cases old : next ∈ seen
  · simp [unmet, old]
  · rw [if_pos (by simpa using old), if_neg old, List.eraseDups_cons, unmet, others]

theorem isSome_lookup (next : α) : (parents.lookup next).isSome ↔ next ∈ parents.map Prod.fst := by
  simp only [List.lookup_isSome_iff, beq_iff_eq, List.mem_map]
  exact exists_congr fun _ => and_congr_right fun _ => eq_comm

theorem foldl_meet (node : α) (nodes : List α) (parents : List (α × α)) (queue : List α) :
    let new := unmet (parents.map Prod.fst) nodes
    nodes.foldl (meet node) (parents, queue) = (parents ++ new.map (·, node), queue ++ new) := by
  induction nodes generalizing parents queue with
  | nil => simp [unmet]
  | cons next later ih =>
    dsimp only
    rw [List.foldl_cons, meet, unmet_cons]
    by_cases old : next ∈ parents.map Prod.fst
    · rw [if_pos ((isSome_lookup next).mpr old), if_pos old]
      exact ih parents queue
    · rw [if_neg (mt (isSome_lookup next).mp old), if_neg old, ih, List.map_append]
      simp

/-- A node that is new gets its note, and the notes of the node before it stay. -/
theorem Marked.meet {nodes : List α} {next : α} (marked : Marked parents source node past)
    (begun : source ∈ parents.map Prod.fst) (new : next ∈ unmet (parents.map Prod.fst) nodes) :
    Marked (parents ++ (unmet (parents.map Prod.fst) nodes).map (·, node)) source next
      (node :: past) := by
  have absent := not_mem_of_mem_unmet new
  have other : next ≠ source := fun same => absent (same ▸ begun)
  have unnoted : parents.lookup next = none :=
    Option.not_isSome_iff_eq_none.mp (mt (isSome_lookup next).mp absent)
  refine .next other ?_ (marked.append _)
  rw [List.lookup_append, unnoted, Option.none_or]
  exact List.lookup_graph (fun _ => node) new

/-! The whole search -/

theorem Marked.finds (marked : Marked parents source node past) (behind : List α) :
    Finds edges source target (.returning parents node behind)
      (some ((node :: past).reverse ++ behind)) := by
  induction marked generalizing behind with
  | source => exact .before (if_pos (beq_self_eq_true _)) ⟨0, rfl⟩
  | @next node parent past other noted _ ih =>
    have step : (Pathfinder.returning parents node behind).pass (graph edges) source target =
        some (.returning parents parent (node :: behind)) := by
      rw [pass, if_neg (by simpa using other), noted, Option.map_some]
    have rest := ih (node :: behind)
    rw [List.append_cons, ← List.reverse_cons] at rest
    exact .before step rest

/-- The nodes that have a note are those that were met, and the queue is the same but for the ways. -/
theorem search_finds (seen : List α) (queue : List (α × List α)) :
    ∀ parents : List (α × α), parents.map Prod.fst = seen → source ∈ seen →
      (∀ item ∈ queue, Marked parents source item.1 item.2) →
      Finds edges source target (.searching parents (queue.map Prod.fst))
        (search edges target seen queue) := by
  fun_induction search edges target seen queue with
  | case1 seen => exact fun _ _ _ _ => .before rfl ⟨0, rfl⟩
  | case2 seen node past queue same =>
    intro parents _ _ marked
    have back := @Marked.finds α _ edges source target node parents past _
      (marked (node, past) List.mem_cons_self) []
    rw [List.append_nil] at back
    exact .before (if_pos same) back
  | case3 seen node past queue other next ih =>
    rintro parents rfl begun marked
    have new : next = unmet (parents.map Prod.fst) (successors edges node) := discovered_eq _ _
    have step : (Pathfinder.searching parents (((node, past) :: queue).map Prod.fst)).pass (graph edges)
        source target = some (.searching (parents ++ next.map (·, node))
          ((queue ++ next.map (·, node :: past)).map Prod.fst)) := by
      rw [List.map_cons, pass, if_neg other, lookup_graph, foldl_meet, ← new]
      simp [Function.comp_def]
    refine .before step (ih _ (by simp [Function.comp_def]) (List.mem_append_left _ begun) ?_)
    refine List.forall_mem_append.mpr ⟨fun item waiting => ?_, List.forall_mem_map.mpr fun b met => ?_⟩
    · exact (marked item (List.mem_cons_of_mem _ waiting)).append _
    · rw [new] at met ⊢
      exact (marked (node, past) List.mem_cons_self).meet begun met

theorem opened_finds (edges : List (α × α)) (source target : α) :
    Finds edges source target (.opened source) (path? edges source target) := by
  refine search_finds [source] [(source, [])] [(source, source)] rfl List.mem_cons_self ?_
  exact List.forall_mem_singleton.mpr .source

/-- The walk that is found begins with the first edge on a cycle, and there is no shorter way back
behind it. Nothing is found only where there is no cycle, and each search comes to an end. -/
theorem first_cycle_shortest (edges : List (α × α)) :
    (cycle? edges = none ↔ ∀ a, ¬ TransGen (Leads edges) a a) ∧
    (∀ walk, cycle? edges = some walk →
      ∃ before a b after way, edges = before ++ (a, b) :: after ∧ walk = a :: way ∧
        2 ≤ walk.length ∧ Walk (Leads edges) a a walk ∧ Walk (Leads edges) b a way ∧
        (∀ edge ∈ before, ¬ ReflTransGen (Leads edges) edge.2 edge.1) ∧
        ∀ other, Walk (Leads edges) b a other → way.length ≤ other.length) ∧
    ∀ source target, ∃ count, passes (graph edges) source target count (.opened source) =
      some (.ended (path? edges source target)) := by
  refine ⟨cycle?_eq_none_iff, fun walk found => ?_, opened_finds edges⟩
  obtain ⟨before, ⟨a, b⟩, after, split, mapped, missed⟩ := List.findSome?_eq_some_iff.mp found
  obtain ⟨way, back, rfl⟩ := Option.map_eq_some_iff.mp mapped
  have leads : Leads edges a b := split ▸ List.mem_append_right _ List.mem_cons_self
  have walk := path?_walk back
  have filled : 0 < way.length := by cases walk <;> exact Nat.succ_pos _
  refine ⟨before, a, b, after, way, split, rfl, Nat.succ_le_succ filled, .onward leads walk, walk, ?_,
    fun _ other => path?_shortest back other⟩
  exact fun edge earlier => path?_eq_none (Option.map_eq_none_iff.mp (missed edge earlier))

/-- Two ways around, a loop on one node, an edge that occurs twice, and an edge on no cycle at first. -/
def detours : List (Nat × Nat) :=
  [(7, 0), (0, 1), (1, 2), (2, 3), (3, 0), (1, 3), (2, 2), (1, 2)]

theorem detours_shortest : cycle? detours = some [0, 1, 3, 0] ∧
    ¬ ReflTransGen (Leads detours) 0 7 ∧
    (∀ other, Walk (Leads detours) 1 0 other → 3 ≤ other.length) ∧
    ∃ count, passes (graph detours) 1 0 count (.opened 1) = some (.ended (some [1, 3, 0])) := by
  have found : cycle? detours = some [0, 1, 3, 0] := by cbv
  have path : path? detours 1 0 = some [1, 3, 0] := by cbv
  obtain ⟨_, walks, ends⟩ := first_cycle_shortest detours
  obtain ⟨before, a, b, after, way, split, same, _, _, back, earlier, shortest⟩ := walks _ found
  obtain ⟨rfl, rfl⟩ := List.cons.inj same
  obtain rfl : b = 1 := by cases back; rfl
  refine ⟨found, ?_, shortest, path ▸ ends 1 0⟩
  cases before with
  | nil => cases split
  | cons edge later =>
    obtain ⟨rfl, _⟩ := List.cons.inj split
    exact earlier (7, 0) List.mem_cons_self

end Predictive.Pathfinder
