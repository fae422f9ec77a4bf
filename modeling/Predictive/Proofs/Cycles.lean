import Mathlib.Logic.Relation
import Predictive.Digraph

/-! The search for a cycle finds one where there is one. Whatever it meets can be reached from
its source; a search that comes to nothing has met all that can be reached, and the target is
not among it. -/

namespace Predictive.Digraph
open Relation

variable {α : Type} [BEq α] [LawfulBEq α] {edges : List (α × α)}

def Leads (edges : List (α × α)) (a b : α) : Prop := (a, b) ∈ edges

/-- A node that was met waits in the queue, or is another than the target and all nodes
after it were met. -/
def Explored (edges : List (α × α)) (target : α) (seen : List α) (queue : List (α × List α)) :
    Prop :=
  ∀ a ∈ seen, a ∈ queue.map Prod.fst ∨ a ≠ target ∧ ∀ b, Leads edges a b → b ∈ seen

theorem mem_discovered {seen : List α} {a b : α} (leads : Leads edges a b) :
    b ∈ seen ∨ b ∈ discovered edges seen a := by
  by_cases met : b ∈ seen
  · exact .inl met
  · refine .inr (List.mem_eraseDups.mpr (List.mem_map.mpr ⟨(a, b), ?_, rfl⟩))
    exact List.mem_filter.mpr ⟨leads, by simpa using met⟩

theorem Explored.visit {target node : α} {seen past : List α} {queue : List (α × List α)}
    (explored : Explored edges target seen ((node, past) :: queue)) (other : node ≠ target) :
    Explored edges target (seen ++ discovered edges seen node)
      (queue ++ (discovered edges seen node).map (·, node :: past)) := by
  intro a met
  simp only [List.map_append, List.map_map, List.mem_append]
  rcases List.mem_append.mp met with before | now
  · rcases explored a before with waiting | ⟨done, onward⟩
    · rcases List.mem_cons.mp waiting with rfl | waiting
      · exact .inr ⟨other, fun b leads => mem_discovered leads⟩
      · exact .inl (.inl waiting)
    · exact .inr ⟨done, fun b leads => .inl (onward b leads)⟩
  · exact .inl (.inr (by simpa [Function.comp_def] using now))

theorem search_eq_none {target : α} {seen : List α} {queue : List (α × List α)}
    (missed : search edges target seen queue = none) (explored : Explored edges target seen queue) :
    ∀ a ∈ seen, ¬ ReflTransGen (Leads edges) a target := by
  induction seen, queue using search.induct edges target with
  | case1 seen =>
    have closed : ∀ a ∈ seen, a ≠ target ∧ ∀ b, Leads edges a b → b ∈ seen :=
      fun a met => (explored a met).resolve_left (by simp)
    intro a met reaches
    have stays : ∀ b, ReflTransGen (Leads edges) a b → b ∈ seen := by
      intro b reaches
      induction reaches with
      | refl => exact met
      | tail _ leads ih => exact (closed _ ih).2 _ leads
    exact (closed target (stays target reaches)).1 rfl
  | case2 seen node past queue found =>
    rw [search, if_pos found] at missed
    cases missed
  | case3 seen node past queue other next ih =>
    rw [search, if_neg other] at missed
    have unequal : node ≠ target := fun same => other (beq_iff_eq.mpr same)
    exact fun a met => ih missed (explored.visit unequal) a (List.mem_append_left _ met)

theorem path?_eq_none {source target : α} (missed : path? edges source target = none) :
    ¬ ReflTransGen (Leads edges) source target := by
  refine search_eq_none missed (fun a met => .inl ?_) source List.mem_cons_self
  simpa using met

theorem leads_of_mem_discovered {seen : List α} {a b : α} (found : b ∈ discovered edges seen a) :
    Leads edges a b := by
  obtain ⟨edge, member, rfl⟩ := List.mem_map.mp (List.mem_eraseDups.mp found)
  obtain ⟨listed, here⟩ := List.mem_filter.mp member
  obtain rfl := eq_of_beq (Bool.and_eq_true_iff.mp here).1
  exact listed

/-- The nodes on a walk from one node to another, both included. -/
inductive Walk (leads : α → α → Prop) : α → α → List α → Prop where
  | here {a} : Walk leads a a [a]
  | onward {a b c walk} (first : leads a b) (rest : Walk leads b c walk) : Walk leads a c (a :: walk)

namespace Walk

variable {leads : α → α → Prop} {a b c : α} {walk : List α}

omit [BEq α] [LawfulBEq α]

theorem concat (before : Walk leads a b walk) (last : leads b c) : Walk leads a c (walk ++ [c]) := by
  induction before with
  | here => exact .onward last .here
  | onward first _ ih => exact .onward first (ih last)

theorem reaches (whole : Walk leads a c walk) : ReflTransGen leads a c := by
  induction whole with
  | here => exact .refl
  | onward first _ ih => exact .head first ih

theorem between (whole : Walk leads a c walk) :
    ∀ b ∈ walk, ReflTransGen leads a b ∧ ReflTransGen leads b c := by
  induction whole with
  | here => exact List.forall_mem_singleton.mpr ⟨.refl, .refl⟩
  | onward first rest ih =>
    refine List.forall_mem_cons.mpr ⟨⟨.refl, .head first rest.reaches⟩, fun b member => ?_⟩
    obtain ⟨before, behind⟩ := ih b member
    exact ⟨.head first before, behind⟩

/-- Who goes around comes by everywhere again. -/
theorem around (first : leads a b) (back : Walk leads b a walk) : ∀ c ∈ a :: walk, TransGen leads c c := by
  refine List.forall_mem_cons.mpr ⟨.head' first back.reaches, fun c member => ?_⟩
  obtain ⟨before, behind⟩ := back.between c member
  exact .trans_right behind (.head' first before)

end Walk

/-- The way that is kept with a node is turned around. -/
theorem search_walk {source target : α} {seen : List α} {queue : List (α × List α)} {walk : List α}
    (found : search edges target seen queue = some walk)
    (kept : ∀ item ∈ queue, Walk (Leads edges) source item.1 (item.1 :: item.2).reverse) :
    Walk (Leads edges) source target walk := by
  induction seen, queue using search.induct edges target with
  | case1 seen =>
    rw [search] at found
    cases found
  | case2 seen node past queue same =>
    rw [search, if_pos same] at found
    obtain rfl := eq_of_beq same
    exact Option.some.inj found ▸ kept (node, past) List.mem_cons_self
  | case3 seen node past queue other next ih =>
    rw [search, if_neg other] at found
    have here := kept (node, past) List.mem_cons_self
    refine ih found fun item member => ?_
    rcases List.mem_append.mp member with waiting | new
    · exact kept item (List.mem_cons_of_mem _ waiting)
    · obtain ⟨b, discovered, rfl⟩ := List.mem_map.mp new
      rw [List.reverse_cons]
      exact here.concat (leads_of_mem_discovered discovered)

theorem path?_walk {source target : α} {walk : List α} (found : path? edges source target = some walk) :
    Walk (Leads edges) source target walk := by
  refine search_walk found fun item member => ?_
  obtain rfl := List.mem_singleton.mp member
  exact .here

/-- What is found is a way around, from an edge back to where it begins. -/
theorem cycle?_walk {walk : List α} (found : cycle? edges = some walk) :
    ∃ a b way, Leads edges a b ∧ Walk (Leads edges) b a way ∧ walk = a :: way := by
  obtain ⟨edge, leads, mapped⟩ := List.exists_of_findSome?_eq_some found
  obtain ⟨way, back, rfl⟩ := Option.map_eq_some_iff.mp mapped
  exact ⟨edge.1, edge.2, way, leads, path?_walk back, rfl⟩

theorem cycle?_eq_none_iff : cycle? edges = none ↔ ∀ a, ¬ TransGen (Leads edges) a a := by
  constructor
  · intro missed a cycle
    obtain ⟨b, leads, back⟩ := TransGen.head'_iff.mp cycle
    have none := List.findSome?_eq_none_iff.mp missed (a, b) leads
    exact path?_eq_none (Option.map_eq_none_iff.mp none) back
  · refine fun acyclic => List.findSome?_eq_none_iff.mpr fun edge leads => ?_
    rw [Option.map_eq_none_iff, Option.eq_none_iff_forall_ne_some]
    intro walk found
    exact acyclic edge.1 (.head' leads (path?_walk found).reaches)

end Predictive.Digraph
