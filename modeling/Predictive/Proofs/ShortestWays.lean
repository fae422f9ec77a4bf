import Predictive.Proofs.Cycles

/-! The way that is found is a shortest one. The queue holds the nodes by the length of the ways to
them, and no two of these lengths are more than one apart; so no node that was met before can be the
beginning of a shorter way than the one that comes out. -/

namespace Predictive.Digraph

variable {α : Type} {edges : List (α × α)} {target node : α} {seen past : List α}
  {queue : List (α × List α)}

/-- The ways to the nodes in the queue do not get shorter, and get longer by one at most. -/
structure Layered (queue : List (α × List α)) : Prop where
  ordered : queue.Pairwise fun first second => first.2.length ≤ second.2.length
  narrow : ∀ first ∈ queue, ∀ second ∈ queue, second.2.length ≤ first.2.length + 1

theorem Layered.front_le (layered : Layered ((node, past) :: queue)) :
    ∀ item ∈ (node, past) :: queue, past.length ≤ item.2.length :=
  List.forall_mem_cons.mpr ⟨Nat.le_refl _, (List.pairwise_cons.mp layered.ordered).1⟩

theorem Layered.bounds (layered : Layered ((node, past) :: queue)) (next : List α) :
    ∀ item ∈ queue ++ next.map (·, node :: past),
      past.length ≤ item.2.length ∧ item.2.length ≤ past.length + 1 := by
  refine List.forall_mem_append.mpr ⟨fun item waiting => ?_, List.forall_mem_map.mpr fun _ _ => ?_⟩
  · have behind := List.mem_cons_of_mem (node, past) waiting
    exact ⟨layered.front_le item behind, layered.narrow _ List.mem_cons_self item behind⟩
  · exact ⟨Nat.le_succ _, Nat.le_refl _⟩

/-- There is room at the end for the nodes next to the first one. -/
theorem Layered.visit (layered : Layered ((node, past) :: queue)) (next : List α) :
    Layered (queue ++ next.map (·, node :: past)) := by
  have bounds := layered.bounds next
  constructor
  · refine List.pairwise_append.mpr ⟨(List.pairwise_cons.mp layered.ordered).2, ?_, ?_⟩
    · exact List.pairwise_map.mpr (List.pairwise_of_forall fun _ _ => Nat.le_refl _)
    · intro item waiting late new
      obtain ⟨_, _, rfl⟩ := List.mem_map.mp new
      exact (bounds item (List.mem_append_left _ waiting)).2
  · intro first before second behind
    exact Nat.le_trans (bounds second behind).2 (Nat.succ_le_succ (bounds first before).1)

/-- A walk from a node that was met comes by the queue, and is no shorter than from there. -/
theorem Explored.bounded {bound depth : Nat} (explored : Explored edges target seen queue)
    (waiting : ∀ item ∈ queue, ∀ rest, Walk (Leads edges) item.1 target rest →
      bound ≤ item.2.length + rest.length)
    (near : ∀ item ∈ queue, item.2.length ≤ depth) {a : α} {rest : List α}
    (walk : Walk (Leads edges) a target rest) (met : a ∈ seen) : bound ≤ depth + rest.length := by
  have queued : ∀ {a rest}, Walk (Leads edges) a target rest → a ∈ queue.map Prod.fst →
      bound ≤ depth + rest.length := by
    intro a rest walk inside
    obtain ⟨item, member, rfl⟩ := List.mem_map.mp inside
    exact Nat.le_trans (waiting item member rest walk) (Nat.add_le_add_right (near item member) _)
  induction walk with
  | here =>
    rcases explored _ met with inside | ⟨other, _⟩
    · exact queued .here inside
    · exact absurd rfl other
  | @onward a b _ rest first later ih =>
    rcases explored a met with inside | ⟨_, onward⟩
    · exact queued (.onward first later) inside
    · exact Nat.le_succ_of_le (ih explored waiting (onward b first) queued)

variable [BEq α] [LawfulBEq α]

theorem search_shortest {walk : List α} (found : search edges target seen queue = some walk)
    (explored : Explored edges target seen queue) (layered : Layered queue) :
    ∀ item ∈ queue, ∀ rest, Walk (Leads edges) item.1 target rest →
      walk.length ≤ item.2.length + rest.length := by
  induction seen, queue using search.induct edges target with
  | case1 seen => exact List.forall_mem_nil _
  | case2 seen node past queue same =>
    rw [search, if_pos same] at found
    obtain rfl := Option.some.inj found
    intro item member rest other
    have front := layered.front_le item member
    have filled : 0 < rest.length := by cases other <;> exact Nat.succ_pos _
    rw [List.length_reverse, List.length_cons]
    omega
  | case3 seen node past queue other next ih =>
    rw [search, if_neg other] at found
    have unequal : node ≠ target := fun same => other (beq_iff_eq.mpr same)
    have visited := explored.visit unequal
    have bounds := ih found visited (layered.visit next)
    refine List.forall_mem_cons.mpr
      ⟨fun rest walk => ?_, fun item later => bounds item (List.mem_append_left _ later)⟩
    cases walk with
    | here => exact absurd rfl unequal
    | @onward _ b _ rest first later =>
      have met : b ∈ seen ++ next := List.mem_append.mpr (mem_discovered first)
      have near := fun item member => (layered.bounds next item member).2
      have bound := visited.bounded bounds near later met
      rwa [Nat.add_right_comm] at bound

theorem path?_shortest {source : α} {walk : List α} (found : path? edges source target = some walk)
    {other : List α} (way : Walk (Leads edges) source target other) : walk.length ≤ other.length := by
  have layered : Layered [(source, ([] : List α))] := ⟨List.pairwise_singleton _ _, by simp⟩
  have explored : Explored edges target [source] [(source, [])] :=
    fun a met => .inl (by simpa using met)
  have bound := search_shortest found explored layered (source, []) List.mem_cons_self other way
  rwa [List.length_nil, Nat.zero_add] at bound

end Predictive.Digraph
