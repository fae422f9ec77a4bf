import Std.Data.HashSet

/-! Everything that can be reached by steps from a start, given that all of it lies in
some finite collection. The collection is needed for the proof that the search ends and
is never built. -/

namespace Predictive

variable {α : Type}

/-- A finite collection holds `start` and is never left by a step. -/
def Confined (next : α → List α) (start : α) : Prop :=
  ∃ collection : List α, start ∈ collection ∧ ∀ a ∈ collection, ∀ b ∈ next a, b ∈ collection

namespace Confined

variable {next : α → List α} {start : α}

noncomputable def collection (confined : Confined next start) : List α :=
  Classical.choose confined

theorem start_mem (confined : Confined next start) : start ∈ confined.collection :=
  (Classical.choose_spec confined).1

theorem next_mem (confined : Confined next start) {a b : α} (member : a ∈ confined.collection)
    (step : b ∈ next a) : b ∈ confined.collection :=
  (Classical.choose_spec confined).2 a member b step

variable [BEq α] [Hashable α]

noncomputable def unseen (confined : Confined next start) (seen : Std.HashSet α) : List α :=
  confined.collection.filter (!seen.contains ·)

theorem length_unseen_insert [LawfulBEq α] [LawfulHashable α] (confined : Confined next start)
    {seen : Std.HashSet α} {a : α} (member : a ∈ confined.collection)
    (new : seen.contains a = false) :
    (confined.unseen (seen.insert a)).length < (confined.unseen seen).length := by
  have narrowed : confined.unseen (seen.insert a) =
      (confined.unseen seen).filter fun b => !(a == b) := by
    simp only [unseen, List.filter_filter]
    congr 1
    funext b
    simp [Std.HashSet.contains_insert, Bool.not_or]
  rw [narrowed]
  apply List.length_filter_lt_length_iff_exists.mpr
  exact ⟨a, List.mem_filter.mpr ⟨member, by simp [new]⟩, by simp⟩

end Confined

/-- Visits the pending elements and all that can be reached from them. -/
def visit [BEq α] [Hashable α] [LawfulBEq α] [LawfulHashable α] {next : α → List α} {start : α}
    (confined : Confined next start) (seen : Std.HashSet α) (pending : List α)
    (inside : ∀ a ∈ pending, a ∈ confined.collection) : Std.HashSet α :=
  match pending with
  | [] => seen
  | a :: later =>
    if _ : seen.contains a then
      visit confined seen later fun b member => inside b (List.mem_cons_of_mem a member)
    else
      visit confined (seen.insert a) (next a ++ later) fun b member =>
        match List.mem_append.mp member with
        | .inl step => confined.next_mem (inside a List.mem_cons_self) step
        | .inr waiting => inside b (List.mem_cons_of_mem a waiting)
termination_by ((confined.unseen seen).length, pending.length)
decreasing_by
  · exact Prod.Lex.right _ (Nat.lt_succ_self _)
  · exact Prod.Lex.left _ _ (confined.length_unseen_insert (inside a List.mem_cons_self)
      (Bool.eq_false_iff.mpr ‹_›))

def explore [BEq α] [Hashable α] [LawfulBEq α] [LawfulHashable α] (next : α → List α) (start : α)
    (confined : Confined next start) : List α :=
  (visit confined ∅ [start] fun _ member =>
    List.mem_singleton.mp member ▸ confined.start_mem).toList

inductive Reaches (next : α → List α) : α → α → Prop where
  | start (a) : Reaches next a a
  | step {a b c} (before : Reaches next a b) (member : c ∈ next b) : Reaches next a c

variable [BEq α] [Hashable α] [LawfulBEq α] [LawfulHashable α]
variable {next : α → List α} {start : α} {confined : Confined next start}

theorem visit_sound {holds : α → Prop} (step : ∀ a, holds a → ∀ b ∈ next a, holds b)
    {seen : Std.HashSet α} {pending : List α}
    (inside : ∀ a ∈ pending, a ∈ confined.collection)
    (before : ∀ a ∈ seen, holds a) (waiting : ∀ a ∈ pending, holds a) :
    ∀ a ∈ visit confined seen pending inside, holds a := by
  fun_induction visit confined seen pending inside with
  | case1 seen inside => exact before
  | case2 seen a later inside known rest ih =>
    exact ih before fun b member => waiting b (List.mem_cons_of_mem a member)
  | case3 seen a later inside new rest ih =>
    have first := waiting a List.mem_cons_self
    apply ih
    · intro b member
      rcases Std.HashSet.mem_insert.mp member with same | old
      · exact eq_of_beq same ▸ first
      · exact before b old
    · intro b member
      rcases List.mem_append.mp member with new | old
      · exact step a first b new
      · exact waiting b (List.mem_cons_of_mem a old)

/-- A visit keeps what was seen, takes in what is pending, and leaves no step out. -/
theorem visit_closed {seen : Std.HashSet α} {pending : List α}
    (inside : ∀ a ∈ pending, a ∈ confined.collection)
    (before : ∀ a ∈ seen, ∀ b ∈ next a, b ∈ seen ∨ b ∈ pending) :
    (∀ a, a ∈ seen ∨ a ∈ pending → a ∈ visit confined seen pending inside) ∧
      ∀ a ∈ visit confined seen pending inside, ∀ b ∈ next a,
        b ∈ visit confined seen pending inside := by
  fun_induction visit confined seen pending inside with
  | case1 seen inside =>
    refine ⟨fun a member => member.elim id (absurd · List.not_mem_nil), fun a member b step => ?_⟩
    exact (before a member b step).elim id (absurd · List.not_mem_nil)
  | case2 seen a later inside known rest ih =>
    have kept : ∀ b, b ∈ seen ∨ b ∈ a :: later → b ∈ seen ∨ b ∈ later := by
      intro b member
      rcases member with old | waiting
      · exact .inl old
      · rcases List.mem_cons.mp waiting with rfl | waiting
        · exact .inl known
        · exact .inr waiting
    obtain ⟨holds, closed⟩ := ih fun b member c step => kept c (before b member c step)
    exact ⟨fun b member => holds b (kept b member), closed⟩
  | case3 seen a later inside new rest ih =>
    have kept : ∀ b, b ∈ seen ∨ b ∈ a :: later → b ∈ seen.insert a ∨ b ∈ next a ++ later := by
      intro b member
      rcases member with old | waiting
      · exact .inl (Std.HashSet.mem_insert.mpr (.inr old))
      · rcases List.mem_cons.mp waiting with rfl | waiting
        · exact .inl Std.HashSet.mem_insert_self
        · exact .inr (List.mem_append_right _ waiting)
    obtain ⟨holds, closed⟩ := ih (by
      intro b member c step
      rcases Std.HashSet.mem_insert.mp member with same | old
      · exact .inr (List.mem_append_left _ (eq_of_beq same ▸ step))
      · exact kept c (before b old c step))
    exact ⟨fun b member => holds b (kept b member), closed⟩

theorem mem_explore {a : α} : a ∈ explore next start confined ↔ Reaches next start a := by
  have inside : ∀ a ∈ [start], a ∈ confined.collection := fun _ member =>
    List.mem_singleton.mp member ▸ confined.start_mem
  rw [explore, Std.HashSet.mem_toList]
  constructor
  · refine visit_sound (fun b reached c step => .step reached step) inside ?_ ?_ a
    · intro b member
      exact absurd member Std.HashSet.not_mem_empty
    · intro b member
      obtain rfl := List.mem_singleton.mp member
      exact .start b
  · obtain ⟨holds, closed⟩ := visit_closed inside fun b (member : b ∈ (∅ : Std.HashSet α)) =>
      absurd member Std.HashSet.not_mem_empty
    intro reached
    induction reached with
    | start => exact holds start (.inr List.mem_cons_self)
    | step before member ih => exact closed _ ih _ member

end Predictive
