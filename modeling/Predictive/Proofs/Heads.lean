import Mathlib.Data.Set.Semiring
import Predictive.Proofs.Interpretation
import Predictive.Proofs.Lookahead

/-! What forms begin with. The beginning of two forms put together is that of the first one, or if that is
empty, of the second. Sets of beginnings form a Kleene algebra, in which the star adds the empty
beginning and nothing else, as only the first of many counts. -/

namespace Predictive
open Computability

/-- The first symbol of a form, if it has one. -/
def Head : Type := Option Symbol

instance : Monoid Head where
  mul := Option.or
  mul_assoc _ _ _ := Option.or_assoc
  one := none
  one_mul _ := Option.none_or
  mul_one _ := Option.or_none

def Body.head (body : Body) : Head := body.head?

theorem Body.head_append (first second : Body) : Body.head (first ++ second) = first.head * second.head :=
  List.head?_append

namespace Head

variable {a b : SetSemiring Head} {x : Head}

theorem mem_one : x ∈ (1 : SetSemiring Head).down ↔ x = 1 := Iff.rfl

theorem mem_mul : x ∈ (a * b).down ↔ ∃ first ∈ a.down, ∃ second ∈ b.down, first * second = x :=
  Set.mem_mul

/-- The second of two beginnings only counts if the first is empty. -/
theorem mul_self_le (a : SetSemiring Head) : a * a ≤ a := by
  intro x member
  obtain ⟨first, here, second, there, rfl⟩ := mem_mul.mp member
  cases first with
  | none => exact there
  | some => exact here

end Head

noncomputable instance : KleeneAlgebra (SetSemiring Head) where
  kstar a := 1 + a
  one_le_kstar _ := Set.subset_union_left
  mul_kstar_le_kstar a := by
    rw [mul_add, mul_one]
    exact add_le Set.subset_union_right ((Head.mul_self_le a).trans Set.subset_union_right)
  kstar_mul_le_kstar a := by
    rw [add_mul, one_mul]
    exact add_le Set.subset_union_right ((Head.mul_self_le a).trans Set.subset_union_right)
  mul_kstar_le_self a b below := by
    rw [mul_add, mul_one]
    exact add_le (le_refl b) below
  kstar_mul_le_self a b below := by
    rw [add_mul, one_mul]
    exact add_le (le_refl b) below

theorem Head.mem_kstar {a : SetSemiring Head} {x : Head} :
    x ∈ SetSemiring.down a∗ ↔ x = 1 ∨ x ∈ a.down :=
  Iff.rfl

theorem value_nonempty {value : Symbol → SetSemiring Head} {body : Body}
    (inhabited : ∀ s ∈ body, (value s).down.Nonempty) : (Body.value value body).down.Nonempty := by
  induction body with
  | nil => exact ⟨1, rfl⟩
  | cons s rest ih =>
    obtain ⟨here, behind⟩ := List.forall_mem_cons.mp inhabited
    obtain ⟨first, present⟩ := here
    obtain ⟨second, later⟩ := ih behind
    rw [value_cons]
    exact ⟨first * second, Head.mem_mul.mpr ⟨first, present, second, later, rfl⟩⟩

/-- What stands behind the first letter does not matter, as long as it has some beginning. -/
theorem mem_value_cons {value : Symbol → SetSemiring Head} {s t : Symbol} {later rest : Body}
    (here : Body.head (t :: later) ∈ (value s).down) (inhabited : ∀ u ∈ rest, (value u).down.Nonempty) :
    Body.head (t :: later) ∈ (Body.value value (s :: rest)).down := by
  obtain ⟨second, present⟩ := value_nonempty inhabited
  rw [value_cons]
  exact Head.mem_mul.mpr ⟨_, here, second, present, rfl⟩

namespace Grammar
open Relation

variable {g : Grammar} {s t : Symbol} {form last : Body} {x : Head}

/-- What the forms derived from a symbol begin with. -/
def heads (g : Grammar) (s : Symbol) : SetSemiring Head :=
  Set.up {x | ∃ form, g.Derives [s] form ∧ form.head = x}

theorem mem_value_heads :
    x ∈ (Body.value g.heads form).down ↔ ∃ last, g.Derives form last ∧ last.head = x := by
  induction form generalizing x with
  | nil =>
    rw [value_nil, Head.mem_one]
    constructor
    · rintro rfl
      exact ⟨[], .refl, rfl⟩
    · rintro ⟨last, derives, rfl⟩
      rw [IsWord.eq_of_derives (by simp [IsWord]) derives]
      rfl
  | cons s rest ih =>
    rw [value_cons, Head.mem_mul]
    constructor
    · rintro ⟨_, ⟨left, here, rfl⟩, second, member, rfl⟩
      obtain ⟨right, there, rfl⟩ := ih.mp member
      exact ⟨left ++ right, here.append there, Body.head_append left right⟩
    · rintro ⟨last, derives, rfl⟩
      obtain ⟨left, right, rfl, here, there⟩ := derives.split_cons
      exact ⟨left.head, ⟨left, here, rfl⟩, right.head, ih.mpr ⟨right, there, rfl⟩,
        (Body.head_append left right).symm⟩

theorem self_mem_heads (s : Symbol) : Body.head [s] ∈ (g.heads s).down := ⟨[s], .refl, rfl⟩

theorem one_mem_heads : 1 ∈ (g.heads s).down ↔ g.BodyVanishes [s] := by
  rw [bodyVanishes_iff_derives]
  constructor
  · rintro ⟨form, derives, empty⟩
    exact List.head?_eq_none_iff.mp empty ▸ derives
  · exact fun derives => ⟨[], derives, rfl⟩

theorem head_mem_heads {rest : Body} : Body.head (t :: rest) ∈ (g.heads s).down ↔ g.BodyBegins t [s] := by
  rw [bodyBegins_iff_derives]
  constructor
  · rintro ⟨form, derives, begins⟩
    obtain ⟨later, rfl⟩ := List.head?_eq_some_iff.mp begins
    exact ⟨later, derives⟩
  · rintro ⟨later, derives⟩
    exact ⟨t :: later, derives, rfl⟩

theorem sound_heads {rule : Rule} (listed : rule ∈ g.rules) : rule.Sound g.heads := by
  refine sound_iff.mpr fun body chosen x inside => ?_
  obtain ⟨last, derives, same⟩ := mem_value_heads.mp inside
  exact ⟨last, (produces_of_listed rule listed body chosen).derives.trans derives, same⟩

/-! Letters only -/

/-- No derivation changes the beginning any more. -/
def Settled (g : Grammar) (x : Head) : Prop := ∀ s, x = some s → s ∉ g.nonterminals

theorem settled_one : g.Settled 1 := fun _ same => nomatch same

theorem settled_cons {rest : Body} : g.Settled (Body.head (s :: rest)) ↔ s ∉ g.nonterminals :=
  ⟨fun settled => settled s rfl, fun letter _ same => Option.some.inj same ▸ letter⟩

/-- The letters that a symbol can begin with, and the empty beginning if it can vanish. -/
def firsts (g : Grammar) (s : Symbol) : SetSemiring Head :=
  Set.up {x | g.Settled x ∧ x ∈ (g.heads s).down}

theorem firsts_le_heads (s : Symbol) : g.firsts s ≤ g.heads s := fun _ member => member.2

theorem settled_of_mem_value (member : x ∈ (Body.value g.firsts form).down) : g.Settled x := by
  induction form generalizing x with
  | nil => exact Head.mem_one.mp member ▸ settled_one
  | cons s rest ih =>
    rw [value_cons] at member
    obtain ⟨first, here, second, there, rfl⟩ := Head.mem_mul.mp member
    cases first with
    | none => exact ih there
    | some t => exact here.1

theorem sound_firsts {rule : Rule} (listed : rule ∈ g.rules) : rule.Sound g.firsts := by
  refine sound_iff.mpr fun body chosen x inside => ?_
  have below := value_mono firsts_le_heads body inside
  exact ⟨settled_of_mem_value inside, sound_iff.mp (sound_heads listed) body chosen below⟩

/-- What a nonterminal that repeats the tails begins with, a tail begins with. -/
theorem Begins.of_repetition (valid : g.WellFormed) {next letter : Symbol} {tails : List Body}
    (listed : ⟨next, tails.map (· ++ [next]) ++ [[]]⟩ ∈ g.rules) (begins : g.Begins letter next)
    (other : next ≠ letter) : ∃ tail ∈ tails, g.BodyBegins letter tail := by
  generalize same : next = s at begins
  induction begins with
  | self => exact absurd same other
  | @intro s before t after produces vanish begins ih =>
    subst same
    have own : g.bodiesOf next = tails.map (· ++ [next]) ++ [[]] := valid.bodiesOf_eq listed
    have chosen : before ++ t :: after ∈ tails.map (· ++ [next]) ++ [[]] := own ▸ produces
    rcases List.mem_append.mp chosen with repeated | ended
    · obtain ⟨tail, inside, place⟩ := List.mem_map.mp repeated
      rcases List.eq_nil_or_concat after with rfl | ⟨middle, last, rfl⟩
      · exact ih (List.singleton_inj.mp (List.append_inj' place rfl).2)
      · have front : tail ++ [next] = (before ++ t :: middle) ++ [last] := by simpa using place
        obtain ⟨rfl, _⟩ := List.append_inj' front rfl
        exact ⟨_, inside, before, t, middle, rfl, vanish, begins⟩
    · simp at ended

section Inhabited

variable (inhabited : ∀ s, (g.firsts s).down.Nonempty)

include inhabited

theorem head_mem_value_firsts (settled : g.Settled last.head) (derives : g.Derives form last) :
    last.head ∈ (Body.value g.firsts form).down := by
  induction form generalizing last with
  | nil =>
    rw [IsWord.eq_of_derives (by simp [IsWord]) derives]
    exact rfl
  | cons s rest ih =>
    obtain ⟨left, right, rfl, here, there⟩ := derives.split_cons
    cases left with
    | nil =>
      rw [value_cons]
      exact Head.mem_mul.mpr ⟨1, ⟨settled_one, [], here, rfl⟩, right.head, ih settled there, rfl⟩
    | cons t later => exact mem_value_cons ⟨settled, t :: later, here, rfl⟩ fun u _ => inhabited u

theorem complete_firsts (valid : g.WellFormed) {rule : Rule} (listed : rule ∈ g.rules) :
    rule.Complete g.firsts := by
  rintro x ⟨settled, last, derives, rfl⟩
  rcases derives.of_singleton with rfl | ⟨body, produces, later⟩
  · exact absurd (List.mem_map_of_mem listed) (settled_cons.mp settled)
  · rw [Produces, valid.bodiesOf_eq listed] at produces
    have below : Body.value g.firsts body ≤ total g.firsts rule.bodies := value_le_total produces
    exact below (head_mem_value_firsts inhabited settled later)

theorem firsts_le_kstar (valid : g.WellFormed) {next : Symbol} {tails : List Body}
    (listed : ⟨next, tails.map (· ++ [next]) ++ [[]]⟩ ∈ g.rules) :
    g.firsts next ≤ (total g.firsts tails)∗ := by
  rintro x ⟨settled, last, derives, rfl⟩
  cases last with
  | nil => exact Head.mem_kstar.mpr (.inl rfl)
  | cons letter rest =>
    refine Head.mem_kstar.mpr (.inr ?_)
    have other : next ≠ letter := fun same =>
      settled_cons.mp settled (same ▸ List.mem_map_of_mem listed)
    have begins : g.Begins letter next := by
      rcases bodyBegins_cons.mp (head_mem_heads.mp ⟨_, derives, rfl⟩) with
        begins | ⟨_, _, _, _, absurdity, _⟩
      · exact begins
      · simp at absurdity
    obtain ⟨tail, inside, here⟩ := begins.of_repetition valid listed other
    obtain ⟨later, derives'⟩ := bodyBegins_iff_derives.mp here
    have below : Body.value g.firsts tail ≤ total g.firsts tails := value_le_total inside
    have member : Body.head (letter :: later) ∈ (Body.value g.firsts tail).down :=
      head_mem_value_firsts inhabited settled derives'
    exact below member

end Inhabited
end Grammar
end Predictive
