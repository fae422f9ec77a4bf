import Mathlib.Data.List.Forall2
import Predictive.Proofs.Issuing
import Predictive.Proofs.Stored

/-! What comes of introductions. A new symbol is named after the one that it is split from, with primes
added. Which names come out depends on the names that are taken and on nothing else in the supply, and
where those are the names of the grammar, they still are when all symbols have been introduced. -/

namespace Predictive

/-- The base name with primes added. -/
def NamedAfter (base name : String) : Prop :=
  ∃ primes, 0 < primes ∧ name = NameSupply.primed base primes

theorem NameSupply.primed_primed (base : String) (first second : Nat) :
    primed (primed base first) second = primed base (first + second) := by
  apply String.toList_injective
  simp [primed]

theorem NamedAfter.trans {base middle name : String} (first : NamedAfter base middle)
    (second : NamedAfter middle name) : NamedAfter base name := by
  obtain ⟨few, positive, rfl⟩ := first
  obtain ⟨more, _, rfl⟩ := second
  exact ⟨few + more, Nat.add_pos_left positive more, NameSupply.primed_primed base few more⟩

theorem NamedAfter.ne_empty {base name : String} (named : NamedAfter base name) : name ≠ "" := by
  obtain ⟨primes, positive, rfl⟩ := named
  intro empty
  have length := congrArg String.length empty
  simp only [NameSupply.primed, String.length_append, String.length_ofList, List.length_replicate,
    String.length_empty] at length
  omega

namespace LeastFree

variable {known known' : List String} {base name name' : String}

/-- Where the base name is known, it takes a prime at least. -/
theorem namedAfter (least : LeastFree known base name) (taken : base ∈ known) : NamedAfter base name := by
  obtain ⟨primes, rfl, free, _⟩ := least
  refine ⟨primes, Nat.pos_of_ne_zero fun none => free ?_, rfl⟩
  rw [none]
  simpa [NameSupply.primed] using taken

theorem unique (first : LeastFree known base name) (second : LeastFree known' base name')
    (same : ∀ other, other ∈ known ↔ other ∈ known') : name = name' := by
  obtain ⟨primes, rfl, free, fewer⟩ := first
  obtain ⟨primes', rfl, free', fewer'⟩ := second
  have below : ¬ primes < primes' := fun less => free ((same _).mpr (fewer' primes less))
  have above : ¬ primes' < primes := fun less => free' ((same _).mp (fewer primes' less))
  rw [Nat.le_antisymm (Nat.le_of_not_lt above) (Nat.le_of_not_lt below)]

end LeastFree

/-- The same names are taken in both. -/
def NameSupply.Alike (supply supply' : NameSupply) : Prop :=
  ∀ name, name ∈ supply.taken ↔ name ∈ supply'.taken

theorem NameSupply.Alike.fresh {supply supply' : NameSupply} (alike : supply.Alike supply') (base : String) :
    (supply.fresh base).1 = (supply'.fresh base).1 ∧ (supply.fresh base).2.Alike (supply'.fresh base).2 := by
  have same := (supply.leastFree_fresh base).unique (supply'.leastFree_fresh base) alike
  refine ⟨same, fun name => ?_⟩
  calc name ∈ (supply.fresh base).2.taken
      ↔ name = (supply.fresh base).1 ∨ name ∈ supply.taken := mem_reserve
    _ ↔ name = (supply'.fresh base).1 ∨ name ∈ supply'.taken := by rw [same, alike name]
    _ ↔ name ∈ (supply'.fresh base).2.taken := mem_reserve.symm

/-- The taken names are those of the grammar. -/
def NameSupply.Exact (supply : NameSupply) (g : Grammar) : Prop :=
  ∀ name, name ∈ supply.taken ↔ name ∈ g.knownNames

/-- Each symbol is split from one that is there by then. -/
def Sprung (size : Nat) : List Introduction → Prop
  | [] => True
  | introduction :: later => introduction.parent < size ∧ Sprung (size + 1) later

theorem sprung_append {size : Nat} {first second : List Introduction} :
    Sprung size (first ++ second) ↔ Sprung size first ∧ Sprung (size + first.length) second := by
  induction first generalizing size with
  | nil => simp [Sprung]
  | cons introduction later ih =>
    rw [List.cons_append, Sprung, Sprung, ih, and_assoc, List.length_cons, Nat.add_right_comm, Nat.add_assoc]

theorem sprung_of_lt {size : Nat} {introductions : List Introduction}
    (old : ∀ introduction ∈ introductions, introduction.parent < size) : Sprung size introductions := by
  induction introductions generalizing size with
  | nil => trivial
  | cons introduction later ih =>
    obtain ⟨first, others⟩ := List.forall_mem_cons.mp old
    exact ⟨first, ih fun other member => Nat.lt_succ_of_lt (others other member)⟩

namespace Grammar

variable {g : Grammar} {supply : NameSupply} {introductions : List Introduction}

theorem nameOf_mem_knownNames {s : Symbol} (below : s < g.size) : g.nameOf s ∈ g.knownNames := by
  match s, below with
  | 0, _ => exact List.mem_append_left _ (show Symbol.emptyName ∈ Symbol.reservedNames by decide)
  | 1, _ => exact List.mem_append_left _ (show Symbol.endMarkName ∈ Symbol.reservedNames by decide)
  | s + 2, below =>
    have bound : s < g.declared.length := Nat.lt_of_add_lt_add_right below
    have named : g.nameOf (s + 2) = g.declared[s] := by simp [nameOf, bound]
    rw [named]
    exact List.mem_append_right _ (List.getElem_mem bound)

/-- A name given out for a symbol is the name of that symbol with primes added. -/
theorem namedAfter_fresh (known : ∀ name ∈ g.knownNames, name ∈ supply.taken) {s : Symbol}
    (below : s < g.size) : NamedAfter (g.nameOf s) (supply.fresh (g.nameOf s)).1 :=
  (supply.leastFree_fresh (g.nameOf s)).namedAfter (known _ (nameOf_mem_knownNames below))

theorem nameOf_grown {name : String} {rules : List Rule} : (g.grown name rules).nameOf g.size = name := by
  simp [grown, nameOf, size]

/-- The new symbols in order, each named after the one that it is split from. -/
theorem introduce_named (known : ∀ name ∈ g.knownNames, name ∈ supply.taken)
    (sprung : Sprung g.size introductions) :
    let h := (g.introduce supply introductions).result
    List.Forall₂ (fun s introduction => NamedAfter (h.nameOf introduction.parent) (h.nameOf s))
      (List.range' g.size introductions.length) introductions := by
  induction introductions generalizing g supply with
  | nil => exact .nil
  | cons introduction later ih =>
    obtain ⟨declared, sprung⟩ := sprung
    let fresh := supply.fresh (g.nameOf introduction.parent)
    let grown := g.grown fresh.1 g.rules
    have size : grown.size = g.size + 1 := size_grown
    have rest := ih (g := grown) (known_grown known) (size.symm ▸ sprung)
    have own : (grown.introduce fresh.2 later).result.nameOf g.size = fresh.1 := by
      rw [grown.nameOf_introduce _ _ (size ▸ Nat.lt_succ_self _), nameOf_grown]
    have base : (grown.introduce fresh.2 later).result.nameOf introduction.parent =
        g.nameOf introduction.parent := g.nameOf_introduce supply (introduction :: later) declared
    rw [size] at rest
    refine .cons ?_ rest
    change NamedAfter ((grown.introduce fresh.2 later).result.nameOf introduction.parent)
      ((grown.introduce fresh.2 later).result.nameOf g.size)
    rw [own, base]
    exact namedAfter_fresh known declared

/-- Supplies in which the same names are taken give the same names. -/
theorem introduce_alike {supply' : NameSupply} (alike : supply.Alike supply') :
    (g.introduce supply introductions).result = (g.introduce supply' introductions).result := by
  induction introductions generalizing g supply supply' with
  | nil => rfl
  | cons introduction later ih =>
    obtain ⟨same, onward⟩ := alike.fresh (g.nameOf introduction.parent)
    have rest := ih (g := g.grown (supply.fresh (g.nameOf introduction.parent)).1 g.rules) onward
    dsimp only [introduce]
    rw [← same]
    exact rest

/-- What the supply is left with is exact for the grammar with the new symbols. -/
theorem exact_introduce (exact : supply.Exact g) :
    (g.introduce supply introductions).supply.Exact (g.introduce supply introductions).result := by
  induction introductions generalizing g supply with
  | nil => exact exact
  | cons introduction later ih =>
    refine ih (g := g.grown (supply.fresh (g.nameOf introduction.parent)).1 g.rules) fun other => ?_
    rw [knownNames_grown, List.mem_append, List.mem_singleton, ← exact other, or_comm]
    exact NameSupply.mem_reserve

end Grammar
end Predictive
