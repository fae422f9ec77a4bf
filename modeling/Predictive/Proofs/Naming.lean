import Mathlib.Data.List.Nodup
import Mathlib.Data.List.Perm.Subperm
import Predictive.Proofs.WellFormed
import Predictive.Transformation

/-! New names are new. A supply that knows the names of a grammar keeps all names apart
while symbols are introduced, and the symbols that were there keep number and name. -/

namespace Predictive

namespace NameSupply

theorem mem_reserve {supply : NameSupply} {name other : String} :
    other ∈ (supply.reserve name).taken ↔ other = name ∨ other ∈ supply.taken :=
  List.mem_insert_iff

theorem mem_reserveAll {supply : NameSupply} {names : List String} {name : String} :
    name ∈ (supply.reserveAll names).taken ↔ name ∈ names ∨ name ∈ supply.taken := by
  induction names generalizing supply with
  | nil => simp [reserveAll]
  | cons first later ih =>
    have step : name ∈ ((supply.reserve first).reserveAll later).taken ↔ _ := ih
    rw [reserveAll, List.foldl_cons, ← reserveAll, step, mem_reserve, List.mem_cons]
    simp only [or_left_comm, or_assoc]

theorem primed_injective (base : String) : Function.Injective (primed base) := by
  intro first second same
  have lengths := congrArg String.length same
  simpa [primed] using lengths

/-- One more primed name than there are taken names cannot all be taken. -/
theorem exists_primed_not_mem (supply : NameSupply) (base : String) :
    ∃ primes ∈ List.range (supply.taken.length + 1), primed base primes ∉ supply.taken := by
  by_contra all
  have taken : ∀ primes ∈ List.range (supply.taken.length + 1),
      primed base primes ∈ supply.taken := by simpa using all
  have distinct : ((List.range (supply.taken.length + 1)).map (primed base)).Nodup :=
    List.nodup_range.map (primed_injective base)
  have short := (distinct.subperm fun name member => by
    obtain ⟨primes, inside, rfl⟩ := List.mem_map.mp member
    exact taken primes inside).length_le
  rw [List.length_map, List.length_range] at short
  omega

theorem fresh_not_mem (supply : NameSupply) (base : String) :
    (supply.fresh base).1 ∉ supply.taken := by
  change primed base (supply.primesFor base) ∉ supply.taken
  unfold primesFor
  cases found : (List.range supply.taken.length).find? fun primes =>
      !supply.taken.contains (primed base primes) with
  | some primes => simpa using List.find?_some found
  | none =>
    obtain ⟨primes, inside, free⟩ := supply.exists_primed_not_mem base
    have taken := List.find?_eq_none.mp found primes
    have last : primes = supply.taken.length := by
      by_contra other
      have earlier : primes < supply.taken.length := by
        have := List.mem_range.mp inside
        omega
      exact taken (List.mem_range.mpr earlier) (by simpa using free)
    simpa [last] using free

end NameSupply

namespace Grammar

variable (g : Grammar) (supply : NameSupply) (introductions : List Introduction)

theorem introduce_rules :
    (g.introduce supply introductions).result.rules = g.rules ∧
      (g.introduce supply introductions).result.start = g.start := by
  induction introductions generalizing g supply with
  | nil => exact ⟨rfl, rfl⟩
  | cons introduction later ih =>
    let name := supply.fresh (g.nameOf introduction.parent)
    exact ih { g with declared := g.declared ++ [name.1] } name.2

theorem introduce_declared :
    ∃ fresh, fresh.length = introductions.length ∧
      (g.introduce supply introductions).result.declared = g.declared ++ fresh := by
  induction introductions generalizing g supply with
  | nil => exact ⟨[], rfl, (List.append_nil _).symm⟩
  | cons introduction later ih =>
    let name := supply.fresh (g.nameOf introduction.parent)
    obtain ⟨fresh, length, declared⟩ := ih { g with declared := g.declared ++ [name.1] } name.2
    exact ⟨name.1 :: fresh, by simp [length], declared.trans (by simp)⟩

variable {g} in
/-- A supply in which the names of the grammar are reserved knows them. -/
theorem known_reserveGrammar : ∀ name ∈ g.knownNames, name ∈ (supply.reserveGrammar g).taken :=
  fun _ known => NameSupply.mem_reserveAll.mpr (.inl known)

/-- The names stay apart if the supply knows all of them. -/
theorem introduce_knownNames (known : ∀ name ∈ g.knownNames, name ∈ supply.taken)
    (distinct : g.knownNames.Nodup) :
    (g.introduce supply introductions).result.knownNames.Nodup := by
  induction introductions generalizing g supply with
  | nil => exact distinct
  | cons introduction later ih =>
    let name := supply.fresh (g.nameOf introduction.parent)
    have extended : ({ g with declared := g.declared ++ [name.1] } : Grammar).knownNames =
        g.knownNames ++ [name.1] := (List.append_assoc ..).symm
    refine ih { g with declared := g.declared ++ [name.1] } name.2 ?_ ?_
    · intro other member
      rw [extended, List.mem_append, List.mem_singleton] at member
      exact NameSupply.mem_reserve.mpr (member.symm.imp_right (known other))
    · rw [extended]
      refine List.nodup_append.mpr ⟨distinct, by simp, fun other member last same => ?_⟩
      intro equal
      obtain rfl := List.mem_singleton.mp same
      exact supply.fresh_not_mem _ (equal ▸ known other member)

theorem nameOf_introduce {s : Symbol} (declared : s < g.size) :
    (g.introduce supply introductions).result.nameOf s = g.nameOf s := by
  obtain ⟨fresh, _, extended⟩ := g.introduce_declared supply introductions
  match s, declared with
  | 0, _ => rfl
  | 1, _ => rfl
  | s + 2, declared =>
    have bound : s < g.declared.length := Nat.lt_of_add_lt_add_right declared
    simp only [nameOf, extended, List.getD_eq_getElem?_getD, List.getElem?_append_left bound]

/-- The rules play no part in naming. -/
theorem introduce_with (rules : List Rule) :
    ({ g with rules } : Grammar).introduce supply introductions =
      ⟨{ (g.introduce supply introductions).result with rules },
        (g.introduce supply introductions).supply, (g.introduce supply introductions).notes⟩ := by
  induction introductions generalizing g supply with
  | nil => rfl
  | cons introduction later ih =>
    let name := supply.fresh (g.nameOf introduction.parent)
    exact congrArg (fun rest : Transformed Grammar =>
      { rest with notes := introduction.note (g.nameOf introduction.parent) name.1 :: rest.notes })
      (ih { g with declared := g.declared ++ [name.1] } name.2)

theorem introduce_append (later : List Introduction) :
    let first := g.introduce supply introductions
    let second := first.result.introduce first.supply later
    g.introduce supply (introductions ++ later) =
      ⟨second.result, second.supply, first.notes ++ second.notes⟩ := by
  induction introductions generalizing g supply with
  | nil => rfl
  | cons introduction others ih =>
    let name := supply.fresh (g.nameOf introduction.parent)
    exact congrArg (fun rest : Transformed Grammar =>
      { rest with notes := introduction.note (g.nameOf introduction.parent) name.1 :: rest.notes })
      (ih { g with declared := g.declared ++ [name.1] } name.2)

/-- `h` is `g` with `count` more symbols; its rules may be others. -/
structure Extends (g h : Grammar) (count : Nat) : Prop where
  size : h.size = g.size + count
  start : h.start = g.start
  nameOf : ∀ s < g.size, h.nameOf s = g.nameOf s
  names : g.knownNames.Nodup → h.knownNames.Nodup

theorem extends_introduce (rules : List Rule) :
    g.Extends { (g.introduce (supply.reserveGrammar g) introductions).result with rules }
      introductions.length := by
  obtain ⟨fresh, length, declared⟩ := g.introduce_declared (supply.reserveGrammar g) introductions
  refine ⟨?_, (g.introduce_rules _ _).2, fun s declared => g.nameOf_introduce _ _ declared, ?_⟩
  · simp only [size, declared, List.length_append, length]
    omega
  · exact g.introduce_knownNames _ _ (known_reserveGrammar supply)

variable {g} in
/-- More symbols and other rules keep a grammar well formed as long as the rules are. -/
theorem WellFormed.of_extends {h : Grammar} {count : Nat} (valid : g.WellFormed) (extension : g.Extends h count)
    (lefts : h.nonterminals.Nodup) (rules : ∀ rule ∈ h.rules, rule.Within (g.size + count))
    (kept : ∀ s ∈ g.nonterminals, s ∈ h.nonterminals) : h.WellFormed where
  names := extension.names valid.names
  lefts := lefts
  rules := extension.size ▸ rules
  start := fun s starts => kept s (valid.start s (extension.start ▸ starts))

end Grammar
end Predictive
