import Mathlib.Logic.Relation
import Predictive.Ledger
import Predictive.Proofs.Eliminated

/-! A name that is given out is new, and has as few primes as it can. All that ever happens to a
supply is that a name is reserved or that one is given out: transformations ask for their names one
at a time like anyone else. So what these two steps keep holds after every sequence of requests, also
when some of them fail. -/

namespace Predictive
open Relation

/-- The base name with as few primes as it takes for it not to be known. -/
def LeastFree (known : List String) (base name : String) : Prop :=
  ∃ primes, name = NameSupply.primed base primes ∧ name ∉ known ∧
    ∀ fewer < primes, NameSupply.primed base fewer ∈ known

namespace NameSupply

variable (supply : NameSupply) (base : String)

theorem leastFree_fresh : LeastFree supply.taken base (supply.fresh base).1 := by
  refine ⟨supply.primesFor base, rfl, supply.fresh_not_mem base, fun fewer below => ?_⟩
  unfold primesFor at below
  cases found : (List.range supply.taken.length).find? fun primes =>
      !supply.taken.contains (primed base primes) with
  | some primes =>
    rw [found] at below
    simpa using (List.find?_range_eq_some.mp found).2.2 fewer below
  | none =>
    rw [found] at below
    simpa using List.find?_range_eq_none.mp found fewer below

variable {supply base}

end NameSupply

theorem Introduction.issued_note (introduction : Introduction) (left fresh : String) :
    (introduction.note left fresh).issued? = some (.issued left fresh) := by
  unfold Introduction.note
  cases introduction.cause <;> rfl

/-! The names that a transformation is given are those of the symbols that it adds. -/

namespace Grammar

theorem introduce_issued (g : Grammar) (supply : NameSupply) (introductions : List Introduction) :
    let done := g.introduce supply introductions
    done.result.declared = g.declared ++ (done.notes.filterMap Note.issued?).map Event.name := by
  induction introductions generalizing g supply with
  | nil => exact (List.append_nil _).symm
  | cons introduction later ih =>
    let left := g.nameOf introduction.parent
    let name := supply.fresh left
    have onward := ih { g with declared := g.declared ++ [name.1] } name.2
    dsimp only [introduce]
    rw [List.filterMap_cons, introduction.issued_note, List.map_cons]
    exact onward.trans (List.append_assoc ..)

theorem factorWith_issued (g : Grammar) (supply : NameSupply) :
    let done := g.factorWith supply
    done.result.declared = g.declared ++ (done.notes.filterMap Note.issued?).map Event.name :=
  g.introduce_issued (supply.reserveGrammar g) _

/-- Once elimination gets through, the supply and the notes are what naming the new symbols left. -/
theorem introduced_of_eliminateLeftRecursion {g h : Grammar} {supply : NameSupply}
    (eliminates : (g.eliminateLeftRecursionWith supply).result = .ok h) :
    let named := g.introduce (supply.reserveGrammar g)
      (LeftRecursion.eliminate g.passLimit [] g.size g.rules).introduced
    (g.eliminateLeftRecursionWith supply).supply = named.supply ∧
      (g.eliminateLeftRecursionWith supply).notes = named.notes := by
  unfold eliminateLeftRecursionWith at eliminates ⊢
  dsimp only at eliminates ⊢
  split at eliminates
  · cases eliminates
  · exact ⟨rfl, rfl⟩

theorem eliminateLeftRecursionWith_issued {g h : Grammar} {supply : NameSupply}
    (eliminates : (g.eliminateLeftRecursionWith supply).result = .ok h) :
    h.declared = g.declared ++
      ((g.eliminateLeftRecursionWith supply).notes.filterMap Note.issued?).map Event.name := by
  obtain ⟨-, same, -⟩ := outcome_of_eliminateLeftRecursion eliminates
  rw [(introduced_of_eliminateLeftRecursion eliminates).2, same]
  exact g.introduce_issued _ _

end Grammar

namespace Ledger

variable {ledger : Ledger}

/-! Requests in single steps -/

/-- The supply knows the names of all events, and each name that was given out was the least that was
free. -/
structure Faithful (ledger : Ledger) : Prop where
  taken : ∀ name, name ∈ ledger.supply.taken ↔ name ∈ ledger.events.map Event.name
  distinct : (ledger.events.filterMap Event.issued?).Nodup
  least : ∀ before base name after, ledger.events = before ++ .issued base name :: after →
    LeastFree (before.map Event.name) base name

/-- The last event, or one before it. -/
theorem split_concat {events before after : List Event} {last event : Event}
    (same : events ++ [last] = before ++ event :: after) :
    (after = [] ∧ event = last ∧ before = events) ∨
      ∃ earlier, events = before ++ event :: earlier := by
  rcases List.eq_nil_or_concat after with rfl | ⟨earlier, final, rfl⟩
  · obtain ⟨rfl, singles⟩ := List.append_inj' same rfl
    exact .inl ⟨rfl, (List.singleton_inj.mp singles).symm, rfl⟩
  · rw [List.concat_eq_append, ← List.cons_append, ← List.append_assoc] at same
    exact .inr ⟨earlier, (List.append_inj' same rfl).1⟩

namespace Faithful

variable (faithful : ledger.Faithful)

include faithful

theorem taken_concat (event : Event) (name : String) :
    name ∈ (ledger.supply.reserve event.name).taken ↔
      name ∈ (ledger.events ++ [event]).map Event.name := by
  rw [NameSupply.mem_reserve, faithful.taken, List.map_append, List.mem_append, List.map_singleton,
    List.mem_singleton, or_comm]

theorem reserve (name : String) : (ledger.reserve name).Faithful where
  taken := faithful.taken_concat (.reserved name)
  distinct := by
    have same : (ledger.reserve name).events.filterMap Event.issued? =
        ledger.events.filterMap Event.issued? := by
      simp [Ledger.reserve, Event.issued?]
    exact same ▸ faithful.distinct
  least before base other after same := by
    rcases split_concat same with ⟨_, absurdity, _⟩ | ⟨earlier, same⟩
    · cases absurdity
    · exact faithful.least before base other earlier same

theorem fresh (base : String) : (ledger.fresh base).Faithful where
  taken := faithful.taken_concat (.issued base (ledger.supply.fresh base).1)
  distinct := by
    have new : (ledger.supply.fresh base).1 ∉ ledger.events.filterMap Event.issued? := by
      intro member
      obtain ⟨event, happened, issued⟩ := List.mem_filterMap.mp member
      have named : event.name = (ledger.supply.fresh base).1 := by
        cases event with
        | reserved => cases issued
        | issued => exact Option.some.inj issued
      apply ledger.supply.fresh_not_mem base
      exact (faithful.taken _).mpr (named ▸ List.mem_map_of_mem happened)
    change (List.filterMap Event.issued? (ledger.events ++ [.issued base _])).Nodup
    rw [List.filterMap_append]
    refine List.nodup_append.mpr ⟨faithful.distinct, by simp [Event.issued?], ?_⟩
    intro old member name last
    exact List.mem_singleton.mp last ▸ ne_of_mem_of_not_mem member new
  least before base' name after same := by
    rcases split_concat same with ⟨_, issued, rfl⟩ | ⟨earlier, same⟩
    · obtain ⟨rfl, rfl⟩ := Event.issued.inj issued
      obtain ⟨primes, named, free, taken⟩ := ledger.supply.leastFree_fresh base'
      exact ⟨primes, named, fun member => free ((faithful.taken _).mpr member),
        fun fewer below => (faithful.taken _).mp (taken fewer below)⟩
    · exact faithful.least before base' name earlier same

end Faithful

end Ledger
end Predictive
