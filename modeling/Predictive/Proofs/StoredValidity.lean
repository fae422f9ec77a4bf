import Predictive.Proofs.Reached
import Predictive.Proofs.StoredBuilding
import Predictive.Proofs.StoredElimination
import Predictive.Proofs.StoredFactoring
import Predictive.Registry.Obtained

/-! Every registry that can come about stores a grammar that can come about, and the other way
round. What a registry must satisfy at all times therefore follows from the grammar that it
stores being well formed. -/

namespace Predictive

namespace Grammar

variable {g : Grammar}

/-- A grammar has a start symbol as soon as it has a nonterminal. -/
def Started (g : Grammar) : Prop := g.start = none ↔ g.nonterminals = []

theorem started_build {allowed : String → Bool} {entries : List Entry}
    (built : build allowed entries = .ok g) : g.Started := by
  obtain ⟨rfl, _, _⟩ := assemble_of_build built
  have first : ∀ rules : List Rule, rules.head?.map Rule.left = none ↔ rules.map Rule.left = [] := by
    intro rules
    cases rules <;> simp
  exact first _

/-- Rules come from rules only. -/
theorem Started.of_rules {h : Grammar} (started : g.Started) (same : h.start = g.start)
    (kept : ∀ s ∈ g.nonterminals, s ∈ h.nonterminals) (none : g.rules = [] → h.rules = []) :
    h.Started := by
  have lefts : h.nonterminals = [] ↔ g.nonterminals = [] := by
    constructor
    · intro missing
      exact List.eq_nil_iff_forall_not_mem.mpr fun s member =>
        List.not_mem_nil (missing ▸ kept s member)
    · intro missing
      rw [nonterminals, none (List.map_eq_nil_iff.mp missing), List.map_nil]
  rw [Started, same, lefts]
  exact started

theorem Reachable.started (reachable : Reachable g) : g.Started := by
  induction reachable with
  | empty => exact ⟨fun _ => rfl, fun _ => rfl⟩
  | entries built => exact started_build built
  | entriesOver built => exact started_build built
  | start _ moved _ =>
    obtain ⟨s, member, rfl⟩ := exists_of_withStart moved
    exact ⟨nofun, fun missing => absurd (missing ▸ member : s ∈ []) List.not_mem_nil⟩
  | eliminated _ transformed ih =>
    obtain ⟨introduced, eliminates, extension, _⟩ := eliminates_of_eliminateLeftRecursion transformed
    refine ih.of_rules extension.start (fun s member => (eliminates.lefts s).mpr (.inl member)) ?_
    intro none
    rw [none] at eliminates
    generalize Grammar.rules _ = rules at eliminates ⊢
    cases eliminates
    rfl
  | @factored g supply _ ih =>
    obtain ⟨splits, done, extension⟩ := factorWith_result (g := g) supply
    refine ih.of_rules extension.start (fun s member => (done.lefts s).mpr (.inl member)) ?_
    intro none
    rw [none] at done
    generalize Grammar.rules _ = rules at done ⊢
    cases done
    rfl

end Grammar

namespace Registry
open Grammar

variable {g : Grammar}

theorem item_eq_emptyWord {s : Symbol} : g.item s = .emptyWord ↔ s = Symbol.empty := by
  unfold item
  split
  next same => simp [same]
  next other =>
    refine iff_of_false ?_ other
    split
    · simp
    · split <;> simp

theorem item_eq_endMark {s : Symbol} : g.item s = .endMark ↔ s = Symbol.endMark := by
  unfold item
  split
  next same => simp [same, Symbol.empty, Symbol.endMark]
  next =>
    split
    next same => simp [same]
    next other =>
      refine iff_of_false ?_ other
      split <;> simp

theorem symbol_of_item {s symbol : Symbol} {name : String} {bodies : List (List Symbol)}
    (stored : g.item s = .nonterminal symbol name bodies) : symbol = s := by
  unfold item at stored
  split at stored
  · cases stored
  · split at stored
    · cases stored
    · split at stored
      · cases stored
        rfl
      · cases stored

theorem items_eq_some {s : Symbol} {item : Item} :
    g.registry.items[s]? = some item ↔ s < g.size ∧ g.item s = item := by
  rw [getElem?_items]
  split <;> simp [*]

theorem mem_names {name : String} {s : Symbol} : (name, s) ∈ g.registry.names ↔
    name ∈ Symbol.emptyNames ∧ s = Symbol.empty ∨ name = Symbol.endMarkName ∧ s = Symbol.endMark ∨
      2 ≤ s ∧ ∃ item, g.registry.items[s]? = some item ∧ item.name = name := by
  have declared : (name, s) ∈ g.declared.zipIdx 2 ↔
      2 ≤ s ∧ ∃ item, g.registry.items[s]? = some item ∧ item.name = name := by
    rw [List.mem_zipIdx_iff_le_and_getElem?_sub]
    refine and_congr_right fun low => ?_
    obtain ⟨index, rfl⟩ := Nat.exists_eq_add_of_le' low
    have below : index + 2 < g.size ↔ index < g.declared.length := Nat.add_lt_add_iff_right
    have named : g.nameOf (index + 2) = g.declared.getD index "" := rfl
    simp only [items_eq_some, and_assoc, exists_and_left, exists_eq_left', item_name, below, named,
      Nat.add_sub_cancel]
    constructor
    · intro found
      exact ⟨(List.getElem?_eq_some_iff.mp found).1, by simp [List.getD, found]⟩
    · rintro ⟨bound, rfl⟩
      simp [List.getD, bound]
  have empties : (name, s) ∈ Symbol.emptyNames.map (·, Symbol.empty) ↔
      name ∈ Symbol.emptyNames ∧ s = Symbol.empty := by
    simp [and_comm, eq_comm]
  have mark : (name, s) ∈ [(Symbol.endMarkName, Symbol.endMark)] ↔
      name = Symbol.endMarkName ∧ s = Symbol.endMark := by
    simp
  have names : g.registry.names = reserved ++ g.declared.zipIdx 2 := rfl
  rw [names, reserved, List.mem_append, List.mem_append, declared, empties, mark, or_assoc]

theorem isNonterminal_of_bodiesOf {r : Registry} {s : Symbol} {body : List Symbol}
    (chosen : body ∈ r.bodiesOf s) : r.isNonterminal s = true := by
  unfold bodiesOf at chosen
  unfold isNonterminal
  cases stored : r.items[s]? with
  | none => simp [stored] at chosen
  | some item =>
    cases item with
    | nonterminal => rfl
    | _ => simp [stored, Item.bodies] at chosen

theorem stored_bodies (valid : g.WellFormed) (s : Symbol) :
    g.registry.bodiesOf s = (g.bodiesOf s).map shown := by
  by_cases nonterminal : s ∈ g.nonterminals
  · obtain ⟨rule, listed, rfl⟩ := List.mem_map.mp nonterminal
    rw [valid.numbered.bodiesOf_registry listed, valid.bodiesOf_eq listed]
  · have none : g.registry.bodiesOf s = [] := by
      refine List.eq_nil_iff_forall_not_mem.mpr fun body chosen => nonterminal ?_
      have stored := isNonterminal_of_bodiesOf chosen
      rwa [valid.numbered.isNonterminal_registry, isNonterminal_iff] at stored
    have without : g.bodiesOf s = [] :=
      List.eq_nil_iff_forall_not_mem.mpr fun body chosen => nonterminal (Produces.nonterminal chosen)
    rw [none, without]
    rfl

/-- A body is stored as the empty word alone or without it. -/
theorem shown_spelled {size : Nat} {body : Body} (stored : 0 < size)
    (bounds : ∀ s ∈ body, 0 < s ∧ s < size) :
    shown body ≠ [] ∧ (∀ t ∈ shown body, t < size) ∧
      (shown body = [Symbol.empty] ∨ Symbol.empty ∉ shown body) := by
  cases body with
  | nil => exact ⟨nofun, List.forall_mem_singleton.mpr stored, .inl rfl⟩
  | cons s rest =>
    exact ⟨nofun, fun t member => (bounds t member).2,
      .inr fun member => Nat.lt_irrefl 0 (bounds 0 member).1⟩

/-- What a well-formed grammar is stored as is a valid registry. -/
theorem valid_registry (valid : g.WellFormed) (started : g.Started) : g.registry.Valid where
  emptyWord := by
    intro s
    rw [items_eq_some, item_eq_emptyWord]
    exact and_iff_right_of_imp fun same => same ▸ Nat.succ_pos _
  endMark := by
    intro s
    rw [items_eq_some, item_eq_endMark]
    exact and_iff_right_of_imp fun same => same ▸ Nat.le_add_left _ _
  names := fun _ _ => mem_names
  keys := by
    rw [registry_keys]
    exact valid.names
  order := valid.lefts
  listed := by
    intro s
    rw [valid.numbered.isNonterminal_registry]
    exact isNonterminal_iff.symm
  own := by
    intro s symbol name bodies stored
    exact symbol_of_item (items_eq_some.mp stored).2
  filled := by
    intro s member
    obtain ⟨rule, listed, rfl⟩ := List.mem_map.mp member
    rw [valid.numbered.bodiesOf_registry listed, ne_eq, List.map_eq_nil_iff]
    exact (valid.rules rule listed).bodies
  bodies := by
    intro s body chosen
    rw [stored_bodies valid] at chosen
    obtain ⟨old, produced, rfl⟩ := List.mem_map.mp chosen
    obtain ⟨rule, listed, _, inside⟩ := produces_iff.mp produced
    have length : g.registry.items.length = g.size := next_registry
    rw [length]
    exact shown_spelled (Nat.succ_pos _) ((valid.rules rule listed).symbols old inside)
  start := valid.start
  startless := started

theorem Obtained.exists_reachable {r : Registry} (obtained : r.Obtained) :
    ∃ g, Grammar.Reachable g ∧ g.registry = r := by
  have build : ∀ {result : Except GrammarError Grammar} {r : Registry},
      result.map Grammar.registry = .ok r → ∃ g, result = .ok g ∧ g.registry = r := by
    intro result r done
    cases result with
    | error _ => cases done
    | ok g => exact ⟨g, rfl, Except.ok.inj done⟩
  induction obtained with
  | initial => exact ⟨.empty, .empty, rfl⟩
  | text built =>
    obtain ⟨g, done, same⟩ := build ((ofEntries_registry _).symm.trans built)
    exact ⟨g, .entries done, same⟩
  | entries built =>
    obtain ⟨g, done, same⟩ := build ((ofEntries_registry _).symm.trans built)
    exact ⟨g, .entries done, same⟩
  | entriesOver built =>
    obtain ⟨g, done, same⟩ := build ((ofEntriesOver_registry _ _).symm.trans built)
    exact ⟨g, .entriesOver done, same⟩
  | start _ moved ih =>
    obtain ⟨g, reachable, rfl⟩ := ih
    obtain ⟨h, done, same⟩ := build ((withStart_registry reachable.wellFormed.numbered _).symm.trans moved)
    exact ⟨h, .start reachable done, same⟩
  | eliminated _ transformed ih =>
    obtain ⟨g, reachable, rfl⟩ := ih
    rw [eliminateLeftRecursionWith_registry reachable.wellFormed] at transformed
    obtain ⟨h, done, same⟩ := build transformed
    exact ⟨h, .eliminated reachable done, same⟩
  | factored supply _ ih =>
    obtain ⟨g, reachable, rfl⟩ := ih
    rw [factorWith_registry reachable.wellFormed]
    exact ⟨_, .factored supply reachable, rfl⟩

theorem obtained_registry (reachable : Grammar.Reachable g) : g.registry.Obtained := by
  induction reachable with
  | empty => exact .initial
  | entries built => exact .entries ((ofEntries_registry _).trans (congrArg _ built))
  | entriesOver built => exact .entriesOver ((ofEntriesOver_registry _ _).trans (congrArg _ built))
  | start before moved ih =>
    exact .start ih ((withStart_registry before.wellFormed.numbered _).trans (congrArg _ moved))
  | @eliminated g supply h before transformed ih =>
    have done : (g.registry.eliminateLeftRecursionWith supply).1 = .ok h.registry := by
      rw [eliminateLeftRecursionWith_registry before.wellFormed, transformed]
      rfl
    exact .eliminated ih done
  | @factored g supply before ih =>
    have after := Obtained.factored supply ih
    rwa [factorWith_registry before.wellFormed] at after

/-- A registry is valid at all times, and it is how the grammar that it stores is stored. -/
theorem valid_of_obtained {r : Registry} (obtained : r.Obtained) :
    r.Valid ∧ Grammar.Reachable r.grammar ∧ r.grammar.registry = r := by
  obtain ⟨g, reachable, rfl⟩ := obtained.exists_reachable
  have valid := reachable.wellFormed
  rw [stored_grammar valid]
  exact ⟨valid_registry valid reachable.started, reachable, rfl⟩

/-- Left recursive, with a start symbol that is not its first nonterminal. -/
def additions : Registry :=
  ⟨[.emptyWord, .endMark, .nonterminal 2 "E" [[2, 5, 3], [2, 5, 4], [3]], .nonterminal 3 "T" [[6]],
      .nonterminal 4 "F" [[7]], .terminal "+", .terminal "x", .terminal "y"],
    reserved ++ [("E", 2), ("T", 3), ("F", 4), ("+", 5), ("x", 6), ("y", 7)], [2, 3, 4], some 3⟩

def additionsEliminated : Registry :=
  ⟨[.emptyWord, .endMark, .nonterminal 2 "E" [[3, 8]], .nonterminal 3 "T" [[6]],
      .nonterminal 4 "F" [[7]], .terminal "+", .terminal "x", .terminal "y",
      .nonterminal 8 "E\x27\x27" [[5, 3, 8], [5, 4, 8], [0]]],
    additions.names ++ [("E\x27\x27", 8)], [2, 8, 3, 4], some 3⟩

def additionsFactored : Registry :=
  ⟨[.emptyWord, .endMark, .nonterminal 2 "E" [[3, 8]], .nonterminal 3 "T" [[6]],
      .nonterminal 4 "F" [[7]], .terminal "+", .terminal "x", .terminal "y",
      .nonterminal 8 "E\x27\x27" [[5, 9], [0]], .nonterminal 9 "E\x27\x27\x27" [[3, 8], [4, 8]]],
    additionsEliminated.names ++ [("E\x27\x27\x27", 9)], [2, 8, 9, 3, 4], some 3⟩

/-- The supply has handed out a name before. -/
theorem additionsFactored_valid :
    (ofText "E -> E + T | E + F | T\nT -> x\nF -> y").bind (·.withStart "T") = .ok additions ∧
      (additions.eliminateLeftRecursionWith ⟨["E\x27"]⟩).1 = .ok additionsEliminated ∧
      (additionsEliminated.factorWith .empty).1 = additionsFactored ∧
      additionsFactored.Valid ∧ Grammar.Reachable additionsFactored.grammar := by
  have factored : (additionsEliminated.factorWith .empty).1 = additionsFactored := by cbv
  have eliminated :
      (additions.eliminateLeftRecursionWith ⟨["E\x27"]⟩).1 = .ok additionsEliminated := by cbv
  have moved : withStart { additions with start := some 2 } "T" = .ok additions := by cbv
  have built : ofText "E -> E + T | E + F | T\nT -> x\nF -> y" =
    .ok { additions with start := some 2 } := by cbv
  have obtained : additionsFactored.Obtained :=
    factored ▸ .factored .empty (.eliminated (.start (.text built) moved) eliminated)
  have valid := valid_of_obtained obtained
  rw [built]
  exact ⟨moved, eliminated, factored, valid.1, valid.2.1⟩

namespace Valid

variable {r : Registry}

/-- A name is entered once, for one symbol. -/
theorem symbol?_eq_some (valid : r.Valid) {name : String} {s : Symbol} :
    r.symbol? name = some s ↔ (name, s) ∈ r.names := by
  have keys := valid.keys
  rw [symbol?, List.lookup_eq_some_iff]
  constructor
  · rintro ⟨first, later, names, _⟩
    rw [names]
    exact List.mem_append_right _ List.mem_cons_self
  · intro member
    obtain ⟨first, later, names⟩ := List.append_of_mem member
    rw [names, List.map_append, List.map_cons] at keys
    have once := (List.nodup_append.mp keys).2.2
    refine ⟨first, later, names, fun entry before => ?_⟩
    have other := once _ (List.mem_map_of_mem before) name List.mem_cons_self
    exact bne_iff_ne.mpr other.symm

/-- The name of a symbol leads back to it. -/
theorem symbol?_nameOf (valid : r.Valid) {s : Symbol} (stored : s < r.items.length) :
    r.symbol? (r.nameOf s) = some s := by
  rw [valid.symbol?_eq_some, valid.names]
  match s with
  | 0 =>
    have named : r.nameOf 0 = Symbol.emptyName := by
      rw [nameOf, (valid.emptyWord 0).mpr rfl]
      rfl
    exact .inl ⟨named ▸ List.mem_cons_self, rfl⟩
  | 1 =>
    have named : r.nameOf 1 = Symbol.endMarkName := by
      rw [nameOf, (valid.endMark 1).mpr rfl]
      rfl
    exact .inr (.inl ⟨named, rfl⟩)
  | s + 2 =>
    have found : r.items[s + 2]? = some r.items[s + 2] := List.getElem?_eq_getElem stored
    have named : r.nameOf (s + 2) = r.items[s + 2].name := by rw [nameOf, found, Option.elim_some]
    exact .inr (.inr ⟨Nat.le_add_left _ _, _, found, named.symm⟩)

theorem nameOf_inj (valid : r.Valid) {s t : Symbol} (first : s < r.items.length)
    (second : t < r.items.length) (same : r.nameOf s = r.nameOf t) : s = t := by
  have left := valid.symbol?_nameOf first
  rw [same, valid.symbol?_nameOf second] at left
  exact (Option.some.inj left).symm

end Valid
end Registry
end Predictive
