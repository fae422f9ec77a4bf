import Predictive.Proofs.StoredBuilding

/-! A grammar that was built from entries with different left sides is told by its rules: built again
from their names it is the same, numbers and all. Only the ways to write the empty word are lost. -/

namespace Predictive

/-- The symbols of a body without signs for the empty word, or one such sign if there are no others. -/
def visible (names : List String) : List String :=
  let kept := names.filter (!Symbol.emptyNames.contains ·)
  if kept.isEmpty then [Symbol.emptyName] else kept

def Entry.visible (entry : Entry) : Entry := { entry with bodies := entry.bodies.map Predictive.visible }

theorem visible_ne_nil (names : List String) : visible names ≠ [] := by
  unfold visible
  dsimp only
  split
  · exact List.cons_ne_nil _ _
  next filled => simpa using filled

theorem mem_visible {names : List String} {name : String} (member : name ∈ visible names) :
    name ∈ names ∨ name = Symbol.emptyName := by
  unfold visible at member
  dsimp only at member
  split at member
  · exact .inr (List.mem_singleton.mp member)
  · exact .inl (List.mem_filter.mp member).1

namespace Grammar

variable {names : Grammar}

theorem find?_of_emptyNames {name : String} (empty : name ∈ Symbol.emptyNames) :
    names.find? name = some Symbol.empty := if_pos empty

theorem nameOf_of_visible {name : String} (visible : name ∉ Symbol.emptyNames) {s : Symbol}
    (found : names.find? name = some s) : s ≠ Symbol.empty ∧ names.nameOf s = name := by
  unfold find? at found
  rw [if_neg visible] at found
  split at found
  next mark =>
    obtain rfl := Option.some.inj found
    exact ⟨by decide, mark.symm⟩
  next other =>
    obtain ⟨index, located, rfl⟩ := Option.map_eq_some_iff.mp found
    obtain ⟨bound, here, _⟩ := List.idxOf?_eq_some_iff.mp located
    exact ⟨Nat.succ_ne_zero _, by simp [nameOf, bound, here]⟩

theorem bodyOf_kept (body : List String) :
    names.bodyOf (body.filter (!Symbol.emptyNames.contains ·)) = names.bodyOf body := by
  unfold bodyOf
  rw [List.filter_filterMap, List.filter_filterMap, List.filterMap_filter]
  refine List.filterMap_congr fun name _ => ?_
  by_cases empty : name ∈ Symbol.emptyNames
  · rw [if_neg (by simpa using empty), find?_of_emptyNames empty]
    rfl
  · simp [empty]

theorem map_nameOf_bodyOf {body : List String} (visible : ∀ name ∈ body, name ∉ Symbol.emptyNames)
    (known : ∀ name ∈ body, ∃ s, names.find? name = some s) :
    (names.bodyOf body).map names.nameOf = body := by
  induction body with
  | nil => rfl
  | cons name later ih =>
    obtain ⟨first, others⟩ := List.forall_mem_cons.mp visible
    obtain ⟨⟨s, found⟩, rest⟩ := List.forall_mem_cons.mp known
    obtain ⟨used, same⟩ := nameOf_of_visible first found
    have onward := ih others rest
    unfold bodyOf at onward ⊢
    rw [List.filterMap_cons, found, List.filter_cons_of_pos (by simpa using used), List.map_cons, same,
      onward]

/-- A body is shown with all that is visible of it. -/
theorem bodyNames_bodyOf {body : List String} (known : ∀ name ∈ body, ∃ s, names.find? name = some s) :
    names.bodyNames (names.bodyOf body) = visible body := by
  have kept : (names.bodyOf body).map names.nameOf = body.filter (!Symbol.emptyNames.contains ·) := by
    rw [← bodyOf_kept]
    refine map_nameOf_bodyOf (fun name member => ?_) fun name member => ?_
    · simpa using (List.mem_filter.mp member).2
    · exact known name (List.mem_filter.mp member).1
  unfold bodyNames shown visible
  dsimp only
  rw [← kept]
  cases names.bodyOf body with
  | nil => rfl
  | cons s rest => rfl

/-- The rules as entries. -/
def entries (g : Grammar) : List Entry :=
  g.rules.map fun rule => ⟨g.nameOf rule.left, rule.bodies.map g.bodyNames⟩

end Grammar

namespace Entry

variable {entries : List Entry}

theorem eraseDups_of_nodup {α : Type} [BEq α] [LawfulBEq α] {items : List α} (distinct : items.Nodup) :
    items.eraseDups = items := by
  induction items with
  | nil => rfl
  | cons a later ih =>
    obtain ⟨new, others⟩ := List.nodup_cons.mp distinct
    rw [List.eraseDups_cons, List.filter_eq_self.mpr, ih others]
    intro b member
    simpa using fun same : b = a => new (same ▸ member)

theorem lefts_of_nodup (distinct : (entries.map left).Nodup) : lefts entries = entries.map left :=
  eraseDups_of_nodup distinct

theorem bodiesOf_of_nodup (distinct : (entries.map left).Nodup) {entry : Entry} (listed : entry ∈ entries) :
    bodiesOf entries entry.left = entry.bodies := by
  rw [bodiesOf, filter_key distinct listed, List.flatMap_singleton]

end Entry

namespace Grammar

variable {entries : List Entry} {g : Grammar}

/-- Every name that is used is a name of the assembled grammar. -/
theorem exists_find?_assemble {entry : Entry} (listed : entry ∈ entries) {body : List String}
    (chosen : body ∈ entry.bodies) {name : String} (used : name ∈ body) :
    ∃ s, (assemble entries).find? name = some s := by
  apply Option.ne_none_iff_exists'.mp
  rw [Ne, find?_eq_none_iff, not_not]
  by_cases reserved : name ∈ Symbol.reservedNames
  · exact List.mem_append_left _ reserved
  · refine List.mem_append_right _ ?_
    by_cases left : name ∈ Entry.lefts entries
    · exact List.mem_append_left _ left
    · refine List.mem_append_right _ (List.mem_eraseDups.mpr (List.mem_filter.mpr ⟨?_, ?_⟩))
      · exact List.mem_flatMap.mpr ⟨entry, listed, List.mem_flatten.mpr ⟨body, chosen, used⟩⟩
      · simp [reserved, left]

theorem mem_terminals {s : Symbol} :
    s ∈ g.terminals ↔ 2 ≤ s ∧ s < g.size ∧ s ∉ g.nonterminals := by
  rw [← not_isNonterminal_iff]
  simp only [terminals, symbols, List.mem_filter, List.mem_range, isTerminal, Bool.and_eq_true,
    decide_eq_true_eq, Bool.not_eq_true']
  constructor
  · intro terminal
    obtain ⟨_, ⟨low, high⟩, letter⟩ := terminal
    exact ⟨low, high, letter⟩
  · intro bounds
    obtain ⟨low, high, letter⟩ := bounds
    exact ⟨high, ⟨low, high⟩, letter⟩

theorem mem_terminals_assemble {index : Nat} : index + 2 ∈ (assemble entries).terminals ↔
    (Entry.lefts entries).length ≤ index ∧ index < (assemble entries).declared.length := by
  rw [mem_terminals, nonterminals_assemble, List.mem_range'_1, size]
  unfold Symbol
  omega

/-- The terminals are the symbols that are used and are nothing else. -/
theorem map_nameOf_terminals_assemble {name : String} :
    name ∈ (assemble entries).terminals.map (assemble entries).nameOf ↔ name ∈ Entry.terminalUses entries := by
  have declared : (assemble entries).declared =
      Entry.lefts entries ++ (Entry.terminalUses entries).eraseDups := rfl
  have named : ∀ index, (assemble entries).nameOf (index + 2) =
    (Entry.lefts entries ++ (Entry.terminalUses entries).eraseDups).getD index "" := fun _ => rfl
  rw [List.mem_map, ← List.mem_eraseDups (l := Entry.terminalUses entries)]
  constructor
  · rintro ⟨s, terminal, rfl⟩
    obtain ⟨index, rfl⟩ := Nat.exists_eq_add_of_le' (mem_terminals.mp terminal).1
    obtain ⟨low, high⟩ := mem_terminals_assemble.mp terminal
    have bound : index - (Entry.lefts entries).length < (Entry.terminalUses entries).eraseDups.length := by
      rw [declared, List.length_append] at high
      omega
    rw [named, List.getD_eq_getElem?_getD, List.getElem?_append_right low, List.getElem?_eq_getElem bound]
    exact List.getElem_mem bound
  · intro used
    obtain ⟨place, bound, rfl⟩ := List.getElem_of_mem used
    refine ⟨(Entry.lefts entries).length + place + 2, mem_terminals_assemble.mpr ⟨Nat.le_add_right _ _, ?_⟩, ?_⟩
    · rw [declared, List.length_append]
      omega
    · rw [named, List.getD_eq_getElem?_getD, List.getElem?_append_right (Nat.le_add_right _ _),
        Nat.add_sub_cancel_left, List.getElem?_eq_getElem bound]
      rfl

theorem zipIdx_lefts (distinct : (entries.map Entry.left).Nodup) :
    (Entry.lefts entries).zipIdx = entries.zipIdx.map fun (entry, index) => (entry.left, index) := by
  rw [Entry.lefts_of_nodup distinct, List.zipIdx_map]
  rfl

theorem rules_assemble (distinct : (entries.map Entry.left).Nodup) :
    (assemble entries).rules = entries.zipIdx.map fun (entry, index) =>
      ⟨index + 2, entry.bodies.map (assemble entries).bodyOf⟩ := by
  change (Entry.lefts entries).zipIdx.map _ = _
  rw [zipIdx_lefts distinct, List.map_map]
  refine List.map_congr_left fun place listed => ?_
  have bodies := Entry.bodiesOf_of_nodup distinct (List.fst_mem_of_mem_zipIdx listed)
  simp only [Function.comp, bodies]
  rfl

/-- Entries with different left sides are the rules of what is assembled from them. -/
theorem entries_assemble (distinct : (entries.map Entry.left).Nodup) :
    (assemble entries).entries = entries.map Entry.visible := by
  rw [Grammar.entries, rules_assemble distinct, List.map_map]
  conv_rhs => rw [← List.zipIdx_map_fst 0 entries, List.map_map]
  refine List.map_congr_left fun (entry, index) listed => ?_
  have placed : (entry.left, index) ∈ (Entry.lefts entries).zipIdx := by
    rw [zipIdx_lefts distinct]
    exact List.mem_map_of_mem listed
  have member := List.fst_mem_of_mem_zipIdx listed
  have bodies : (entry.bodies.map (assemble entries).bodyOf).map (assemble entries).bodyNames =
      entry.bodies.map visible := by
    rw [List.map_map]
    exact List.map_congr_left fun body chosen =>
      bodyNames_bodyOf fun name used => exists_find?_assemble member chosen used
  simp only [Function.comp, bodies, Registry.nameOf_left placed]
  rfl

/-- Entries in which nothing is wrong are not refused. -/
theorem build_eq_ok {allowed : String → Bool}
    (unreserved : ∀ left ∈ Entry.lefts (entries.map Entry.trimmed), left ∉ Symbol.reservedNames)
    (permitted : ∀ name ∈ Entry.terminalUses (entries.map Entry.trimmed), allowed name = true)
    (filled : ∀ left ∈ Entry.lefts (entries.map Entry.trimmed),
      Entry.bodiesOf (entries.map Entry.trimmed) left ≠ []) :
    build allowed entries = .ok (assemble (entries.map Entry.trimmed)) := by
  have first : (Entry.lefts (entries.map Entry.trimmed)).find? Symbol.reservedNames.contains = none :=
    List.find?_eq_none.mpr (by simpa using unreserved)
  have second : (Entry.terminalUses (entries.map Entry.trimmed)).find? (!allowed ·) = none :=
    List.find?_eq_none.mpr (by simpa using permitted)
  have third : ((Entry.lefts (entries.map Entry.trimmed)).find? fun left =>
      (Entry.bodiesOf (entries.map Entry.trimmed) left).isEmpty) = none :=
    List.find?_eq_none.mpr (by simpa using filled)
  simp only [build, first, second, third]

end Grammar
end Predictive
