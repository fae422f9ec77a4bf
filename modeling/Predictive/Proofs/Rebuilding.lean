import Predictive.Proofs.UsedTerminals

/-! A grammar built again from its rules by name. The names tell of every symbol what it is: those on the
left are the nonterminals, and all others that are not reserved were terminals before. So the same rules
come out, whatever numbers the symbols had and however the grammar came about. -/

namespace Predictive.Grammar

variable {g : Grammar} {s : Symbol} {body : Body} {name : String}

theorem namedRules_eq (g : Grammar) : g.namedRules = g.entries.map fun entry => (entry.left, entry.bodies) := by
  rw [entries, List.map_map]
  rfl

theorem map_left_entries (g : Grammar) : g.entries.map Entry.left = g.nonterminals.map g.nameOf := by
  rw [entries, nonterminals, List.map_map, List.map_map]
  rfl

/-- Names tell nonterminals apart. -/
theorem WellFormed.nodup_lefts (valid : g.WellFormed) : (g.entries.map Entry.left).Nodup := by
  rw [map_left_entries]
  refine List.Nodup.map_on (fun s first t second same => ?_) valid.lefts
  exact valid.nameOf_injective (valid.nonterminal_bounds first) (valid.nonterminal_bounds second) same

/-! Bodies by name -/

theorem WellFormed.nameOf_not_mem_emptyNames (valid : g.WellFormed) (positive : 0 < s) :
    g.nameOf s ∉ Symbol.emptyNames := by
  match s, positive with
  | 1, _ => exact (by decide : Symbol.endMarkName ∉ Symbol.emptyNames)
  | index + 2, _ =>
    exact fun empty => valid.nameOf_not_mem_reservedNames index (List.mem_append_left _ empty)

theorem WellFormed.visible_bodyNames (valid : g.WellFormed) (produces : g.Produces s body) :
    visible (g.bodyNames body) = g.bodyNames body := by
  cases body with
  | nil => rfl
  | cons t rest =>
    have kept : ∀ name ∈ (t :: rest).map g.nameOf, (!Symbol.emptyNames.contains name) = true := by
      intro name member
      obtain ⟨u, inside, rfl⟩ := List.mem_map.mp member
      simpa using valid.nameOf_not_mem_emptyNames (valid.body_bounds produces inside).1
    change visible ((t :: rest).map g.nameOf) = (t :: rest).map g.nameOf
    unfold visible
    rw [List.filter_eq_self.mpr kept]
    rfl

/-- Nothing of the rules by name is only another way to write the empty word. -/
theorem WellFormed.map_visible_entries (valid : g.WellFormed) : g.entries.map Entry.visible = g.entries := by
  rw [entries, List.map_map]
  refine List.map_congr_left fun rule listed => ?_
  have bodies : (rule.bodies.map g.bodyNames).map visible = rule.bodies.map g.bodyNames := by
    rw [List.map_map]
    refine List.map_congr_left fun body chosen => ?_
    exact valid.visible_bodyNames (produces_of_listed rule listed body chosen)
  simp only [Function.comp, Entry.visible, bodies]

/-- A name in a body that is shown belongs to a symbol of the body, unless it stands for the empty word. -/
theorem mem_bodyNames (other : name ≠ Symbol.emptyName) :
    name ∈ g.bodyNames body ↔ ∃ s ∈ body, g.nameOf s = name := by
  cases body with
  | nil => simpa [bodyNames, shown, nameOf, Symbol.empty] using other
  | cons => exact List.mem_map

theorem mem_symbols_entries (other : name ≠ Symbol.emptyName) :
    name ∈ Entry.symbols g.entries ↔ ∃ s body, g.Produces s body ∧ ∃ t ∈ body, g.nameOf t = name := by
  constructor
  · intro used
    obtain ⟨entry, listed, inside⟩ := List.mem_flatMap.mp used
    obtain ⟨rule, given, rfl⟩ := List.mem_map.mp listed
    obtain ⟨names, chosen, here⟩ := List.mem_flatten.mp inside
    obtain ⟨body, own, rfl⟩ := List.mem_map.mp chosen
    exact ⟨rule.left, body, produces_of_listed rule given body own, (mem_bodyNames other).mp here⟩
  · intro stands
    obtain ⟨s, body, produces, found⟩ := stands
    obtain ⟨rule, given, _, own⟩ := produces_iff.mp produces
    refine List.mem_flatMap.mpr ⟨_, List.mem_map_of_mem given, ?_⟩
    exact List.mem_flatten.mpr ⟨_, List.mem_map_of_mem own, (mem_bodyNames other).mpr found⟩

theorem WellFormed.mem_lefts_entries (valid : g.WellFormed) :
    name ∈ Entry.lefts g.entries ↔ ∃ s ∈ g.nonterminals, g.nameOf s = name := by
  rw [Entry.lefts_of_nodup valid.nodup_lefts, map_left_entries, List.mem_map]

/-- What is a terminal among the names was one among the symbols. -/
theorem mem_terminalUses_entries (valid : g.WellFormed) (used : g.TerminalsUsed) :
    name ∈ Entry.terminalUses g.entries ↔ name ∈ g.terminals.map g.nameOf := by
  have kept : name ∈ Entry.terminalUses g.entries ↔
      name ∈ Entry.symbols g.entries ∧ name ∉ Symbol.reservedNames ∧ name ∉ Entry.lefts g.entries := by
    rw [Entry.terminalUses, List.mem_filter]
    simp
  have proper : name ∉ Symbol.reservedNames → name ≠ Symbol.emptyName := fun unreserved same =>
    unreserved (same ▸ List.mem_cons_self)
  rw [kept, List.mem_map]
  constructor
  · intro terminal
    obtain ⟨shown, unreserved, right⟩ := terminal
    obtain ⟨s, body, produces, t, inside, rfl⟩ := (mem_symbols_entries (proper unreserved)).mp shown
    obtain ⟨positive, high⟩ := valid.body_bounds produces inside
    have unmarked : t ≠ Symbol.endMark := by
      intro mark
      rw [valid.nameOf_eq_endMarkName.mpr mark] at unreserved
      exact unreserved (by decide)
    have low : 2 ≤ t := Nat.lt_of_le_of_ne positive (Ne.symm unmarked)
    have letter : t ∉ g.nonterminals := fun left => right (valid.mem_lefts_entries.mpr ⟨t, left, rfl⟩)
    exact ⟨t, mem_terminals.mpr ⟨low, high, letter⟩, rfl⟩
  · intro named
    obtain ⟨t, terminal, rfl⟩ := named
    obtain ⟨low, high, letter⟩ := mem_terminals.mp terminal
    obtain ⟨s, body, produces, inside⟩ := used t terminal
    have unreserved : g.nameOf t ∉ Symbol.reservedNames := by
      obtain ⟨index, rfl⟩ := Nat.exists_eq_add_of_le' low
      exact valid.nameOf_not_mem_reservedNames index
    refine ⟨(mem_symbols_entries (proper unreserved)).mpr ⟨s, body, produces, t, inside, rfl⟩, unreserved, ?_⟩
    intro left
    obtain ⟨u, nonterminal, same⟩ := valid.mem_lefts_entries.mp left
    have equal := valid.nameOf_injective (valid.nonterminal_bounds nonterminal) ⟨low, high⟩ same
    exact letter (equal ▸ nonterminal)

/-- The rules by name are not refused: each left side is there once, with all its alternatives. -/
theorem ofEntries_of_named (valid : g.WellFormed) (trimmed : g.LeftsTrimmed) :
    ofEntries g.entries = .ok (assemble g.entries) := by
  have same : g.entries.map Entry.trimmed = g.entries := by
    refine (List.map_congr_left fun entry listed => ?_).trans (List.map_id' g.entries)
    obtain ⟨rule, given, rfl⟩ := List.mem_map.mp listed
    rw [Entry.trimmed, trimmed _ (List.mem_map_of_mem given), String.ofList_toList]
  have built := @build_eq_ok g.entries (fun _ => true)
  rw [same] at built
  refine built (fun left member => ?_) (fun _ _ => rfl) (fun left member => ?_)
  · rw [Entry.lefts_of_nodup valid.nodup_lefts, map_left_entries] at member
    obtain ⟨s, nonterminal, rfl⟩ := List.mem_map.mp member
    obtain ⟨index, rfl⟩ := Nat.exists_eq_add_of_le' (valid.nonterminal_bounds nonterminal).1
    exact valid.nameOf_not_mem_reservedNames index
  · rw [Entry.lefts_of_nodup valid.nodup_lefts] at member
    obtain ⟨entry, listed, rfl⟩ := List.mem_map.mp member
    rw [Entry.bodiesOf_of_nodup valid.nodup_lefts listed]
    obtain ⟨rule, given, rfl⟩ := List.mem_map.mp listed
    exact mt List.map_eq_nil_iff.mp (valid.rules rule given).bodies

/-- Built from its rules by name, a grammar has the same rules by name and the same terminals. -/
theorem rebuilt_of_namedRules (reachable : Reachable g) :
    ∃ h, ofEntries (g.namedRules.map fun (left, bodies) => ⟨left, bodies⟩) = .ok h ∧
      h.namedRules = g.namedRules ∧
      ∀ name, name ∈ h.terminals.map h.nameOf ↔ name ∈ g.terminals.map g.nameOf := by
  have valid := reachable.wellFormed
  have entries : (g.namedRules.map fun (left, bodies) => (⟨left, bodies⟩ : Entry)) = g.entries := by
    rw [namedRules_eq, List.map_map]
    exact List.map_id' _
  refine ⟨assemble g.entries, ?_, ?_, fun name => ?_⟩
  · rw [entries]
    exact ofEntries_of_named valid reachable.leftsTrimmed
  · rw [namedRules_eq, entries_assemble valid.nodup_lefts, valid.map_visible_entries, namedRules_eq]
  · rw [map_nameOf_terminals_assemble]
    exact mem_terminalUses_entries valid reachable.terminalsUsed

/-- Left recursive, with a blank in a terminal and the end mark in a body. -/
def padded : Grammar := ⟨["S", "a b", "c"], [⟨2, [[2, 3], [], [1, 4]]⟩], some 2⟩

/-- The new nonterminal is the start symbol. -/
def paddedEliminated : Grammar :=
  ⟨["S", "a b", "c", "S\x27"], [⟨2, [[5], [1, 4, 5]]⟩, ⟨5, [[3, 5], []]⟩], some 5⟩

/-- Symbols take other numbers. -/
def paddedRebuilt : Grammar :=
  ⟨["S", "S\x27", "c", "a b"], [⟨2, [[3], [1, 4, 3]]⟩, ⟨3, [[5, 3], []]⟩], some 2⟩

theorem padded_rebuilt :
    ofEntries (paddedEliminated.namedRules.map fun (left, bodies) => ⟨left, bodies⟩) = .ok paddedRebuilt ∧
      paddedRebuilt.namedRules = paddedEliminated.namedRules ∧
      ∀ name, name ∈ paddedRebuilt.terminals.map paddedRebuilt.nameOf ↔
        name ∈ paddedEliminated.terminals.map paddedEliminated.nameOf := by
  have built : ofEntries [⟨" S ", [["S", "a b"], ["ϵ"], ["$", "c"]]⟩] = .ok padded := by cbv
  have done : (padded.eliminateLeftRecursionWith .empty).result =
    .ok { paddedEliminated with start := some 2 } := by cbv
  have moved : withStart { paddedEliminated with start := some 2 } "S\x27" = .ok paddedEliminated := by cbv
  have again : ofEntries (paddedEliminated.namedRules.map fun (left, bodies) => ⟨left, bodies⟩) =
    .ok paddedRebuilt := by cbv
  obtain ⟨h, rebuilt, rules, terminals⟩ := rebuilt_of_namedRules (.start (.eliminated (.entries built) done) moved)
  obtain rfl := Except.ok.inj (again.symm.trans rebuilt)
  exact ⟨again, rules, terminals⟩

end Predictive.Grammar
