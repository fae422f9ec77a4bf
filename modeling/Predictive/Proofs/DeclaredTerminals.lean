import Predictive.Proofs.StoredBuilding

/-! Building with a list of terminals and without one. The list decides about those body symbols only that
nothing else declares, wherever they stand: if it has them all it makes no difference, and otherwise the
first one that it lacks is named. A left side with a fixed meaning is found before any body is read. -/

namespace Predictive

namespace Entry

/-- The body symbols that no entry and no list declares and that have no fixed meaning, in reading order. -/
def undeclared (terminals : List String) (entries : List Entry) : List String :=
  (symbols entries).filter fun name =>
    !(entries.map (·.trimmed.left)).contains name && !terminals.contains name &&
      !Symbol.reservedNames.contains name

/-- The first left side that has a fixed meaning. -/
def reservedLeft? (entries : List Entry) : Option String :=
  (entries.map (·.trimmed.left)).find? Symbol.reservedNames.contains

variable {entries : List Entry}

theorem symbols_trimmed : symbols (entries.map trimmed) = symbols entries :=
  List.flatMap_map ..

theorem find?_lefts_trimmed :
    (lefts (entries.map trimmed)).find? Symbol.reservedNames.contains = reservedLeft? entries := by
  rw [lefts, Registry.find?_eraseDups, List.map_map]
  rfl

theorem find?_terminalUses_trimmed (terminals : List String) :
    (terminalUses (entries.map trimmed)).find? (!terminals.contains ·) = (undeclared terminals entries).head? := by
  rw [terminalUses, symbols_trimmed, List.find?_filter, undeclared, List.head?_filter]
  congr 1
  funext name
  have declared : (lefts (entries.map trimmed)).contains name =
      (entries.map (·.trimmed.left)).contains name := by
    rw [Bool.eq_iff_iff, List.contains_iff_mem, List.contains_iff_mem, lefts, List.mem_eraseDups, List.map_map]
    rfl
  rw [declared, Bool.eq_iff_iff]
  simp only [decide_eq_true_eq, Bool.and_eq_true]
  tauto

end Entry

/-- What comes of entries with a list of terminals and without one. -/
structure Compared {α : Type} (terminals : List String) (entries : List Entry)
    (strict lax : Except GrammarError α) : Prop where
  same : Entry.undeclared terminals entries = [] → strict = lax
  reserved : ∀ left, Entry.reservedLeft? entries = some left →
    strict = .error (.undeclared left) ∧ lax = .error (.undeclared left)
  refused : ∀ name later, Entry.undeclared terminals entries = name :: later →
    Entry.reservedLeft? entries = none → strict = .error (.undeclared name)
  never : Entry.undeclared terminals entries ≠ [] → ∀ result, strict ≠ .ok result

theorem Compared.map {α β : Type} {terminals : List String} {entries : List Entry}
    {strict lax : Except GrammarError α} (compared : Compared terminals entries strict lax) (f : α → β) :
    Compared terminals entries (strict.map f) (lax.map f) where
  same := fun none => congrArg (Except.map f) (compared.same none)
  reserved := by
    intro left found
    obtain ⟨first, second⟩ := compared.reserved left found
    rw [first, second]
    exact ⟨rfl, rfl⟩
  refused := by
    intro name later undeclared none
    rw [compared.refused name later undeclared none]
    rfl
  never := by
    intro some result
    cases outcome : strict with
    | error reason => exact nofun
    | ok whole => exact absurd outcome (compared.never some whole)

namespace Grammar
open Entry

/-- What is reported first, in the order in which it is looked for. -/
theorem build_eq (allowed : String → Bool) (entries : List Entry) :
    build allowed entries =
      match reservedLeft? entries, (terminalUses (entries.map trimmed)).find? (!allowed ·) with
      | some left, _ => .error (.undeclared left)
      | none, some name => .error (.undeclared name)
      | none, none => ofEntries entries := by
  have free : (terminalUses (entries.map trimmed)).find? (fun _ => !true) = none :=
    List.find?_eq_none.mpr fun _ _ => by simp
  simp only [ofEntries, build, find?_lefts_trimmed, free]
  cases reservedLeft? entries with
  | some left => rfl
  | none => cases (terminalUses (entries.map trimmed)).find? (!allowed ·) <;> rfl

theorem ofEntries_of_reserved {entries : List Entry} {left : String} (found : reservedLeft? entries = some left) :
    ofEntries entries = .error (.undeclared left) := by
  rw [ofEntries, build_eq, found]

theorem ofEntriesOver_eq (terminals : List String) (entries : List Entry) :
    ofEntriesOver terminals entries =
      match reservedLeft? entries, (undeclared terminals entries).head? with
      | some left, _ => .error (.undeclared left)
      | none, some name => .error (.undeclared name)
      | none, none => ofEntries entries := by
  rw [ofEntriesOver, build_eq, find?_terminalUses_trimmed]

theorem compared_ofEntries (terminals : List String) (entries : List Entry) :
    Compared terminals entries (ofEntriesOver terminals entries) (ofEntries entries) where
  same := by
    intro none
    rw [ofEntriesOver_eq, none]
    cases found : reservedLeft? entries with
    | some left => exact (ofEntries_of_reserved found).symm
    | none => rfl
  reserved := by
    intro left found
    rw [ofEntriesOver_eq, found]
    exact ⟨rfl, ofEntries_of_reserved found⟩
  refused := by
    intro name later undeclared none
    rw [ofEntriesOver_eq, none, undeclared]
    rfl
  never := by
    intro some result
    obtain ⟨name, later, undeclared⟩ := List.exists_cons_of_ne_nil some
    rw [ofEntriesOver_eq, undeclared]
    cases reservedLeft? entries <;> exact nofun

/-- A list of terminals makes no difference where it has all that the entries do not declare, down to
how the grammar is stored. Otherwise there is no grammar: the first body symbol that it lacks is named,
unless a left side is refused anyway. -/
theorem ofEntriesOver_exact (terminals : List String) (entries : List Entry) :
    Compared terminals entries (ofEntriesOver terminals entries) (ofEntries entries) ∧
      Compared terminals entries (Registry.ofEntriesOver terminals entries) (Registry.ofEntries entries) := by
  have compared := compared_ofEntries terminals entries
  refine ⟨compared, ?_⟩
  rw [Registry.ofEntriesOver_registry, Registry.ofEntries_registry]
  exact compared.map Grammar.registry

/-- A name is both declared and listed, one is used before it is declared, and two are neither. -/
def halfDeclared : List Entry :=
  [⟨" E ", [["E", "+", "T"], ["ϵ", "$"]]⟩, ⟨"T", [["(", "id", "-"]]⟩, ⟨"E", [["T"]]⟩]

/-- The end mark on the left, behind a symbol that is not declared. -/
def markedLeft : List Entry := [⟨"S", [["a"]]⟩, ⟨" $", [["b"]]⟩]

theorem halfDeclared_refused :
    Entry.undeclared ["+", "id", "E"] halfDeclared = ["(", "-"] ∧
      ofEntriesOver ["+", "id", "E"] halfDeclared = .error (.undeclared "(") ∧
      Registry.ofEntriesOver ["(", "-", "id", "+"] halfDeclared = Registry.ofEntries halfDeclared ∧
      Entry.undeclared [] markedLeft = ["a", "b"] ∧ ofEntriesOver [] markedLeft = .error (.undeclared "$") ∧
      ∀ g, ofEntriesOver [] markedLeft ≠ .ok g := by
  have lacks : Entry.undeclared ["+", "id", "E"] halfDeclared = ["(", "-"] := by decide
  have plain : Entry.reservedLeft? halfDeclared = none := by decide
  have none : Entry.undeclared ["(", "-", "id", "+"] halfDeclared = [] := by decide
  have unknown : Entry.undeclared [] markedLeft = ["a", "b"] := by decide
  have mark : Entry.reservedLeft? markedLeft = some "$" := by decide
  have first := (ofEntriesOver_exact ["+", "id", "E"] halfDeclared).1.refused _ _ lacks plain
  have same := (ofEntriesOver_exact ["(", "-", "id", "+"] halfDeclared).2.same none
  have refused := (ofEntriesOver_exact [] markedLeft).1
  exact ⟨lacks, first, same, unknown, (refused.reserved _ mark).1, refused.never (by simp [unknown])⟩

end Grammar
end Predictive
