import Mathlib.Algebra.Group.End
import Predictive.Proofs.Families

/-! What a name supply decides. Two runs of a transformation with supplies in different states do the same
to the symbols, and all that is told apart are the names of the new ones: a permutation of names that keeps
every name of the grammar leads from one result to the other, or from one error to the other. It is built up
while symbols are introduced, where each takes one swap of the two names that were given out. -/

namespace Predictive

variable (rename : String → String)

def Conflict.renamed (conflict : Conflict) : Conflict :=
  ⟨rename conflict.nonterminal, rename conflict.lookahead, conflict.candidates.map (List.map rename)⟩

def GrammarError.renamed : GrammarError → GrammarError
  | undeclared name => .undeclared (rename name)
  | noProductions name => .noProductions (rename name)
  | noStart => .noStart
  | leftRecursive name cycle => .leftRecursive (rename name) (cycle.map rename)
  | conflicting cells => .conflicting (cells.map (Conflict.renamed rename))

def Item.renamed : Item → Item
  | nonterminal symbol name bodies => .nonterminal symbol (rename name) bodies
  | terminal name => .terminal (rename name)
  | emptyWord => .emptyWord
  | endMark => .endMark

def Registry.renamed (r : Registry) : Registry :=
  { r with
    items := r.items.map (Item.renamed rename), names := r.names.map (Prod.map rename id) }

def Grammar.renamed (g : Grammar) : Grammar := { g with declared := g.declared.map rename }

/-- The reserved names are kept, and what has no name gets none. -/
def KeepsReserved (rename : String → String) : Prop :=
  ∀ name ∈ "" :: Symbol.reservedNames, rename name = name

namespace KeepsReserved

variable {rename : String → String} (keeps : KeepsReserved rename)

include keeps

theorem empty : rename "" = "" := keeps "" List.mem_cons_self

theorem reserved {name : String} (special : name ∈ Symbol.reservedNames) : rename name = name :=
  keeps name (List.mem_cons_of_mem _ special)

end KeepsReserved

namespace Grammar

variable {g : Grammar}

theorem size_renamed : (g.renamed rename).size = g.size := by
  rw [size, renamed, List.length_map]
  rfl

theorem frontOf_renamed (vanishes : Symbol → Bool) (body : Body) :
    (g.renamed rename).frontOf vanishes body = g.frontOf vanishes body := by
  induction body with
  | nil => rfl
  | cons s rest ih =>
    rw [frontOf, frontOf, ih]
    rfl

/-- Left corners are about rules only. -/
theorem leftRecursion?_renamed : (g.renamed rename).leftRecursion? = g.leftRecursion? := by
  have corners : (g.renamed rename).corners = g.corners := by
    unfold Grammar.corners
    simp only [frontOf_renamed]
    rfl
  rw [leftRecursion?, corners]
  rfl

theorem renamed_grown {name : String} {rules : List Rule} :
    (g.grown name rules).renamed rename = (g.renamed rename).grown (rename name) rules := by
  simp [renamed, grown]

variable {rename}

theorem knownNames_renamed (keeps : KeepsReserved rename) :
    (g.renamed rename).knownNames = g.knownNames.map rename := by
  have special : Symbol.reservedNames.map rename = Symbol.reservedNames :=
    (List.map_congr_left fun _ => keeps.reserved).trans (List.map_id' _)
  rw [knownNames, knownNames, List.map_append, special]
  rfl

theorem nameOf_renamed (keeps : KeepsReserved rename) (s : Symbol) :
    (g.renamed rename).nameOf s = rename (g.nameOf s) := by
  match s with
  | 0 => exact (keeps.reserved (show Symbol.emptyName ∈ Symbol.reservedNames by decide)).symm
  | 1 => exact (keeps.reserved (show Symbol.endMarkName ∈ Symbol.reservedNames by decide)).symm
  | s + 2 =>
    change (g.declared.map rename).getD s "" = rename (g.declared.getD s "")
    rw [List.getD_eq_getElem?_getD, List.getD_eq_getElem?_getD, List.getElem?_map]
    cases g.declared[s]? with
    | none => exact keeps.empty.symm
    | some name => rfl

theorem irreducible_renamed (keeps : KeepsReserved rename) (cycle : List Symbol) :
    (g.renamed rename).irreducible cycle = (g.irreducible cycle).renamed rename := by
  have names : cycle.map (g.renamed rename).nameOf = (cycle.map g.nameOf).map rename := by
    rw [List.map_map]
    exact List.map_congr_left fun s _ => nameOf_renamed keeps s
  rw [irreducible, irreducible, names]
  cases cycle with
  | nil => exact congrArg (GrammarError.leftRecursive · []) keeps.empty.symm
  | cons s later => rfl

theorem item_renamed (keeps : KeepsReserved rename) (s : Symbol) :
    (g.renamed rename).item s = (g.item s).renamed rename := by
  unfold item
  rw [nameOf_renamed keeps]
  split
  · rfl
  · split
    · rfl
    · rw [show (g.renamed rename).rules = g.rules from rfl]
      cases g.rules.find? (·.left == s) <;> rfl

theorem registry_renamed (keeps : KeepsReserved rename) :
    (g.renamed rename).registry = g.registry.renamed rename := by
  have items : (g.renamed rename).symbols.map (g.renamed rename).item =
      (g.symbols.map g.item).map (Item.renamed rename) := by
    rw [symbols, symbols, size_renamed, List.map_map]
    exact List.map_congr_left fun s _ => item_renamed keeps s
  have special : Registry.reserved.map (Prod.map rename id) = Registry.reserved := by
    have kept : ∀ entry ∈ Registry.reserved, entry.1 ∈ Symbol.reservedNames := by decide
    refine (List.map_congr_left fun entry member => ?_).trans (List.map_id' _)
    exact congrArg (·, entry.2) (keeps.reserved (kept entry member))
  have declared : (g.declared.map rename).zipIdx 2 = (g.declared.zipIdx 2).map (Prod.map rename id) :=
    List.zipIdx_map ..
  unfold registry Registry.renamed
  rw [items, List.map_append, special, ← declared]
  rfl

/-- What is known keeps its new name when one more name is swapped for another that is new as well. -/
theorem exists_swapped {rename : Equiv.Perm String} (keeps : KeepsReserved rename) {name name' : String}
    (fresh : name ∉ g.knownNames) (fresh' : name' ∉ (g.renamed rename).knownNames)
    (filled : name ≠ "") (filled' : name' ≠ "") :
    ∃ rename' : Equiv.Perm String, KeepsReserved rename' ∧
      (∀ other ∈ g.knownNames, rename' other = rename other) ∧ rename' name = name' := by
  let swapped := Equiv.swap (rename name) name' * rename
  have apart : ∀ other ∈ g.knownNames, swapped other = rename other := by
    intro other known
    have present := knownNames_renamed keeps ▸ List.mem_map_of_mem known
    exact Equiv.swap_apply_of_ne_of_ne (rename.injective.ne (ne_of_mem_of_not_mem known fresh))
      (ne_of_mem_of_not_mem present fresh')
  refine ⟨swapped, fun other kept => ?_, apart, Equiv.swap_apply_left _ _⟩
  rcases List.mem_cons.mp kept with rfl | reserved
  · have unnamed : swapped "" = rename "" :=
      Equiv.swap_apply_of_ne_of_ne (rename.injective.ne filled.symm) (keeps.empty.trans_ne filled'.symm)
    rw [unnamed, keeps.empty]
  · rw [apart other (List.mem_append_left _ reserved), keeps.reserved reserved]

/-- Symbols that are introduced with supplies in different states differ by the names of the new ones. -/
theorem introduce_renamed {supply supply' : NameSupply} {introductions : List Introduction}
    {rename : Equiv.Perm String} (keeps : KeepsReserved rename)
    (known : ∀ name ∈ g.knownNames, name ∈ supply.taken)
    (known' : ∀ name ∈ (g.renamed rename).knownNames, name ∈ supply'.taken)
    (sprung : Sprung g.size introductions) :
    ∃ rename' : Equiv.Perm String, KeepsReserved rename' ∧
      (∀ name ∈ g.knownNames, rename' name = rename name) ∧
      ((g.renamed rename).introduce supply' introductions).result =
        (g.introduce supply introductions).result.renamed rename' := by
  induction introductions generalizing g supply supply' rename with
  | nil => exact ⟨rename, keeps, fun _ _ => rfl, rfl⟩
  | cons introduction later ih =>
    obtain ⟨below, sprung⟩ := sprung
    have below' : introduction.parent < (g.renamed rename).size := (size_renamed rename).symm ▸ below
    let first := supply.fresh (g.nameOf introduction.parent)
    let first' := supply'.fresh ((g.renamed rename).nameOf introduction.parent)
    have fresh : first.1 ∉ g.knownNames := fun member => supply.fresh_not_mem _ (known _ member)
    have fresh' : first'.1 ∉ (g.renamed rename).knownNames :=
      fun member => supply'.fresh_not_mem _ (known' _ member)
    obtain ⟨swapped, keeps', same, onto⟩ := exists_swapped keeps fresh fresh'
      (namedAfter_fresh known below).ne_empty (namedAfter_fresh known' below').ne_empty
    have grown : (g.grown first.1 g.rules).renamed swapped =
        (g.renamed rename).grown first'.1 g.rules := by
      have declared : g.declared.map swapped = g.declared.map rename :=
        List.map_congr_left fun name member => same name (List.mem_append_right _ member)
      rw [renamed_grown, onto, renamed, renamed, declared]
    -- The name that was given out is known from here on, so later swaps leave it where it is.
    obtain ⟨rename', keeps'', kept, result⟩ := ih (g := g.grown first.1 g.rules) keeps'
      (known_grown known) (grown ▸ known_grown known') (size_grown.symm ▸ sprung)
    refine ⟨rename', keeps'', fun name member => ?_, ?_⟩
    · rw [kept name (knownNames_grown ▸ List.mem_append_left _ member), same name member]
    · rw [grown] at result
      exact result

theorem renamed_of_kept {rename : String → String} (kept : ∀ name ∈ g.knownNames, rename name = name) :
    g.renamed rename = g := by
  have declared : g.declared.map rename = g.declared :=
    (List.map_congr_left fun name member => kept name (List.mem_append_right _ member)).trans (List.map_id' _)
  rw [renamed, declared]

variable {introductions : List Introduction}

/-- Two runs from the same grammar. -/
theorem introduce_apart (supply supply' : NameSupply) (sprung : Sprung g.size introductions) :
    ∃ rename : Equiv.Perm String, KeepsReserved rename ∧ (∀ name ∈ g.knownNames, rename name = name) ∧
      (g.introduce (supply'.reserveGrammar g) introductions).result =
        (g.introduce (supply.reserveGrammar g) introductions).result.renamed rename := by
  have same : g.renamed (1 : Equiv.Perm String) = g := renamed_of_kept fun _ _ => rfl
  have known' : ∀ name ∈ (g.renamed (1 : Equiv.Perm String)).knownNames,
      name ∈ (supply'.reserveGrammar g).taken := by
    rw [same]
    exact known_reserveGrammar supply'
  obtain ⟨rename, keeps, kept, result⟩ :=
    introduce_renamed (fun _ _ => rfl) (known_reserveGrammar supply) known' sprung
  rw [same] at result
  exact ⟨rename, keeps, kept, result⟩

theorem factorWith_renamed (valid : g.WellFormed) (supply supply' : NameSupply) :
    ∃ rename : Equiv.Perm String, KeepsReserved rename ∧ (∀ name ∈ g.knownNames, rename name = name) ∧
      (g.factorWith supply').result = (g.factorWith supply).result.renamed rename := by
  have sprung := (Factoring.factoredRules g.size g.rules).sprung valid.left_lt
  obtain ⟨rename, keeps, kept, result⟩ := introduce_apart supply supply' sprung
  refine ⟨rename, keeps, kept, ?_⟩
  exact congrArg (fun named : Grammar => { named with rules := (Factoring.factorRules g.size g.rules).1 })
    result

/-- The check for a left recursion that is left over. -/
theorem checked_renamed {rename : String → String} (keeps : KeepsReserved rename) (h : Grammar) :
    (match (h.renamed rename).leftRecursion? with
      | some cycle => Except.error ((h.renamed rename).irreducible cycle)
      | none => .ok (h.renamed rename)) =
    ((match h.leftRecursion? with
      | some cycle => Except.error (h.irreducible cycle)
      | none => .ok h).map (Grammar.renamed rename)).mapError (GrammarError.renamed rename) := by
  rw [leftRecursion?_renamed]
  cases h.leftRecursion? with
  | some cycle => exact congrArg Except.error (irreducible_renamed keeps cycle)
  | none => rfl

/-- Also the names in an error are told apart by those of the new symbols only. -/
theorem eliminateLeftRecursionWith_renamed (valid : g.WellFormed) (supply supply' : NameSupply) :
    ∃ rename : Equiv.Perm String, KeepsReserved rename ∧ (∀ name ∈ g.knownNames, rename name = name) ∧
      (g.eliminateLeftRecursionWith supply').result =
        ((g.eliminateLeftRecursionWith supply).result.map (Grammar.renamed rename)).mapError
          (GrammarError.renamed rename) := by
  obtain ⟨rename, keeps, kept, result⟩ := introduce_apart supply supply' valid.sprung_eliminate
  refine ⟨rename, keeps, kept, ?_⟩
  unfold eliminateLeftRecursionWith
  dsimp only
  cases g.selfDerivation? with
  | some cycle =>
    have same := irreducible_renamed (g := g) keeps cycle
    rw [renamed_of_kept kept] at same
    exact congrArg Except.error same
  | none =>
    dsimp only
    rw [result]
    cases (LeftRecursion.eliminate g.passLimit [] g.size g.rules).outcome with
    | error cycle => exact congrArg Except.error (irreducible_renamed keeps cycle)
    | ok rules =>
      exact checked_renamed keeps { (g.introduce (supply.reserveGrammar g)
        (LeftRecursion.eliminate g.passLimit [] g.size g.rules).introduced).result with rules }

end Grammar

namespace Registry
open Grammar

/-- Whatever two supplies have handed out before, elimination comes to the same with both, and so does
factoring, up to the names of the new nonterminals: both succeed, with results that are the same after a
permutation of names, or both fail, with errors that are. No name of the registry is changed by it. -/
theorem transformed_renamed {r : Registry} (obtained : r.Obtained) (supply supply' : NameSupply) :
    (∃ rename : Equiv.Perm String, (∀ name ∈ r.names.map Prod.fst, rename name = name) ∧
      (r.eliminateLeftRecursionWith supply').1 =
        ((r.eliminateLeftRecursionWith supply).1.map (Registry.renamed rename)).mapError
          (GrammarError.renamed rename)) ∧
      ∃ rename : Equiv.Perm String, (∀ name ∈ r.names.map Prod.fst, rename name = name) ∧
        (r.factorWith supply').1 = (r.factorWith supply).1.renamed rename := by
  obtain ⟨g, reachable, rfl⟩ := obtained.exists_reachable
  have valid := reachable.wellFormed
  rw [registry_keys]
  constructor
  · obtain ⟨rename, keeps, kept, result⟩ := eliminateLeftRecursionWith_renamed valid supply supply'
    refine ⟨rename, kept, ?_⟩
    rw [eliminateLeftRecursionWith_registry valid, eliminateLeftRecursionWith_registry valid, result]
    cases (g.eliminateLeftRecursionWith supply).result with
    | error cause => rfl
    | ok h => exact congrArg Except.ok (registry_renamed keeps)
  · obtain ⟨rename, keeps, kept, result⟩ := factorWith_renamed valid supply supply'
    refine ⟨rename, kept, ?_⟩
    rw [factorWith_registry valid, factorWith_registry valid, result]
    exact registry_renamed keeps

/-- The left recursion that is left over goes through a new nonterminal. -/
def entangled : Registry :=
  ⟨[.emptyWord, .endMark, .nonterminal 2 "A" [[2, 3], [0]], .nonterminal 3 "B" [[2, 4]], .terminal "y"],
    reserved ++ [("A", 2), ("B", 3), ("y", 4)], [2, 3], some 2⟩

theorem entangled_renamed :
    (entangled.eliminateLeftRecursionWith .empty).1 =
        .error (.leftRecursive "A\x27" ["A\x27", "B", "A\x27"]) ∧
      (entangled.eliminateLeftRecursionWith ⟨["A\x27"]⟩).1 =
        .error (.leftRecursive "A\x27\x27" ["A\x27\x27", "B", "A\x27\x27"]) ∧
      (∃ rename : Equiv.Perm String, rename "B" = "B" ∧ rename "A\x27" = "A\x27\x27") ∧
      (scattered.factorWith .empty).1 = scatteredFactored ∧
      ∃ rename : Equiv.Perm String, rename "A" = "A" ∧
        (scattered.factorWith ⟨["A\x27"]⟩).1 = scatteredFactored.renamed rename := by
  have first : (entangled.eliminateLeftRecursionWith .empty).1 =
      .error (.leftRecursive "A\x27" ["A\x27", "B", "A\x27"]) := by cbv
  have second : (entangled.eliminateLeftRecursionWith ⟨["A\x27"]⟩).1 =
      .error (.leftRecursive "A\x27\x27" ["A\x27\x27", "B", "A\x27\x27"]) := by cbv
  have factored : (scattered.factorWith .empty).1 = scatteredFactored := by cbv
  have built : ofText "A -> A B | ε\nB -> A y" = .ok entangled := by cbv
  obtain ⟨rename, kept, failed⟩ := (transformed_renamed (.text built) .empty ⟨["A\x27"]⟩).1
  rw [first, second] at failed
  have name : rename "A\x27" = "A\x27\x27" :=
    (GrammarError.leftRecursive.inj (Except.error.inj failed)).1.symm
  obtain ⟨rename', kept', result⟩ := (transformed_renamed obtained_scattered .empty ⟨["A\x27"]⟩).2
  rw [factored] at result
  exact ⟨first, second, ⟨rename, kept "B" (by decide), name⟩, factored, rename', kept' "A" (by decide), result⟩

end Registry
end Predictive
