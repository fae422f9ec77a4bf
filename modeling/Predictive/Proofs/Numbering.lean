import Predictive.Listing.Grid
import Predictive.Proofs.ParserAcceptance
import Predictive.Proofs.RuleNumbers
import Predictive.Proofs.StoredValidity
import Predictive.Registry.Numbering

/-! One numbering for all. The number that is looked up for a production is the one that a listing
comes to by counting, and it is also the one in the cells of a table and in the steps of a parser. -/

namespace Predictive

theorem RuleListing.numberedRules_map {α : Type} (left : String) (items : List α) (number : α → Nat)
    (right : α → List String) : RuleListing.numberedRules ⟨left, items.map number, items.map right⟩ =
      items.map fun a => ⟨number a, left, right a⟩ := by
  rw [numberedRules, List.zipWith_map, List.zipWith_self]

namespace Registry

variable (r : Registry)

/-- A nonterminal with its bodies by name. -/
def entryOf (item : Item) : Entry := ⟨item.name, item.bodies.map (·.map r.nameOf)⟩

/-- The productions of one nonterminal. -/
def idsOf (s : Symbol) : List ProductionId := (List.range (r.bodiesOf s).length).map (⟨s, ·⟩)

/-- What is shown is a production under its own number, and of all lines in the listing only one has
that number, which says the same. -/
structure Identified (shown : NumberedRule) : Prop where
  production : ∃ id ∈ r.productionIds, shown = r.numberedRule id
  line : (r.ruleListings.flatMap RuleListing.numberedRules).filter (·.number == shown.number) = [shown]

variable {r}

/-! Counting -/

theorem foldl_countBody (bodies : List (List Symbol)) (number : Nat) (listing : RuleListing) :
    bodies.foldl r.countBody (number, listing) = (number + bodies.length,
      ⟨listing.left, listing.numbers ++ List.range' (number + 1) bodies.length,
        listing.rights ++ bodies.map (·.map r.nameOf)⟩) := by
  induction bodies generalizing number listing with
  | nil => simp
  | cons body later ih =>
    rw [List.foldl_cons, countBody, ih, List.length_cons, List.range'_succ, List.map_cons]
    simp [Nat.add_assoc, Nat.add_comm 1]

/-- The counter goes on where the nonterminal before has left it. -/
theorem foldl_countItem (items : List Item) (number : Nat) (done : List RuleListing) :
    (items.foldl r.countItem (number, done)).2 =
      done ++ listingsFrom (number + 1) (items.map r.entryOf) := by
  induction items generalizing number done with
  | nil => simp [listingsFrom]
  | cons item later ih =>
    have counted : r.countItem (number, done) item = (number + item.bodies.length,
        done ++ [⟨item.name, List.range' (number + 1) item.bodies.length,
          item.bodies.map (·.map r.nameOf)⟩]) := by
      simp only [countItem, foldl_countBody, List.nil_append]
    rw [List.foldl_cons, counted, ih, List.map_cons, listingsFrom, List.append_assoc]
    simp [entryOf, Nat.add_right_comm]

theorem ruleListings_eq : r.ruleListings = listingsFrom 1 (r.nonterminalItems.map r.entryOf) :=
  foldl_countItem r.nonterminalItems 0 []

/-! Looking up -/

theorem ruleNumber_of_getElem? (distinct : r.productionIds.Nodup) {index : Nat} {id : ProductionId}
    (placed : r.productionIds[index]? = some id) : r.ruleNumber id = index + 1 := by
  obtain ⟨bound, rfl⟩ := List.getElem?_eq_some_iff.mp placed
  have found : r.productionIds.idxOf? r.productionIds[index] = some index :=
    List.idxOf?_eq_some_iff.mpr ⟨bound, rfl, fun earlier before same =>
      Nat.ne_of_lt before (distinct.getElem_inj_iff.mp same)⟩
  rw [ruleNumber, found]
  rfl

theorem map_ruleNumber (distinct : r.productionIds.Nodup) :
    r.productionIds.map r.ruleNumber = List.range' 1 r.productionIds.length := by
  refine List.ext_getElem (by simp) fun index first second => ?_
  have bound : index < r.productionIds.length := by simpa using first
  rw [List.getElem_map, List.getElem_range', Nat.one_mul, Nat.add_comm]
  exact ruleNumber_of_getElem? distinct (List.getElem?_eq_getElem bound)

theorem map_production (s : Symbol) : (r.idsOf s).map r.production = r.bodiesOf s := by
  refine List.ext_getElem (by simp [idsOf]) fun index first second => ?_
  simp [idsOf, production, second]

theorem length_productionIds (item : Item) : item.productionIds.length = item.bodies.length := by
  cases item with
  | nonterminal => simp [Item.productionIds, Item.bodies]
  | _ => rfl

/-- If the productions are numbered in a row, a listing that counts along comes to their numbers. -/
theorem listingsFrom_eq_map {f : ProductionId → Nat} {items : List Item} {number total : Nat}
    (row : (items.flatMap Item.productionIds).map f = List.range' number total) :
    listingsFrom number (items.map r.entryOf) = items.map fun item =>
      ⟨item.name, item.productionIds.map f, item.bodies.map (·.map r.nameOf)⟩ := by
  induction items generalizing number total with
  | nil => rfl
  | cons item later ih =>
    have length : total = item.bodies.length + (later.flatMap Item.productionIds).length := by
      simpa [length_productionIds] using (congrArg List.length row).symm
    -- The row is cut where the first nonterminal has no more bodies.
    rw [List.flatMap_cons, List.map_append, length, ← List.range'_append_1] at row
    obtain ⟨own, others⟩ := List.append_inj row (by simp [length_productionIds])
    rw [List.map_cons, listingsFrom, List.map_cons, own]
    exact congrArg₂ List.cons (by simp [entryOf]) (by simpa [entryOf] using ih others)

end Registry

namespace Grammar
open Registry

variable {g : Grammar}

theorem Numbered.nonterminalItems_registry (numbered : g.Numbered) : g.registry.nonterminalItems =
    g.rules.map fun rule => .nonterminal rule.left (g.nameOf rule.left) (rule.bodies.map shown) := by
  have stored : g.registry.order.filterMap (g.registry.items[·]?) =
      g.rules.map fun rule => .nonterminal rule.left (g.nameOf rule.left) (rule.bodies.map shown) := by
    change (g.rules.map Rule.left).filterMap _ = _
    rw [List.filterMap_map, ← List.filterMap_eq_map]
    exact List.filterMap_congr fun rule listed => numbered.getElem?_rule listed
  rw [Registry.nonterminalItems, stored]
  refine List.filter_eq_self.mpr fun item member => ?_
  obtain ⟨rule, _, rfl⟩ := List.mem_map.mp member
  rfl

theorem Numbered.productionIds_registry (numbered : g.Numbered) :
    g.registry.productionIds = g.registry.order.flatMap g.registry.idsOf := by
  change _ = (g.rules.map Rule.left).flatMap _
  rw [productionIds, numbered.nonterminalItems_registry, List.flatMap_map, List.flatMap_map]
  refine List.flatMap_congr fun rule listed => ?_
  rw [idsOf, numbered.bodiesOf_registry listed]
  rfl

/-- Every place among the bodies of a nonterminal is that of one production. -/
theorem WellFormed.mem_productionIds (valid : g.WellFormed) {id : ProductionId} :
    id ∈ g.registry.productionIds ↔ id.index < (g.registry.bodiesOf id.left).length := by
  rw [valid.numbered.productionIds_registry, List.mem_flatMap]
  constructor
  · rintro ⟨s, _, own⟩
    obtain ⟨index, inside, rfl⟩ := List.mem_map.mp own
    exact List.mem_range.mp inside
  · intro inside
    have nonterminal := isNonterminal_of_bodiesOf (List.getElem_mem inside)
    rw [valid.numbered.isNonterminal_registry, isNonterminal_iff] at nonterminal
    exact ⟨id.left, nonterminal, List.mem_map.mpr ⟨id.index, List.mem_range.mpr inside, rfl⟩⟩

theorem Numbered.nodup_productionIds (numbered : g.Numbered) : g.registry.productionIds.Nodup := by
  rw [numbered.productionIds_registry, List.nodup_flatMap]
  refine ⟨fun s _ => List.nodup_range.map fun _ _ same => congrArg ProductionId.index same,
    numbered.lefts.imp fun {s t} other id first second => other ?_⟩
  obtain ⟨_, _, rfl⟩ := List.mem_map.mp first
  obtain ⟨_, _, same⟩ := List.mem_map.mp second
  exact (congrArg ProductionId.left same).symm

/-! The listing -/

theorem WellFormed.map_nameOf_registry (valid : g.WellFormed) {rule : Rule} (listed : rule ∈ g.rules)
    {body : Body} (chosen : body ∈ rule.bodies) :
    (shown body).map g.registry.nameOf = g.bodyNames body := by
  have bounds := (valid.rules rule listed).symbols body chosen
  exact List.map_congr_left fun s member =>
    nameOf_registry ((shown_spelled (Nat.succ_pos _) bounds).2.1 s member)

theorem WellFormed.entries_registry (valid : g.WellFormed) :
    g.registry.nonterminalItems.map g.registry.entryOf = g.entries := by
  rw [valid.numbered.nonterminalItems_registry, List.map_map, entries]
  refine List.map_congr_left fun rule listed => ?_
  have bodies : (rule.bodies.map shown).map (·.map g.registry.nameOf) = rule.bodies.map g.bodyNames := by
    rw [List.map_map]
    exact List.map_congr_left fun body chosen => valid.map_nameOf_registry listed chosen
  exact congrArg (Entry.mk _) bodies

/-- Counting along the stored bodies and numbering the productions come to the same listing. -/
theorem WellFormed.ruleListings_registry (valid : g.WellFormed) :
    g.registry.ruleListings = g.ruleListings := by
  rw [Registry.ruleListings_eq, valid.entries_registry, Grammar.ruleListings_eq valid.lefts]

theorem WellFormed.ruleListings_eq_map (valid : g.WellFormed) :
    g.registry.ruleListings = g.registry.order.map fun s =>
      ⟨g.registry.nameOf s, (g.registry.idsOf s).map g.registry.ruleNumber,
        (g.registry.bodiesOf s).map (·.map g.registry.nameOf)⟩ := by
  have numbered := valid.numbered
  rw [Registry.ruleListings_eq, listingsFrom_eq_map (map_ruleNumber numbered.nodup_productionIds),
    numbered.nonterminalItems_registry, List.map_map]
  change _ = (g.rules.map Rule.left).map _
  rw [List.map_map]
  refine List.map_congr_left fun rule listed => ?_
  have below := (valid.nonterminal_bounds (List.mem_map_of_mem listed)).2
  simp only [Function.comp_apply, idsOf, numbered.bodiesOf_registry listed, nameOf_registry below]
  rfl

/-- The lines of the listing are the productions, each under the number that is looked up. -/
theorem WellFormed.numberedRules_registry (valid : g.WellFormed) :
    g.registry.ruleListings.flatMap RuleListing.numberedRules =
      g.registry.productionIds.map g.registry.numberedRule := by
  rw [valid.ruleListings_eq_map, valid.numbered.productionIds_registry, List.flatMap_map,
    List.map_flatMap]
  refine List.flatMap_congr fun s _ => ?_
  rw [← map_production, List.map_map, RuleListing.numberedRules_map]
  refine List.map_congr_left fun id own => ?_
  obtain ⟨_, _, rfl⟩ := List.mem_map.mp own
  rfl

/-- As the numbers go up by one, no two lines have the same. -/
theorem WellFormed.identified (valid : g.WellFormed) {shown : NumberedRule}
    (listed : shown ∈ g.registry.ruleListings.flatMap RuleListing.numberedRules) :
    g.registry.Identified shown := by
  have lines := valid.numberedRules_registry
  refine ⟨?_, filter_key ?_ listed⟩
  · rw [lines] at listed
    obtain ⟨id, counted, same⟩ := List.mem_map.mp listed
    exact ⟨id, counted, same.symm⟩
  · have numbers : (g.registry.productionIds.map g.registry.numberedRule).map NumberedRule.number =
        List.range' 1 g.registry.productionIds.length := by
      rw [← map_ruleNumber valid.numbered.nodup_productionIds, List.map_map]
      rfl
    rw [lines, numbers]
    exact List.nodup_range'

/-! Tables and parsers -/

/-- A production under the number that it has been given. -/
def numberedRule (g : Grammar) (p : Production) : NumberedRule :=
  ⟨p.number, g.nameOf p.left, g.bodyNames p.body⟩

theorem flatMap_numberedRules (distinct : g.nonterminals.Nodup) :
    g.ruleListings.flatMap RuleListing.numberedRules = g.productions.map g.numberedRule := by
  have own : ∀ rule : Rule, RuleListing.numberedRules ⟨g.nameOf rule.left,
      (g.productions.filter (·.left == rule.left)).map Production.number,
      (g.productions.filter (·.left == rule.left)).map fun p => g.bodyNames p.body⟩ =
        (g.productions.filter (·.left == rule.left)).map g.numberedRule := by
    intro rule
    rw [RuleListing.numberedRules_map]
    refine List.map_congr_left fun p member => ?_
    rw [← eq_of_beq (List.mem_filter.mp member).2]
    rfl
  rw [ruleListings, List.flatMap_map, List.flatMap_congr fun rule _ => own rule, ← List.map_flatMap,
    List.flatMap_def, productions_eq_flatten, filter_productionsFrom distinct]

theorem WellFormed.identified_of_production (valid : g.WellFormed) {p : Production}
    (listed : p ∈ g.productions) : g.registry.Identified (g.numberedRule p) := by
  apply valid.identified
  rw [valid.ruleListings_registry, flatMap_numberedRules valid.lefts]
  exact List.mem_map_of_mem listed

variable {table : Table}

theorem WellFormed.identified_of_cell (valid : g.WellFormed) (own : table.grammar = g)
    {row : String × List RuleListing} (shownRow : row ∈ table.grid.rows) {cell : RuleListing}
    (shownCell : cell ∈ row.2) : cell.left = row.1 ∧ cell.numbers.length = cell.rights.length ∧
      ∀ shown ∈ cell.numberedRules, g.registry.Identified shown := by
  obtain ⟨s, _, rfl⟩ := List.mem_map.mp shownRow
  obtain ⟨letter, _, rfl⟩ := List.mem_map.mp shownCell
  refine ⟨rfl, by simp, fun shown member => ?_⟩
  rw [RuleListing.numberedRules_map, List.mem_map] at member
  obtain ⟨p, chosen, rfl⟩ := member
  obtain ⟨listed, rfl, _⟩ := (get?_eq_some_iff own).mp (Option.mem_toList.mp chosen)
  rw [own]
  exact valid.identified_of_production listed

theorem WellFormed.identified_of_step (valid : g.WellFormed) (own : table.grammar = g)
    {c : Configuration} {step : Predictive.Step} (recorded : step ∈ (table.runFrom c).steps) {shown : NumberedRule}
    (expands : step.action.numberedRule? = some shown) : g.registry.Identified shown := by
  cases action : step.action with
  | expansion =>
    obtain ⟨p, listed, same⟩ := Table.expansion_of_runFrom own c step recorded action
    rw [same, Table.expansionOf, own] at expands
    obtain rfl := Option.some.inj expands
    exact valid.identified_of_production listed
  | _ => simp [action, Action.numberedRule?] at expands

/-- There is one numbering. Each production has one place in the list of all, which is its number;
a listing shows that number next to it; and what a table or a parser shows under a number is what the
listing shows there. -/
theorem productions_numbered (reachable : Reachable g) :
    let r := g.registry
    (∀ id, r.productionIds.count id = if id.index < (r.bodiesOf id.left).length then 1 else 0) ∧
      (∀ index id, r.productionIds[index]? = some id → r.ruleNumber id = index + 1) ∧
      r.ruleListings = g.ruleListings ∧
      (r.ruleListings = r.order.map fun s =>
        ⟨r.nameOf s, (r.idsOf s).map r.ruleNumber, (r.bodiesOf s).map (·.map r.nameOf)⟩) ∧
      ∀ table, g.table = .ok table →
        (∀ row ∈ table.grid.rows, ∀ cell ∈ row.2, cell.left = row.1 ∧
          cell.numbers.length = cell.rights.length ∧ ∀ shown ∈ cell.numberedRules, r.Identified shown) ∧
        ∀ tokens, ∀ step ∈ (table.run tokens).steps, ∀ shown,
          step.action.numberedRule? = some shown → r.Identified shown := by
  have valid := reachable.wellFormed
  have distinct := valid.numbered.nodup_productionIds
  refine ⟨fun id => ?_, fun _ _ => ruleNumber_of_getElem? distinct, valid.ruleListings_registry,
    valid.ruleListings_eq_map, fun table built => ⟨fun row shownRow cell shownCell => ?_,
      fun tokens step recorded shown => ?_⟩⟩
  · rw [distinct.count]
    simp only [valid.mem_productionIds]
  · exact valid.identified_of_cell (table_grammar built) shownRow shownCell
  · exact valid.identified_of_step (table_grammar built) recorded

/-- Factoring puts a nonterminal in the middle, with a body that another one has as well, and one at
the end with the same body twice. -/
def twins : Grammar :=
  ⟨["S", "T", "U", "a", "b", "d"], [⟨2, [[5, 6], [5, 7], [3]]⟩, ⟨3, [[7]]⟩, ⟨4, [[4], [4]]⟩], some 2⟩

def twinsFactored : Grammar :=
  ⟨["S", "T", "U", "a", "b", "d", "S\x27", "U\x27"],
    [⟨2, [[5, 8], [3]]⟩, ⟨8, [[6], [7]]⟩, ⟨3, [[7]]⟩, ⟨4, [[4, 9]]⟩, ⟨9, [[], []]⟩], some 2⟩

def twinsTable : Table :=
  ⟨twinsFactored, 2, [⟨2, 5, ⟨1, 2, [5, 8]⟩⟩, ⟨2, 7, ⟨2, 2, [3]⟩⟩, ⟨8, 6, ⟨3, 8, [6]⟩⟩,
    ⟨8, 7, ⟨4, 8, [7]⟩⟩, ⟨3, 7, ⟨5, 3, [7]⟩⟩], rfl, by decide +kernel, by decide +kernel⟩

theorem twins_numbered : (twins.factorWith .empty).result = twinsFactored ∧
    twinsFactored.registry.ruleNumber ⟨9, 1⟩ = 8 ∧
    twinsFactored.registry.Identified ⟨4, "S\x27", ["d"]⟩ ∧
    twinsFactored.registry.Identified ⟨5, "T", ["d"]⟩ := by
  have built : ofEntries [⟨"S", [["a", "b"], ["a", "d"], ["T"]]⟩, ⟨"T", [["d"]]⟩,
    ⟨"U", [["U"], ["U"]]⟩] = .ok twins := rfl
  have factored : (twins.factorWith .empty).result = twinsFactored := by cbv
  have settled : twinsFactored.table = .ok twinsTable := table_self twinsTable
  have last : twinsFactored.registry.productionIds[7]? = some ⟨9, 1⟩ := by decide
  have cell : twinsTable.grid.rows[2]? = some
      ("T", [⟨"T", [], []⟩, ⟨"T", [], []⟩, ⟨"T", [5], [["d"]]⟩, ⟨"T", [], []⟩]) := by decide
  have step : (twinsTable.run ["a", "d"]).steps[2]? = some
      ⟨["$", "S\x27"], ["d", "$"], .expansion 4 "S\x27" ["d"]⟩ := by cbv
  obtain ⟨_, numbers, _, _, shown⟩ :=
    productions_numbered (factored ▸ .factored .empty (.entries built) : Reachable twinsFactored)
  obtain ⟨cells, steps⟩ := shown twinsTable settled
  refine ⟨factored, numbers 7 _ last, steps _ _ (List.mem_of_getElem? step) _ rfl, ?_⟩
  exact (cells _ (List.mem_of_getElem? cell) ⟨"T", [5], [["d"]]⟩ (by decide)).2.2 _ (by decide)

end Grammar
end Predictive
