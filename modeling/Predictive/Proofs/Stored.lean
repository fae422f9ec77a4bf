import Predictive.Proofs.Naming
import Predictive.Registry.Basic

/-! A grammar and the registry that stores it. What is read off the registry is what the
grammar says, and a change of the registry is the change of the grammar that it stands for.
While a grammar is being built or transformed, a nonterminal may not have its bodies yet, so
nothing is asked of the bodies here. -/

namespace Predictive

/-- The empty word is written in none of the bodies. -/
def Bare (bodies : List Body) : Prop := ∀ body ∈ bodies, Symbol.empty ∉ body

theorem bare_of_bounds {size : Nat} {bodies : List Body}
    (bounds : ∀ body ∈ bodies, ∀ s ∈ body, 0 < s ∧ s < size) : Bare bodies :=
  fun body chosen member => Nat.lt_irrefl 0 (bounds body chosen _ member).1

theorem Rule.Within.bare {size : Nat} {rule : Rule} (within : rule.Within size) :
    Bare rule.bodies :=
  bare_of_bounds within.symbols

/-- The rule of `s` with other bodies; every other rule as it is. -/
def Rule.changeAt (s : Symbol) (change : List Body → List Body) (rule : Rule) : Rule :=
  if rule.left = s then ⟨rule.left, change rule.bodies⟩ else rule

@[simp]
theorem Rule.changeAt_left (s : Symbol) (change : List Body → List Body) (rule : Rule) :
    (rule.changeAt s change).left = rule.left := by
  unfold changeAt
  split <;> rfl

namespace Grammar

/-- No two symbols share a name or a rule, and the nonterminals are declared. -/
structure Numbered (g : Grammar) : Prop where
  names : g.knownNames.Nodup
  lefts : g.nonterminals.Nodup
  bounds : ∀ s ∈ g.nonterminals, 2 ≤ s ∧ s < g.size

variable {g : Grammar}

theorem WellFormed.numbered (valid : g.WellFormed) : g.Numbered :=
  ⟨valid.names, valid.lefts, fun _ member => valid.nonterminal_bounds member⟩

theorem head?_shown {s : Symbol} (low : s ≠ Symbol.empty) (body : Body) :
    ((shown body).head? == some s) = (body.head? == some s) := by
  cases body with
  | nil => simpa [shown] using Ne.symm low
  | cons t rest => rfl

theorem map_bare_shown {bodies : List Body} (plain : Bare bodies) :
    (bodies.map shown).map Registry.bare = bodies := by
  rw [List.map_map]
  refine (List.map_congr_left fun body chosen => ?_).trans (List.map_id _)
  rw [Function.comp_apply, Registry.bare_shown]
  exact Registry.bare_eq_self (plain body chosen)

/-! Reading -/

@[simp]
theorem next_registry : g.registry.next = g.size := by
  simp [Registry.next, registry, symbols]

theorem getElem?_items (s : Symbol) :
    g.registry.items[s]? = if s < g.size then some (g.item s) else none := by
  by_cases below : s < g.size
  · simp [registry, symbols, below]
  · simp [registry, symbols, below]

theorem item_name (s : Symbol) : (g.item s).name = g.nameOf s := by
  unfold item
  split
  next same => rw [same]; rfl
  next =>
    split
    next same => rw [same]; rfl
    next => split <;> rfl

theorem nameOf_registry {s : Symbol} (below : s < g.size) : g.registry.nameOf s = g.nameOf s := by
  rw [Registry.nameOf, getElem?_items, if_pos below]
  exact item_name s

theorem lookup_zipIdx (name : String) (declared : List String) (first : Nat) :
    (declared.zipIdx first).lookup name = (declared.idxOf? name).map (· + first) := by
  induction declared generalizing first with
  | nil => rfl
  | cons other later ih =>
    rw [List.zipIdx_cons, List.lookup_cons, List.idxOf?_cons, ih (first + 1)]
    by_cases same : other = name
    · simp [same]
    · have different : (name == other) = false := beq_false_of_ne (Ne.symm same)
      simp [different, same, Function.comp_def, Nat.add_assoc, Nat.add_comm 1]

theorem lookup_map_same (name : String) (names : List String) (s : Symbol) :
    (names.map (·, s)).lookup name = if name ∈ names then some s else none := by
  induction names with
  | nil => rfl
  | cons other later ih =>
    rw [List.map_cons, List.lookup_cons, ih]
    by_cases same : name = other
    · simp [same]
    · simp [same, beq_false_of_ne same]

theorem symbol?_registry (name : String) : g.registry.symbol? name = g.find? name := by
  rw [Registry.symbol?, registry, Registry.reserved, List.lookup_append, List.lookup_append,
    lookup_map_same, lookup_zipIdx, find?]
  by_cases first : name ∈ Symbol.emptyNames
  · simp [first]
  · by_cases mark : name = Symbol.endMarkName
    · subst mark
      rfl
    · have different : (name == Symbol.endMarkName) = false := beq_false_of_ne mark
      simp [first, mark, different, List.lookup_cons]

theorem registry_keys : g.registry.names.map Prod.fst = g.knownNames := by
  simp [registry, Registry.reserved, knownNames, Symbol.reservedNames, Function.comp_def]

theorem find?_eq_none_iff {name : String} : g.find? name = none ↔ name ∉ g.knownNames := by
  unfold find?
  split
  next first => simp [knownNames, Symbol.reservedNames, first]
  next first =>
    split
    next mark => simp [knownNames, Symbol.reservedNames, mark]
    next mark => simp [knownNames, Symbol.reservedNames, first, mark]

/-- The reserved names, and no others, belong to the first two symbols. -/
theorem two_le_iff_of_find? {name : String} {s : Symbol} (found : g.find? name = some s) :
    2 ≤ s ↔ name ∉ Symbol.reservedNames := by
  unfold find? at found
  split at found
  next first =>
    obtain rfl := Option.some.inj found
    simp [Symbol.empty, Symbol.reservedNames, first]
  next first =>
    split at found
    next mark =>
      obtain rfl := Option.some.inj found
      simp [Symbol.endMark, Symbol.reservedNames, mark]
    next mark =>
      obtain ⟨index, _, rfl⟩ := Option.map_eq_some_iff.mp found
      simp [Symbol.reservedNames, first, mark]

theorem find?_of_longer {h : Grammar} {name : String} {s : Symbol} (longer : g.declared <+: h.declared)
    (found : g.find? name = some s) : h.find? name = some s := by
  obtain ⟨added, extended⟩ := longer
  unfold find? at found ⊢
  split
  next first => rwa [if_pos first] at found
  next first =>
    rw [if_neg first] at found
    split
    next mark => rwa [if_pos mark] at found
    next mark =>
      rw [if_neg mark] at found
      obtain ⟨index, located, rfl⟩ := Option.map_eq_some_iff.mp found
      rw [List.idxOf?] at located
      rw [← extended, List.idxOf?, List.findIdx?_append, located]
      rfl

namespace Numbered

theorem find?_rule (numbered : g.Numbered) {rule : Rule} (listed : rule ∈ g.rules) :
    g.rules.find? (·.left == rule.left) = some rule := by
  obtain ⟨before, later, split⟩ := List.append_of_mem listed
  have distinct := numbered.lefts
  rw [nonterminals, split, List.map_append, List.map_cons] at distinct
  have absent : before.find? (·.left == rule.left) = none := by
    apply List.find?_eq_none.mpr
    intro other member same
    exact (List.nodup_append.mp distinct).2.2 _ (List.mem_map_of_mem member) _
      List.mem_cons_self (beq_iff_eq.mp same)
  rw [split, List.find?_append, absent, List.find?_cons, beq_self_eq_true]
  rfl

theorem item_eq (numbered : g.Numbered) {rule : Rule} (listed : rule ∈ g.rules) :
    g.item rule.left =
      .nonterminal rule.left (g.nameOf rule.left) (rule.bodies.map shown) := by
  obtain ⟨low, _⟩ := numbered.bounds _ (List.mem_map_of_mem listed)
  rw [item, if_neg (ne_empty low), if_neg (ne_endMark low), numbered.find?_rule listed]

theorem getElem?_rule (numbered : g.Numbered) {rule : Rule} (listed : rule ∈ g.rules) :
    g.registry.items[rule.left]? =
      some (.nonterminal rule.left (g.nameOf rule.left) (rule.bodies.map shown)) := by
  obtain ⟨_, below⟩ := numbered.bounds _ (List.mem_map_of_mem listed)
  rw [getElem?_items, if_pos below, numbered.item_eq listed]

theorem bodiesOf_registry (numbered : g.Numbered) {rule : Rule} (listed : rule ∈ g.rules) :
    g.registry.bodiesOf rule.left = rule.bodies.map shown := by
  rw [Registry.bodiesOf, numbered.getElem?_rule listed]
  rfl

theorem isNonterminal_registry (numbered : g.Numbered) (s : Symbol) :
    g.registry.isNonterminal s = g.isNonterminal s := by
  by_cases member : s ∈ g.nonterminals
  · obtain ⟨rule, listed, rfl⟩ := List.mem_map.mp member
    rw [isNonterminal_iff.mpr member, Registry.isNonterminal, numbered.getElem?_rule listed]
    rfl
  · have absent : g.rules.find? (·.left == s) = none := by
      apply List.find?_eq_none.mpr
      intro rule listed same
      exact member (beq_iff_eq.mp same ▸ List.mem_map_of_mem listed)
    rw [not_isNonterminal_iff.mpr member, Registry.isNonterminal, getElem?_items, item, absent]
    split
    · split
      · rfl
      · split <;> rfl
    · rfl

theorem grammar_registry (numbered : g.Numbered)
    (plain : ∀ rule ∈ g.rules, Bare rule.bodies) : g.registry.grammar = g := by
  have declared : (g.registry.items.drop 2).map Item.name = g.declared := by
    apply List.ext_getElem?
    intro index
    rw [List.getElem?_map, List.getElem?_drop, getElem?_items]
    by_cases below : index < g.declared.length
    · have inside : 2 + index < g.size := by
        rw [size]
        omega
      rw [if_pos inside, Option.map_some, item_name, Nat.add_comm, nameOf]
      simp [below]
    · have outside : ¬ 2 + index < g.size := by
        rw [size]
        omega
      simp [outside, Nat.le_of_not_lt below]
  have rules : (g.nonterminals.map fun s => (⟨s, (g.registry.bodiesOf s).map
      Registry.bare⟩ : Rule)) = g.rules := by
    rw [nonterminals, List.map_map]
    refine (List.map_congr_left fun rule listed => ?_).trans (List.map_id _)
    rw [Function.comp_apply, numbered.bodiesOf_registry listed, map_bare_shown (plain rule listed)]
    rfl
  exact congrArg₂ (fun declared rules => (⟨declared, rules, g.start⟩ : Grammar)) declared rules

end Numbered

theorem stored_grammar (valid : g.WellFormed) : g.registry.grammar = g :=
  valid.numbered.grammar_registry fun rule listed => (valid.rules rule listed).bare

/-! Changing bodies -/

section ChangeAt

variable {s : Symbol} {stored : List (List Symbol) → List (List Symbol)}
  {change : List Body → List Body}
  (agree : ∀ bodies, stored (bodies.map shown) = (change bodies).map shown)

include agree

theorem item_changeAt (t : Symbol) :
    item { g with rules := g.rules.map (Rule.changeAt s change) } t =
      if s = t then Item.changeBodies stored (g.item t) else g.item t := by
  have found : (g.rules.map (Rule.changeAt s change)).find? (·.left == t) =
      (g.rules.find? (·.left == t)).map (Rule.changeAt s change) := by
    rw [List.find?_map]
    simp only [Function.comp_def, Rule.changeAt_left]
  have name : nameOf { g with rules := g.rules.map (Rule.changeAt s change) } t = g.nameOf t := rfl
  rw [item, item, found, name]
  by_cases first : t = Symbol.empty
  · simp [first, Item.changeBodies]
  · rw [if_neg first, if_neg first]
    by_cases mark : t = Symbol.endMark
    · simp [mark, Item.changeBodies]
    · rw [if_neg mark, if_neg mark]
      cases present : g.rules.find? (·.left == t) with
      | none => by_cases same : s = t <;> simp [same, Item.changeBodies]
      | some rule =>
        have left : rule.left = t := by simpa using List.find?_some present
        by_cases same : s = t
        · simp [Rule.changeAt, left, same, Item.changeBodies, agree]
        · simp [Rule.changeAt, left, same, Ne.symm same]

theorem registry_changeAt :
    { g.registry with items := g.registry.items.modify s (Item.changeBodies stored) } =
      { g with rules := g.rules.map (Rule.changeAt s change) }.registry := by
  let h : Grammar := { g with rules := g.rules.map (Rule.changeAt s change) }
  have items : g.registry.items.modify s (Item.changeBodies stored) = h.registry.items := by
    apply List.ext_getElem?
    intro t
    rw [List.getElem?_modify, getElem?_items, getElem?_items, item_changeAt agree]
    by_cases below : t < g.size
    · have inside : t < h.size := below
      rw [if_pos below, if_pos inside]
      rfl
    · have outside : ¬ t < h.size := below
      rw [if_neg below, if_neg outside]
      rfl
  have order : g.registry.order = h.registry.order := by
    simp [registry, nonterminals, h, Function.comp_def]
  exact congrArg₂ (fun items order => (⟨items, g.registry.names, order, g.start⟩ : Registry))
    items order

end ChangeAt

/-- Only one rule is changed, where left sides are all different. -/
theorem map_changeAt {s : Symbol} {change : List Body → List Body} {before later : List Rule}
    {old : List Body} (distinct : ((before ++ ⟨s, old⟩ :: later).map Rule.left).Nodup) :
    (before ++ ⟨s, old⟩ :: later).map (Rule.changeAt s change) =
      before ++ ⟨s, change old⟩ :: later := by
  rw [List.map_append, List.map_cons] at distinct
  obtain ⟨_, behind, apart⟩ := List.nodup_append.mp distinct
  have unchanged : ∀ rules : List Rule, (∀ rule ∈ rules, rule.left ≠ s) →
      rules.map (Rule.changeAt s change) = rules := by
    intro rules others
    refine (List.map_congr_left fun rule listed => ?_).trans (List.map_id _)
    exact if_neg (others rule listed)
  rw [List.map_append, List.map_cons, unchanged before, unchanged later]
  · simp [Rule.changeAt]
  · intro rule listed same
    exact (List.nodup_cons.mp behind).1 (List.mem_map.mpr ⟨rule, listed, same⟩)
  · intro rule listed same
    exact apart _ (List.mem_map_of_mem listed) _ List.mem_cons_self same

theorem setBodies_registry (s : Symbol) (bodies : List (List Symbol)) :
    g.registry.setBodies s bodies = { g with rules := g.rules.map (Rule.changeAt s fun _ =>
      bodies.map Registry.bare) }.registry := by
  apply registry_changeAt
  intro _
  rw [List.map_map]
  rfl

/-- Writing all bodies of one rule. -/
theorem Numbered.setBodies_registry (numbered : g.Numbered) {before later : List Rule} {s : Symbol}
    {old bodies : List Body} (split : g.rules = before ++ ⟨s, old⟩ :: later) (plain : Bare bodies) :
    g.registry.setBodies s (bodies.map shown) =
      ({ g with rules := before ++ ⟨s, bodies⟩ :: later } : Grammar).registry := by
  have same : (bodies.map shown).map Registry.bare = bodies := map_bare_shown plain
  have distinct := numbered.lefts
  rw [nonterminals, split] at distinct
  have changed : (before ++ ⟨s, old⟩ :: later).map (Rule.changeAt s fun _ => bodies) =
      before ++ ⟨s, bodies⟩ :: later := map_changeAt distinct
  rw [Grammar.setBodies_registry, split, same, changed]

/-- Other bodies do not matter for names and numbers. -/
theorem Numbered.of_lefts (numbered : g.Numbered) {rules : List Rule}
    (same : rules.map Rule.left = g.nonterminals) : Numbered { g with rules } where
  names := numbered.names
  lefts := by
    rw [nonterminals, same]
    exact numbered.lefts
  bounds := by
    intro s member
    rw [nonterminals, same] at member
    exact numbered.bounds s member

theorem addBody_registry (s : Symbol) (body : List Symbol) :
    g.registry.addBody s body = { g with rules := g.rules.map (Rule.changeAt s
      (· ++ [Registry.bare body])) }.registry := by
  apply registry_changeAt
  intro bodies
  rw [List.map_append]
  rfl

/-! New symbols -/

/-- The grammar with one more name, and with other rules. -/
def grown (g : Grammar) (name : String) (rules : List Rule) : Grammar :=
  ⟨g.declared ++ [name], rules, g.start⟩

theorem size_grown {name : String} {rules : List Rule} : (g.grown name rules).size = g.size + 1 := by
  simp [grown, size]

theorem knownNames_grown {name : String} {rules : List Rule} :
    (g.grown name rules).knownNames = g.knownNames ++ [name] :=
  (List.append_assoc ..).symm

theorem find?_grown {name : String} {rules : List Rule} (fresh : name ∉ g.knownNames) :
    (g.grown name rules).find? name = some g.size := by
  have missing := find?_eq_none_iff.mpr fresh
  unfold find? at missing ⊢
  split
  next first => simp [first] at missing
  next first =>
    rw [if_neg first] at missing
    split
    next mark => simp [mark] at missing
    next mark =>
      rw [if_neg mark, Option.map_eq_none_iff, List.idxOf?] at missing
      rw [grown, List.idxOf?, List.findIdx?_append, missing]
      simp [List.findIdx?_cons, size]

/-- A supply that knows all names knows the new one as well, once it has given it out. -/
theorem known_grown {supply : NameSupply} {base : String} {rules : List Rule}
    (known : ∀ name ∈ g.knownNames, name ∈ supply.taken) :
    ∀ name ∈ (g.grown (supply.fresh base).1 rules).knownNames,
      name ∈ (supply.fresh base).2.taken := by
  intro name member
  rw [knownNames_grown, List.mem_append, List.mem_singleton] at member
  exact NameSupply.mem_reserve.mpr (member.symm.imp_right (known name))

/-- The new name belongs to the next symbol, which has a rule or is a terminal. -/
theorem item_grown {name : String} {rules : List Rule} : (g.grown name rules).item g.size =
    match rules.find? (·.left == g.size) with
    | some rule => .nonterminal g.size name (rule.bodies.map shown)
    | none => .terminal name := by
  have last : (g.grown name rules).nameOf g.size = name := by simp [grown, nameOf, size]
  have low : 2 ≤ g.size := Nat.le_add_left ..
  rw [item, if_neg (ne_empty low), if_neg (ne_endMark low), last]
  rfl

/-- A new name is entered at the end, with its item, if no older symbol gets another rule. -/
theorem registry_grown {name : String} {rules : List Rule} (fresh : name ∉ g.knownNames)
    (same : ∀ s < g.size, rules.find? (·.left == s) = g.rules.find? (·.left == s)) :
    (g.grown name rules).registry =
      ⟨g.registry.items ++ [(g.grown name rules).item g.size],
        Registry.enter name g.size g.registry.names, rules.map Rule.left, g.start⟩ := by
  let h := g.grown name rules
  have items : h.registry.items = g.registry.items ++ [h.item g.size] := by
    have older : ∀ s ∈ List.range g.size, h.item s = g.item s := by
      intro s member
      have below := List.mem_range.mp member
      have sameName : h.nameOf s = g.nameOf s := by
        match s, below with
        | 0, _ => rfl
        | 1, _ => rfl
        | s + 2, below =>
          have inside : s < g.declared.length := Nat.lt_of_add_lt_add_right below
          simp [nameOf, h, grown, List.getElem?_append_left inside]
      have sameRule : h.rules.find? (·.left == s) = g.rules.find? (·.left == s) := same s below
      simp only [item, sameName, sameRule]
    rw [registry, registry, symbols, symbols, size_grown, List.range_succ, List.map_append,
      List.map_congr_left older]
    rfl
  have names : h.registry.names = Registry.enter name g.size g.registry.names := by
    have kept : g.registry.names.filter (·.1 != name) = g.registry.names := by
      apply List.filter_eq_self.mpr
      rintro ⟨other, s⟩ member
      have known : other ∈ g.knownNames := by
        rw [← registry_keys]
        exact List.mem_map_of_mem member
      simpa using ne_of_mem_of_not_mem known fresh
    rw [Registry.enter, kept]
    simp [registry, h, grown, size, List.zipIdx_append, Nat.add_comm]
  exact congrArg₂ (fun items names => (⟨items, names, rules.map Rule.left, g.start⟩ : Registry))
    items names

namespace Numbered

theorem addTerminal_registry (numbered : g.Numbered) {name : String} (fresh : name ∉ g.knownNames) :
    g.registry.addTerminal name = (g.grown name g.rules).registry := by
  have absent : g.rules.find? (·.left == g.size) = none := by
    apply List.find?_eq_none.mpr
    intro rule listed same
    obtain ⟨_, below⟩ := numbered.bounds _ (List.mem_map_of_mem listed)
    exact Nat.lt_irrefl _ (beq_iff_eq.mp same ▸ below)
  rw [registry_grown fresh fun s _ => rfl, item_grown, absent, Registry.addTerminal, next_registry]
  rfl

/-- A nonterminal without bodies, placed among the others. -/
theorem pushNonterminal_registry (numbered : g.Numbered) {name : String} {before later : List Rule}
    (fresh : name ∉ g.knownNames) (split : g.rules = before ++ later) :
    { g.registry.pushNonterminal name with
      order := before.map Rule.left ++ g.size :: later.map Rule.left } =
    (g.grown name (before ++ ⟨g.size, []⟩ :: later)).registry := by
  have same : ∀ s < g.size, (before ++ ⟨g.size, []⟩ :: later).find? (·.left == s) =
      g.rules.find? (·.left == s) := by
    intro s below
    have other : (g.size == s) = false := beq_false_of_ne (Nat.ne_of_gt below)
    rw [split, List.find?_append, List.find?_append, List.find?_cons, other]
  have absent : before.find? (·.left == g.size) = none := by
    apply List.find?_eq_none.mpr
    intro rule member equal
    have listed : rule ∈ g.rules := split ▸ List.mem_append_left _ member
    obtain ⟨_, below⟩ := numbered.bounds _ (List.mem_map_of_mem listed)
    exact Nat.lt_irrefl _ (beq_iff_eq.mp equal ▸ below)
  rw [registry_grown fresh same, item_grown, List.find?_append, absent, List.find?_cons,
    beq_self_eq_true, List.map_append, List.map_cons, Registry.pushNonterminal, next_registry]
  rfl

theorem addNonterminal_registry (numbered : g.Numbered) {name : String}
    (fresh : name ∉ g.knownNames) :
    g.registry.addNonterminal name = (g.grown name (g.rules ++ [⟨g.size, []⟩])).registry := by
  rw [← numbered.pushNonterminal_registry fresh (List.append_nil g.rules).symm,
    Registry.addNonterminal, next_registry]
  rfl

theorem addNonterminalAfter_registry (numbered : g.Numbered) {name : String} {anchor : Rule}
    {before later : List Rule} (fresh : name ∉ g.knownNames)
    (split : g.rules = before ++ anchor :: later) :
    g.registry.addNonterminalAfter anchor.left name =
      (g.grown name (before ++ anchor :: ⟨g.size, []⟩ :: later)).registry := by
  have insert : ∀ first : List Rule, anchor.left ∉ first.map Rule.left →
      Registry.insertAfter anchor.left g.size ((first ++ anchor :: later).map Rule.left) =
        (first ++ [anchor]).map Rule.left ++ g.size :: later.map Rule.left := by
    intro first absent
    induction first with
    | nil => simp [Registry.insertAfter]
    | cons rule rest ih =>
      obtain ⟨other, absent⟩ := not_or.mp (mt List.mem_cons.mpr absent)
      have behind := ih absent
      simp only [List.cons_append, List.map_cons, Registry.insertAfter, if_neg (Ne.symm other), behind]
  have absent : anchor.left ∉ before.map Rule.left := by
    have distinct := numbered.lefts
    rw [nonterminals, split, List.map_append] at distinct
    intro member
    exact (List.nodup_append.mp distinct).2.2 _ member _ List.mem_cons_self rfl
  have order : Registry.insertAfter anchor.left g.size g.registry.order =
      (before ++ [anchor]).map Rule.left ++ g.size :: later.map Rule.left := by
    rw [← insert before absent, ← split]
    rfl
  rw [Registry.addNonterminalAfter, next_registry, order, numbered.pushNonterminal_registry fresh
    (by rw [split, List.append_assoc, List.singleton_append]), List.append_assoc, List.singleton_append]

theorem nodup_grown (numbered : g.Numbered) {name : String} {rules : List Rule}
    (fresh : name ∉ g.knownNames) : (g.grown name rules).knownNames.Nodup := by
  rw [knownNames_grown]
  refine List.nodup_append.mpr ⟨numbered.names, by simp, fun other member last same => ?_⟩
  exact ne_of_mem_of_not_mem member (List.mem_singleton.mp same ▸ fresh)

/-- A new name keeps names and numbers apart. -/
theorem name (numbered : g.Numbered) {name : String} (fresh : name ∉ g.knownNames) :
    (g.grown name g.rules).Numbered where
  names := numbered.nodup_grown fresh
  lefts := numbered.lefts
  bounds := by
    intro s member
    obtain ⟨low, below⟩ := numbered.bounds s member
    rw [size_grown]
    exact ⟨low, Nat.lt_succ_of_lt below⟩

/-- A new name and a new nonterminal under the next symbol keep names and numbers apart. -/
theorem push (numbered : g.Numbered) {name : String} {before later : List Rule} {bodies : List Body}
    (fresh : name ∉ g.knownNames) (split : g.rules = before ++ later) :
    (g.grown name (before ++ ⟨g.size, bodies⟩ :: later)).Numbered where
  names := numbered.nodup_grown fresh
  lefts := by
    have perm : (g.grown name (before ++ ⟨g.size, bodies⟩ :: later)).nonterminals.Perm
        (g.size :: g.nonterminals) := by
      simp only [grown, nonterminals, split, List.map_append, List.map_cons]
      exact List.perm_middle
    refine perm.nodup_iff.mpr (List.nodup_cons.mpr ⟨fun member => ?_, numbered.lefts⟩)
    exact Nat.lt_irrefl _ (numbered.bounds _ member).2
  bounds := by
    intro s member
    have cases : s ∈ g.nonterminals ∨ s = g.size := by
      simp only [grown, nonterminals, List.map_append, List.map_cons, List.mem_append,
        List.mem_cons, split] at member ⊢
      simp only [or_comm, or_left_comm] at member ⊢
      exact member
    rw [size_grown]
    rcases cases with old | rfl
    · exact ⟨(numbered.bounds s old).1, Nat.lt_succ_of_lt (numbered.bounds s old).2⟩
    · exact ⟨Nat.le_add_left .., Nat.lt_succ_self _⟩

end Numbered
end Grammar
end Predictive
