import Mathlib.Data.List.Nodup
import Predictive.Derivation
import Predictive.Grammar.Body
import Predictive.Grammar.Entries
import Predictive.Proofs.Rules

/-! Grammars in which names and numbers agree. Every grammar built from entries is one:
names are all different and none is reserved, each left side has one rule with at least
one body, and the bodies use declared symbols and the end mark only. -/

namespace Predictive

/-- The rule has a body, and the symbols in it are numbers below `size`. -/
structure Rule.Within (size : Nat) (rule : Rule) : Prop where
  left : 2 ≤ rule.left ∧ rule.left < size
  bodies : rule.bodies ≠ []
  symbols : ∀ body ∈ rule.bodies, ∀ s ∈ body, 0 < s ∧ s < size

theorem bounds_mono {size larger : Nat} {body : Body} (bounds : ∀ s ∈ body, 0 < s ∧ s < size)
    (bound : size ≤ larger) : ∀ s ∈ body, 0 < s ∧ s < larger := by
  intro s member
  obtain ⟨positive, below⟩ := bounds s member
  exact ⟨positive, Nat.lt_of_lt_of_le below bound⟩

theorem bounds_concat {size next : Symbol} {body : Body} (bounds : ∀ s ∈ body, 0 < s ∧ s < next)
    (positive : 0 < next) (bound : next < size) : ∀ s ∈ body ++ [next], 0 < s ∧ s < size :=
  List.forall_mem_append.mpr
    ⟨bounds_mono bounds (Nat.le_of_lt bound), List.forall_mem_singleton.mpr ⟨positive, bound⟩⟩

theorem Rule.Within.mono {size larger : Nat} {rule : Rule} (within : rule.Within size)
    (bound : size ≤ larger) : rule.Within larger where
  left := ⟨within.left.1, Nat.lt_of_lt_of_le within.left.2 bound⟩
  bodies := within.bodies
  symbols := fun body member => bounds_mono (within.symbols body member) bound

/-- Where no two items have the same key, a key finds one item. -/
theorem filter_key {α κ : Type} [BEq κ] [LawfulBEq κ] {key : α → κ} {items : List α}
    (distinct : (items.map key).Nodup) {a : α} (listed : a ∈ items) :
    items.filter (key · == key a) = [a] := by
  induction items with
  | nil => cases listed
  | cons b later ih =>
    obtain ⟨new, others⟩ := List.nodup_cons.mp distinct
    rcases List.mem_cons.mp listed with rfl | later
    · have none : later.filter (key · == key a) = [] := by
        refine List.filter_eq_nil_iff.mpr fun c member same => new ?_
        exact eq_of_beq same ▸ List.mem_map_of_mem member
      rw [List.filter_cons_of_pos (by simp), none]
    · have other : (key b == key a) = false :=
        beq_false_of_ne fun same => new (same ▸ List.mem_map_of_mem later)
      rw [List.filter_cons_of_neg (by simp [other]), ih others later]

theorem mem_tailsOf {s : Symbol} {rest : Body} {bodies : List Body} :
    rest ∈ tailsOf s bodies ↔ s :: rest ∈ bodies := by
  simp only [tailsOf, List.mem_filterMap]
  constructor
  · rintro ⟨body, member, taken⟩
    cases body with
    | nil => cases taken
    | cons t other =>
      by_cases same : t = s
      · simp only [same, if_true, Option.some.injEq] at taken
        exact taken ▸ same ▸ member
      · simp [same] at taken
  · exact fun member => ⟨s :: rest, member, by simp⟩

theorem tailsOf_cons_self (s : Symbol) (rest : Body) (later : List Body) :
    tailsOf s ((s :: rest) :: later) = rest :: tailsOf s later := by
  simp [tailsOf]

theorem tailsOf_cons_of_ne {s : Symbol} {body : Body} (other : body.head? ≠ some s)
    (later : List Body) : tailsOf s (body :: later) = tailsOf s later := by
  cases body with
  | nil => rfl
  | cons t rest => simp_all [tailsOf]

theorem notBeginning_cons_self (s : Symbol) (rest : Body) (later : List Body) :
    notBeginning s ((s :: rest) :: later) = notBeginning s later := by
  simp [notBeginning]

theorem notBeginning_cons_of_ne {s : Symbol} {body : Body} (other : body.head? ≠ some s)
    (later : List Body) : notBeginning s (body :: later) = body :: notBeginning s later := by
  simp [notBeginning, other]

theorem head?_of_tailsOf {s : Symbol} {bodies : List Body} (direct : tailsOf s bodies = [])
    {body : Body} (member : body ∈ bodies) : body.head? ≠ some s := by
  intro begins
  obtain ⟨rest, rfl⟩ := List.head?_eq_some_iff.mp begins
  have tail : rest ∈ tailsOf s bodies := mem_tailsOf.mpr member
  rw [direct] at tail
  cases tail

theorem notBeginning_of_tailsOf {s : Symbol} {bodies : List Body} (direct : tailsOf s bodies = []) :
    notBeginning s bodies = bodies := by
  apply List.filter_eq_self.mpr
  intro body member
  simpa using head?_of_tailsOf direct member

theorem bounds_of_tailsOf {size : Nat} {s : Symbol} {bodies : List Body}
    (bounds : ∀ body ∈ bodies, ∀ t ∈ body, 0 < t ∧ t < size) :
    ∀ rest ∈ tailsOf s bodies, ∀ t ∈ rest, 0 < t ∧ t < size := by
  intro rest member
  exact (List.forall_mem_cons.mp (bounds _ (mem_tailsOf.mp member))).2

namespace Grammar

structure WellFormed (g : Grammar) : Prop where
  names : g.knownNames.Nodup
  lefts : g.nonterminals.Nodup
  rules : ∀ rule ∈ g.rules, rule.Within g.size
  start : ∀ s, g.start = some s → s ∈ g.nonterminals

variable {g : Grammar}

namespace WellFormed

theorem nonterminal_bounds (valid : g.WellFormed) {s : Symbol} (member : s ∈ g.nonterminals) :
    2 ≤ s ∧ s < g.size := by
  obtain ⟨rule, listed, rfl⟩ := List.mem_map.mp member
  exact (valid.rules rule listed).left

theorem left_lt (valid : g.WellFormed) : ∀ rule ∈ g.rules, rule.left < g.size :=
  fun rule listed => (valid.rules rule listed).left.2

theorem bounds_singleton (valid : g.WellFormed) {s : Symbol} (member : s ∈ g.nonterminals) :
    ∀ t ∈ [s], 0 < t ∧ t < g.size :=
  List.forall_mem_singleton.mpr
    ⟨Nat.lt_of_succ_lt (valid.nonterminal_bounds member).1, (valid.nonterminal_bounds member).2⟩

theorem body_bounds (valid : g.WellFormed) {s t : Symbol} {body : Body}
    (produces : g.Produces s body) (member : t ∈ body) : 0 < t ∧ t < g.size := by
  obtain ⟨rule, listed, _, chosen⟩ := produces_iff.mp produces
  exact (valid.rules rule listed).symbols body chosen t member

theorem empty_not_mem (valid : g.WellFormed) {s : Symbol} {body : Body}
    (produces : g.Produces s body) : Symbol.empty ∉ body :=
  fun member => absurd (valid.body_bounds produces member).1 (Nat.lt_irrefl 0)

/-- Left sides are all different, so a nonterminal has one rule. -/
theorem bodiesOf_eq (valid : g.WellFormed) {rule : Rule} (listed : rule ∈ g.rules) :
    g.bodiesOf rule.left = rule.bodies := by
  rw [bodiesOf, filter_key valid.lefts listed, List.flatMap_singleton]

theorem kind_of_nonterminal (valid : g.WellFormed) {s : Symbol} (member : s ∈ g.nonterminals) :
    g.kindOf s = .nonterminal := by
  obtain ⟨low, _⟩ := valid.nonterminal_bounds member
  simp [kindOf, ne_empty low, ne_endMark low, isNonterminal_iff.mpr member]

theorem not_nonterminal_endMark (valid : g.WellFormed) : Symbol.endMark ∉ g.nonterminals :=
  fun member => absurd (valid.nonterminal_bounds member).1 (by decide)

end WellFormed

/-- What holds of the symbols of a form and of all bodies holds of all that the form derives. -/
theorem Derives.forall_mem {holds : Symbol → Prop} {form last : Body} (derives : g.Derives form last)
    (bodies : ∀ s body, g.Produces s body → ∀ t ∈ body, holds t) (before : ∀ s ∈ form, holds s) :
    ∀ s ∈ last, holds s := by
  induction derives with
  | refl => exact before
  | tail _ step ih =>
    obtain @⟨s, body, first, last, produces⟩ := step
    obtain ⟨front, rest⟩ := List.forall_mem_append.mp ih
    exact List.forall_mem_append.mpr
      ⟨List.forall_mem_append.mpr ⟨front, bodies s body produces⟩, (List.forall_mem_cons.mp rest).2⟩

theorem Derives.bounds {form last : Body} (derives : g.Derives form last) (valid : g.WellFormed)
    (before : ∀ s ∈ form, 0 < s ∧ s < g.size) : ∀ s ∈ last, 0 < s ∧ s < g.size :=
  derives.forall_mem (fun _ _ produces _ member => valid.body_bounds produces member) before

theorem Derives.declared {form last : Body} (derives : g.Derives form last) (valid : g.WellFormed)
    (before : ∀ s ∈ form, s < g.size) : ∀ s ∈ last, s < g.size :=
  derives.forall_mem (fun _ _ produces _ member => (valid.body_bounds produces member).2) before

/-! Names and symbols -/

theorem WellFormed.not_mem_reservedNames (valid : g.WellFormed) {name : String}
    (declared : name ∈ g.declared) : name ∉ Symbol.reservedNames := fun reserved =>
  (List.nodup_append.mp valid.names).2.2 name reserved name declared rfl

theorem WellFormed.nameOf_not_mem_reservedNames (valid : g.WellFormed) (index : Nat) :
    g.nameOf (index + 2) ∉ Symbol.reservedNames := by
  by_cases bound : index < g.declared.length
  · have name : g.nameOf (index + 2) = g.declared[index] := by simp [nameOf, bound]
    rw [name]
    exact valid.not_mem_reservedNames (List.getElem_mem bound)
  · have name : g.nameOf (index + 2) = "" := by simp [nameOf, Nat.le_of_not_lt bound]
    rw [name]
    decide

theorem WellFormed.nameOf_eq_emptyName (valid : g.WellFormed) {s : Symbol} :
    g.nameOf s = Symbol.emptyName ↔ s = Symbol.empty := by
  match s with
  | 0 => simp [nameOf, Symbol.empty]
  | 1 => simp [nameOf, Symbol.emptyName, Symbol.endMarkName, Symbol.empty]
  | index + 2 =>
    have other : g.nameOf (index + 2) ≠ Symbol.emptyName := fun same =>
      valid.nameOf_not_mem_reservedNames index (same ▸ by decide)
    exact iff_of_false other (ne_empty (Nat.le_add_left 2 index))

theorem WellFormed.nameOf_eq_endMarkName (valid : g.WellFormed) {s : Symbol} :
    g.nameOf s = Symbol.endMarkName ↔ s = Symbol.endMark := by
  match s with
  | 0 => simp [nameOf, Symbol.emptyName, Symbol.endMarkName, Symbol.endMark]
  | 1 => simp [nameOf, Symbol.endMark]
  | index + 2 =>
    have other : g.nameOf (index + 2) ≠ Symbol.endMarkName := fun same =>
      valid.nameOf_not_mem_reservedNames index (same ▸ by decide)
    exact iff_of_false other (ne_endMark (Nat.le_add_left 2 index))

theorem find?_lt {name : String} {s : Symbol} (found : g.find? name = some s) : s < g.size := by
  unfold find? at found
  split at found
  · obtain rfl := Option.some.inj found
    exact Nat.succ_pos _
  · split at found
    · obtain rfl := Option.some.inj found
      exact Nat.le_add_left _ _
    · obtain ⟨index, located, rfl⟩ := Option.map_eq_some_iff.mp found
      obtain ⟨bound, _⟩ := List.idxOf?_eq_some_iff.mp located
      exact Nat.add_lt_add_right bound 2

theorem nameOf_find? {name : String} {s : Symbol} (found : g.find? name = some s)
    (declared : 2 ≤ s) : g.nameOf s = name := by
  unfold find? at found
  split at found
  · exact absurd (Option.some.inj found ▸ declared) (by decide)
  · split at found
    · exact absurd (Option.some.inj found ▸ declared) (by decide)
    · obtain ⟨index, located, rfl⟩ := Option.map_eq_some_iff.mp found
      obtain ⟨bound, here, _⟩ := List.idxOf?_eq_some_iff.mp located
      simp [nameOf, bound, here]

theorem find?_nameOf (names : g.knownNames.Nodup) {s : Symbol} (low : 2 ≤ s) (high : s < g.size) :
    g.find? (g.nameOf s) = some s := by
  obtain ⟨index, rfl⟩ := Nat.exists_eq_add_of_le' low
  have bound : index < g.declared.length := Nat.lt_of_add_lt_add_right high
  obtain ⟨_, distinct, apart⟩ := List.nodup_append.mp names
  have name : g.nameOf (index + 2) = g.declared[index] := by simp [nameOf, bound]
  have unreserved : g.declared[index] ∉ Symbol.reservedNames := fun reserved =>
    apart _ reserved _ (List.getElem_mem bound) rfl
  have first : g.declared[index] ∉ Symbol.emptyNames := fun member =>
    unreserved (List.mem_append_left _ member)
  have second : g.declared[index] ≠ Symbol.endMarkName := fun same =>
    unreserved (by simp [same, Symbol.reservedNames])
  have found : g.declared.idxOf? g.declared[index] = some index := by
    refine List.idxOf?_eq_some_iff.mpr ⟨bound, rfl, fun earlier before same => ?_⟩
    exact absurd (distinct.getElem_inj_iff.mp same) (Nat.ne_of_lt before)
  rw [name, find?, if_neg first, if_neg second, found]
  rfl

theorem WellFormed.find?_nameOf (valid : g.WellFormed) {s : Symbol} (low : 2 ≤ s)
    (high : s < g.size) : g.find? (g.nameOf s) = some s :=
  Grammar.find?_nameOf valid.names low high

/-- A declared symbol is told by its name. -/
theorem WellFormed.nameOf_injective (valid : g.WellFormed) {s t : Symbol} (first : 2 ≤ s ∧ s < g.size)
    (second : 2 ≤ t ∧ t < g.size) (same : g.nameOf s = g.nameOf t) : s = t := by
  have found := valid.find?_nameOf first.1 first.2
  rw [same, valid.find?_nameOf second.1 second.2] at found
  exact (Option.some.inj found).symm

/-! Building -/

theorem nodup_eraseDups {α : Type} [BEq α] [LawfulBEq α] (items : List α) :
    items.eraseDups.Nodup := by
  match items with
  | [] => simp
  | a :: later =>
    rw [List.eraseDups_cons, List.nodup_cons, List.mem_eraseDups]
    exact ⟨by simp, nodup_eraseDups (later.filter fun b => !b == a)⟩
termination_by items.length
decreasing_by
  exact Nat.lt_succ_of_le (List.length_filter_le _ later)

theorem bodyOf_bounds {names : List String} {s : Symbol} (member : s ∈ g.bodyOf names) :
    0 < s ∧ s < g.size := by
  obtain ⟨found, used⟩ := List.mem_filter.mp member
  obtain ⟨name, _, found⟩ := List.mem_filterMap.mp found
  refine ⟨Nat.pos_of_ne_zero fun zero => ?_, find?_lt found⟩
  rw [zero] at used
  exact absurd used (by decide)

theorem nodup_knownNames_assemble {entries : List Entry}
    (unreserved : ∀ left ∈ Entry.lefts entries, left ∉ Symbol.reservedNames) :
    (assemble entries).knownNames.Nodup := by
  refine List.nodup_append.mpr ⟨by decide, List.nodup_append.mpr ⟨nodup_eraseDups _,
    nodup_eraseDups _, ?_⟩, ?_⟩
  · rintro left member _ use rfl
    have free := (List.mem_filter.mp (List.mem_eraseDups.mp use)).2
    simp [member] at free
  · rintro name reserved _ member rfl
    rcases List.mem_append.mp member with left | use
    · exact unreserved name left reserved
    · have free := (List.mem_filter.mp (List.mem_eraseDups.mp use)).2
      simp [reserved] at free

/-- Left sides are numbered in order. -/
theorem map_left_zipIdx (lefts : List String) (bodies : String → List Body) :
    (lefts.zipIdx.map fun (left, index) => (⟨index + 2, bodies left⟩ : Rule)).map Rule.left =
      List.range' 2 lefts.length := by
  have numbers : (lefts.zipIdx.map fun (left, index) => (⟨index + 2, bodies left⟩ : Rule)).map Rule.left =
      (lefts.zipIdx.map Prod.snd).map (· + 2) := by
    simp only [List.map_map, Function.comp_def]
  rw [numbers, List.zipIdx_map_snd]
  simp [List.range'_eq_map_range, Nat.add_comm]

theorem nonterminals_assemble (entries : List Entry) :
    (assemble entries).nonterminals = List.range' 2 (Entry.lefts entries).length :=
  map_left_zipIdx (Entry.lefts entries) fun left => (Entry.bodiesOf entries left).map
    (bodyOf ⟨Entry.lefts entries ++ (Entry.terminalUses entries).eraseDups, [], none⟩)

theorem wellFormed_assemble {entries : List Entry}
    (unreserved : ∀ left ∈ Entry.lefts entries, left ∉ Symbol.reservedNames)
    (filled : ∀ left ∈ Entry.lefts entries, Entry.bodiesOf entries left ≠ []) :
    (assemble entries).WellFormed := by
  refine ⟨nodup_knownNames_assemble unreserved, ?_, ?_, ?_⟩
  · rw [nonterminals_assemble]
    exact List.nodup_range'
  · intro rule listed
    obtain ⟨⟨left, index⟩, member, rfl⟩ := List.mem_map.mp listed
    have bound : index < (Entry.lefts entries).length := by
      have := List.snd_lt_of_mem_zipIdx member
      omega
    have declared : (Entry.lefts entries).length ≤ (assemble entries).declared.length := by
      simp [assemble]
    refine ⟨⟨Nat.le_add_left _ _, ?_⟩, ?_, ?_⟩
    · exact Nat.add_lt_add_right (Nat.lt_of_lt_of_le bound declared) 2
    · simpa using filled left (List.fst_mem_of_mem_zipIdx member)
    · intro body chosen s inside
      obtain ⟨names, _, rfl⟩ := List.mem_map.mp chosen
      exact bodyOf_bounds (g := ⟨_, [], none⟩) inside
  · intro s starts
    obtain ⟨rule, first, rfl⟩ := Option.map_eq_some_iff.mp starts
    exact List.mem_map_of_mem (List.mem_of_mem_head? first)

/-- Entries that are not refused make the grammar that is assembled from them. -/
theorem assemble_of_build {allowed : String → Bool} {entries : List Entry}
    (built : build allowed entries = .ok g) :
    g = assemble (entries.map Entry.trimmed) ∧
      (∀ left ∈ Entry.lefts (entries.map Entry.trimmed), left ∉ Symbol.reservedNames) ∧
      ∀ left ∈ Entry.lefts (entries.map Entry.trimmed),
        Entry.bodiesOf (entries.map Entry.trimmed) left ≠ [] := by
  unfold build at built
  dsimp only at built
  split at built
  · cases built
  next unreserved =>
    split at built
    · cases built
    next =>
      split at built
      · cases built
      next filled =>
        refine ⟨(Except.ok.inj built).symm, fun left member => ?_, fun left member => ?_⟩
        · simpa using List.find?_eq_none.mp unreserved left member
        · simpa using List.find?_eq_none.mp filled left member

theorem wellFormed_build {allowed : String → Bool} {entries : List Entry}
    (built : build allowed entries = .ok g) : g.WellFormed := by
  obtain ⟨rfl, unreserved, filled⟩ := assemble_of_build built
  exact wellFormed_assemble unreserved filled

/-- Another start symbol is a nonterminal, and nothing else changes. -/
theorem exists_of_withStart {h : Grammar} {name : String} (moved : g.withStart name = .ok h) :
    ∃ s ∈ g.nonterminals, h = { g with start := some s } := by
  unfold Grammar.withStart nonterminal at moved
  split at moved
  next s found =>
    exact ⟨s, isNonterminal_iff.mp (Option.filter_eq_some_iff.mp found).2, (Except.ok.inj moved).symm⟩
  · cases moved

theorem WellFormed.withStart {h : Grammar} {name : String} (valid : g.WellFormed)
    (moved : g.withStart name = .ok h) : h.WellFormed := by
  obtain ⟨s, member, rfl⟩ := exists_of_withStart moved
  refine ⟨valid.names, valid.lefts, valid.rules, fun t starts => ?_⟩
  obtain rfl := Option.some.inj starts
  exact member

end Grammar
end Predictive
