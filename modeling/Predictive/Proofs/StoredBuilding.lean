import Mathlib.Data.List.Find
import Predictive.Proofs.Stored
import Predictive.Registry.Building

/-! Filling a registry stores the grammar that is built from the same entries, or fails with the
same error. The names are met one after the other, in reading order, and a name that is not
allowed stops the reading where it is met first. -/

namespace Predictive

/-! Meeting names -/

/-- The declared names once `name` has been met. -/
def meet (declared : List String) (name : String) : List String :=
  if name ∈ Symbol.reservedNames ++ declared then declared else declared ++ [name]

def meetAll (declared words : List String) : List String := words.foldl meet declared

theorem prefix_meet (declared : List String) (name : String) : declared <+: meet declared name := by
  unfold meet
  split
  · exact List.prefix_rfl
  · exact List.prefix_append _ _

theorem prefix_meetAll (declared words : List String) : declared <+: meetAll declared words := by
  induction words generalizing declared with
  | nil => exact List.prefix_rfl
  | cons name later ih => exact (prefix_meet declared name).trans (ih (meet declared name))

theorem meetAll_append (declared first second : List String) :
    meetAll declared (first ++ second) = meetAll (meetAll declared first) second :=
  List.foldl_append

/-- The names that are neither reserved nor declared are declared, each where it comes first. -/
theorem meetAll_eq (declared words : List String) :
    meetAll declared words = declared ++ (words.filter fun name =>
      !Symbol.reservedNames.contains name && !declared.contains name).eraseDups := by
  induction words generalizing declared with
  | nil => simp [meetAll]
  | cons name later ih =>
    rw [meetAll, List.foldl_cons, ← meetAll, ih]
    unfold meet
    by_cases known : name ∈ Symbol.reservedNames ++ declared
    · rw [if_pos known, List.filter_cons_of_neg]
      rcases List.mem_append.mp known with reserved | old <;> simp_all
    · obtain ⟨unreserved, new⟩ := not_or.mp (mt List.mem_append.mpr known)
      rw [if_neg known, List.filter_cons_of_pos (by simp_all), List.eraseDups_cons, List.append_assoc,
        List.singleton_append, List.filter_filter]
      congr 3
      apply List.filter_congr
      intro other _
      by_cases same : other = name <;> simp [same, unreserved, new]

theorem mem_meetAll {declared words : List String} {name : String} :
    name ∈ meetAll declared words ↔
      name ∈ declared ∨ (name ∈ words ∧ name ∉ Symbol.reservedNames) := by
  rw [meetAll_eq, List.mem_append, List.mem_eraseDups, List.mem_filter]
  by_cases old : name ∈ declared <;> simp [old]

/-! Names that are not allowed -/

/-- The first name that is met for the first time and not allowed. -/
def refused (allowed : String → Bool) (declared words : List String) : Option String :=
  words.find? fun name => !(Symbol.reservedNames ++ declared).contains name && !allowed name

def unlessRefused {α : Type} (refusal : Option String) (result : α) : Except GrammarError α :=
  match refusal with
  | some name => .error (.undeclared name)
  | none => .ok result

theorem bind_unlessRefused {α β : Type} {first second : Option String} {a : α} {b : β}
    {next : α → Except GrammarError β} (onward : first = none → next a = unlessRefused second b) :
    (unlessRefused first a >>= next) = unlessRefused (first.or second) b := by
  cases first with
  | some name => rfl
  | none => exact onward rfl

theorem unlessRefused_none_bind {α β : Type} (a : α) (next : α → Except GrammarError β) :
    (unlessRefused none a >>= next) = next a := rfl

variable {allowed : String → Bool} {declared : List String}

/-- What has been met without a refusal makes no difference to later refusals. -/
theorem refused_meetAll {first : List String} (passed : refused allowed declared first = none)
    (second : List String) :
    refused allowed (meetAll declared first) second = refused allowed declared second := by
  have same : ∀ name, (!(Symbol.reservedNames ++ meetAll declared first).contains name && !allowed name) =
      (!(Symbol.reservedNames ++ declared).contains name && !allowed name) := by
    intro name
    by_cases permitted : allowed name = true
    · simp [permitted]
    · rw [Bool.eq_iff_iff]
      have free := List.find?_eq_none.mp passed name
      simp [mem_meetAll, permitted] at free ⊢
      tauto
  simp only [refused, same]

theorem refused_singleton (name : String) : refused allowed declared [name] =
    if name ∈ Symbol.reservedNames ++ declared ∨ allowed name = true then none else some name := by
  rw [refused, List.find?_singleton, List.contains_eq_mem]
  by_cases known : name ∈ Symbol.reservedNames ++ declared <;>
    cases permitted : allowed name <;> simp only [known] <;> rfl

theorem refused_append (first second : List String) :
    refused allowed declared (first ++ second) =
      (refused allowed declared first).or (refused allowed declared second) :=
  List.find?_append

namespace Registry
open Grammar

variable {rules : List Rule} {start : Option Symbol} {names : Grammar}

/-- The symbols of a body by name. -/
def symbolsOf (names : Grammar) (body : List String) : List Symbol :=
  body.map fun name => (names.find? name).getD Symbol.empty

theorem bare_symbolsOf (body : List String) : bare (symbolsOf names body) = names.bodyOf body := by
  induction body with
  | nil => rfl
  | cons name later ih =>
    unfold bare symbolsOf bodyOf at ih ⊢
    rw [List.map_cons, List.filter_cons, List.filterMap_cons, ih]
    cases found : names.find? name with
    | none => simp
    | some s => simp [List.filter_cons]

theorem numbered_meet (numbered : Numbered ⟨declared, rules, start⟩) (name : String) :
    Numbered ⟨meet declared name, rules, start⟩ := by
  unfold meet
  split
  · exact numbered
  next new => exact numbered.name new

theorem numbered_meetAll (numbered : Numbered ⟨declared, rules, start⟩) (words : List String) :
    Numbered ⟨meetAll declared words, rules, start⟩ := by
  induction words generalizing declared with
  | nil => exact numbered
  | cons name later ih => exact ih (numbered_meet numbered name)

/-- Looking a name up, or declaring it, is meeting it. -/
theorem intern_registry (numbered : Numbered ⟨declared, rules, start⟩) {name : String}
    (inside : meet declared name <+: names.declared) :
    intern allowed (Grammar.registry ⟨declared, rules, start⟩) name =
      unlessRefused (refused allowed declared [name])
        ((names.find? name).getD Symbol.empty, Grammar.registry ⟨meet declared name, rules, start⟩) := by
  have refusal : refused allowed declared [name] = _ := refused_singleton name
  rw [intern, symbol?_registry]
  unfold meet at inside ⊢
  by_cases known : name ∈ Symbol.reservedNames ++ declared
  · rw [if_pos known] at inside ⊢
    cases found : find? ⟨declared, rules, start⟩ name with
    | none => exact absurd known (find?_eq_none_iff.mp found)
    | some s =>
      rw [find?_of_longer inside found, refusal, if_pos (Or.inl known)]
      rfl
  · rw [if_neg known] at inside ⊢
    have fresh : name ∉ knownNames ⟨declared, rules, start⟩ := known
    have found := find?_of_longer (g := grown ⟨declared, rules, start⟩ name rules) inside
      (find?_grown fresh)
    rw [find?_eq_none_iff.mpr fresh, found, next_registry, numbered.addTerminal_registry fresh]
    by_cases permitted : allowed name = true
    · rw [refusal, if_pos (Or.inr permitted), permitted]
      rfl
    · rw [refusal, if_neg (not_or.mpr ⟨known, permitted⟩)]
      simp only [permitted]
      rfl

theorem readBody_registry (numbered : Numbered ⟨declared, rules, start⟩) {body : List String}
    (inside : meetAll declared body <+: names.declared) :
    readBody allowed (Grammar.registry ⟨declared, rules, start⟩) body =
      unlessRefused (refused allowed declared body)
        (symbolsOf names body, Grammar.registry ⟨meetAll declared body, rules, start⟩) := by
  induction body generalizing declared with
  | nil => rfl
  | cons name later ih =>
    have single : refused allowed declared (name :: later) =
        (refused allowed declared [name]).or (refused allowed declared later) :=
      refused_append [name] later
    rw [readBody, intern_registry numbered ((prefix_meetAll _ later).trans inside), single]
    refine bind_unlessRefused fun passed => ?_
    have rest := ih (numbered_meet numbered name) inside
    have same : refused allowed (meet declared name) later = refused allowed declared later :=
      refused_meetAll passed later
    rw [same] at rest
    dsimp only
    rw [rest]
    cases refused allowed declared later <;> rfl

theorem map_changeAt_append (s : Symbol) (first second : List Body) (rules : List Rule) :
    (rules.map (Rule.changeAt s (· ++ first))).map (Rule.changeAt s (· ++ second)) =
      rules.map (Rule.changeAt s (· ++ (first ++ second))) := by
  rw [List.map_map]
  refine List.map_congr_left fun rule _ => ?_
  by_cases same : rule.left = s <;> simp [Rule.changeAt, same]

theorem readBodies_registry (numbered : Numbered ⟨declared, rules, start⟩) (left : Symbol)
    {bodies : List (List String)} (inside : meetAll declared bodies.flatten <+: names.declared) :
    readBodies allowed left (Grammar.registry ⟨declared, rules, start⟩) bodies =
      unlessRefused (refused allowed declared bodies.flatten)
        (Grammar.registry ⟨meetAll declared bodies.flatten,
          rules.map (Rule.changeAt left (· ++ bodies.map names.bodyOf)), start⟩) := by
  induction bodies generalizing declared rules with
  | nil =>
    have same : rules.map (Rule.changeAt left (· ++ [])) = rules := by
      refine (List.map_congr_left fun rule _ => ?_).trans (List.map_id _)
      unfold Rule.changeAt
      split
      next => exact congrArg (Rule.mk rule.left) (List.append_nil _)
      next => rfl
    rw [List.map_nil, same]
    rfl
  | cons body later ih =>
    rw [List.flatten_cons, meetAll_append] at inside
    have first : readBody allowed _ body = _ :=
      readBody_registry numbered ((prefix_meetAll _ later.flatten).trans inside)
    rw [readBodies, first, List.flatten_cons, meetAll_append, refused_append, List.map_cons]
    refine bind_unlessRefused fun passed => ?_
    have met : Numbered ⟨meetAll declared body,
        rules.map (Rule.changeAt left (· ++ [names.bodyOf body])), start⟩ :=
      (numbered_meetAll numbered body).of_lefts (by simp [nonterminals, Function.comp_def])
    have rest := ih met inside
    rw [refused_meetAll passed, map_changeAt_append] at rest
    dsimp only
    rw [addBody_registry, bare_symbolsOf]
    exact rest

/-- The rule with all that the entries have to say about its left side. -/
def Rule.read (names : Grammar) (entries : List Entry) (rule : Rule) : Rule :=
  ⟨rule.left, rule.bodies ++ entries.flatMap fun entry =>
    if names.find? entry.left = some rule.left then entry.bodies.map names.bodyOf else []⟩

theorem readEntries_registry (numbered : Numbered ⟨declared, rules, start⟩) {entries : List Entry}
    (lefts : ∀ entry ∈ entries, entry.left ∈ declared)
    (inside : meetAll declared (Entry.symbols entries) <+: names.declared) :
    readEntries allowed (Grammar.registry ⟨declared, rules, start⟩) entries =
      unlessRefused (refused allowed declared (Entry.symbols entries))
        (Grammar.registry ⟨meetAll declared (Entry.symbols entries),
          rules.map (Rule.read names entries), start⟩) := by
  induction entries generalizing declared rules with
  | nil =>
    have same : rules.map (Rule.read names []) = rules := by
      refine (List.map_congr_left fun rule _ => ?_).trans (List.map_id _)
      exact congrArg (Rule.mk rule.left) (List.append_nil _)
    rw [same]
    rfl
  | cons entry later ih =>
    obtain ⟨here, behind⟩ := List.forall_mem_cons.mp lefts
    have symbols : Entry.symbols (entry :: later) = entry.bodies.flatten ++ Entry.symbols later := rfl
    rw [symbols, meetAll_append] at inside
    have older : declared <+: names.declared :=
      (prefix_meetAll _ _).trans ((prefix_meetAll _ _).trans inside)
    cases found : find? ⟨declared, rules, start⟩ entry.left with
    | none => exact absurd (List.mem_append_right _ here) (find?_eq_none_iff.mp found)
    | some left =>
      have named : names.find? entry.left = some left := find?_of_longer older found
      have first : readBodies allowed left _ entry.bodies = _ := readBodies_registry numbered left
        ((prefix_meetAll _ (Entry.symbols later)).trans inside)
      rw [readEntries, symbol?_registry, found, Option.getD_some, first, symbols, meetAll_append,
        refused_append]
      refine bind_unlessRefused fun passed => ?_
      have read : Numbered ⟨meetAll declared entry.bodies.flatten,
          rules.map (Rule.changeAt left (· ++ entry.bodies.map names.bodyOf)), start⟩ :=
        (numbered_meetAll numbered _).of_lefts (by simp [nonterminals, Function.comp_def])
      have rest := ih read (fun other member => (prefix_meetAll _ _).subset (behind other member)) inside
      have rules : (rules.map (Rule.changeAt left (· ++ entry.bodies.map names.bodyOf))).map
          (Rule.read names later) = rules.map (Rule.read names (entry :: later)) := by
        rw [List.map_map]
        refine List.map_congr_left fun rule _ => ?_
        by_cases same : rule.left = left
        · simp [Rule.read, Rule.changeAt, same, named]
        · simp [Rule.read, Rule.changeAt, same, named, Ne.symm same]
      rw [refused_meetAll passed, rules] at rest
      exact rest

/-! Declaring the left sides -/

/-- The nonterminals by name, without a body. -/
def blank (lefts : List String) : Grammar :=
  ⟨lefts, lefts.zipIdx.map fun (_, index) => ⟨index + 2, []⟩, none⟩

theorem nonterminals_blank (lefts : List String) :
    (blank lefts).nonterminals = List.range' 2 lefts.length :=
  map_left_zipIdx lefts fun _ => []

theorem numbered_blank {lefts : List String} (distinct : lefts.Nodup)
    (unreserved : ∀ left ∈ lefts, left ∉ Symbol.reservedNames) : (blank lefts).Numbered where
  names := List.nodup_append.mpr ⟨by decide, distinct, fun name reserved left member same =>
    unreserved left member (same ▸ reserved)⟩
  lefts := by
    rw [nonterminals_blank]
    exact List.nodup_range'
  bounds := by
    intro s member
    rw [nonterminals_blank, List.mem_range'_1, Nat.add_comm] at member
    exact member

theorem declare_registry {lefts : List String} (numbered : (blank lefts).Numbered) (name : String) :
    declare (blank lefts).registry name =
      unlessRefused ([name].find? Symbol.reservedNames.contains) (blank (meet lefts name)).registry := by
  rw [declare, symbol?_registry, List.find?_singleton, List.contains_eq_mem]
  unfold meet
  cases found : (blank lefts).find? name with
  | none =>
    have fresh := find?_eq_none_iff.mp found
    have unreserved : name ∉ Symbol.reservedNames := fun reserved => fresh (List.mem_append_left _ reserved)
    have rules : (blank lefts).grown name ((blank lefts).rules ++ [⟨(blank lefts).size, []⟩]) =
        blank (lefts ++ [name]) := by
      simp [grown, blank, size, List.zipIdx_append]
    have new : name ∉ Symbol.reservedNames ++ lefts := fresh
    rw [if_neg new, ← rules, ← numbered.addNonterminal_registry fresh]
    simp [unreserved, unlessRefused]
  | some s =>
    have known : name ∈ Symbol.reservedNames ++ lefts := by
      by_contra fresh
      have missing : (blank lefts).find? name = none := find?_eq_none_iff.mpr fresh
      rw [found] at missing
      cases missing
    have nonterminal : (blank lefts).isNonterminal s = true ↔ name ∉ Symbol.reservedNames := by
      rw [← two_le_iff_of_find? found, isNonterminal_iff]
      constructor
      · exact fun member => (numbered.bounds s member).1
      · intro low
        rw [nonterminals_blank, List.mem_range'_1]
        have := find?_lt found
        exact ⟨low, Nat.add_comm 2 _ ▸ this⟩
    rw [if_pos known]
    dsimp only
    rw [numbered.isNonterminal_registry]
    by_cases reserved : name ∈ Symbol.reservedNames
    · rw [if_neg (mt nonterminal.mp (not_not.mpr reserved))]
      simp [reserved, unlessRefused]
    · rw [if_pos (nonterminal.mpr reserved)]
      simp [reserved, unlessRefused]

theorem foldlM_declare {lefts : List String} (distinct : lefts.Nodup)
    (unreserved : ∀ left ∈ lefts, left ∉ Symbol.reservedNames) (names : List String) :
    names.foldlM declare (blank lefts).registry =
      unlessRefused (names.find? Symbol.reservedNames.contains) (blank (meetAll lefts names)).registry := by
  induction names generalizing lefts with
  | nil => rfl
  | cons name later ih =>
    have single : ([name] ++ later).find? Symbol.reservedNames.contains =
        ([name].find? Symbol.reservedNames.contains).or (later.find? Symbol.reservedNames.contains) :=
      List.find?_append
    rw [List.singleton_append] at single
    rw [List.foldlM_cons, declare_registry (numbered_blank distinct unreserved), single]
    refine bind_unlessRefused fun passed => ?_
    have free : name ∉ Symbol.reservedNames := by simpa using passed
    refine ih ?_ ?_
    · unfold meet
      split
      · exact distinct
      next new =>
        refine List.nodup_append.mpr ⟨distinct, by simp, fun left member last same => ?_⟩
        obtain rfl := List.mem_singleton.mp same
        exact ne_of_mem_of_not_mem member fun old => new (List.mem_append_right _ old)
    · intro left member
      unfold meet at member
      split at member
      · exact unreserved left member
      · rcases List.mem_append.mp member with old | last
        · exact unreserved left old
        · exact List.mem_singleton.mp last ▸ free

/-! The whole -/

theorem find?_eraseDups {α : Type} [BEq α] [LawfulBEq α] (p : α → Bool) (items : List α) :
    items.eraseDups.find? p = items.find? p := by
  match items with
  | [] => simp
  | a :: later =>
    rw [List.eraseDups_cons, List.find?_cons, List.find?_cons, find?_eraseDups, List.find?_filter]
    split
    · rfl
    next failed =>
      congr 1
      funext b
      by_cases same : b = a <;> simp [same, failed]
termination_by items.length
decreasing_by
  exact Nat.lt_succ_of_le (List.length_filter_le _ _)

/-- What the entries of `left` say, entry by entry. -/
theorem flatMap_left {α : Type} (f : List String → α) (left : String) (entries : List Entry) :
    (entries.flatMap fun entry => if entry.left = left then entry.bodies.map f else []) =
      (Entry.bodiesOf entries left).map f := by
  induction entries with
  | nil => rfl
  | cons entry later ih =>
    unfold Entry.bodiesOf at ih ⊢
    rw [List.flatMap_cons, ih]
    by_cases same : entry.left = left <;> simp [same]

theorem nameOf_left {entries : List Entry} {left : String} {index : Nat}
    (listed : (left, index) ∈ (Entry.lefts entries).zipIdx) :
    (assemble entries).nameOf (index + 2) = left := by
  have placed : (Entry.lefts entries)[index]? = some left := List.mem_zipIdx_iff_getElem?.mp listed
  have bound := (List.getElem?_eq_some_iff.mp placed).1
  have declared : (assemble entries).declared[index]? = some left :=
    (List.getElem?_append_left bound).trans placed
  change (assemble entries).declared.getD index "" = left
  rw [List.getD_eq_getElem?_getD, declared]
  rfl

theorem meetAll_lefts (entries : List Entry) :
    meetAll (Entry.lefts entries) (Entry.symbols entries) = (assemble entries).declared :=
  meetAll_eq _ _

theorem refused_lefts (allowed : String → Bool) (entries : List Entry) :
    refused allowed (Entry.lefts entries) (Entry.symbols entries) =
      (Entry.terminalUses entries).find? (!allowed ·) := by
  rw [Entry.terminalUses, List.find?_filter, refused]
  congr 1
  funext name
  rw [Bool.eq_iff_iff]
  simp [and_assoc]

section Assembled

variable {entries : List Entry}
  (unreserved : ∀ left ∈ Entry.lefts entries, left ∉ Symbol.reservedNames)

include unreserved

theorem numbered_assemble : (assemble entries).Numbered where
  names := nodup_knownNames_assemble unreserved
  lefts := by
    rw [nonterminals_assemble]
    exact List.nodup_range'
  bounds := by
    intro s member
    rw [nonterminals_assemble, List.mem_range'_1] at member
    have declared : (Entry.lefts entries).length ≤ (assemble entries).declared.length := by
      simp [assemble]
    refine ⟨member.1, Nat.lt_of_lt_of_le member.2 ?_⟩
    rw [size, Nat.add_comm]
    exact Nat.add_le_add_right declared 2

theorem find?_left {left : String} {index : Nat} (listed : (left, index) ∈ (Entry.lefts entries).zipIdx)
    (name : String) : (assemble entries).find? name = some (index + 2) ↔ name = left := by
  have named := nameOf_left listed
  constructor
  · intro found
    rw [← named, nameOf_find? found (Nat.le_add_left _ _)]
  · intro same
    have member : index + 2 ∈ (assemble entries).nonterminals := by
      have bound := List.snd_lt_of_mem_zipIdx listed
      rw [nonterminals_assemble, List.mem_range'_1]
      exact ⟨Nat.le_add_left _ _, by omega⟩
    obtain ⟨low, below⟩ := (numbered_assemble unreserved).bounds _ member
    rw [same, ← named]
    exact find?_nameOf (nodup_knownNames_assemble unreserved) low below

theorem read_blank :
    (blank (Entry.lefts entries)).rules.map (Rule.read (assemble entries) entries) =
      (assemble entries).rules := by
  unfold blank
  rw [List.map_map]
  refine List.map_congr_left fun (left, index) listed => ?_
  have same : ∀ entry : Entry, ((assemble entries).find? entry.left = some (index + 2)) =
      (entry.left = left) := fun entry => propext (find?_left unreserved listed entry.left)
  simp only [Function.comp_apply, Rule.read, same, List.nil_append]
  exact congrArg (Rule.mk (index + 2)) (flatMap_left _ left entries)

/-- The first nonterminal without alternatives, by symbol and by name. -/
theorem find?_isEmpty :
    ((assemble entries).registry.order.find? fun s =>
        ((assemble entries).registry.bodiesOf s).isEmpty).map (assemble entries).registry.nameOf =
      (Entry.lefts entries).find? fun left => (Entry.bodiesOf entries left).isEmpty := by
  have numbered := numbered_assemble unreserved
  have order : (assemble entries).registry.order = (Entry.lefts entries).zipIdx.map (·.2 + 2) := by
    simp [registry, nonterminals, assemble, Function.comp_def]
  have stored : ∀ place ∈ (Entry.lefts entries).zipIdx,
      ((assemble entries).registry.bodiesOf (place.2 + 2)).isEmpty =
        (Entry.bodiesOf entries place.1).isEmpty := by
    intro place listed
    have rule : (⟨place.2 + 2, (Entry.bodiesOf entries place.1).map (assemble entries).bodyOf⟩ : Rule) ∈
        (assemble entries).rules := List.mem_map.mpr ⟨place, listed, rfl⟩
    rw [numbered.bodiesOf_registry rule, List.isEmpty_map, List.isEmpty_map]
  have names : (Entry.lefts entries).find? (fun left => (Entry.bodiesOf entries left).isEmpty) =
      ((Entry.lefts entries).zipIdx.find? fun place => (Entry.bodiesOf entries place.1).isEmpty).map
        Prod.fst := by
    conv_lhs => rw [← List.zipIdx_map_fst 0 (Entry.lefts entries)]
    exact List.find?_map
  rw [order, List.find?_map, Option.map_map, names]
  simp only [Function.comp_def]
  rw [List.find?_congr stored]
  refine Option.map_congr fun place found => ?_
  have listed := List.mem_of_find?_eq_some found
  have member : place.2 + 2 ∈ (assemble entries).registry.order :=
    order ▸ List.mem_map.mpr ⟨place, listed, rfl⟩
  rw [nameOf_registry (numbered.bounds _ member).2, nameOf_left listed]

/-- The left sides are met one after the other. -/
theorem meetAll_left : meetAll [] (entries.map Entry.left) = Entry.lefts entries := by
  rw [meetAll_eq, List.nil_append, Entry.lefts]
  congr 1
  apply List.filter_eq_self.mpr
  intro left member
  simpa using unreserved left (List.mem_eraseDups.mpr member)

theorem readEntries_blank (allowed : String → Bool) :
    readEntries allowed (blank (Entry.lefts entries)).registry entries =
      unlessRefused ((Entry.terminalUses entries).find? (!allowed ·))
        (Grammar.registry ⟨(assemble entries).declared, (assemble entries).rules, none⟩) := by
  have numbered := numbered_blank (nodup_eraseDups _) unreserved
  have lefts : ∀ entry ∈ entries, entry.left ∈ Entry.lefts entries := fun entry member =>
    List.mem_eraseDups.mpr (List.mem_map_of_mem member)
  have inside : meetAll (Entry.lefts entries) (Entry.symbols entries) <+: (assemble entries).declared :=
    meetAll_lefts entries ▸ List.prefix_rfl
  rw [← refused_lefts, ← meetAll_lefts entries, ← read_blank unreserved]
  exact readEntries_registry numbered lefts inside

end Assembled

/-- A registry is filled with the grammar of the entries, or the entries are refused. -/
theorem build_registry (allowed : String → Bool) (entries : List Entry) :
    Registry.build allowed entries = (Grammar.build allowed entries).map Grammar.registry := by
  unfold Registry.build Grammar.build
  dsimp only
  generalize entries.map Entry.trimmed = entries
  have initial : Registry.initial = (blank []).registry := rfl
  have names := find?_eraseDups Symbol.reservedNames.contains (entries.map Entry.left)
  rw [initial, foldlM_declare List.nodup_nil (by simp), ← names]
  change unlessRefused ((Entry.lefts entries).find? _) _ >>= _ = _
  cases reserved : (Entry.lefts entries).find? Symbol.reservedNames.contains with
  | some left => rfl
  | none =>
    have unreserved : ∀ left ∈ Entry.lefts entries, left ∉ Symbol.reservedNames := by
      simpa using List.find?_eq_none.mp reserved
    rw [meetAll_left unreserved]
    change readEntries allowed (blank (Entry.lefts entries)).registry entries >>= _ = _
    rw [readEntries_blank unreserved]
    cases (Entry.terminalUses entries).find? (!allowed ·) with
    | some name => rfl
    | none =>
      let startless := Grammar.registry ⟨(assemble entries).declared, (assemble entries).rules, none⟩
      have same : (startless.order.find? fun s => (startless.bodiesOf s).isEmpty) =
          (assemble entries).registry.order.find? fun s =>
            ((assemble entries).registry.bodiesOf s).isEmpty := rfl
      rw [unlessRefused_none_bind]
      dsimp only
      rw [same, ← find?_isEmpty unreserved]
      cases (assemble entries).registry.order.find? fun s =>
          ((assemble entries).registry.bodiesOf s).isEmpty with
      | some s => rfl
      | none =>
        have start : (assemble entries).registry.order.head? = (assemble entries).start :=
          List.head?_map
        exact congrArg (fun start =>
          (.ok { (assemble entries).registry with start } : Except GrammarError Registry)) start

theorem ofEntries_registry (entries : List Entry) :
    Registry.ofEntries entries = (Grammar.ofEntries entries).map Grammar.registry :=
  build_registry _ entries

theorem ofEntriesOver_registry (terminals : List String) (entries : List Entry) :
    Registry.ofEntriesOver terminals entries =
      (Grammar.ofEntriesOver terminals entries).map Grammar.registry :=
  build_registry _ entries

theorem withStart_registry {g : Grammar} (numbered : g.Numbered) (name : String) :
    g.registry.withStart name = (g.withStart name).map Grammar.registry := by
  have same : (g.registry.symbol? name).filter g.registry.isNonterminal =
      (g.find? name).filter g.isNonterminal := by
    rw [symbol?_registry, funext numbered.isNonterminal_registry]
  rw [Registry.withStart, Grammar.withStart, nonterminal, same]
  cases (g.find? name).filter g.isNonterminal <;> rfl

end Registry
end Predictive
