import Predictive.Proofs.FactoredForm
import Predictive.Proofs.Introductions

/-! What a transformation adds. Every old nonterminal becomes the root of a family: behind it stand the
new ones that were split from it, directly or one from the other, and nothing else. All of them are named
after the root. The families come in the old order, and the new symbols are numbered in the order in
which they stand. -/

namespace Predictive

/-- A nonterminal with the new ones behind it. -/
structure Family where
  root : Symbol
  fresh : List Symbol
  deriving DecidableEq, Repr

def Family.members (family : Family) : List Symbol := family.root :: family.fresh

namespace Grammar

/-- The new ones are named after the root, and each ends an alternative of the root or of one that was
there before it. -/
structure Kin (h : Grammar) (family : Family) : Prop where
  named : ∀ s ∈ family.fresh, NamedAfter (h.nameOf family.root) (h.nameOf s)
  split : ∀ s ∈ family.fresh, ∃ t ∈ family.members, t < s ∧ ∃ front, h.Produces t (front ++ [s])

namespace Kin

variable {h : Grammar} {root s : Symbol} {inner others : List Symbol}

theorem alone : h.Kin ⟨root, []⟩ := ⟨by simp, by simp⟩

/-- A new one is put behind the root, together with those that were split from it. -/
theorem graft {front : Body} (named : NamedAfter (h.nameOf root) (h.nameOf s)) (below : root < s)
    (produces : h.Produces root (front ++ [s])) (own : h.Kin ⟨s, inner⟩) (rest : h.Kin ⟨root, others⟩) :
    h.Kin ⟨root, s :: inner ++ others⟩ where
  named := List.forall_mem_append.mpr
    ⟨List.forall_mem_cons.mpr ⟨named, fun t member => named.trans (own.named t member)⟩, rest.named⟩
  split := by
    refine List.forall_mem_append.mpr ⟨List.forall_mem_cons.mpr ⟨?_, fun t member => ?_⟩, fun t member => ?_⟩
    · exact ⟨root, List.mem_cons_self, below, front, produces⟩
    · obtain ⟨parent, inside, before, ends⟩ := own.split t member
      exact ⟨parent, List.mem_cons_of_mem _ (List.mem_append_left _ inside), before, ends⟩
    · obtain ⟨parent, inside, before, ends⟩ := rest.split t member
      refine ⟨parent, ?_, before, ends⟩
      rcases List.mem_cons.mp inside with same | inside
      · exact List.mem_cons.mpr (.inl same)
      · exact List.mem_cons_of_mem _ (List.mem_append_right _ inside)

end Kin

/-- The families of the old rules, with `count` new symbols from `next` on. -/
structure Arranged (h : Grammar) (next count : Nat) (before after : List Rule) (families : List Family) :
    Prop where
  roots : families.map Family.root = before.map Rule.left
  members : families.flatMap Family.members = after.map Rule.left
  fresh : families.flatMap Family.fresh = List.range' next count
  kin : ∀ family ∈ families, h.Kin family

namespace Arranged

variable {h : Grammar} {next count size : Nat} {before after own : List Rule} {families : List Family}

theorem nil : h.Arranged next 0 [] [] [] := ⟨rfl, rfl, rfl, by simp⟩

theorem cons {rule : Rule} (rest : h.Arranged (next + size) count before after families)
    (lefts : own.map Rule.left = rule.left :: List.range' next size)
    (kin : h.Kin ⟨rule.left, List.range' next size⟩) :
    h.Arranged next (size + count) (rule :: before) (own ++ after)
      (⟨rule.left, List.range' next size⟩ :: families) where
  roots := congrArg (rule.left :: ·) rest.roots
  members := by
    rw [List.flatMap_cons, rest.members, List.map_append, lefts]
    rfl
  fresh := by
    rw [List.flatMap_cons, rest.fresh]
    exact List.range'_append_1
  kin := List.forall_mem_cons.mpr ⟨kin, rest.kin⟩

end Arranged
end Grammar

namespace Factoring
open Grammar

variable {h : Grammar} {next : Nat}

/-- The left side of a split is named after the one it was split from, and has its bodies in `h`. -/
structure Entered (h : Grammar) (split : Split) : Prop where
  named : NamedAfter (h.nameOf split.introduction.parent) (h.nameOf split.rule.left)
  bodies : ∀ body ∈ split.rule.bodies, h.Produces split.rule.left body

namespace Factored

variable {left : Symbol} {before bodies : List Body} {splits : List Split}

theorem sprung (done : Factored left next before bodies splits) (below : left < next) :
    Sprung next (splits.map Split.introduction) := by
  induction done with
  | nil => trivial
  | empty _ ih => exact ih below
  | single _ _ ih => exact ih below
  | @group left next s body later shared rests inner bodies splits cause _ _ _ _ ihOnward ihRest =>
    rw [List.map_append, List.map_cons, List.cons_append, Sprung, sprung_append, List.length_map]
    exact ⟨below, ihOnward (Nat.lt_succ_self next),
      ihRest (Nat.lt_of_lt_of_le below (Nat.le_trans (Nat.le_succ _) (Nat.le_add_right _ _)))⟩

theorem kin (done : Factored left next before bodies splits) (below : left < next)
    (own : ∀ body ∈ bodies, h.Produces left body) (entered : ∀ split ∈ splits, Entered h split) :
    h.Kin ⟨left, splits.map (·.rule.left)⟩ := by
  induction done with
  | nil => exact .alone
  | empty _ ih => exact ih below (List.forall_mem_cons.mp own).2 entered
  | single _ _ ih => exact ih below (List.forall_mem_cons.mp own).2 entered
  | @group left next s body later shared rests inner bodies splits cause _ _ _ _ ihOnward ihRest =>
    obtain ⟨branch, own⟩ := List.forall_mem_cons.mp own
    obtain ⟨here, others⟩ := List.forall_mem_append.mp entered
    obtain ⟨first, inside⟩ := List.forall_mem_cons.mp here
    have wider : left < next + 1 + inner.length :=
      Nat.lt_of_lt_of_le below (Nat.le_trans (Nat.le_succ _) (Nat.le_add_right _ _))
    rw [List.map_append, List.map_cons]
    exact .graft first.named below branch (ihOnward (Nat.lt_succ_self next) first.bodies inside)
      (ihRest wider own others)

end Factored

namespace FactoredRules

variable {before rules : List Rule} {splits : List Split}

theorem map_left (done : FactoredRules next before rules splits) :
    splits.map (·.rule.left) = List.range' next splits.length := by
  induction done with
  | nil => rfl
  | cons here _ ih => rw [List.map_append, here.lefts, ih, List.range'_append_1, List.length_append]

theorem sprung (done : FactoredRules next before rules splits) (below : ∀ rule ∈ before, rule.left < next) :
    Sprung next (splits.map Split.introduction) := by
  induction done with
  | nil => trivial
  | @cons next rule later bodies splits rules others here _ ih =>
    obtain ⟨first, below⟩ := List.forall_mem_cons.mp below
    rw [List.map_append, sprung_append, List.length_map]
    exact ⟨here.sprung first,
      ih fun rule listed => Nat.lt_of_lt_of_le (below rule listed) (Nat.le_add_right _ _)⟩

theorem arranged (done : FactoredRules next before rules splits) (below : ∀ rule ∈ before, rule.left < next)
    (listed : ∀ rule ∈ rules, ∀ body ∈ rule.bodies, h.Produces rule.left body)
    (named : ∀ split ∈ splits, NamedAfter (h.nameOf split.introduction.parent) (h.nameOf split.rule.left)) :
    ∃ families, h.Arranged next splits.length before rules families := by
  induction done with
  | nil => exact ⟨[], .nil⟩
  | @cons next rule later bodies splits rules others here _ ih =>
    obtain ⟨first, below⟩ := List.forall_mem_cons.mp below
    obtain ⟨inner, listed⟩ := List.forall_mem_append.mp listed
    obtain ⟨own, inner⟩ := List.forall_mem_cons.mp inner
    obtain ⟨near, named⟩ := List.forall_mem_append.mp named
    obtain ⟨families, rest⟩ :=
      ih (fun rule member => Nat.lt_of_lt_of_le (below rule member) (Nat.le_add_right _ _)) listed named
    have kin := here.kin first own fun split member =>
      ⟨near split member, inner _ (List.mem_map_of_mem member)⟩
    rw [here.lefts] at kin
    rw [List.length_append]
    refine ⟨_, rest.cons ?_ kin⟩
    rw [List.map_cons, List.map_map, ← here.lefts]
    rfl

end FactoredRules
end Factoring

namespace LeftRecursion
open Grammar

variable {h : Grammar}

/-- Whatever becomes of the elimination, only old nonterminals are split. -/
theorem parent_mem_of_introduced {limit : Nat} {finished later : List Rule} {next : Symbol} :
    ∀ introduction ∈ (eliminate limit finished next later).introduced,
      introduction.parent ∈ later.map Rule.left := by
  induction later generalizing finished next with
  | nil => simp [eliminate]
  | cons rule later ih =>
    intro introduction member
    unfold eliminate at member
    split at member
    · cases member
    · dsimp only at member
      split at member
      · exact List.mem_cons_of_mem _ (ih introduction member)
      · split at member
        · cases member
        · rcases List.mem_cons.mp member with rfl | member
          · exact List.mem_cons_self
          · exact List.mem_cons_of_mem _ (ih introduction member)

theorem Eliminates.arranged {finished later rules : List Rule} {next : Symbol} {introduced : List Introduction}
    (done : Eliminates finished next later introduced rules) (below : ∀ rule ∈ later, rule.left < next)
    (listed : ∀ rule ∈ rules, ∀ body ∈ rule.bodies, h.Produces rule.left body)
    (named : List.Forall₂ (fun s introduction => NamedAfter (h.nameOf introduction.parent) (h.nameOf s))
      (List.range' next introduced.length) introduced) :
    ∃ families, h.Arranged next introduced.length later rules families ∧
      ∀ family ∈ families, family.fresh.length ≤ 1 := by
  induction done with
  | nil => exact ⟨[], .nil, by simp⟩
  | @keep finished next rule later introduced rules bodies _ _ _ ih =>
    obtain ⟨_, below⟩ := List.forall_mem_cons.mp below
    obtain ⟨_, listed⟩ := List.forall_mem_cons.mp listed
    obtain ⟨families, rest, single⟩ := ih below listed named
    refine ⟨⟨rule.left, []⟩ :: families, ?_, List.forall_mem_cons.mpr ⟨Nat.zero_le 1, single⟩⟩
    have placed : h.Arranged next (0 + introduced.length) (rule :: later)
        ([⟨rule.left, bodies⟩] ++ rules) (⟨rule.left, List.range' next 0⟩ :: families) :=
      .cons rest rfl .alone
    rwa [Nat.zero_add] at placed
  | @split finished next rule later introduced rules bodies _ founded _ ih =>
    obtain ⟨first, below⟩ := List.forall_mem_cons.mp below
    obtain ⟨own, listed⟩ := List.forall_mem_cons.mp listed
    obtain ⟨_, listed⟩ := List.forall_mem_cons.mp listed
    obtain ⟨name, named⟩ := List.forall₂_cons.mp named
    obtain ⟨families, rest, single⟩ :=
      ih (fun rule member => Nat.lt_succ_of_lt (below rule member)) listed named
    obtain ⟨body, chosen⟩ := List.exists_mem_of_ne_nil _ founded
    have produces : h.Produces rule.left (body ++ [next]) := own _ (List.mem_map_of_mem chosen)
    refine ⟨⟨rule.left, [next]⟩ :: families, ?_, List.forall_mem_cons.mpr ⟨Nat.le_refl 1, single⟩⟩
    have placed : h.Arranged next (1 + introduced.length) (rule :: later)
        ([restarted rule.left next bodies, repetition rule.left next bodies] ++ rules)
        (⟨rule.left, List.range' next 1⟩ :: families) :=
      .cons rest rfl (.graft name first produces .alone .alone)
    rwa [Nat.add_comm] at placed

end LeftRecursion

namespace Grammar

variable {g h : Grammar} {supply : NameSupply}

theorem WellFormed.sprung_eliminate (valid : g.WellFormed) :
    Sprung g.size (LeftRecursion.eliminate g.passLimit [] g.size g.rules).introduced :=
  sprung_of_lt fun _ member =>
    (valid.nonterminal_bounds (LeftRecursion.parent_mem_of_introduced _ member)).2

theorem arranged_factorWith (valid : g.WellFormed) (supply : NameSupply) :
    let h := (g.factorWith supply).result
    ∃ families, h.Arranged g.size (h.size - g.size) g.rules h.rules families := by
  intro h
  let splits := (Factoring.factorRules g.size g.rules).2
  have done : Factoring.FactoredRules g.size g.rules h.rules splits := Factoring.factoredRules g.size g.rules
  have names := introduce_named (known_reserveGrammar supply) (done.sprung valid.left_lt)
  rw [List.length_map, ← done.map_left, List.forall₂_map_left_iff, List.forall₂_map_right_iff,
    List.forall₂_same] at names
  have extension := g.extends_introduce supply (splits.map Split.introduction) h.rules
  have size : h.size = g.size + (splits.map Split.introduction).length := extension.size
  rw [size, Nat.add_sub_cancel_left, List.length_map]
  exact done.arranged valid.left_lt produces_of_listed names

theorem arranged_eliminateLeftRecursion (valid : g.WellFormed)
    (eliminated : (g.eliminateLeftRecursionWith supply).result = .ok h) :
    ∃ families, h.Arranged g.size (h.size - g.size) g.rules h.rules families ∧
      ∀ family ∈ families, family.fresh.length ≤ 1 := by
  obtain ⟨outcome, same, _⟩ := outcome_of_eliminateLeftRecursion eliminated
  let introduced := (LeftRecursion.eliminate g.passLimit [] g.size g.rules).introduced
  have names := introduce_named (known_reserveGrammar supply) (valid.sprung_eliminate)
  have extension := g.extends_introduce supply introduced h.rules
  rw [← same] at extension
  rw [extension.size, Nat.add_sub_cancel_left]
  refine (LeftRecursion.eliminates_of_ok outcome).arranged valid.left_lt produces_of_listed ?_
  rw [same]
  exact names

/-- Left sides below `next` are the roots. -/
theorem Arranged.mem_iff {next count : Nat} {before after : List Rule} {families : List Family}
    (arranged : h.Arranged next count before after families) {s : Symbol} (old : s < next) :
    s ∈ after.map Rule.left ↔ s ∈ before.map Rule.left := by
  have new : s ∉ families.flatMap Family.fresh := by
    rw [arranged.fresh, List.mem_range'_1]
    exact fun bounds => Nat.not_le_of_lt old bounds.1
  rw [← arranged.members, ← arranged.roots, List.mem_flatMap, List.mem_map]
  constructor
  · rintro ⟨family, listed, member⟩
    rcases List.mem_cons.mp member with same | member
    · exact ⟨family, listed, same.symm⟩
    · exact absurd (List.mem_flatMap.mpr ⟨family, listed, member⟩) new
  · rintro ⟨family, listed, rfl⟩
    exact ⟨family, listed, List.mem_cons_self⟩

theorem kind_item (s : Symbol) : (g.item s).kind = g.kindOf s := by
  unfold item kindOf
  split
  · rfl
  · split
    · rfl
    · cases found : g.rules.find? (·.left == s) with
      | some rule =>
        have left : rule.left = s := by simpa using List.find?_some found
        have nonterminal : g.isNonterminal s = true :=
          isNonterminal_iff.mpr (left ▸ List.mem_map_of_mem (List.mem_of_find?_eq_some found))
        rw [if_pos nonterminal]
        rfl
      | none =>
        have other : ¬ g.isNonterminal s = true := by
          simpa [isNonterminal] using List.find?_eq_none.mp found
        rw [if_neg other]
        rfl

end Grammar

namespace Registry
open Grammar

/-- Nothing is lost in `r'`, and what it has more than `r` are new nonterminals in the families of the
old ones. -/
structure Grown (r r' : Registry) (families : List Family) : Prop where
  kept : ∀ (s : Symbol) (item : Item), r.items[s]? = some item →
    ∃ item' : Item, r'.items[s]? = some item' ∧ item'.kind = item.kind ∧ item'.name = item.name
  /-- Every name leads where it led before. -/
  names : r.names <+: r'.names
  start : r'.start = r.start
  roots : families.map Family.root = r.order
  members : families.flatMap Family.members = r'.order
  /-- In the order in which they stand, the new ones take the numbers after the last old one. -/
  fresh : families.flatMap Family.fresh =
    List.range' r.items.length (r'.items.length - r.items.length)
  named : ∀ family ∈ families, ∀ s ∈ family.fresh,
    r'.isNonterminal s = true ∧ NamedAfter (r.nameOf family.root) (r'.nameOf s)
  /-- What a new one was split from stands before it in the family, and it stands there for the rest
  of an alternative. -/
  split : ∀ family ∈ families, ∀ s ∈ family.fresh, ∃ t ∈ family.members, t < s ∧
    ∃ body ∈ r'.bodiesOf t, body.getLast? = some s

theorem grown_registry {g h : Grammar} {count : Nat} {families : List Family} (valid : g.WellFormed)
    (valid' : h.WellFormed) (extension : g.Extends h count) (longer : g.declared <+: h.declared)
    (arranged : h.Arranged g.size (h.size - g.size) g.rules h.rules families) :
    g.registry.Grown h.registry families where
  kept := by
    intro s item stored
    obtain ⟨below, rfl⟩ := items_eq_some.mp stored
    have wider : s < h.size := extension.size ▸ Nat.lt_add_right count below
    have nonterminal : h.isNonterminal s = g.isNonterminal s := by
      rw [Bool.eq_iff_iff, isNonterminal_iff, isNonterminal_iff]
      exact arranged.mem_iff below
    refine ⟨h.item s, items_eq_some.mpr ⟨wider, rfl⟩, ?_, ?_⟩
    · rw [kind_item, kind_item, kindOf, kindOf, nonterminal]
    · rw [item_name, item_name, extension.nameOf s below]
  names := by
    obtain ⟨fresh, declared⟩ := longer
    have names : h.registry.names = reserved ++ h.declared.zipIdx 2 := rfl
    rw [names, ← declared, List.zipIdx_append, ← List.append_assoc]
    exact List.prefix_append _ _
  start := extension.start
  roots := arranged.roots
  members := arranged.members
  fresh := by
    have before : g.registry.items.length = g.size := next_registry
    have after : h.registry.items.length = h.size := next_registry
    rw [before, after, arranged.fresh]
  named := by
    intro family listed s member
    have root : family.root ∈ g.nonterminals := by
      rw [nonterminals, ← arranged.roots]
      exact List.mem_map_of_mem listed
    have new : s ∈ h.nonterminals := by
      rw [nonterminals, ← arranged.members]
      exact List.mem_flatMap.mpr ⟨family, listed, List.mem_cons_of_mem _ member⟩
    have below := (valid.nonterminal_bounds root).2
    rw [valid'.numbered.isNonterminal_registry, isNonterminal_iff, nameOf_registry below,
      nameOf_registry (valid'.nonterminal_bounds new).2, ← extension.nameOf _ below]
    exact ⟨new, (arranged.kin family listed).named s member⟩
  split := by
    intro family listed s member
    obtain ⟨t, inside, before, front, produces⟩ := (arranged.kin family listed).split s member
    obtain ⟨rule, given, rfl, chosen⟩ := produces_iff.mp produces
    refine ⟨rule.left, inside, before, shown (front ++ [s]), ?_, by simp [shown]⟩
    rw [valid'.numbered.bodiesOf_registry given]
    exact List.mem_map_of_mem chosen

/-- Transformations only add. The old symbols keep number, kind and name, the start symbol stays, and
behind each old nonterminal stand the new ones that were split from it, named after it and numbered
along the whole order. Elimination splits a nonterminal once at most. -/
theorem transformed_grown {r : Registry} (obtained : r.Obtained) (supply : NameSupply) :
    (∀ r', (r.eliminateLeftRecursionWith supply).1 = .ok r' → ∃ families, r.Grown r' families ∧
        ∀ family ∈ families, family.fresh.length ≤ 1) ∧
      ∃ families, r.Grown (r.factorWith supply).1 families := by
  obtain ⟨g, reachable, rfl⟩ := obtained.exists_reachable
  have valid := reachable.wellFormed
  constructor
  · intro r' transformed
    rw [eliminateLeftRecursionWith_registry valid] at transformed
    cases eliminated : (g.eliminateLeftRecursionWith supply).result with
    | error _ =>
      rw [eliminated] at transformed
      cases transformed
    | ok h =>
      rw [eliminated] at transformed
      obtain rfl := Except.ok.inj transformed
      obtain ⟨_, _, extension, _⟩ := eliminates_of_eliminateLeftRecursion eliminated
      obtain ⟨families, arranged, single⟩ := arranged_eliminateLeftRecursion valid eliminated
      have longer : g.declared <+: h.declared := ⟨_, (eliminateLeftRecursionWith_issued eliminated).symm⟩
      exact ⟨families, grown_registry valid (valid.eliminated eliminated) extension longer arranged, single⟩
  · obtain ⟨_, _, extension⟩ := factorWith_result (g := g) supply
    obtain ⟨families, arranged⟩ := arranged_factorWith valid supply
    have longer : g.declared <+: (g.factorWith supply).result.declared :=
      ⟨_, (g.factorWith_issued supply).symm⟩
    rw [factorWith_registry valid]
    exact ⟨families, grown_registry valid (valid.factored supply) extension longer arranged⟩

/-- In the second grammar the rest that was split off has a rest split off in turn. -/
theorem additions_grown :
    (additions.eliminateLeftRecursionWith ⟨["E\x27"]⟩).1 = .ok additionsEliminated ∧
      (∃ families, additions.Grown additionsEliminated families ∧
        ∀ family ∈ families, family.fresh.length ≤ 1) ∧
      (scattered.factorWith .empty).1 = scatteredFactored ∧
      ∃ families, scattered.Grown scatteredFactored families := by
  have eliminated :
      (additions.eliminateLeftRecursionWith ⟨["E\x27"]⟩).1 = .ok additionsEliminated := by cbv
  have factored : (scattered.factorWith .empty).1 = scatteredFactored := by cbv
  have moved : withStart { additions with start := some 2 } "T" = .ok additions := by cbv
  have built : ofText "E -> E + T | E + F | T\nT -> x\nF -> y" =
    .ok { additions with start := some 2 } := by cbv
  have first := (transformed_grown (.start (.text built) moved) ⟨["E\x27"]⟩).1 _ eliminated
  have second := (transformed_grown obtained_scattered .empty).2
  rw [factored] at second
  exact ⟨eliminated, first, factored, second⟩

end Registry
end Predictive
