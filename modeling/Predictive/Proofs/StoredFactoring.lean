import Mathlib.Data.List.Infix
import Predictive.Proofs.Factored
import Predictive.Proofs.Stored
import Predictive.Registry.Factoring

/-! Left factoring on a registry is left factoring on the grammar that it stores. Sorting all
alternatives into groups first comes to the same as taking one group out after the other, and
the new nonterminals are entered in the order in which they are named. -/

namespace Predictive.Registry
open Grammar

/-! Groups -/

theorem sortIn_other {key : Symbol} {tail : List Symbol} {group : Group} {later : List Group}
    (other : ¬(key ≠ Symbol.empty ∧ group.key = key)) :
    sortIn key tail (group :: later) = group :: sortIn key tail later := by
  rw [sortIn, if_neg other]

/-- The first group takes up all that begins as it does, and the rest is sorted behind it. -/
theorem foldl_sortIn {s : Symbol} (keyed : s ≠ Symbol.empty) (bodies tails : List (List Symbol))
    (later : List Group) :
    bodies.foldl (fun groups body => sortIn (body.headD Symbol.empty) body.tail groups)
        (⟨s, tails⟩ :: later) =
      ⟨s, tails ++ tailsOf s bodies⟩ :: (notBeginning s bodies).foldl
        (fun groups body => sortIn (body.headD Symbol.empty) body.tail groups) later := by
  induction bodies generalizing tails later with
  | nil => simp [tailsOf, notBeginning]
  | cons body others ih =>
    rw [List.foldl_cons]
    by_cases begins : body.head? = some s
    · obtain ⟨rest, rfl⟩ := List.head?_eq_some_iff.mp begins
      have joined : sortIn ((s :: rest).headD Symbol.empty) (s :: rest).tail (⟨s, tails⟩ :: later) =
          ⟨s, tails ++ [rest]⟩ :: later := if_pos ⟨keyed, rfl⟩
      rw [joined, ih, tailsOf_cons_self, notBeginning_cons_self, List.append_assoc,
        List.singleton_append]
    · have other : ¬(body.headD Symbol.empty ≠ Symbol.empty ∧ s = body.headD Symbol.empty) := by
        cases body with
        | nil => simp
        | cons t rest => simpa [eq_comm] using fun _ => begins
      rw [sortIn_other other, ih, tailsOf_cons_of_ne begins, notBeginning_cons_of_ne begins,
        List.foldl_cons]

theorem foldl_sortIn_empty (bodies tails : List (List Symbol)) (later : List Group) :
    bodies.foldl (fun groups body => sortIn (body.headD Symbol.empty) body.tail groups)
        (⟨Symbol.empty, tails⟩ :: later) =
      ⟨Symbol.empty, tails⟩ :: bodies.foldl
        (fun groups body => sortIn (body.headD Symbol.empty) body.tail groups) later := by
  induction bodies generalizing later with
  | nil => rfl
  | cons body others ih =>
    rw [List.foldl_cons, sortIn_other fun both => both.1 both.2.symm, ih, List.foldl_cons]

theorem tailsOf_shown {s : Symbol} (keyed : s ≠ Symbol.empty) (bodies : List Body) :
    tailsOf s (bodies.map shown) = tailsOf s bodies ∧
      notBeginning s (bodies.map shown) = (notBeginning s bodies).map shown := by
  induction bodies with
  | nil => exact ⟨rfl, rfl⟩
  | cons body later ih =>
    obtain ⟨tails, others⟩ := ih
    rw [List.map_cons]
    by_cases begins : body.head? = some s
    · obtain ⟨rest, rfl⟩ := List.head?_eq_some_iff.mp begins
      have same : shown (s :: rest) = s :: rest := rfl
      rw [same, tailsOf_cons_self, tailsOf_cons_self, notBeginning_cons_self, notBeginning_cons_self,
        tails, others]
      exact ⟨rfl, rfl⟩
    · have other : (shown body).head? ≠ some s := by
        simpa [begins] using head?_shown keyed body
      rw [tailsOf_cons_of_ne begins, tailsOf_cons_of_ne other, notBeginning_cons_of_ne begins,
        notBeginning_cons_of_ne other, tails, others]
      exact ⟨rfl, rfl⟩

theorem groups_empty (later : List Body) :
    groups (([] :: later).map shown) = ⟨Symbol.empty, [[]]⟩ :: groups (later.map shown) :=
  foldl_sortIn_empty (later.map shown) [[]] []

theorem groups_cons {s : Symbol} (keyed : s ≠ Symbol.empty) (body : Body) (later : List Body) :
    groups (((s :: body) :: later).map shown) =
      ⟨s, body :: tailsOf s later⟩ :: groups ((notBeginning s later).map shown) := by
  have sorted := foldl_sortIn keyed (later.map shown) [body] []
  obtain ⟨tails, others⟩ := tailsOf_shown keyed later
  rwa [tails, others] at sorted

/-! What a group shares -/

theorem any_ne_head_eq_false {first : List Symbol} {others : List (List Symbol)} {i : Nat} :
    (first :: others).any (·[i]? != ((first :: others).headD [])[i]?) = false ↔
      ∀ body ∈ first :: others, body[i]? = first[i]? := by
  simp

/-- The bodies agree on what they share and on no more. -/
theorem agreement_eq {first : List Symbol} {others : List (List Symbol)} (shared : List Symbol)
    (inside : ∀ body ∈ first :: others, shared <+: body)
    (greatest : ∀ s, ¬ ∀ body ∈ first :: others, shared ++ [s] <+: body) :
    agreement (first :: others) = shared.length := by
  obtain ⟨shortest, least⟩ : ∃ n, ((first :: others).map List.length).min? = some n :=
    Option.ne_none_iff_exists'.mp (by simp)
  obtain ⟨attained, bound⟩ := List.min?_eq_some_iff.mp least
  obtain ⟨body, member, rfl⟩ := List.mem_map.mp attained
  have within : ∀ other ∈ first :: others, body.length ≤ other.length := fun other listed =>
    bound _ (List.mem_map_of_mem listed)
  have alike : ∀ i < shared.length,
      (first :: others).any (·[i]? != ((first :: others).headD [])[i]?) = false := by
    intro i early
    have agree : ∀ other ∈ first :: others, other[i]? = some shared[i] := fun other listed =>
      List.prefix_iff_getElem?.mp (inside other listed) i early
    refine any_ne_head_eq_false.mpr fun other listed => ?_
    rw [agree other listed, agree first List.mem_cons_self]
  rw [agreement, least, Option.getD_some]
  rcases Nat.lt_or_eq_of_le (inside body member).length_le with shorter | full
  · have inFirst : shared.length < first.length :=
      Nat.lt_of_lt_of_le shorter (within first List.mem_cons_self)
    have differs : (first :: others).any
        (·[shared.length]? != ((first :: others).headD [])[shared.length]?) ≠ false := by
      intro same
      refine greatest first[shared.length] fun other listed => ?_
      have inOther : shared.length < other.length := Nat.lt_of_lt_of_le shorter (within other listed)
      have last : other[shared.length] = first[shared.length] := by
        simpa [inFirst, inOther] using any_ne_head_eq_false.mp same other listed
      rw [← last]
      exact List.concat_get_prefix (inside other listed) inOther
    have found : (List.range body.length).find? (fun i => (first :: others).any
        (·[i]? != ((first :: others).headD [])[i]?)) = some shared.length :=
      List.find?_range_eq_some.mpr ⟨eq_true_of_ne_false differs, List.mem_range.mpr shorter,
        fun i early => by
          rw [alike i early]
          rfl⟩
    rw [found]
    rfl
  · have none : (List.range body.length).find? (fun i => (first :: others).any
        (·[i]? != ((first :: others).headD [])[i]?)) = none :=
      List.find?_range_eq_none.mpr fun i early => by
        rw [alike i (full ▸ early)]
        rfl
    rw [none]
    exact full.symm

theorem shared_eq {s : Symbol} {body : Body} {tails : List Body} (several : tails ≠ []) :
    Group.shared ⟨s, body :: tails⟩ = (Body.commonToAll body tails).length + 1 := by
  have long : 1 < (body :: tails).length := by
    rw [List.length_cons]
    exact Nat.succ_lt_succ (List.length_pos_of_ne_nil several)
  rw [Group.shared, if_pos long]
  apply agreement_eq (s :: Body.commonToAll body tails)
  · intro other listed
    replace listed : other ∈ (body :: tails).map (s :: ·) := listed
    obtain ⟨tail, member, rfl⟩ := List.mem_map.mp listed
    refine List.cons_prefix_cons.mpr ⟨rfl, ?_⟩
    rcases List.mem_cons.mp member with rfl | behind
    · exact Body.commonToAll_prefix _ _
    · exact Body.commonToAll_prefix_of_mem behind
  · intro t longer
    have tail : ∀ other ∈ body :: tails, Body.commonToAll body tails ++ [t] <+: other := by
      intro other member
      exact (List.cons_prefix_cons.mp (longer _ (List.mem_map_of_mem member))).2
    obtain ⟨here, behind⟩ := List.forall_mem_cons.mp tail
    have impossible := (Body.prefix_commonToAll here behind).length_le
    rw [List.length_append] at impossible
    exact absurd impossible (Nat.not_succ_le_self _)

theorem take_shared {s : Symbol} {body : Body} {tails : List Body} (several : tails ≠ []) :
    ((Group.bodies ⟨s, body :: tails⟩).headD []).take (Group.shared ⟨s, body :: tails⟩) =
      s :: Body.commonToAll body tails := by
  have head : (Group.bodies ⟨s, body :: tails⟩).headD [] = s :: body := rfl
  rw [head, shared_eq several, List.take_succ_cons,
    ← List.prefix_iff_eq_take.mp (Body.commonToAll_prefix body tails)]

theorem rests_eq {s : Symbol} {body : Body} {tails : List Body} (several : tails ≠ [])
    (plain : Bare (body :: tails)) :
    Group.rests ⟨s, body :: tails⟩ =
      ((body :: tails).map (·.drop (Body.commonToAll body tails).length)).map shown := by
  rw [Group.rests, shared_eq several, Group.bodies, List.map_map, List.map_map]
  refine List.map_congr_left fun tail member => ?_
  have dropped : Symbol.empty ∉ tail.drop (Body.commonToAll body tails).length := fun inside =>
    plain tail member (List.mem_of_mem_drop inside)
  rw [Function.comp_apply, List.drop_succ_cons, normalize, bare_eq_self dropped]
  rfl

end Predictive.Registry

namespace Predictive.Grammar

/-! Naming what was split off -/

/-- The grammar with the left sides of the splits named, and with other rules. -/
def splitBy (h : Grammar) (supply : NameSupply) (splits : List Split) (rules : List Rule) : Grammar :=
  { (h.introduce supply (splits.map Split.introduction)).result with rules }

/-- The supply once the left sides of the splits are named. -/
def supplyAfter (h : Grammar) (supply : NameSupply) (splits : List Split) : NameSupply :=
  (h.introduce supply (splits.map Split.introduction)).supply

variable (h : Grammar) (supply : NameSupply)

theorem splitBy_nil : h.splitBy supply [] h.rules = h := rfl

theorem splitBy_cons (split : Split) (splits : List Split) (others rules : List Rule) :
    let fresh := supply.fresh (h.nameOf split.introduction.parent)
    h.splitBy supply (split :: splits) rules = (h.grown fresh.1 others).splitBy fresh.2 splits rules ∧
      h.supplyAfter supply (split :: splits) = (h.grown fresh.1 others).supplyAfter fresh.2 splits := by
  intro fresh
  have named := introduce_with (h.grown fresh.1 h.rules) fresh.2 (splits.map Split.introduction) others
  have result := congrArg (fun named : Transformed Grammar => ({ named.result with rules } : Grammar)) named
  have supplied := congrArg Transformed.supply named
  exact ⟨result.symm, supplied.symm⟩

theorem splitBy_append (first second : List Split) (others rules : List Rule) :
    h.splitBy supply (first ++ second) rules =
        (h.splitBy supply first others).splitBy (h.supplyAfter supply first) second rules ∧
      h.supplyAfter supply (first ++ second) =
        (h.splitBy supply first others).supplyAfter (h.supplyAfter supply first) second := by
  have named := introduce_append h supply (first.map Split.introduction) (second.map Split.introduction)
  have same := introduce_with (h.introduce supply (first.map Split.introduction)).result
    (h.supplyAfter supply first) (second.map Split.introduction) others
  rw [← List.map_append] at named
  have result := congrArg (fun named : Transformed Grammar => ({ named.result with rules } : Grammar)) same
  have supplied := congrArg Transformed.supply same
  constructor
  · rw [splitBy, named]
    exact result.symm
  · rw [supplyAfter, named]
    exact supplied.symm

/-- A split, what is split from it, and what comes behind. -/
theorem splitBy_group (split : Split) (inner splits : List Split) (others written rules : List Rule) :
    let fresh := supply.fresh (h.nameOf split.introduction.parent)
    let grown := h.grown fresh.1 others
    h.splitBy supply (split :: inner ++ splits) rules =
        (grown.splitBy fresh.2 inner written).splitBy (grown.supplyAfter fresh.2 inner) splits rules ∧
      h.supplyAfter supply (split :: inner ++ splits) =
        (grown.splitBy fresh.2 inner written).supplyAfter (grown.supplyAfter fresh.2 inner) splits := by
  intro fresh grown
  obtain ⟨first, after⟩ := splitBy_cons h supply split (inner ++ splits) others rules
  obtain ⟨second, last⟩ := splitBy_append grown fresh.2 inner splits written rules
  exact ⟨first.trans second, after.trans last⟩

theorem size_splitBy (splits : List Split) (rules : List Rule) :
    (h.splitBy supply splits rules).size = h.size + splits.length := by
  obtain ⟨fresh, length, declared⟩ := h.introduce_declared supply (splits.map Split.introduction)
  rw [List.length_map] at length
  simp only [splitBy, size, declared, List.length_append, length]
  omega

end Predictive.Grammar

namespace Predictive.Registry
open Grammar Predictive.Factoring

/-- A factoring under way: new nonterminals go behind `placed`, of which the anchor is the last. -/
structure Placing (h : Grammar) (supply : NameSupply) (anchor : Symbol) (placed later : List Rule) :
    Prop where
  numbered : h.Numbered
  rules : h.rules = placed ++ later
  last : (placed.map Rule.left).getLast? = some anchor
  known : ∀ name ∈ h.knownNames, name ∈ supply.taken

variable {h : Grammar} {supply : NameSupply} {anchor left : Symbol} {placed later : List Rule}

namespace Placing

theorem fresh_not_mem (state : Placing h supply anchor placed later) (base : String) :
    (supply.fresh base).1 ∉ h.knownNames :=
  fun member => supply.fresh_not_mem base (state.known _ member)

/-- The new nonterminal comes last, and the next one goes behind it. -/
theorem introduce (state : Placing h supply anchor placed later) (below : left < h.size) :
    let fresh := supply.fresh (h.nameOf left)
    let grown := h.grown fresh.1 (placed ++ ⟨h.size, []⟩ :: later)
    Draft.introduce ⟨h.registry, supply, anchor⟩ left = ⟨grown.registry, fresh.2, h.size⟩ ∧
      Placing grown fresh.2 h.size (placed ++ [⟨h.size, []⟩]) later := by
  intro fresh grown
  obtain ⟨rule, final, same⟩ := Option.map_eq_some_iff.mp (List.getLast?_map ▸ state.last)
  obtain ⟨before, rfl⟩ := List.getLast?_eq_some_iff.mp final
  have new := state.fresh_not_mem (h.nameOf left)
  constructor
  · have split : h.rules = before ++ rule :: later := by
      rw [state.rules, List.append_assoc, List.singleton_append]
    have entered := state.numbered.addNonterminalAfter_registry new split
    have name : h.registry.nameOf left = h.nameOf left := nameOf_registry below
    unfold Draft.introduce
    dsimp only
    rw [name, next_registry, ← same, entered]
    simp only [grown, fresh, List.append_assoc, List.singleton_append]
  · exact ⟨state.numbered.push new state.rules, by rw [List.append_assoc]; rfl, by simp,
      known_grown state.known⟩

/-- A rule that has been placed is written. -/
theorem setBodies {before behind : List Rule} {s : Symbol} {old bodies : List Body}
    (state : Placing h supply anchor (before ++ ⟨s, old⟩ :: behind) later) (plain : Bare bodies) :
    let written : Grammar := { h with rules := (before ++ ⟨s, bodies⟩ :: behind) ++ later }
    Draft.setBodies ⟨h.registry, supply, anchor⟩ s (bodies.map shown) =
        ⟨written.registry, supply, anchor⟩ ∧
      Placing written supply anchor (before ++ ⟨s, bodies⟩ :: behind) later := by
  intro written
  have split : h.rules = before ++ ⟨s, old⟩ :: (behind ++ later) := by
    rw [state.rules, List.append_assoc, List.cons_append]
  constructor
  · have stored := state.numbered.setBodies_registry split plain
    unfold Draft.setBodies
    dsimp only
    rw [stored]
    simp only [written, List.append_assoc, List.cons_append]
  · have lefts : ((before ++ ⟨s, bodies⟩ :: behind) ++ later).map Rule.left = h.nonterminals := by
      simp [nonterminals, state.rules]
    exact ⟨state.numbered.of_lefts lefts, rfl, by simpa using state.last, state.known⟩

/-- A new nonterminal is introduced, its bodies are factored, and its rule is written. -/
theorem split {groups : List Group} {rests : List Body} {inner : List Split}
    (state : Placing h supply anchor placed later) (below : left < h.size) (bare : Bare rests) :
    let fresh := supply.fresh (h.nameOf left)
    let grown := h.grown fresh.1 (placed ++ ⟨h.size, []⟩ :: later)
    let changed := grown.splitBy fresh.2 inner (placed ++ [⟨h.size, []⟩] ++ inner.map Split.rule ++ later)
    let written := grown.splitBy fresh.2 inner (placed ++ ⟨h.size, rests⟩ :: inner.map Split.rule ++ later)
    (Placing grown fresh.2 h.size (placed ++ [⟨h.size, []⟩]) later →
      ∃ last, factorGroups h.size ⟨grown.registry, fresh.2, h.size⟩ groups =
          (rests.map shown, ⟨changed.registry, grown.supplyAfter fresh.2 inner, last⟩) ∧
        Placing changed (grown.supplyAfter fresh.2 inner) last
          (placed ++ [⟨h.size, []⟩] ++ inner.map Split.rule) later) →
    ∃ last, (let (bodies, state) :=
          factorGroups h.size (Draft.introduce ⟨h.registry, supply, anchor⟩ left) groups
        state.setBodies h.size bodies) = ⟨written.registry, grown.supplyAfter fresh.2 inner, last⟩ ∧
      Placing written (grown.supplyAfter fresh.2 inner) last
        (placed ++ ⟨h.size, rests⟩ :: inner.map Split.rule) later := by
  intro fresh grown changed written factored
  obtain ⟨entered, first⟩ := state.introduce below
  obtain ⟨last, found, inside⟩ := factored first
  have order : placed ++ [⟨h.size, []⟩] ++ inner.map Split.rule =
      placed ++ ⟨h.size, []⟩ :: inner.map Split.rule := by
    rw [List.append_assoc, List.singleton_append]
  rw [order] at inside
  obtain ⟨stored, second⟩ := inside.setBodies bare
  refine ⟨last, ?_, second⟩
  rw [entered, found]
  exact stored

end Placing

/-- The groups of a rule are treated as factoring treats its alternatives, by induction on what
factoring has done. -/
theorem factorGroups_registry {next : Symbol} {given bodies : List Body} {splits : List Split}
    (done : Factored left next given bodies splits) (state : Placing h supply anchor placed later)
    (size : h.size = next) (below : left < next)
    (bounds : ∀ body ∈ given, ∀ s ∈ body, 0 < s ∧ s < next) (low : 2 ≤ next) :
    let changed := h.splitBy supply splits (placed ++ splits.map Split.rule ++ later)
    ∃ last, factorGroups left ⟨h.registry, supply, anchor⟩ (groups (given.map shown)) =
        (bodies.map shown, ⟨changed.registry, h.supplyAfter supply splits, last⟩) ∧
      Placing changed (h.supplyAfter supply splits) last (placed ++ splits.map Split.rule) later := by
  induction done generalizing h supply anchor placed later with
  | nil =>
    have same : h.splitBy supply [] (placed ++ [] ++ later) = h := by
      rw [List.append_nil, ← state.rules, splitBy_nil]
    refine ⟨anchor, ?_, ?_⟩
    · rw [List.map_nil, List.map_nil, same]
      exact factorGroups.eq_1 _ _
    · rw [List.map_nil, same, List.append_nil]
      exact state
  | empty _ ih =>
    obtain ⟨last, found, after⟩ := ih state size below (List.forall_mem_cons.mp bounds).2 low
    refine ⟨last, ?_, after⟩
    rw [groups_empty, factorGroups, if_pos (.inl rfl), found]
    rfl
  | @single left next s body others bodies splits alone _ ih =>
    obtain ⟨here, bounds⟩ := List.forall_mem_cons.mp bounds
    have keyed : s ≠ Symbol.empty := Nat.ne_of_gt (here s List.mem_cons_self).1
    obtain ⟨last, found, after⟩ := ih state size below bounds low
    refine ⟨last, ?_, after⟩
    rw [groups_cons keyed, alone, notBeginning_of_tailsOf alone, factorGroups, if_pos (.inr rfl), found]
    rfl
  | @group left next s body others shared rests inner bodies splits cause several common onward rest
      ihOnward ihRest =>
    subst size
    obtain ⟨here, behind⟩ := List.forall_mem_cons.mp bounds
    have keyed : s ≠ Symbol.empty := Nat.ne_of_gt (here s List.mem_cons_self).1
    have tails : ∀ tail ∈ body :: tailsOf s others, ∀ t ∈ tail, 0 < t ∧ t < h.size :=
      List.forall_mem_cons.mpr ⟨(List.forall_mem_cons.mp here).2, bounds_of_tailsOf behind⟩
    have plain : Bare (body :: tailsOf s others) := bare_of_bounds tails
    have shares : ¬(s = Symbol.empty ∨ Group.shared ⟨s, body :: tailsOf s others⟩ = 0) := by
      rw [shared_eq several]
      exact not_or.mpr ⟨keyed, Nat.succ_ne_zero _⟩
    have restBounds : ∀ rest ∈ (body :: tailsOf s others).map (·.drop shared.length), ∀ t ∈ rest,
        0 < t ∧ t < h.size + 1 := fun rest member =>
      bounds_mono (Factored.bounds_of_rests bounds rest member) (Nat.le_succ _)
    have bareRests : Bare rests := bare_of_bounds (onward.bounds (Nat.le_succ_of_le low) restBounds).1
    obtain ⟨middle, written, second⟩ := state.split below bareRests fun entered =>
      ihOnward entered size_grown (Nat.lt_succ_self _) restBounds (Nat.le_succ_of_le low)
    have wider : h.size ≤ h.size + 1 + inner.length :=
      Nat.le_trans (Nat.le_succ _) (Nat.le_add_right _ _)
    obtain ⟨last, found, after⟩ := ihRest second
      ((size_splitBy _ _ inner _).trans (congrArg (· + inner.length) size_grown))
      (Nat.lt_of_lt_of_le below wider)
      (fun body member => bounds_mono (behind body (List.mem_filter.mp member).1) wider)
      (Nat.le_trans low wider)
    have rules : placed ++ (⟨⟨h.size, rests⟩, ⟨left, cause⟩⟩ :: inner ++ splits).map Split.rule =
        placed ++ ⟨h.size, rests⟩ :: inner.map Split.rule ++ splits.map Split.rule := by
      simp
    obtain ⟨changed, supplied⟩ := splitBy_group h supply
      ⟨⟨h.size, rests⟩, ⟨left, cause⟩⟩ inner splits (placed ++ ⟨h.size, []⟩ :: later)
      (placed ++ ⟨h.size, rests⟩ :: inner.map Split.rule ++ later)
      (placed ++ (⟨⟨h.size, rests⟩, ⟨left, cause⟩⟩ :: inner ++ splits).map Split.rule ++ later)
    dsimp only at changed ⊢
    rw [changed, supplied, rules]
    refine ⟨last, ?_, after⟩
    rw [groups_cons keyed, factorGroups, if_neg shares, rests_eq several plain, ← common]
    dsimp only at written ⊢
    rw [next_registry, written, found, take_shared several, ← common]
    rfl

/-- The alternatives of a rule are replaced, and what was split from it stands behind it. -/
theorem factorBodies_registry {rule : Rule} {treated : List Rule} {bodies : List Body}
    {splits : List Split} (done : Factored rule.left h.size rule.bodies bodies splits)
    (state : Placing h supply rule.left (treated ++ [rule]) later) (within : rule.Within h.size) :
    let changed := h.splitBy supply splits (treated ++ ⟨rule.left, bodies⟩ :: splits.map Split.rule ++ later)
    ∃ last, factorBodies rule.left (rule.bodies.map shown) ⟨h.registry, supply, rule.left⟩ =
        ⟨changed.registry, h.supplyAfter supply splits, last⟩ ∧
      Placing changed (h.supplyAfter supply splits) last
        (treated ++ ⟨rule.left, bodies⟩ :: splits.map Split.rule) later := by
  have low : 2 ≤ h.size := Nat.le_add_left _ _
  obtain ⟨last, found, after⟩ := factorGroups_registry done state rfl within.left.2 within.symbols low
  have plain : Bare bodies := bare_of_bounds (done.bounds low within.symbols).1
  have order : treated ++ [rule] ++ splits.map Split.rule =
      treated ++ ⟨rule.left, rule.bodies⟩ :: splits.map Split.rule := by
    rw [List.append_assoc, List.singleton_append]
  rw [order] at found after
  obtain ⟨written, placed⟩ := after.setBodies plain
  refine ⟨last, ?_, placed⟩
  rw [factorBodies, found]
  exact written

/-- One nonterminal after the other, by induction on those that remain. -/
theorem foldl_factorNext {g : Grammar} {next : Symbol} {treated rules : List Rule} {splits : List Split}
    (numbered : g.Numbered) (listed : ∀ rule ∈ later, rule ∈ g.rules)
    (done : FactoredRules next later rules splits) (size : h.size = next)
    (current : h.Numbered) (split : h.rules = treated ++ later)
    (within : ∀ rule ∈ later, rule.Within next) (known : ∀ name ∈ h.knownNames, name ∈ supply.taken) :
    (later.map Rule.left).foldl g.registry.factorNext (h.registry, supply) =
      ((h.splitBy supply splits (treated ++ rules)).registry, h.supplyAfter supply splits) := by
  induction done generalizing h supply treated with
  | nil =>
    rw [← split, splitBy_nil]
    rfl
  | @cons next rule later bodies splits rules others here rest ih =>
    subst size
    obtain ⟨first, listed⟩ := List.forall_mem_cons.mp listed
    obtain ⟨bounds, within⟩ := List.forall_mem_cons.mp within
    have state : Placing h supply rule.left (treated ++ [rule]) later :=
      ⟨current, by rw [split, List.append_assoc, List.singleton_append], by simp, known⟩
    obtain ⟨last, found, after⟩ := factorBodies_registry here state bounds
    have onward := ih listed (size_splitBy h supply splits _) after.numbered after.rules
      (fun rule member => (within rule member).mono (Nat.le_add_right _ _)) after.known
    obtain ⟨changed, supplied⟩ := splitBy_append h supply splits others
      (treated ++ ⟨rule.left, bodies⟩ :: splits.map Split.rule ++ later)
      (treated ++ (⟨rule.left, bodies⟩ :: splits.map Split.rule ++ rules))
    have order : treated ++ ⟨rule.left, bodies⟩ :: splits.map Split.rule ++ rules =
        treated ++ (⟨rule.left, bodies⟩ :: splits.map Split.rule ++ rules) := List.append_assoc ..
    rw [order] at onward
    rw [List.map_cons, List.foldl_cons, factorNext, numbered.bodiesOf_registry first, found, changed,
      supplied]
    exact onward

/-- Factoring what is stored is factoring. -/
theorem factorWith_registry {g : Grammar} (valid : g.WellFormed) (supply : NameSupply) :
    g.registry.factorWith supply =
      ((g.factorWith supply).result.registry, (g.factorWith supply).supply) := by
  have loop := foldl_factorNext valid.numbered (fun _ listed => listed)
    (factoredRules g.size g.rules) rfl valid.numbered (List.nil_append g.rules).symm valid.rules
    (known_reserveGrammar supply)
  rw [factorWith, registry_keys]
  exact loop

end Predictive.Registry
