import Predictive.Proofs.EliminationProgress
import Predictive.Proofs.Stored
import Predictive.Registry.Elimination

/-! Left-recursion elimination on a registry is left-recursion elimination on the grammar that
it stores. A pass over all bodies at once does to each what a pass over it alone does, and the
symbols that are entered on the way are the ones that are named at the end. -/

namespace Predictive

namespace LeftRecursion

variable {finished : List Rule}

theorem pass_flatMap (finished : List Rule) (bodies : List Body) :
    finished.foldl (fun bodies rule => rule.substitute bodies) bodies =
      bodies.flatMap (pass finished) := by
  induction finished generalizing bodies with
  | nil => exact (List.flatMap_singleton' bodies).symm
  | cons rule later ih =>
    have apart : rule.substitute bodies = bodies.flatMap fun body => rule.substitute [body] := by
      simp [Rule.substitute]
    rw [List.foldl_cons, ih, apart, List.flatMap_assoc]
    congr 1
    funext body
    exact (ih (rule.substitute [body])).symm

theorem substitute_of_ne {rule : Rule} {bodies : List Body}
    (other : ∀ body ∈ bodies, body.head? ≠ some rule.left) : rule.substitute bodies = bodies := by
  induction bodies with
  | nil => rfl
  | cons body later ih =>
    obtain ⟨here, behind⟩ := List.forall_mem_cons.mp other
    have rest := ih behind
    unfold Rule.substitute at rest ⊢
    rw [List.flatMap_cons, rest]
    cases body with
    | nil => rfl
    | cons s tail => simp_all

theorem pass_settled {body : Body} (done : settled finished body = true) :
    pass finished body = [body] := by
  have other := settled_iff.mp done
  induction finished with
  | nil => rfl
  | cons rule later ih =>
    rw [List.map_cons] at other
    obtain ⟨here, behind⟩ := List.forall_mem_cons.mp other
    have alone : rule.substitute [body] = [body] :=
      substitute_of_ne (List.forall_mem_singleton.mpr here)
    rw [pass, List.foldl_cons, alone]
    exact ih (settled_iff.mpr behind) behind

theorem resolve_succ (passes : Nat) (body : Body) :
    resolve finished (passes + 1) body =
      ((pass finished body).mapM (resolve finished passes)).map List.flatten := by
  by_cases done : settled finished body = true
  · rw [resolve_settled _ done, pass_settled done, List.mapM_cons, resolve_settled _ done]
    rfl
  · rw [resolve, if_neg done]

theorem mapM_eq_none {α β : Type} {f : α → Option β} {items : List α} {a : α} (member : a ∈ items)
    (missing : f a = none) : items.mapM f = none := by
  induction items with
  | nil => cases member
  | cons b later ih =>
    rw [List.mapM_cons]
    rcases List.mem_cons.mp member with rfl | behind
    · simp [missing]
    · cases f b with
      | none => rfl
      | some _ => simp [ih behind]

theorem flatMap_pass_settled {bodies : List Body}
    (done : ∀ body ∈ bodies, settled finished body = true) :
    bodies.flatMap (pass finished) = bodies := by
  induction bodies with
  | nil => rfl
  | cons body later ih =>
    obtain ⟨here, behind⟩ := List.forall_mem_cons.mp done
    rw [List.flatMap_cons, pass_settled here, ih behind]
    rfl

theorem mapM_resolve_settled (passes : Nat) {bodies : List Body}
    (done : ∀ body ∈ bodies, settled finished body = true) :
    (bodies.mapM (resolve finished passes)).map List.flatten = some bodies := by
  induction bodies with
  | nil => rfl
  | cons body later ih =>
    obtain ⟨here, behind⟩ := List.forall_mem_cons.mp done
    obtain ⟨parts, found, same⟩ := Option.map_eq_some_iff.mp (ih behind)
    simp [List.mapM_cons, resolve_settled passes here, found, same]

/-- One more pass may be made over all bodies first. -/
theorem mapM_resolve_succ (passes : Nat) (bodies : List Body) :
    (bodies.mapM (resolve finished (passes + 1))).map List.flatten =
      ((bodies.flatMap (pass finished)).mapM (resolve finished passes)).map List.flatten := by
  induction bodies with
  | nil => rfl
  | cons body later ih =>
    rw [List.mapM_cons, List.flatMap_cons, List.mapM_append, resolve_succ]
    cases (pass finished body).mapM (resolve finished passes) with
    | none => rfl
    | some first =>
      cases here : later.mapM (resolve finished (passes + 1)) <;>
        cases there : (later.flatMap (pass finished)).mapM (resolve finished passes) <;>
        simp_all

end LeftRecursion

namespace Registry
open Grammar LeftRecursion

theorem concat_eq (first rest : List Symbol) : concat first rest = shown (bare first ++ bare rest) :=
  congrArg shown (List.filter_append first rest)

theorem concat_shown {front rest : Body} (first : Symbol.empty ∉ front)
    (second : Symbol.empty ∉ rest) : concat (shown front) rest = shown (front ++ rest) := by
  rw [concat_eq, bare_shown, bare_eq_self first, bare_eq_self second]

theorem substitute_shown {rule : Rule} {bodies : List Body} (low : rule.left ≠ Symbol.empty)
    (alternatives : Bare rule.bodies) (plain : Bare bodies) :
    substitute rule.left (rule.bodies.map shown) (bodies.map shown) =
      (rule.substitute bodies).map shown := by
  induction bodies with
  | nil => rfl
  | cons body later ih =>
    obtain ⟨here, behind⟩ := List.forall_mem_cons.mp plain
    have rest := ih behind
    unfold substitute Rule.substitute at rest ⊢
    rw [List.map_cons, List.flatMap_cons, List.flatMap_cons, List.map_append, rest]
    congr 1
    cases body with
    | nil => simp [shown, Ne.symm low]
    | cons s tail =>
      have inner : Symbol.empty ∉ tail := fun member => here (List.mem_cons_of_mem s member)
      by_cases same : s = rule.left
      · have replaced : (rule.bodies.map shown).map (concat · tail) =
            (rule.bodies.map (· ++ tail)).map shown := by
          rw [List.map_map, List.map_map]
          exact List.map_congr_left fun front chosen => concat_shown (alternatives front chosen) inner
        simpa [shown, same] using replaced
      · simp [shown, same]

theorem bare_substitute {rule : Rule} {bodies : List Body} (alternatives : Bare rule.bodies)
    (plain : Bare bodies) : Bare (rule.substitute bodies) := by
  intro body member
  rcases mem_substitute.mp member with ⟨stays, _⟩ | ⟨front, chosen, rest, inside, rfl⟩
  · exact plain body stays
  · rw [List.mem_append, not_or]
    exact ⟨alternatives front chosen, fun later => plain _ inside (List.mem_cons_of_mem _ later)⟩

variable {g : Grammar} {finished : List Rule}

theorem bare_flatMap_pass (alternatives : ∀ rule ∈ finished, Bare rule.bodies) {bodies : List Body}
    (plain : Bare bodies) : Bare (bodies.flatMap (LeftRecursion.pass finished)) := by
  rw [← pass_flatMap]
  exact List.foldlRecOn finished _ plain fun before kept rule member =>
    bare_substitute (alternatives rule member) kept

theorem visit_shown (numbered : g.Numbered) {rule : Rule} (listed : rule ∈ g.rules)
    (alternatives : Bare rule.bodies) {bodies : List Body} (plain : Bare bodies)
    (substituted : Bool) :
    g.registry.visit (bodies.map shown, substituted) rule.left =
      ((rule.substitute bodies).map shown,
        substituted || bodies.any (·.head? == some rule.left)) := by
  have low := ne_empty (numbered.bounds _ (List.mem_map_of_mem listed)).1
  have begins : (bodies.map shown).any (·.head? == some rule.left) =
      bodies.any (·.head? == some rule.left) := by
    simp only [List.any_map, Function.comp_def, head?_shown low]
  rw [visit, begins, numbered.bodiesOf_registry listed, substitute_shown low alternatives plain]
  cases found : bodies.any (·.head? == some rule.left) with
  | true => simp
  | false =>
    have other : ∀ body ∈ bodies, body.head? ≠ some rule.left := by
      simpa using List.any_eq_false.mp found
    simp [substitute_of_ne other]

/-- A visit leaves nothing to do where the bodies begin with no finished left side, and only there. -/
theorem any_settled (rule : Rule) (later : List Rule) (bodies : List Body) :
    bodies.any (!settled (rule :: later) ·) =
      (bodies.any (·.head? == some rule.left) || (rule.substitute bodies).any (!settled later ·)) := by
  cases found : bodies.any (·.head? == some rule.left) with
  | true =>
    obtain ⟨body, member, same⟩ := List.any_eq_true.mp found
    have open' : settled (rule :: later) body = false := by
      rw [← Bool.not_eq_true, settled_iff]
      exact fun apart => apart _ List.mem_cons_self (beq_iff_eq.mp same)
    exact List.any_eq_true.mpr ⟨body, member, by simp [open']⟩
  | false =>
    have other : ∀ body ∈ bodies, body.head? ≠ some rule.left := by
      simpa using List.any_eq_false.mp found
    rw [substitute_of_ne other, Bool.false_or, Bool.eq_iff_iff, List.any_eq_true, List.any_eq_true]
    have same : ∀ body ∈ bodies, settled (rule :: later) body = settled later body := by
      intro body member
      rw [Bool.eq_iff_iff, settled_iff, settled_iff, List.map_cons, List.forall_mem_cons]
      exact and_iff_right (other body member)
    constructor
    · rintro ⟨body, member, unsettled⟩
      exact ⟨body, member, same body member ▸ unsettled⟩
    · rintro ⟨body, member, unsettled⟩
      exact ⟨body, member, (same body member).symm ▸ unsettled⟩

section Finished

variable (numbered : g.Numbered) (listed : ∀ rule ∈ finished, rule ∈ g.rules)
  (alternatives : ∀ rule ∈ finished, Bare rule.bodies)

include numbered listed alternatives

theorem pass_shown {bodies : List Body} (plain : Bare bodies) :
    g.registry.pass (finished.map Rule.left) (bodies.map shown) =
      ((bodies.flatMap (LeftRecursion.pass finished)).map shown,
        bodies.any (!settled finished ·)) := by
  rw [← pass_flatMap, ← Bool.false_or (bodies.any _), pass]
  generalize false = substituted
  induction finished generalizing bodies substituted with
  | nil => simp [settled]
  | cons rule later ih =>
    obtain ⟨here, listed⟩ := List.forall_mem_cons.mp listed
    obtain ⟨own, alternatives⟩ := List.forall_mem_cons.mp alternatives
    rw [List.map_cons, List.foldl_cons, List.foldl_cons, visit_shown numbered here own plain,
      ih listed alternatives (bare_substitute own plain), any_settled, Bool.or_assoc]

theorem settle_shown (passes : Nat) {bodies : List Body} (plain : Bare bodies) :
    g.registry.settle (finished.map Rule.left) passes (bodies.map shown) =
      ((bodies.mapM (resolve finished passes)).map List.flatten).map (List.map shown) := by
  have plainPass := bare_flatMap_pass alternatives plain
  induction passes generalizing bodies with
  | zero =>
    unfold settle
    rw [pass_shown numbered listed alternatives plain]
    cases unsettled : bodies.any (!settled finished ·) with
    | false =>
      have done : ∀ body ∈ bodies, settled finished body = true := by
        simpa using List.any_eq_false.mp unsettled
      rw [flatMap_pass_settled done, mapM_resolve_settled 0 done]
      rfl
    | true =>
      obtain ⟨body, member, waiting⟩ := List.any_eq_true.mp unsettled
      have stuck : resolve finished 0 body = none := by
        rw [resolve, if_neg (by simpa using waiting)]
      rw [mapM_eq_none member stuck]
      rfl
  | succ passes ih =>
    unfold settle
    rw [pass_shown numbered listed alternatives plain]
    cases unsettled : bodies.any (!settled finished ·) with
    | false =>
      have done : ∀ body ∈ bodies, settled finished body = true := by
        simpa using List.any_eq_false.mp unsettled
      rw [flatMap_pass_settled done, mapM_resolve_settled (passes + 1) done]
      rfl
    | true =>
      rw [mapM_resolve_succ]
      exact ih plainPass (bare_flatMap_pass alternatives plainPass)

end Finished

end Registry

namespace LeftRecursion.Elimination

/-- The elimination with its new nonterminals named, behind the rules treated before. -/
def named (h : Grammar) (supply : NameSupply) (treated : List Rule) (elimination : Elimination) :
    Except GrammarError Grammar × NameSupply :=
  let extended := h.introduce supply elimination.introduced
  (match elimination.outcome with
    | .error cycle => .error (extended.result.irreducible cycle)
    | .ok rules => .ok { extended.result with rules := treated ++ rules }, extended.supply)

variable {h : Grammar} {supply : NameSupply} {treated : List Rule} {elimination : Elimination}

theorem named_with (rules : List Rule) :
    elimination.named { h with rules } supply treated = elimination.named h supply treated := by
  rw [named, Grammar.introduce_with]
  rfl

theorem named_adding (rules : List Rule) :
    (elimination.adding rules).named h supply treated =
      elimination.named h supply (treated ++ rules) := by
  unfold named adding
  cases elimination.outcome with
  | error cycle => rfl
  | ok others => simp [Except.map]

theorem named_introducing (introduction : Introduction) :
    (elimination.introducing introduction).named h supply treated =
      elimination.named
        { h with declared := h.declared ++ [(supply.fresh (h.nameOf introduction.parent)).1] }
        (supply.fresh (h.nameOf introduction.parent)).2 treated :=
  rfl

end LeftRecursion.Elimination

namespace Registry
open Grammar LeftRecursion

variable {h : Grammar}

theorem partition_shown {left : Symbol} (low : left ≠ Symbol.empty) (bodies : List Body) :
    (bodies.map shown).partition (·.head? == some left) =
      ((tailsOf left bodies).map (left :: ·), (notBeginning left bodies).map shown) := by
  rw [List.partition_eq_filter_filter]
  induction bodies with
  | nil => rfl
  | cons body later ih =>
    obtain ⟨first, second⟩ := Prod.mk.inj ih
    rw [List.map_cons, List.filter_cons, List.filter_cons, Function.comp_apply, head?_shown low, first,
      second]
    by_cases begins : body.head? = some left
    · obtain ⟨rest, rfl⟩ := List.head?_eq_some_iff.mp begins
      simp [tailsOf_cons_self, notBeginning_cons_self, shown]
    · simp [tailsOf_cons_of_ne begins, notBeginning_cons_of_ne begins, begins]

/-- A nonterminal without left recursion is written back as it was resolved. -/
theorem setBodies_direct (numbered : h.Numbered) {treated later : List Rule} {rule : Rule}
    {bodies : List Body} (split : h.rules = treated ++ rule :: later)
    (direct : tailsOf rule.left bodies = []) (plain : Bare bodies) :
    h.registry.setBodies rule.left ((notBeginning rule.left bodies).map shown) =
      ({ h with rules := treated ++ ⟨rule.left, bodies⟩ :: later } : Grammar).registry := by
  rw [notBeginning_of_tailsOf direct]
  exact numbered.setBodies_registry split plain

theorem bare_tailsOf {left : Symbol} {bodies : List Body} (plain : Bare bodies) :
    Bare (tailsOf left bodies) := fun _ member inside =>
  plain _ (mem_tailsOf.mp member) (List.mem_cons_of_mem _ inside)

theorem bare_notBeginning {left : Symbol} {bodies : List Body} (plain : Bare bodies) :
    Bare (notBeginning left bodies) := fun body member =>
  plain body (List.mem_filter.mp member).1

section Ending

variable {last : Symbol} (low : last ≠ Symbol.empty) {bodies : List Body} (plain : Bare bodies)

include low plain

theorem bare_map_append : Bare (bodies.map (· ++ [last])) := by
  intro body member
  obtain ⟨old, listed, rfl⟩ := List.mem_map.mp member
  simpa [Ne.symm low] using plain old listed

theorem map_concat_shown :
    (bodies.map shown).map (concat · [last]) = (bodies.map (· ++ [last])).map shown := by
  have plainLast : Symbol.empty ∉ [last] := by simpa using Ne.symm low
  simp only [List.map_map]
  exact List.map_congr_left fun body member => concat_shown (plain body member) plainLast

theorem map_concat_tail (left : Symbol) :
    (bodies.map (left :: ·)).map (concat ·.tail [last]) = (bodies.map (· ++ [last])).map shown := by
  have plainLast : Symbol.empty ∉ [last] := by simpa using Ne.symm low
  simp only [List.map_map]
  refine List.map_congr_left fun tail member => ?_
  rw [Function.comp_apply, List.tail_cons, concat_eq, bare_eq_self (plain tail member),
    bare_eq_self plainLast]
  rfl

end Ending

/-- A left recursion is moved behind a nonterminal that has been entered for it. -/
theorem restart_registry (numbered : h.Numbered) {treated later : List Rule} {rule : Rule}
    {bodies : List Body} {name : String} (split : h.rules = treated ++ rule :: later)
    (fresh : name ∉ h.knownNames) (plain : Bare bodies) :
    h.registry.restart rule.left name ((tailsOf rule.left bodies).map (rule.left :: ·))
        ((notBeginning rule.left bodies).map shown) =
      (h.grown name (treated ++ restarted rule.left h.size bodies ::
        repetition rule.left h.size bodies :: later)).registry := by
  have low : h.size ≠ Symbol.empty := ne_empty (Nat.le_add_left 2 _)
  have entered : (h.grown name (treated ++ rule :: ⟨h.size, []⟩ :: later)).Numbered := by
    have pushed : (h.grown name ((treated ++ [rule]) ++ ⟨h.size, []⟩ :: later)).Numbered :=
      numbered.push fresh (by rw [split, List.append_assoc, List.singleton_append])
    rwa [List.append_assoc, List.singleton_append] at pushed
  have written : (h.grown name
      (treated ++ restarted rule.left h.size bodies :: ⟨h.size, []⟩ :: later)).Numbered :=
    entered.of_lefts (by simp [nonterminals, grown, restarted])
  have repeated : Bare (repetition rule.left h.size bodies).bodies :=
    List.forall_mem_append.mpr ⟨bare_map_append low (bare_tailsOf plain), by simp⟩
  rw [restart, next_registry, numbered.addNonterminalAfter_registry fresh split,
    map_concat_tail low (bare_tailsOf plain), map_concat_shown low (bare_notBeginning plain)]
  calc
    _ = (h.grown name (treated ++ restarted rule.left h.size bodies ::
          ⟨h.size, []⟩ :: later)).registry.setBodies h.size
          ((repetition rule.left h.size bodies).bodies.map shown) := by
      rw [entered.setBodies_registry (s := rule.left) rfl (bare_map_append low (bare_notBeginning plain)),
        repetition, List.map_append]
      rfl
    _ = _ := by
      have behind : treated ++ restarted rule.left h.size bodies :: ⟨h.size, []⟩ :: later =
          (treated ++ [restarted rule.left h.size bodies]) ++ ⟨h.size, []⟩ :: later := by
        rw [List.append_assoc, List.singleton_append]
      rw [written.setBodies_registry behind repeated, List.append_assoc]
      rfl

/-- An elimination under way: `treated` stands where `later` follows, and the left sides of
`finished` are the ones to substitute. -/
structure Underway (h : Grammar) (supply : NameSupply) (treated finished later : List Rule) :
    Prop where
  numbered : h.Numbered
  rules : h.rules = treated ++ later
  within : ∀ rule ∈ treated ++ later, rule.Within h.size
  inside : finished ⊆ treated
  known : ∀ name ∈ h.knownNames, name ∈ supply.taken

namespace Underway

variable {supply : NameSupply} {treated finished later : List Rule} {rule : Rule} {bodies : List Body}

theorem fresh_not_mem (state : Underway h supply treated finished later) (base : String) :
    (supply.fresh base).1 ∉ h.knownNames :=
  fun member => supply.fresh_not_mem base (state.known _ member)

theorem keep (state : Underway h supply treated finished (rule :: later))
    (within : Rule.Within h.size ⟨rule.left, bodies⟩) :
    Underway { h with rules := treated ++ ⟨rule.left, bodies⟩ :: later } supply
      (treated ++ [⟨rule.left, bodies⟩]) (finished ++ [⟨rule.left, bodies⟩]) later where
  numbered := state.numbered.of_lefts (by simp [nonterminals, state.rules])
  rules := by rw [List.append_assoc, List.singleton_append]
  within := by
    obtain ⟨before, behind⟩ := List.forall_mem_append.mp state.within
    rw [List.append_assoc, List.singleton_append]
    exact List.forall_mem_append.mpr
      ⟨before, List.forall_mem_cons.mpr ⟨within, (List.forall_mem_cons.mp behind).2⟩⟩
  inside := List.append_subset.mpr
    ⟨List.subset_append_of_subset_left _ state.inside, List.subset_append_right _ _⟩
  known := state.known

theorem restart (state : Underway h supply treated finished (rule :: later))
    (within : Rule.Within h.size ⟨rule.left, bodies⟩) (founded : notBeginning rule.left bodies ≠ [])
    (base : String) :
    Underway (h.grown (supply.fresh base).1 (treated ++ restarted rule.left h.size bodies ::
        repetition rule.left h.size bodies :: later)) (supply.fresh base).2
      (treated ++ [restarted rule.left h.size bodies, repetition rule.left h.size bodies])
      (finished ++ [restarted rule.left h.size bodies]) later where
  numbered := by
    have written : Numbered
        { h with rules := (treated ++ [restarted rule.left h.size bodies]) ++ later } :=
      state.numbered.of_lefts (by simp [nonterminals, state.rules, restarted])
    have pushed : (h.grown (supply.fresh base).1 ((treated ++ [restarted rule.left h.size bodies]) ++
        repetition rule.left h.size bodies :: later)).Numbered :=
      written.push (state.fresh_not_mem base) rfl
    rwa [List.append_assoc, List.singleton_append] at pushed
  rules := by
    rw [List.append_assoc]
    rfl
  within := by
    obtain ⟨before, behind⟩ := List.forall_mem_append.mp state.within
    obtain ⟨own, behind⟩ := List.forall_mem_cons.mp behind
    have wider : ∀ rules : List Rule, (∀ rule ∈ rules, rule.Within h.size) →
        ∀ rule ∈ rules, rule.Within (h.size + 1) :=
      fun _ within other member => (within other member).mono (Nat.le_succ _)
    rw [size_grown, List.append_assoc]
    exact List.forall_mem_append.mpr ⟨wider _ before, List.forall_mem_cons.mpr
      ⟨Eliminates.restarted_within own founded within.symbols, List.forall_mem_cons.mpr
        ⟨Eliminates.repetition_within own within.symbols, wider _ behind⟩⟩⟩
  inside := List.append_subset.mpr ⟨List.subset_append_of_subset_left _ state.inside, by simp⟩
  known := known_grown state.known

end Underway

/-- The loop gives what the elimination gives, by induction on the rules that remain. -/
theorem eliminateFrom_registry {limit : Nat} {treated finished later : List Rule} {supply : NameSupply}
    (state : Underway h supply treated finished later) :
    eliminateFrom limit (finished.map Rule.left) h.registry supply (later.map Rule.left) =
      Prod.map (Except.map Grammar.registry) id
        ((LeftRecursion.eliminate limit finished h.size later).named h supply treated) := by
  induction later generalizing h treated finished supply with
  | nil =>
    obtain rfl : h.rules = treated := state.rules.trans (List.append_nil treated)
    simp [eliminateFrom, LeftRecursion.eliminate, Elimination.named, Grammar.introduce, Except.map]
  | cons rule later ih =>
    obtain ⟨before, behind⟩ := List.forall_mem_append.mp state.within
    have bounds := (List.forall_mem_cons.mp behind).1
    have listed : rule ∈ h.rules := state.rules ▸ List.mem_append_right _ List.mem_cons_self
    have older : ∀ other ∈ finished, other ∈ h.rules := fun other member =>
      state.rules ▸ List.mem_append_left _ (state.inside member)
    have finishedWithin : ∀ other ∈ finished, other.Within h.size := fun other member =>
      before other (state.inside member)
    rw [List.map_cons, eliminateFrom, LeftRecursion.eliminate, nameOf_registry bounds.left.2,
      state.numbered.bodiesOf_registry listed, settle_shown state.numbered older
        (fun other member => (finishedWithin other member).bare) limit bounds.bare]
    cases found : rule.bodies.mapM (resolve finished limit) with
    | none => rfl
    | some parts =>
      have kept := Eliminates.kept_within finishedWithin bounds (resolved_of_mapM found)
      dsimp only [Option.map_some]
      rw [partition_shown (ne_empty bounds.left.1)]
      dsimp only
      rw [List.isEmpty_map, List.isEmpty_map]
      split
      next direct =>
        have rest := ih (state.keep kept)
        rw [List.map_append, List.map_singleton] at rest
        rw [setBodies_direct state.numbered state.rules (List.isEmpty_iff.mp direct) kept.bare,
          Elimination.named_adding, ← Elimination.named_with (treated ++ ⟨rule.left, parts.flatten⟩ :: later)]
        exact rest
      next recursive =>
        split
        next baseless => rfl
        next founded =>
          have rest := ih (state.restart kept (by simpa using founded) (h.nameOf rule.left))
          rw [List.map_append, List.map_singleton, size_grown] at rest
          rw [restart_registry state.numbered state.rules (state.fresh_not_mem _) kept.bare,
            Elimination.named_introducing, Elimination.named_adding,
            ← Elimination.named_with (treated ++ restarted rule.left h.size parts.flatten ::
              repetition rule.left h.size parts.flatten :: later)]
          exact rest

theorem length_shown (body : Body) : (shown body).length = max 1 body.length := by
  cases body with
  | nil => rfl
  | cons s rest => exact (Nat.max_eq_right (Nat.le_add_left 1 _)).symm

theorem foldl_max_shown (bodies : List Body) {n : Nat} (positive : 1 ≤ n) :
    ((bodies.map shown).map List.length).foldl max n =
      bodies.foldl (fun n body => max n body.length) n := by
  induction bodies generalizing n with
  | nil => rfl
  | cons body later ih =>
    have same : max n (shown body).length = max n body.length := by
      rw [length_shown, ← Nat.max_assoc, Nat.max_eq_left positive]
    rw [List.map_cons, List.map_cons, List.foldl_cons, List.foldl_cons, same]
    exact ih (Nat.le_trans positive (Nat.le_max_left _ _))

theorem passLimit_registry {g : Grammar} (valid : g.WellFormed) :
    g.registry.passLimit = g.passLimit := by
  have stored : g.registry.order.flatMap g.registry.bodiesOf =
      (g.rules.flatMap Rule.bodies).map shown := by
    have order : g.registry.order = g.rules.map Rule.left := rfl
    rw [order, List.flatMap_map, List.map_flatMap]
    exact List.flatMap_congr fun rule listed => valid.numbered.bodiesOf_registry listed
  have count : g.registry.order.length = g.rules.length := List.length_map Rule.left
  rw [passLimit, stored, count, Grammar.passLimit]
  cases rules : g.rules with
  | nil => rfl
  | cons rule later =>
    cases bodies : rule.bodies with
    | nil =>
      have within := valid.rules rule (rules ▸ List.mem_cons_self)
      exact absurd bodies within.bodies
    | cons body others =>
      have first : max 0 (shown body).length = max 1 body.length := by
        rw [Nat.zero_max, length_shown]
      rw [List.flatMap_cons, bodies, List.cons_append, List.map_cons, List.map_cons, List.foldl_cons,
        List.foldl_cons, first, foldl_max_shown _ (Nat.le_max_left 1 _)]

theorem checked_registry {g : Grammar} (valid : g.WellFormed) :
    g.registry.checked = (match g.leftRecursion? with
      | some cycle => .error (g.irreducible cycle)
      | none => .ok g : Except GrammarError Grammar).map Grammar.registry := by
  rw [checked, stored_grammar valid]
  cases g.leftRecursion? <;> rfl

/-- Elimination on what is stored is elimination. -/
theorem eliminateLeftRecursionWith_registry {g : Grammar} (valid : g.WellFormed) (supply : NameSupply) :
    g.registry.eliminateLeftRecursionWith supply =
      ((g.eliminateLeftRecursionWith supply).result.map Grammar.registry,
        (g.eliminateLeftRecursionWith supply).supply) := by
  have state : Underway g (supply.reserveGrammar g) [] [] g.rules :=
    ⟨valid.numbered, rfl, valid.rules, List.Subset.refl [], known_reserveGrammar supply⟩
  have loop : eliminateFrom g.passLimit [] g.registry (supply.reserveGrammar g) g.registry.order = _ :=
    eliminateFrom_registry state
  unfold Registry.eliminateLeftRecursionWith Grammar.eliminateLeftRecursionWith
  rw [registry_keys, stored_grammar valid, passLimit_registry valid]
  change (match g.selfDerivation? with
    | some cycle => _
    | none => Prod.mk ((eliminateFrom g.passLimit [] g.registry (supply.reserveGrammar g)
        g.registry.order).1.bind checked) (eliminateFrom g.passLimit [] g.registry
          (supply.reserveGrammar g) g.registry.order).2) = _
  cases g.selfDerivation? with
  | some cycle => rfl
  | none =>
    rw [loop]
    dsimp only
    cases outcome : (LeftRecursion.eliminate g.passLimit [] g.size g.rules).outcome with
    | error cycle => simp [Elimination.named, outcome, Except.map, Except.bind]
    | ok rules =>
      have same := checked_registry (valid.of_eliminates (eliminates_of_ok outcome)
        (extends_introduce g supply _ rules))
      rw [Elimination.named, outcome]
      exact congrArg (Prod.mk · _) same

end Registry
end Predictive
