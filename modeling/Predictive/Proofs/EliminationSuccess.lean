import Mathlib.Order.Lattice.Nat
import Predictive.Proofs.EliminationProgress
import Predictive.Proofs.LeftmostDerivations

/-! Elimination accepts a grammar without empty bodies in which every nonterminal has a word and
none derives itself alone. One pass settles every body, since nothing vanishes. A shortest
derivation of some word leads to ever cheaper symbols at the front and so away from the left
side, which leaves an alternative to start with. In the result the old nonterminals lead to
later ones only and the new ones to old or earlier new ones, so that no cycle is left. -/

namespace Predictive

namespace Grammar

variable {g : Grammar}

/-- The number of productions that the symbol takes to derive a word, if it has one. -/
noncomputable def cost (g : Grammar) (s : Symbol) : Nat :=
  sInf {n | ∃ ps word, g.Yields ps [s] word ∧ ps.length = n}

theorem cost_le {ps : List Production} {s : Symbol} {word : Body} (yields : g.Yields ps [s] word) :
    g.cost s ≤ ps.length :=
  Nat.sInf_le ⟨ps, word, yields, rfl⟩

/-- The first step towards the cheapest word has a cheaper symbol at its front. -/
theorem exists_cheaper (filled : ∀ s, ¬ g.Produces s []) {s : Symbol} (member : s ∈ g.nonterminals)
    (productive : g.Productive s) :
    ∃ t rest, g.Produces s (t :: rest) ∧ g.cost t < g.cost s := by
  obtain ⟨word, isWord, derives⟩ := productive
  obtain ⟨ps, yields⟩ := exists_yields derives isWord
  have least : {n | ∃ ps word, g.Yields ps [s] word ∧ ps.length = n}.Nonempty :=
    ⟨ps.length, ps, word, yields, rfl⟩
  obtain ⟨ps, word, yields, length⟩ := Nat.sInf_mem least
  cases yields with
  | letter letter _ => exact absurd member letter
  | @expand p ps _ _ listed rest =>
    have produces := mem_productions listed
    rw [List.append_nil] at rest
    cases split : p.body with
    | nil => exact absurd (split ▸ produces) (filled p.left)
    | cons t later =>
      rw [split] at rest produces
      obtain ⟨ps₁, ps₂, word₁, word₂, rfl, _, first, _⟩ := 
        Yields.split (show g.Yields ps ([t] ++ later) word from rest)
      refine ⟨t, later, produces, Nat.lt_of_le_of_lt (cost_le first) ?_⟩
      rw [cost, ← length, List.length_cons, List.length_append]
      omega

end Grammar

namespace LeftRecursion
open Relation

variable {g : Grammar} {finished later : List Rule} {rule : Rule} {next : Symbol}

/-! What comes out -/

/-- Each body begins with an old symbol. -/
def Fronted (g : Grammar) (rule : Rule) : Prop :=
  ∀ body ∈ rule.bodies, ∃ s < g.size, body.head? = some s

/-- Some body begins with a symbol that is cheaper than the left side. -/
def Founded (g : Grammar) (rule : Rule) : Prop :=
  ∃ body ∈ rule.bodies, ∃ s, body.head? = some s ∧ g.cost s < g.cost rule.left

/-- What holds of a rule from its treatment on. -/
structure Sure (g : Grammar) (rule : Rule) : Prop where
  derived : Derived g rule
  fronted : Fronted g rule
  founded : Founded g rule

theorem Fronted.filled (fronted : Fronted g rule) : [] ∉ rule.bodies := by
  intro member
  obtain ⟨s, _, begins⟩ := fronted [] member
  cases begins

theorem Fronted.resolved {bodies : List Body} (fronted : Fronted g rule)
    (before : ∀ rule ∈ finished, Fronted g rule) (resolved : Resolved finished rule.bodies bodies) :
    Fronted g ⟨rule.left, bodies⟩ := by
  refine resolved.all_keep ?_ fronted
  intro other listed rest _ body chosen
  obtain ⟨s, old, begins⟩ := before other listed body chosen
  exact ⟨s, old, List.mem_head?_append_of_mem_head? begins⟩

theorem Founded.resolved {bodies : List Body} (founded : Founded g rule)
    (before : ∀ rule ∈ finished, Founded g rule) (resolved : Resolved finished rule.bodies bodies) :
    Founded g ⟨rule.left, bodies⟩ := by
  refine resolved.exists_keep _ ?_ founded
  rintro other listed rest ⟨s, begins, cheaper⟩
  obtain rfl : other.left = s := Option.some.inj begins
  obtain ⟨body, chosen, t, front, less⟩ := before other listed
  exact ⟨body, chosen, t, List.mem_head?_append_of_mem_head? front, less.trans cheaper⟩

theorem Sure.resolved {bodies : List Body} (sure : Sure g rule) (before : ∀ rule ∈ finished, Sure g rule)
    (resolved : Resolved finished rule.bodies bodies) : Sure g ⟨rule.left, bodies⟩ where
  derived := sure.derived.resolved (fun rule listed => (before rule listed).derived) resolved
  fronted := sure.fronted.resolved (fun rule listed => (before rule listed).fronted) resolved
  founded := sure.founded.resolved (fun rule listed => (before rule listed).founded) resolved

/-- The cheaper alternative does not begin with the left side, so it is one to start with. -/
theorem Founded.mem_notBeginning (founded : Founded g rule) :
    ∃ body ∈ notBeginning rule.left rule.bodies, ∃ s, body.head? = some s ∧
      g.cost s < g.cost rule.left := by
  obtain ⟨body, chosen, s, begins, cheaper⟩ := founded
  have other : s ≠ rule.left := fun same => Nat.lt_irrefl _ (same ▸ cheaper)
  exact ⟨body, List.mem_filter.mpr ⟨chosen, by simp [begins, other]⟩, s, begins, cheaper⟩

theorem Sure.restarted {bodies : List Body} (sure : Sure g ⟨rule.left, bodies⟩)
    (fresh : g.size ≤ next) : Sure g (restarted rule.left next bodies) where
  derived := sure.derived.restarted fresh
  fronted body member := by
    obtain ⟨base, kept, rfl⟩ := List.mem_map.mp member
    obtain ⟨s, old, begins⟩ := sure.fronted base (List.mem_filter.mp kept).1
    exact ⟨s, old, List.mem_head?_append_of_mem_head? begins⟩
  founded := by
    obtain ⟨base, kept, s, begins, cheaper⟩ := sure.founded.mem_notBeginning
    exact ⟨base ++ [next], List.mem_map_of_mem kept, s, List.mem_head?_append_of_mem_head? begins,
      cheaper⟩

/-- An old nonterminal leads to later ones only. -/
structure Ascends (g : Grammar) (rule : Rule) : Prop where
  old : rule.left < g.size
  fronted : Fronted g rule
  place : ∃ earlier later, g.nonterminals = earlier ++ rule.left :: later ∧
    rule.Avoids (earlier ++ [rule.left])

/-- A new nonterminal leads to earlier symbols only: it comes last, behind an old symbol. -/
structure Descends (g : Grammar) (rule : Rule) : Prop where
  fresh : g.size ≤ rule.left
  bodies : ∀ body ∈ rule.bodies, body = [] ∨ ∃ tail, body = tail ++ [rule.left] ∧
    (∀ t ∈ tail, t < rule.left) ∧ oldPart g tail ≠ []

/-- The state between two rules. -/
structure Underway (g : Grammar) (finished : List Rule) (next : Symbol) (later : List Rule) : Prop where
  fresh : g.size ≤ next
  lefts : finished.map Rule.left ++ later.map Rule.left = g.nonterminals
  listed : ∀ rule ∈ later, rule ∈ g.rules
  sure : ∀ rule ∈ finished, Sure g rule
  within : ∀ rule ∈ finished, rule.Within next
  ordered : Ordered finished

section Assumptions

variable (valid : g.WellFormed) (filled : ∀ s, ¬ g.Produces s [])
  (productive : ∀ s ∈ g.nonterminals, g.Productive s) (acyclic : ∀ s, ¬ g.Cyclic s)

include valid filled productive in
theorem sure_of_listed (listed : rule ∈ g.rules) : Sure g rule where
  derived := derived_of_listed valid listed
  fronted body chosen := by
    have produces : g.Produces rule.left body := Grammar.produces_iff.mpr ⟨rule, listed, rfl, chosen⟩
    cases body with
    | nil => exact absurd produces (filled rule.left)
    | cons s rest => exact ⟨s, (valid.body_bounds produces List.mem_cons_self).2, rfl⟩
  founded := by
    have member : rule.left ∈ g.nonterminals := List.mem_map_of_mem listed
    obtain ⟨t, rest, produces, cheaper⟩ := Grammar.exists_cheaper filled member (productive _ member)
    rw [Grammar.Produces, valid.bodiesOf_eq listed] at produces
    exact ⟨t :: rest, produces, t, rfl, cheaper⟩

include acyclic in
theorem descends_repetition {bodies : List Body} (derived : Derived g ⟨rule.left, bodies⟩)
    (bounds : ∀ body ∈ bodies, ∀ s ∈ body, 0 < s ∧ s < next) (fresh : g.size ≤ next) :
    Descends g (repetition rule.left next bodies) where
  fresh := fresh
  bodies body member := by
    rcases List.mem_append.mp member with again | last
    · obtain ⟨tail, inside, rfl⟩ := List.mem_map.mp again
      refine .inr ⟨tail, rfl, fun t present => (bounds_of_tailsOf bounds tail inside t present).2, ?_⟩
      -- With new symbols only behind it, the left side would derive itself alone.
      intro none
      have derives := derived.tail inside
      rw [none] at derives
      exact acyclic _ derives
    · exact .inl (List.mem_singleton.mp last)

namespace Underway

theorem place (underway : Underway g finished next (rule :: later)) :
    g.nonterminals = finished.map Rule.left ++ rule.left :: later.map Rule.left :=
  underway.lefts.symm

theorem below (underway : Underway g finished next (rule :: later)) (old : rule.left < g.size) :
    ∀ s ∈ finished.map Rule.left ++ [rule.left], s < next := by
  refine List.forall_mem_append.mpr ⟨?_, List.forall_mem_singleton.mpr
    (Nat.lt_of_lt_of_le old underway.fresh)⟩
  intro s member
  obtain ⟨rule, listed, rfl⟩ := List.mem_map.mp member
  exact (underway.within rule listed).left.2

/-- Nothing vanishes, so that one pass is enough. -/
theorem weighs (underway : Underway g finished next later) : Weighs (fun _ => 0) finished := by
  intro rule listed front chosen rest
  exact ⟨Nat.le_refl 0, fun empty => absurd (empty ▸ chosen) (underway.sure rule listed).fronted.filled⟩

/-- The state after a rule, whether `done` was kept or restarted. -/
theorem concat {done : Rule} {last : Symbol} (underway : Underway g finished next (rule :: later))
    (same : done.left = rule.left) (wider : next ≤ last) (sure : Sure g done)
    (within : done.Within last) (avoids : done.Avoids (finished.map Rule.left ++ [done.left])) :
    Underway g (finished ++ [done]) last later where
  fresh := Nat.le_trans underway.fresh wider
  lefts := by simpa [same] using underway.lefts
  listed other member := underway.listed other (List.mem_cons_of_mem _ member)
  sure := List.forall_mem_append.mpr ⟨underway.sure, List.forall_mem_singleton.mpr sure⟩
  within := List.forall_mem_append.mpr
    ⟨fun other member => (underway.within other member).mono wider,
      List.forall_mem_singleton.mpr within⟩
  ordered := .concat underway.ordered avoids

end Underway

include valid filled productive acyclic

theorem course_of_productive :
    Course (Underway g) fun rule => Ascends g rule ∨ Descends g rule where
  keep {finished next rule later bodies} underway resolved direct := by
    have listed := underway.listed rule List.mem_cons_self
    have sure := (sure_of_listed valid filled productive listed).resolved underway.sure resolved
    have within := Eliminates.kept_within underway.within
      ((valid.rules rule listed).mono underway.fresh) resolved
    have avoids := avoids_kept resolved direct
    exact ⟨.inl ⟨sure.derived.left, sure.fronted, _, _, underway.place, avoids⟩,
      underway.concat rfl (Nat.le_refl next) sure within avoids⟩
  split {finished next rule later bodies} underway resolved _ := by
    have listed := underway.listed rule List.mem_cons_self
    have sure := (sure_of_listed valid filled productive listed).resolved underway.sure resolved
    have within := (valid.rules rule listed).mono underway.fresh
    have bounds := Eliminates.bounds_of_resolved underway.within resolved within.symbols
    have founded : notBeginning rule.left bodies ≠ [] := by
      obtain ⟨base, kept, _⟩ := sure.founded.mem_notBeginning
      exact List.ne_nil_of_mem kept
    have again := sure.restarted underway.fresh
    have avoids := avoids_restarted resolved (underway.below sure.derived.left)
    exact ⟨founded, .inl ⟨again.derived.left, again.fronted, _, _, underway.place, avoids⟩,
      .inr (descends_repetition acyclic sure.derived bounds underway.fresh),
      underway.concat rfl (Nat.le_succ next) again
        (Eliminates.restarted_within within founded bounds) avoids⟩

end Assumptions

/-! No cycle is left -/

section Result

variable {h : Grammar} (rules : ∀ rule ∈ h.rules, Ascends g rule ∨ Descends g rule)

include rules

theorem ascends_of_produces {s : Symbol} {body : Body} (produces : h.Produces s body)
    (old : s < g.size) : ∃ rule, Ascends g rule ∧ rule.left = s ∧ body ∈ rule.bodies := by
  obtain ⟨rule, listed, rfl, chosen⟩ := Grammar.produces_iff.mp produces
  rcases rules rule listed with ascends | descends
  · exact ⟨rule, ascends, rfl, chosen⟩
  · exact absurd old (Nat.not_lt.mpr descends.fresh)

theorem not_vanishes {s : Symbol} (old : s < g.size) : ¬ h.Vanishes s := by
  intro vanishes
  induction vanishes with
  | intro produces all ih =>
    obtain ⟨rule, ascends, rfl, chosen⟩ := ascends_of_produces rules produces old
    obtain ⟨t, front, begins⟩ := ascends.fronted _ chosen
    exact ih t (List.mem_of_mem_head? begins) front

/-- Falls along left corners: from a new symbol by number, from an old one by declaration. -/
def height (g : Grammar) (s : Symbol) : Nat :=
  if s < g.size then g.nonterminals.length - g.nonterminals.idxOf s else g.nonterminals.length + s

omit rules in
theorem height_of_old {s : Symbol} (old : s < g.size) : height g s ≤ g.nonterminals.length := by
  simp [height, old]

theorem height_lt_of_old {s t : Symbol} (valid : g.WellFormed) (corner : h.LeftCorner s t)
    (old : s < g.size) : height g t < height g s := by
  obtain ⟨member, before, after, produces, vanish⟩ := corner
  obtain ⟨rule, ascends, rfl, chosen⟩ := ascends_of_produces rules produces old
  obtain ⟨u, front, begins⟩ := ascends.fronted _ chosen
  obtain rfl : before = [] := by
    cases before with
    | nil => rfl
    | cons v before =>
      obtain rfl : v = u := by simpa using begins
      exact absurd (vanish v List.mem_cons_self) (not_vanishes rules front)
  obtain rfl : t = u := by simpa using begins
  obtain ⟨other, listed, rfl⟩ := List.mem_map.mp member
  obtain ⟨earlier, later, place, avoids⟩ := ascends.place
  have apart : other.left ∉ earlier ++ [rule.left] := fun inside => avoids _ chosen _ inside begins
  have known : other.left ∈ g.nonterminals := by
    rcases rules other listed with ascends | descends
    · obtain ⟨first, last, same, _⟩ := ascends.place
      simp [same]
    · exact absurd front (Nat.not_lt.mpr descends.fresh)
  have absent : rule.left ∉ earlier := by
    have distinct := valid.lefts
    rw [place] at distinct
    exact fun inside => (List.nodup_append.mp distinct).2.2 _ inside _ List.mem_cons_self rfl
  have own : g.nonterminals.idxOf rule.left = earlier.length := by
    rw [place, List.idxOf_append_of_notMem absent, List.idxOf_cons_self, Nat.add_zero]
  have behind : earlier.length < g.nonterminals.idxOf other.left := by
    rw [place, List.append_cons, List.idxOf_append_of_notMem apart, List.length_append]
    simp only [List.length_singleton]
    omega
  have bound := List.idxOf_lt_length_of_mem known
  simp only [height, old, front, if_true, own]
  omega

theorem height_lt_of_fresh {s t : Symbol} (corner : h.LeftCorner s t) (fresh : g.size ≤ s) :
    height g t < height g s := by
  obtain ⟨_, before, after, produces, vanish⟩ := corner
  obtain ⟨rule, listed, rfl, chosen⟩ := Grammar.produces_iff.mp produces
  rcases rules rule listed with ascends | descends
  · exact absurd ascends.old (Nat.not_lt.mpr fresh)
  · have smaller : t < rule.left := by
      rcases descends.bodies _ chosen with empty | ⟨tail, same, smaller, filled⟩
      · simp at empty
      · rw [← List.append_nil (tail ++ [rule.left])] at same
        rcases split_middle same with ⟨rest, rfl, _⟩ | ⟨front, _, _, rfl, _⟩ | ⟨rest, absurdity, _⟩
        · exact smaller t (by simp)
        · -- The symbol itself comes first only if the old ones before it vanish.
          obtain ⟨u, member⟩ := List.exists_mem_of_ne_nil _ filled
          obtain ⟨inside, old⟩ := List.mem_filter.mp member
          exact absurd (vanish u (List.mem_append_left front inside))
            (not_vanishes rules (of_decide_eq_true old))
        · simp at absurdity
    have positive : 0 < rule.left := Nat.lt_of_le_of_lt (Nat.zero_le t) smaller
    have above : height g rule.left = g.nonterminals.length + rule.left :=
      if_neg (Nat.not_lt.mpr fresh)
    rw [above]
    by_cases old : t < g.size
    · exact Nat.lt_of_le_of_lt (height_of_old old) (Nat.lt_add_of_pos_right positive)
    · rw [height, if_neg old]
      exact Nat.add_lt_add_left smaller _

theorem not_leftRecursive_of_ascends (valid : g.WellFormed) (s : Symbol) : ¬ h.LeftRecursive s := by
  have falls : ∀ {s t}, TransGen h.LeftCorner s t → height g t < height g s := by
    intro s t corners
    have single : ∀ {s t}, h.LeftCorner s t → height g t < height g s := by
      intro s t corner
      by_cases old : s < g.size
      · exact height_lt_of_old rules valid corner old
      · exact height_lt_of_fresh rules corner (Nat.not_lt.mp old)
    induction corners with
    | single corner => exact single corner
    | tail _ corner ih => exact (single corner).trans ih
  exact fun recursive => Nat.lt_irrefl _ (falls (Grammar.leftRecursive_iff_cycle.mp recursive))

end Result
end LeftRecursion

namespace Grammar

variable {g : Grammar}

/-- Without empty bodies, nonterminals that derive themselves and nonterminals without words
there is nothing for elimination to refuse, whatever the names in use. -/
theorem eliminated_of_productive (reachable : Reachable g) (filled : ∀ rule ∈ g.rules, [] ∉ rule.bodies)
    (acyclic : ∀ s, ¬ g.Cyclic s) (productive : ∀ s ∈ g.nonterminals, g.Productive s)
    (supply : NameSupply) :
    ∃ h, (g.eliminateLeftRecursionWith supply).result = .ok h ∧ ∀ s, ¬ h.LeftRecursive s := by
  have valid := reachable.wellFormed
  have nonempty : ∀ s, ¬ g.Produces s [] := by
    intro s produces
    obtain ⟨rule, listed, _, chosen⟩ := produces_iff.mp produces
    exact filled rule listed chosen
  have start : LeftRecursion.Underway g [] g.size g.rules :=
    ⟨Nat.le_refl _, rfl, fun _ listed => listed, by simp, by simp, .nil⟩
  have course := LeftRecursion.course_of_productive valid nonempty productive acyclic
  have reducible := selfDerivation?_eq_none_iff.mpr acyclic
  rcases course.outcome g.passLimit start with
    ⟨rules, ended, all⟩ | ⟨rule, _, _, finished, next, later, underway, stuck⟩
  · obtain ⟨h, done⟩ := eliminated_of_outcome supply reducible ended fun h same =>
      leftRecursion?_eq_none_iff.mpr
        (LeftRecursion.not_leftRecursive_of_ascends (fun rule listed => all rule (same ▸ listed)) valid)
    obtain ⟨_, _, _, missed⟩ := eliminates_of_eliminateLeftRecursion done
    exact ⟨h, done, not_leftRecursive missed⟩
  · obtain ⟨parts, found⟩ := exists_mapM fun body (_ : body ∈ rule.bodies) =>
      LeftRecursion.exists_resolve_of_weight underway.ordered underway.weighs body
        (Nat.zero_lt_succ _)
    cases stuck.symm.trans found

/-- Two nonterminals that lead to each other. -/
def alternating : Grammar :=
  ⟨["A", "B", "x", "y", "z", "w"], [⟨2, [[3, 4], [5]]⟩, ⟨3, [[2, 6], [7]]⟩], some 2⟩

theorem alternating_eliminated :
    ∃ h, (alternating.eliminateLeftRecursionWith ⟨["A\x27"]⟩).result = .ok h ∧ ¬ h.LeftRecursive 2 := by
  have built : ofEntries [⟨"A", [["B", "x"], ["y"]]⟩, ⟨"B", [["A", "z"], ["w"]]⟩] = .ok alternating := rfl
  have acyclic : ∀ s, ¬ alternating.Cyclic s := selfDerivation?_eq_none_iff.mp (by cbv)
  have first : alternating.Productive 2 :=
    ⟨[5], by decide, (show alternating.Produces 2 [5] by decide).derives⟩
  have second : alternating.Productive 3 :=
    ⟨[7], by decide, (show alternating.Produces 3 [7] by decide).derives⟩
  obtain ⟨h, done, free⟩ := eliminated_of_productive (.entries built) (by decide) acyclic
    (List.forall_mem_cons.mpr ⟨first, List.forall_mem_singleton.mpr second⟩) ⟨["A\x27"]⟩
  exact ⟨h, done, free 2⟩

end Grammar
end Predictive
