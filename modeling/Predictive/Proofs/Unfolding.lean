import Predictive.Proofs.Factored
import Predictive.Proofs.Following

/-! Factoring undone. With every new symbol replaced by its alternatives until none is left, a rule
has the alternatives that it had before, each as often as before. A new symbol stands behind a stem:
all that was split off on the way to it from the rule where it began. -/

namespace Predictive

theorem perm_tailsOf (s : Symbol) (bodies : List Body) :
    ((tailsOf s bodies).map (s :: ·) ++ notBeginning s bodies).Perm bodies := by
  induction bodies with
  | nil => exact .nil
  | cons body later ih =>
    by_cases begins : body.head? = some s
    · obtain ⟨rest, rfl⟩ := List.head?_eq_some_iff.mp begins
      rw [tailsOf_cons_self, notBeginning_cons_self]
      exact ih.cons (s :: rest)
    · rw [tailsOf_cons_of_ne begins, notBeginning_cons_of_ne begins]
      exact List.perm_middle.trans (ih.cons body)

theorem map_append_drop {shared : Body} {bodies : List Body} (common : ∀ body ∈ bodies, shared <+: body) :
    (bodies.map (·.drop shared.length)).map (shared ++ ·) = bodies := by
  induction bodies with
  | nil => rfl
  | cons body later ih =>
    obtain ⟨⟨rest, rfl⟩, behind⟩ := List.forall_mem_cons.mp common
    rw [List.map_cons, List.map_cons, ih behind, List.drop_left]

namespace Grammar

/-- The alternatives with the symbols from `size` on replaced by theirs, of which there are several. -/
inductive Unfolds (h : Grammar) (size : Symbol) : List Body → List Body → Prop where
  | nil : Unfolds h size [] []
  | old {body bodies fulls} (old : ∀ s ∈ body, s < size) (rest : Unfolds h size bodies fulls) :
      Unfolds h size (body :: bodies) (body :: fulls)
  | new {front n bodies inner fulls} (old : ∀ s ∈ front, s < size) (fresh : size ≤ n)
      (several : 1 < inner.length) (named : Unfolds h size (h.bodiesOf n) inner)
      (rest : Unfolds h size bodies fulls) :
      Unfolds h size ((front ++ [n]) :: bodies) (inner.map (front ++ ·) ++ fulls)

/-- What was split off on the way from `root` to a symbol. -/
inductive Stem (h : Grammar) (size root : Symbol) : Body → Symbol → Prop where
  | root : Stem h size root [] root
  | branch {stem n front m} (before : Stem h size root stem n)
      (produces : h.Produces n (front ++ [m])) (fresh : size ≤ m) :
      Stem h size root (stem ++ front) m

end Grammar

/-- The symbols in the bodies are old, or come after the left side. -/
def Rule.Rising (size : Symbol) (rule : Rule) : Prop :=
  ∀ body ∈ rule.bodies, ∀ s ∈ body, s < size ∨ rule.left < s

namespace Factoring
open Grammar

namespace Factored

variable {left next size : Nat} {before bodies : List Body} {splits : List Split} {h : Grammar}

theorem old_rests {n : Nat} {s : Symbol} {body : Body} {later : List Body}
    (old : ∀ given : Body, given ∈ (s :: body) :: later → ∀ t ∈ given, t < size) :
    ∀ rest ∈ (body :: tailsOf s later).map (·.drop n), ∀ t ∈ rest, t < size := by
  obtain ⟨first, old⟩ := List.forall_mem_cons.mp old
  intro rest member t inside
  obtain ⟨given, listed, rfl⟩ := List.mem_map.mp member
  have inside := List.mem_of_mem_drop inside
  rcases List.mem_cons.mp listed with rfl | listed
  · exact first t (List.mem_cons_of_mem s inside)
  · exact old _ (mem_tailsOf.mp listed) t (List.mem_cons_of_mem s inside)

theorem unfolds (done : Factored left next before bodies splits)
    (listed : ∀ split ∈ splits, h.bodiesOf split.rule.left = split.rule.bodies)
    (old : ∀ body ∈ before, ∀ s ∈ body, s < size) (fresh : size ≤ next) :
    ∃ fulls, h.Unfolds size bodies fulls ∧ fulls.Perm before := by
  induction done with
  | nil => exact ⟨[], .nil, .nil⟩
  | empty _ ih =>
    obtain ⟨first, old⟩ := List.forall_mem_cons.mp old
    obtain ⟨fulls, unfolds, same⟩ := ih listed old fresh
    exact ⟨[] :: fulls, .old first unfolds, same.cons []⟩
  | @single left next s body later bodies splits _ _ ih =>
    obtain ⟨first, old⟩ := List.forall_mem_cons.mp old
    obtain ⟨fulls, unfolds, same⟩ := ih listed old fresh
    exact ⟨(s :: body) :: fulls, .old first unfolds, same.cons (s :: body)⟩
  | @group left next s body later shared rests inner bodies splits cause several common _ _ ihOnward
      ihRest =>
    obtain ⟨here, others⟩ := List.forall_mem_append.mp listed
    obtain ⟨named, inside⟩ := List.forall_mem_cons.mp here
    obtain ⟨rested, unfolds, same⟩ := ihOnward inside (old_rests old) (by omega)
    obtain ⟨first, old⟩ := List.forall_mem_cons.mp old
    obtain ⟨fulls, unfolds', same'⟩ :=
      ihRest others (fun body member => old body (List.mem_filter.mp member).1) (by omega)
    have front : ∀ rest ∈ body :: tailsOf s later, shared <+: rest := by
      subst common
      exact List.forall_mem_cons.mpr ⟨Body.commonToAll_prefix _ _,
        fun _ member => Body.commonToAll_prefix_of_mem member⟩
    have kept : ∀ t ∈ s :: shared, t < size := by
      intro t member
      rcases List.mem_cons.mp member with rfl | member
      · exact first t List.mem_cons_self
      · exact first t (List.mem_cons_of_mem s ((front body List.mem_cons_self).subset member))
    have length : 1 < rested.length := by
      have counted := same.length_eq
      have pos := List.length_pos_iff.mpr several
      rw [List.length_map, List.length_cons] at counted
      omega
    have group : (rested.map (s :: shared ++ ·)).Perm ((body :: tailsOf s later).map (s :: ·)) := by
      have whole := congrArg (List.map (s :: ·)) (map_append_drop front)
      rw [List.map_map] at whole
      rw [← whole]
      exact same.map _
    refine ⟨rested.map (s :: shared ++ ·) ++ fulls, .new kept fresh length ?_ unfolds', ?_⟩
    · rw [named]
      exact unfolds
    · apply (group.append same').trans
      exact (perm_tailsOf s later).cons (s :: body)

theorem stems {root : Symbol} (done : Factored left next before bodies splits)
    (listed : ∀ split ∈ splits, h.bodiesOf split.rule.left = split.rule.bodies)
    (own : ∀ body ∈ bodies, h.Produces left body) (fresh : size ≤ next)
    (stem : ∃ stem, h.Stem size root stem left) :
    ∀ split ∈ splits, ∃ stem, h.Stem size root stem split.rule.left := by
  induction done with
  | nil => simp
  | empty _ ih => exact ih listed (List.forall_mem_cons.mp own).2 fresh stem
  | single _ _ ih => exact ih listed (List.forall_mem_cons.mp own).2 fresh stem
  | @group left next s body later shared rests inner bodies splits cause _ _ _ _ ihOnward ihRest =>
    obtain ⟨here, others⟩ := List.forall_mem_append.mp listed
    obtain ⟨named, inside⟩ := List.forall_mem_cons.mp here
    obtain ⟨branches, own⟩ := List.forall_mem_cons.mp own
    obtain ⟨before, stem⟩ := stem
    have branch : ∃ stem, h.Stem size root stem next := ⟨_, stem.branch branches fresh⟩
    have produces : ∀ body ∈ rests, h.Produces next body := by
      intro body member
      change body ∈ h.bodiesOf next
      rw [named]
      exact member
    refine List.forall_mem_append.mpr ⟨List.forall_mem_cons.mpr ⟨branch, ?_⟩, ?_⟩
    · exact ihOnward inside produces (by omega) branch
    · exact ihRest others own (by omega) ⟨before, stem⟩

theorem rising (done : Factored left next before bodies splits)
    (old : ∀ body ∈ before, ∀ s ∈ body, s < size) (fresh : size ≤ next) (below : left < next) :
    Rule.Rising size ⟨left, bodies⟩ ∧ ∀ split ∈ splits, split.rule.Rising size := by
  induction done with
  | nil => exact ⟨by simp [Rule.Rising], by simp⟩
  | empty _ ih =>
    obtain ⟨own, others⟩ := ih (List.forall_mem_cons.mp old).2 fresh below
    exact ⟨List.forall_mem_cons.mpr ⟨by simp, own⟩, others⟩
  | single _ _ ih =>
    obtain ⟨first, old⟩ := List.forall_mem_cons.mp old
    obtain ⟨own, others⟩ := ih old fresh below
    exact ⟨List.forall_mem_cons.mpr ⟨fun t member => .inl (first t member), own⟩, others⟩
  | @group left next s body later shared rests inner bodies splits cause _ common _ _ ihOnward ihRest =>
    obtain ⟨named, inside⟩ := ihOnward (old_rests old) (by omega) (Nat.lt_succ_self next)
    obtain ⟨first, old⟩ := List.forall_mem_cons.mp old
    obtain ⟨own, others⟩ := ihRest (fun body member => old body (List.mem_filter.mp member).1)
      (by omega) (by omega)
    have front : shared <+: body := common ▸ Body.commonToAll_prefix _ _
    have body : ∀ t ∈ s :: shared ++ [next], t < size ∨ left < t := by
      intro t member
      rcases List.mem_append.mp member with shown | last
      · rcases List.mem_cons.mp shown with rfl | shown
        · exact .inl (first t List.mem_cons_self)
        · exact .inl (first t (List.mem_cons_of_mem s (front.subset shown)))
      · obtain rfl := List.mem_singleton.mp last
        exact .inr below
    refine ⟨List.forall_mem_cons.mpr ⟨body, own⟩, ?_⟩
    exact List.forall_mem_append.mpr ⟨List.forall_mem_cons.mpr ⟨named, inside⟩, others⟩

end Factored

/-- How a rule was treated, with all that came of it among the rules. -/
structure Treated (next : Nat) (rules : List Rule) (source : Rule) (bodies : List Body)
    (splits : List Split) : Prop where
  factored : ∃ place, next ≤ place ∧ Factored source.left place source.bodies bodies splits
  own : ⟨source.left, bodies⟩ ∈ rules
  split : ∀ split ∈ splits, split.rule ∈ rules

namespace Treated

variable {next : Nat} {rules : List Rule} {source : Rule} {bodies : List Body} {splits : List Split}

theorem first (factored : Factored source.left next source.bodies bodies splits) (later : List Rule) :
    Treated next (⟨source.left, bodies⟩ :: splits.map Split.rule ++ later) source bodies splits where
  factored := ⟨next, Nat.le_refl next, factored⟩
  own := List.mem_cons_self
  split := fun _ member =>
    List.mem_append_left later (List.mem_cons_of_mem _ (List.mem_map_of_mem member))

theorem behind {count : Nat} (treated : Treated (next + count) rules source bodies splits)
    (earlier : List Rule) : Treated next (earlier ++ rules) source bodies splits where
  factored := by
    obtain ⟨place, above, factored⟩ := treated.factored
    exact ⟨place, by omega, factored⟩
  own := List.mem_append_right earlier treated.own
  split := fun split member => List.mem_append_right earlier (treated.split split member)

end Treated

namespace FactoredRules

variable {next : Nat} {before rules : List Rule} {splits : List Split}

theorem treated (done : FactoredRules next before rules splits) :
    ∀ source ∈ before, ∃ bodies splits, Treated next rules source bodies splits := by
  induction done with
  | nil => simp
  | @cons next first later bodies splits rules others here _ ih =>
    intro source member
    rcases List.mem_cons.mp member with rfl | member
    · exact ⟨bodies, splits, .first here rules⟩
    · obtain ⟨bodies', splits', treated⟩ := ih source member
      exact ⟨bodies', splits', treated.behind _⟩

theorem source (done : FactoredRules next before rules splits) :
    ∀ rule ∈ rules, ∃ source ∈ before, ∃ bodies splits, Treated next rules source bodies splits ∧
      (rule = ⟨source.left, bodies⟩ ∨ ∃ split ∈ splits, rule = split.rule) := by
  induction done with
  | nil => simp
  | @cons next first later bodies splits rules others here _ ih =>
    intro rule member
    rcases List.mem_append.mp member with own | later
    · refine ⟨first, List.mem_cons_self, bodies, splits, .first here rules, ?_⟩
      rcases List.mem_cons.mp own with same | split
      · exact .inl same
      · obtain ⟨split, listed, same⟩ := List.mem_map.mp split
        exact .inr ⟨split, listed, same.symm⟩
    · obtain ⟨source, listed, bodies', splits', treated, here⟩ := ih rule later
      exact ⟨source, List.mem_cons_of_mem _ listed, bodies', splits', treated.behind _, here⟩

end FactoredRules
end Factoring

namespace Grammar

/-- `h` is `g` with beginnings that alternatives share split off. -/
structure Unfolding (g h : Grammar) : Prop where
  start : h.start = g.start
  size : g.size ≤ h.size
  below : ∀ s ∈ g.nonterminals, s < g.size
  lefts : ∀ s, s ∈ h.nonterminals ↔ s ∈ g.nonterminals ∨ g.size ≤ s ∧ s < h.size
  bodies : ∀ s ∈ g.nonterminals, ∃ fulls, h.Unfolds g.size (h.bodiesOf s) fulls ∧
    fulls.Perm (g.bodiesOf s)
  stems : ∀ n ∈ h.nonterminals, ∃ root ∈ g.nonterminals, ∃ stem, h.Stem g.size root stem n
  rising : ∀ n body s, h.Produces n body → s ∈ body → s < g.size ∨ n < s

theorem WellFormed.unfolding {g : Grammar} (valid : g.WellFormed) (supply : NameSupply) :
    g.Unfolding (g.factorWith supply).result := by
  obtain ⟨splits, done, extension⟩ := factorWith_result (g := g) supply
  have valid' := valid.factored supply
  generalize (g.factorWith supply).result = h at done extension valid'
  have old : ∀ source ∈ g.rules, ∀ body ∈ source.bodies, ∀ s ∈ body, s < g.size :=
    fun source listed body chosen s inside => ((valid.rules source listed).symbols body chosen s inside).2
  have listed : ∀ {source bodies splits}, Factoring.Treated g.size h.rules source bodies splits →
      ∀ split ∈ splits, h.bodiesOf split.rule.left = split.rule.bodies :=
    fun treated split member => valid'.bodiesOf_eq (treated.split split member)
  refine ⟨extension.start, ?_, fun s member => (valid.nonterminal_bounds member).2, fun s => ?_, ?_, ?_, ?_⟩
  · rw [extension.size]
    exact Nat.le_add_right _ _
  · rw [extension.size]
    exact done.lefts s
  · intro s member
    obtain ⟨source, given, rfl⟩ := List.mem_map.mp member
    obtain ⟨bodies, splits, treated⟩ := done.treated source given
    obtain ⟨place, above, factored⟩ := treated.factored
    rw [valid'.bodiesOf_eq treated.own, valid.bodiesOf_eq given]
    exact factored.unfolds (listed treated) (old source given) above
  · intro n member
    obtain ⟨rule, given, rfl⟩ := List.mem_map.mp member
    obtain ⟨source, from', bodies, splits, treated, here⟩ := done.source rule given
    refine ⟨source.left, List.mem_map_of_mem from', ?_⟩
    rcases here with rfl | ⟨split, inside, rfl⟩
    · exact ⟨[], .root⟩
    · obtain ⟨place, above, factored⟩ := treated.factored
      have own : ∀ body ∈ bodies, h.Produces source.left body := fun body chosen =>
        produces_iff.mpr ⟨_, treated.own, rfl, chosen⟩
      exact factored.stems (listed treated) own above ⟨[], .root⟩ split inside
  · intro n body s produces inside
    obtain ⟨rule, given, rfl, chosen⟩ := produces_iff.mp produces
    obtain ⟨source, from', bodies, splits, treated, here⟩ := done.source rule given
    obtain ⟨place, above, factored⟩ := treated.factored
    have below := Nat.lt_of_lt_of_le (valid.rules source from').left.2 above
    obtain ⟨own, others⟩ := factored.rising (old source from') above below
    rcases here with rfl | ⟨split, member, rfl⟩
    · exact own body chosen s inside
    · exact others split member body chosen s inside

end Grammar
end Predictive
