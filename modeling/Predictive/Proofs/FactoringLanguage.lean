import Predictive.Proofs.LeastInterpretation
import Predictive.Proofs.Reached

/-! Factoring changes the words of no nonterminal. Each new symbol stands for the sum of the
rests it was split off for; with these values the alternatives are worth what they were worth
before, at every depth of the recursion. -/

namespace Predictive

section Values

variable {K : Type} [KleeneAlgebra K] {value : Symbol → K}

/-- The bodies with `s` in front and the others. -/
theorem total_eq_add (s : Symbol) (bodies : List Body) :
    total value bodies =
      value s * total value (tailsOf s bodies) + total value (notBeginning s bodies) := by
  induction bodies with
  | nil => simp [total, tailsOf, notBeginning]
  | cons body later ih =>
    by_cases begins : body.head? = some s
    · obtain ⟨rest, rfl⟩ := List.head?_eq_some_iff.mp begins
      rw [tailsOf_cons_self, notBeginning_cons_self, total_cons, total_cons, ih, value_cons, mul_add,
        add_assoc]
    · rw [tailsOf_cons_of_ne begins, notBeginning_cons_of_ne begins, total_cons, total_cons, ih,
        add_left_comm]

theorem total_drop {shared : Body} {bodies : List Body} (common : ∀ body ∈ bodies, shared <+: body) :
    total value bodies =
      Body.value value shared * total value (bodies.map (·.drop shared.length)) := by
  induction bodies with
  | nil => simp [total]
  | cons body later ih =>
    obtain ⟨⟨rest, rfl⟩, behind⟩ := List.forall_mem_cons.mp common
    rw [List.map_cons, total_cons, total_cons, ih behind, value_append, List.drop_left, mul_add]

end Values

namespace Factoring

variable {K : Type} [KleeneAlgebra K] {value : Symbol → K} {left next : Symbol}

/-- What the alternatives with `s` in front are worth, taken together, and the others. -/
theorem total_group {s : Symbol} {body shared : Body} {later : List Body}
    (common : shared = Body.commonToAll body (tailsOf s later)) :
    total value ((s :: body) :: later) =
      Body.value value (s :: shared) *
          total value ((body :: tailsOf s later).map (·.drop shared.length)) +
        total value (notBeginning s later) := by
  have front : ∀ rest ∈ body :: tailsOf s later, shared <+: rest := by
    subst common
    exact List.forall_mem_cons.mpr ⟨Body.commonToAll_prefix _ _,
      fun _ member => Body.commonToAll_prefix_of_mem member⟩
  calc total value ((s :: body) :: later)
      = value s * total value (body :: tailsOf s later) + total value (notBeginning s later) := by
        rw [total_cons, total_cons, value_cons, total_eq_add s later, mul_add, add_assoc]
    _ = _ := by rw [total_drop front, value_cons, mul_assoc]

/-- The new symbol is given the value of the rests it stands for. -/
theorem exists_named (next : Symbol) (rests : List Body) (value : Symbol → K) :
    ∃ named : Symbol → K, (∀ t < next, named t = value t) ∧ named next = total value rests :=
  ⟨Function.update value next (total value rests),
    fun _ old => Function.update_of_ne (Nat.ne_of_lt old) _ _, Function.update_self _ _ _⟩

/-- With that value the alternative that replaces a group is worth as much as the group. -/
theorem group_le {value' : Symbol → K} {s : Symbol} {body shared : Body} {later bodies : List Body}
    (common : shared = Body.commonToAll body (tailsOf s later))
    (given : ∀ old : Body, old ∈ (s :: body) :: later → ∀ t ∈ old, 0 < t ∧ t < next)
    (agree : ∀ t < next, value' t = value t)
    (worth : value' next = total value ((body :: tailsOf s later).map (·.drop shared.length)))
    (below : total value' bodies ≤ total value (notBeginning s later)) :
    total value' ((s :: shared ++ [next]) :: bodies) ≤ total value ((s :: body) :: later) := by
  have front : Body.value value' (s :: shared) = Body.value value (s :: shared) := by
    obtain ⟨head, tail⟩ := List.forall_mem_cons.mp (List.forall_mem_cons.mp given).1
    have inside : shared ⊆ body := (common ▸ Body.commonToAll_prefix _ _ : shared <+: body).subset
    refine value_congr (List.forall_mem_cons.mpr ⟨agree s head.2, fun t member => ?_⟩)
    exact agree t (tail t (inside member)).2
  rw [total_group common, total_cons, value_append, value_singleton, front, worth]
  exact add_le_add (le_refl _) below

namespace Factored

variable {before bodies : List Body} {splits : List Split}

theorem le_total (done : Factored left next before bodies splits)
    (sound : ∀ split ∈ splits, split.rule.Sound value) :
    total value before ≤ total value bodies := by
  induction done with
  | nil => exact le_refl _
  | empty _ ih =>
    rw [total_cons, total_cons]
    exact add_le_add (le_refl _) (ih sound)
  | single _ _ ih =>
    rw [total_cons, total_cons]
    exact add_le_add (le_refl _) (ih sound)
  | @group left next s body later shared rests inner bodies splits cause _ common _ _ ihOnward
      ihRest =>
    obtain ⟨here, others⟩ := List.forall_mem_append.mp sound
    obtain ⟨named, inside⟩ := List.forall_mem_cons.mp here
    have below := (ihOnward inside).trans named
    rw [total_group common, total_cons, value_append, value_singleton]
    exact add_le_add (mul_le_mul' (le_refl _) below) (ihRest others)

/-- The new symbols can be given values such that their rules are sound and no alternative is
worth more than it was before. -/
theorem exists_extension (done : Factored left next before bodies splits) (low : 2 ≤ next)
    (given : ∀ body ∈ before, ∀ s ∈ body, 0 < s ∧ s < next) (value : Symbol → K) :
    ∃ value' : Symbol → K, (∀ s < next, value' s = value s) ∧
      (∀ split ∈ splits, split.rule.Sound value') ∧ total value' bodies ≤ total value before := by
  induction done generalizing value with
  | nil => exact ⟨value, fun _ _ => rfl, by simp, le_refl _⟩
  | empty _ ih =>
    obtain ⟨value', same, sound, below⟩ := ih low (List.forall_mem_cons.mp given).2 value
    refine ⟨value', same, sound, ?_⟩
    rw [total_cons, total_cons]
    exact add_le_add (le_refl _) below
  | single _ _ ih =>
    obtain ⟨first, given⟩ := List.forall_mem_cons.mp given
    obtain ⟨value', same, sound, below⟩ := ih low given value
    refine ⟨value', same, sound, ?_⟩
    rw [total_cons, total_cons, value_congr fun t member => same t (first t member).2]
    exact add_le_add (le_refl _) below
  | @group left next s body later shared rests inner bodies splits cause several common onward rest
      ihOnward ihRest =>
    have older : next ≤ next + 1 + inner.length :=
      Nat.le_trans (Nat.le_succ next) (Nat.le_add_right _ _)
    have bounds : ∀ rest ∈ (body :: tailsOf s later).map (·.drop shared.length),
        ∀ t ∈ rest, 0 < t ∧ t < next := bounds_of_rests given
    have wider := fun rest member => bounds_mono (bounds rest member) (Nat.le_succ next)
    have others : ∀ body ∈ notBeginning s later, ∀ t ∈ body, 0 < t ∧ t < next :=
      fun body member => given body (List.mem_cons_of_mem _ (List.mem_filter.mp member).1)
    -- The new symbol gets its value first: the rests do not contain it yet.
    obtain ⟨named, agree, worth⟩ :=
      exists_named next ((body :: tailsOf s later).map (·.drop shared.length)) value
    obtain ⟨value₁, same₁, sound₁, below₁⟩ := ihOnward (Nat.le_succ_of_le low) wider named
    have old₁ : ∀ t < next, value₁ t = value t := fun t old =>
      (same₁ t (Nat.lt_succ_of_lt old)).trans (agree t old)
    have worth₁ := (same₁ next (Nat.lt_succ_self next)).trans worth
    obtain ⟨value₂, same₂, sound₂, below₂⟩ := ihRest (Nat.le_trans low older)
      (fun body member => bounds_mono (others body member) older) value₁
    have old₂ : ∀ t < next, value₂ t = value t := fun t old =>
      (same₂ t (Nat.lt_of_lt_of_le old older)).trans (old₁ t old)
    have worth₂ := (same₂ next (Nat.le_add_right _ _)).trans worth₁
    rw [total_congr fun rest member t inside => agree t (bounds rest member t inside).2] at below₁
    rw [total_congr fun body member t inside => old₁ t (others body member t inside).2] at below₂
    refine ⟨value₂, old₂, ?_, group_le common given old₂ worth₂ below₂⟩
    obtain ⟨inside, inner⟩ := onward.bounds (Nat.le_succ_of_le low) wider
    have within : Rule.Within (next + 1 + _) ⟨next, rests⟩ :=
      ⟨⟨low, Nat.le_add_right _ _⟩, onward.ne_nil (by simp), inside⟩
    have split : Rule.Sound value₁ ⟨next, rests⟩ := below₁.trans worth₁.ge
    refine List.forall_mem_append.mpr ⟨List.forall_mem_cons.mpr ⟨split.extend within same₂, ?_⟩,
      sound₂⟩
    exact fun split member => (sound₁ split member).extend (inner split member) same₂

end Factored

namespace FactoredRules

variable {before rules : List Rule} {splits : List Split}

theorem sound_of_result (done : FactoredRules next before rules splits)
    (sound : ∀ rule ∈ rules, rule.Sound value) : ∀ rule ∈ before, rule.Sound value := by
  induction done with
  | nil => simp
  | @cons next rule later bodies splits rules others here _ ih =>
    obtain ⟨own, behind⟩ := List.forall_mem_append.mp sound
    obtain ⟨kept, inner⟩ := List.forall_mem_cons.mp own
    have splitSound : ∀ split ∈ splits, split.rule.Sound value := fun split member =>
      inner split.rule (List.mem_map_of_mem member)
    exact List.forall_mem_cons.mpr ⟨(here.le_total splitSound).trans kept, ih behind⟩

theorem exists_extension (done : FactoredRules next before rules splits) (low : 2 ≤ next)
    (given : ∀ rule ∈ before, rule.Within next) (sound : ∀ rule ∈ before, rule.Sound value) :
    ∃ value' : Symbol → K, (∀ s < next, value' s = value s) ∧ ∀ rule ∈ rules, rule.Sound value' := by
  induction done generalizing value with
  | nil => exact ⟨value, fun _ _ => rfl, by simp⟩
  | @cons next rule later bodies splits rules others here rest ih =>
    obtain ⟨within, laterWithin⟩ := List.forall_mem_cons.mp given
    obtain ⟨soundHere, soundLater⟩ := List.forall_mem_cons.mp sound
    have wider : next ≤ next + splits.length := Nat.le_add_right _ _
    obtain ⟨own, inner⟩ := here.bounds low within.symbols
    obtain ⟨value₁, same₁, sound₁, below₁⟩ := here.exists_extension low within.symbols value
    have kept : Rule.Sound value₁ ⟨rule.left, bodies⟩ := by
      rw [Rule.Sound, same₁ rule.left within.left.2]
      exact below₁.trans soundHere
    have keptWithin : Rule.Within (next + splits.length) ⟨rule.left, bodies⟩ :=
      ⟨⟨within.left.1, Nat.lt_of_lt_of_le within.left.2 wider⟩, here.ne_nil within.bodies, own⟩
    obtain ⟨value₂, same₂, sound₂⟩ := ih (Nat.le_trans low wider)
      (fun rule listed => (laterWithin rule listed).mono wider)
      fun rule listed => (soundLater rule listed).extend (laterWithin rule listed) same₁
    refine ⟨value₂, fun s old => (same₂ s (Nat.lt_of_lt_of_le old wider)).trans (same₁ s old), ?_⟩
    refine List.forall_mem_append.mpr
      ⟨List.forall_mem_cons.mpr ⟨kept.extend keptWithin same₂, ?_⟩, sound₂⟩
    intro rule listed
    obtain ⟨split, member, rfl⟩ := List.mem_map.mp listed
    exact (sound₁ split member).extend (inner split member) same₂

end FactoredRules
end Factoring

namespace Grammar

variable {g : Grammar}

theorem factored_language_eq (valid : g.WellFormed) (supply : NameSupply) {s : Symbol}
    (declared : s < g.size) : (g.factorWith supply).result.language s = g.language s := by
  obtain ⟨splits, done, extension⟩ := factorWith_result (g := g) supply
  have lefts := done.lefts
  obtain ⟨value, same, sound⟩ := done.exists_extension (Nat.le_add_left 2 _) valid.rules
    fun rule listed => sound_language listed
  have lost := language_le_of_sound lefts valid
    (done.sound_of_result fun rule listed => sound_language listed) declared
  have gained := language_le_of_extension extension lefts (valid.factored supply) same sound declared
  exact le_antisymm gained lost

/-- Factoring keeps the words of each nonterminal and with them the sentences; the symbols
there were keep their names. -/
theorem factored_generates (reachable : Reachable g) (supply : NameSupply) :
    (∀ s ∈ g.nonterminals, s ∈ (g.factorWith supply).result.nonterminals ∧
        ∀ word, (g.factorWith supply).result.Generates s word ↔ g.Generates s word) ∧
      (∀ word, (g.factorWith supply).result.Sentence word ↔ g.Sentence word) ∧
      ∀ s < g.size, (g.factorWith supply).result.nameOf s = g.nameOf s := by
  have valid := reachable.wellFormed
  obtain ⟨splits, done, extension⟩ := factorWith_result (g := g) supply
  have words : ∀ s ∈ g.nonterminals, ∀ word,
      (g.factorWith supply).result.Generates s word ↔ g.Generates s word := by
    intro s member word
    have same := factored_language_eq valid supply (valid.nonterminal_bounds member).2
    exact Set.ext_iff.mp same word
  refine ⟨fun s member => ⟨(done.lefts s).mpr (.inl member), words s member⟩, fun word => ?_,
    extension.nameOf⟩
  simp only [Sentence, extension.start]
  exact exists_congr fun s => and_congr_right fun starts => words s (valid.start s starts) word

/-- Statements with an optional second branch, which both begin alike. -/
def branches : Grammar :=
  ⟨["S", "if", "else", "go"], [⟨2, [[3, 2], [3, 2, 4, 2], [5]]⟩], some 2⟩

def branchesFactored : Grammar :=
  ⟨["S", "if", "else", "go", "S\x27"], [⟨2, [[3, 2, 6], [5]]⟩, ⟨6, [[], [4, 2]]⟩], some 2⟩

theorem branches_factored : branchesFactored.Generates 2 [3, 5, 4, 5] := by
  have built : ofEntries [⟨"S", [["if", "S"], ["if", "S", "else", "S"], ["go"]]⟩] = .ok branches := rfl
  have done : (branches.factorWith .empty).result = branchesFactored := by cbv
  have both : branches.Produces 2 [3, 2, 4, 2] := by decide
  have plain : branches.Produces 2 [5] := by decide
  have derives : branches.Derives [2] [3, 5, 4, 5] :=
    both.derives.trans ((plain.derives.append (plain.derives.append_left [4])).append_left [3])
  have words := ((factored_generates (.entries built) .empty).1 2 (by decide)).2
  rw [done] at words
  exact (words [3, 5, 4, 5]).mpr ⟨by decide, derives⟩

end Grammar
end Predictive
