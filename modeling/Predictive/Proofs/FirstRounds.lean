import Mathlib
import Predictive.Lookahead.Rounds
import Predictive.Proofs.Filling
import Predictive.Proofs.Lookahead
import Predictive.Proofs.Reached

/-! The rounds that compute FIRST come to an end, and what is there then is exactly what
derivations show. Whatever a round enters is right. Each round but the last fills a place that
was open, of which there is one for every nonterminal and symbol. When a round adds nothing,
the table is closed under the rules and so has every entry that a derivation accounts for. -/

namespace Predictive

theorem Grammar.card_places_le {g : Grammar} :
    g.nonterminals.toFinset.card * (Finset.range g.size).card ≤ g.rules.length * g.size := by
  have rules := List.toFinset_card_le g.nonterminals
  rw [nonterminals, List.length_map] at rules
  rw [Finset.card_range]
  exact Nat.mul_le_mul_right _ rules

namespace FirstTable

variable {g : Grammar} {table : FirstTable} {rule : Rule}

/-! One round -/

theorem nullable_iff {s : Symbol} : table.nullable s = true ↔ Symbol.empty ∈ table s :=
  List.contains_iff_mem

theorem empty_mem_ofSequence {form : List Symbol} :
    Symbol.empty ∈ table.ofSequence form ↔ ∀ s ∈ form, Symbol.empty ∈ table s := by
  induction form with
  | nil => simp [ofSequence]
  | cons s rest ih =>
    rw [ofSequence, List.mem_append, List.forall_mem_cons, ← nullable_iff]
    by_cases vanish : table.nullable s = true <;> simp [vanish, ih]

theorem mem_ofSequence {form : List Symbol} {t : Symbol} (other : t ≠ Symbol.empty) :
    t ∈ table.ofSequence form ↔ ∃ before s after, form = before ++ s :: after ∧
      (∀ u ∈ before, Symbol.empty ∈ table u) ∧ t ∈ table s := by
  have reaches : t ∈ table.ofSequence form ↔
      Body.reaches table.nullable (fun s => (table s).contains t) form = true := by
    induction form with
    | nil => simp [ofSequence, Body.reaches, other]
    | cons s rest ih =>
      rw [ofSequence, Body.reaches, List.mem_append]
      by_cases vanish : table.nullable s = true <;> simp [vanish, ih, other]
  rw [reaches, Body.reaches_iff]
  simp only [nullable_iff, List.contains_iff_mem]

/-- The empty word's symbol makes no difference in a sequence. -/
theorem ofSequence_filter (own : table Symbol.empty = [Symbol.empty]) (form : List Symbol) :
    table.ofSequence (form.filter (· != Symbol.empty)) = table.ofSequence form := by
  induction form with
  | nil => rfl
  | cons s rest ih =>
    by_cases empty : s = Symbol.empty
    · subst empty
      simp [ofSequence, nullable, own, ih]
    · simp [ofSequence, empty, ih]

theorem ofSequence_shown (own : table Symbol.empty = [Symbol.empty]) (body : Body) :
    table.ofSequence (Grammar.shown body) = table.ofSequence body := by
  cases body with
  | nil => simp [Grammar.shown, ofSequence, nullable, own]
  | cons s rest => rfl

/-- A round is a round of filling, in which every rule adds what its bodies can begin with. -/
def beginnings : Filling Rule where
  target := Rule.left
  offer table rule := rule.bodies.flatMap fun body => ofSequence table (Grammar.shown body)

theorem extend_eq : table.extend rule = beginnings.extend table rule := rfl

theorem round_eq {rules : List Rule} : table.round rules = beginnings.round table rules := by
  induction rules generalizing table with
  | nil => rfl
  | cons rule later ih =>
    rw [round, ih]
    rfl

theorem firstTable_eq (n : Nat) : g.firstTable n = beginnings.after (g.firstTable 0) g.rules n := by
  induction n with
  | zero => rfl
  | succ n ih =>
    have last : g.firstTable (n + 1) = (beginnings.round (g.firstTable n) g.rules).1 :=
      congrArg Prod.fst round_eq
    rw [last, ih]
    rfl

theorem mem_gain {t : Symbol} : t ∈ table.gain rule ↔
    (∃ body ∈ rule.bodies, t ∈ table.ofSequence (Grammar.shown body)) ∧ t ∉ table rule.left := by
  simp [gain, List.mem_eraseDups]

theorem mem_extend {s t : Symbol} : t ∈ table.extend rule s ↔
    t ∈ table s ∨ s = rule.left ∧ t ∈ table.gain rule := by
  rw [extend_eq]
  exact Filling.mem_extend

theorem round_unchanged {rules : List Rule} (ended : (table.round rules).2 = false) :
    (table.round rules).1 = table ∧ ∀ rule ∈ rules, table.gain rule = [] := by
  rw [round_eq] at ended ⊢
  exact Filling.round_unchanged ended

/-! Right entries -/

structure Sound (g : Grammar) (table : FirstTable) : Prop where
  letters : ∀ s ∉ g.nonterminals, table s = [s]
  vanishes : ∀ s ≠ Symbol.empty, Symbol.empty ∈ table s → g.Vanishes s
  begins : ∀ s, ∀ t ∈ table s, t ≠ Symbol.empty → t ∉ g.nonterminals ∧ g.Begins t s

theorem sound_initial : Sound g (g.firstTable 0) where
  letters s letter := by simp [Grammar.firstTable, Grammar.not_isNonterminal_iff.mpr letter]
  vanishes s other member := by
    unfold Grammar.firstTable at member
    split at member
    · cases member
    · exact absurd (List.mem_singleton.mp member).symm other
  begins s t member _ := by
    unfold Grammar.firstTable at member
    split at member
    · cases member
    next letter =>
      obtain rfl := List.mem_singleton.mp member
      exact ⟨Grammar.not_isNonterminal_iff.mp (eq_false_of_ne_true letter), .self⟩

namespace Sound

theorem empty (sound : Sound g table) (valid : g.WellFormed) :
    table Symbol.empty = [Symbol.empty] :=
  sound.letters _ fun member => absurd (valid.nonterminal_bounds member).1 (by decide)

theorem bodyVanishes (sound : Sound g table) {body : Body} (proper : Symbol.empty ∉ body)
    (member : Symbol.empty ∈ table.ofSequence body) : g.BodyVanishes body := fun s inside =>
  sound.vanishes s (fun same => proper (same ▸ inside)) (empty_mem_ofSequence.mp member s inside)

theorem bodyBegins (sound : Sound g table) {body : Body} {t : Symbol} (proper : Symbol.empty ∉ body)
    (other : t ≠ Symbol.empty) (member : t ∈ table.ofSequence body) :
    t ∉ g.nonterminals ∧ g.BodyBegins t body := by
  obtain ⟨before, s, after, rfl, vanish, here⟩ := (mem_ofSequence other).mp member
  obtain ⟨letter, begins⟩ := sound.begins s t here other
  refine ⟨letter, before, s, after, rfl, fun u inside => ?_, begins⟩
  exact sound.vanishes u (fun same => proper (List.mem_append_left _ (same ▸ inside))) (vanish u inside)

theorem extend (sound : Sound g table) (valid : g.WellFormed) (listed : rule ∈ g.rules) :
    Sound g (table.extend rule) where
  letters s letter := by
    have other : s ≠ rule.left := fun same => letter (same ▸ List.mem_map_of_mem listed)
    rw [FirstTable.extend, if_neg other, sound.letters s letter]
  vanishes s other member := by
    rcases mem_extend.mp member with before | ⟨rfl, gained⟩
    · exact sound.vanishes s other before
    · obtain ⟨⟨body, chosen, member⟩, _⟩ := mem_gain.mp gained
      have produces := Grammar.produces_iff.mpr ⟨rule, listed, rfl, chosen⟩
      rw [ofSequence_shown (sound.empty valid)] at member
      exact .intro produces (sound.bodyVanishes (valid.empty_not_mem produces) member)
  begins s t member other := by
    rcases mem_extend.mp member with before | ⟨rfl, gained⟩
    · exact sound.begins s t before other
    · obtain ⟨⟨body, chosen, member⟩, _⟩ := mem_gain.mp gained
      have produces := Grammar.produces_iff.mpr ⟨rule, listed, rfl, chosen⟩
      rw [ofSequence_shown (sound.empty valid)] at member
      obtain ⟨letter, begins⟩ := sound.bodyBegins (valid.empty_not_mem produces) other member
      exact ⟨letter, produces.begins begins⟩

theorem rounds (valid : g.WellFormed) (n : Nat) : Sound g (g.firstTable n) := by
  rw [firstTable_eq]
  apply Filling.after_induction sound_initial
  intro table sound rule listed
  exact sound.extend valid listed

/-- Every entry of a nonterminal is a symbol of the grammar. -/
theorem lt_size (sound : Sound g table) (valid : g.WellFormed) {s t : Symbol}
    (nonterminal : s ∈ g.nonterminals) (member : t ∈ table s) : t < g.size := by
  by_cases empty : t = Symbol.empty
  · exact empty ▸ Nat.succ_pos _
  · obtain ⟨rest, derives⟩ := (sound.begins s t member empty).2.derives
    have declared := (valid.nonterminal_bounds nonterminal).2
    exact derives.declared valid (List.forall_mem_singleton.mpr declared) t List.mem_cons_self

/-! A table that nothing can be added to -/

variable (sound : Sound g table) (valid : g.WellFormed)
  (closed : ∀ rule ∈ g.rules, table.gain rule = [])
include sound valid closed

theorem mem_of_produces {s t : Symbol} {body : Body} (produces : g.Produces s body)
    (member : t ∈ table.ofSequence body) : t ∈ table s := by
  obtain ⟨rule, listed, rfl, chosen⟩ := Grammar.produces_iff.mp produces
  by_contra open_
  rw [← ofSequence_shown (sound.empty valid)] at member
  have gained : t ∈ table.gain rule := mem_gain.mpr ⟨⟨body, chosen, member⟩, open_⟩
  rw [closed rule listed] at gained
  cases gained

theorem mem_of_vanishes {s : Symbol} (vanishes : g.Vanishes s) : Symbol.empty ∈ table s := by
  induction vanishes with
  | intro produces _ ih =>
    exact sound.mem_of_produces valid closed produces (empty_mem_ofSequence.mpr ih)

theorem mem_of_begins {s t : Symbol} (letter : t ∉ g.nonterminals) (other : t ≠ Symbol.empty)
    (begins : g.Begins t s) : t ∈ table s := by
  induction begins with
  | self => exact sound.letters t letter ▸ List.mem_singleton_self t
  | @intro s before u after produces vanish _ ih =>
    refine sound.mem_of_produces valid closed produces ((mem_ofSequence other).mpr ?_)
    exact ⟨before, u, after, rfl, fun v inside => sound.mem_of_vanishes valid closed (vanish v inside),
      ih⟩

end Sound

theorem exists_unchanged (valid : g.WellFormed) :
    ∃ n ≤ g.rules.length * g.size, (∀ m < n, ((g.firstTable m).round g.rules).2 = true) ∧
      ((g.firstTable n).round g.rules).2 = false := by
  have aimed : ∀ rule ∈ g.rules, rule.left ∈ g.nonterminals.toFinset := fun rule listed =>
    List.mem_toFinset.mpr (List.mem_map_of_mem listed)
  have declared : ∀ n, ∀ s ∈ g.nonterminals.toFinset, ∀ t ∈ beginnings.after (g.firstTable 0) g.rules n s,
      t ∈ Finset.range g.size := by
    intro n s nonterminal t member
    rw [← firstTable_eq] at member
    have bound := (Sound.rounds valid n).lt_size valid (List.mem_toFinset.mp nonterminal) member
    exact Finset.mem_range.mpr bound
  obtain ⟨n, bound, ended⟩ := Filling.exists_unchanged aimed declared
  simp only [← firstTable_eq, ← round_eq] at ended
  exact ⟨n, bound.trans Grammar.card_places_le, ended⟩

end FirstTable

namespace Grammar

variable {g : Grammar}

/-- The set of letters that the form can begin with, and of the empty word's symbol if the form
can vanish. -/
structure IsFirst (g : Grammar) (form : Body) (first : List Symbol) : Prop where
  letters : ∀ t ≠ Symbol.empty, t ∈ first ↔ t ∉ g.nonterminals ∧ ∃ rest, g.Derives form (t :: rest)
  empty : Symbol.empty ∈ first ↔ g.Derives form []

theorem mem_letters (valid : g.WellFormed) {t : Symbol} :
    t ∈ g.letters ↔ t ≠ Symbol.empty ∧ t < g.size ∧ t ∉ g.nonterminals := by
  constructor
  · intro listed
    rcases List.mem_append.mp listed with terminal | last
    · have kind := (List.mem_filter.mp terminal).2
      simp only [isTerminal, Bool.and_eq_true, decide_eq_true_eq, Bool.not_eq_true'] at kind
      exact ⟨ne_empty kind.1.1, kind.1.2, not_isNonterminal_iff.mp kind.2⟩
    · obtain rfl := List.mem_singleton.mp last
      exact ⟨by decide, Nat.le_add_left _ _, valid.not_nonterminal_endMark⟩
  · rintro ⟨proper, bound, letter⟩
    by_cases last : t = Symbol.endMark
    · exact last ▸ endMark_mem_letters
    · have low : 2 ≤ t := Nat.lt_of_le_of_ne (Nat.pos_of_ne_zero proper) (Ne.symm last)
      exact mem_letters_of_isTerminal (by simp [isTerminal, low, bound, not_isNonterminal_iff.mpr letter])

theorem map_fst_starters : g.firstSets.starters.map Prod.fst = g.letters := by
  simp [firstSets, FirstSets.ofGrammar, Function.comp_def]

theorem mem_ofBody {body : Body} {t : Symbol} : t ∈ g.firstSets.ofBody body ↔
    t = Symbol.empty ∧ g.BodyVanishes body ∨ t ∈ g.letters ∧ g.BodyBegins t body := by
  rw [FirstSets.ofBody, map_fst_starters, List.mem_append, List.mem_filter,
    and_congr_right fun letter => bodyBegins_firstSets letter, ← bodyVanishes_firstSets]
  by_cases vanish : g.firstSets.bodyVanishes body = true <;> simp [vanish]

theorem isFirst_ofBody (valid : g.WellFormed) {body : Body} (declared : ∀ s ∈ body, s < g.size) :
    g.IsFirst body (g.firstSets.ofBody body) where
  letters t other := by
    rw [mem_ofBody, or_iff_right fun empty => other empty.1, mem_letters valid, bodyBegins_iff_derives]
    constructor
    · intro shown
      exact ⟨shown.1.2.2, shown.2⟩
    · intro shown
      obtain ⟨letter, rest, derives⟩ := shown
      have bound := derives.declared valid declared t List.mem_cons_self
      exact ⟨⟨other, bound, letter⟩, rest, derives⟩
  empty := by
    rw [mem_ofBody, mem_letters valid, bodyVanishes_iff_derives]
    simp

end Grammar

theorem FirstTable.Sound.isFirst {g : Grammar} {table : FirstTable} (sound : Sound g table)
    (valid : g.WellFormed) (closed : ∀ rule ∈ g.rules, table.gain rule = []) (form : List Symbol) :
    g.IsFirst (form.filter (· != Symbol.empty)) (table.ofSequence form) := by
  have proper : Symbol.empty ∉ form.filter (· != Symbol.empty) := by simp
  rw [← ofSequence_filter (sound.empty valid) form]
  constructor
  · intro t other
    rw [← Grammar.bodyBegins_iff_derives]
    refine ⟨sound.bodyBegins proper other, ?_⟩
    rintro ⟨letter, before, s, after, same, vanish, begins⟩
    exact (mem_ofSequence other).mpr ⟨before, s, after, same,
      fun u inside => sound.mem_of_vanishes valid closed (vanish u inside),
      sound.mem_of_begins valid closed letter other begins⟩
  · rw [← Grammar.bodyVanishes_iff_derives]
    refine ⟨sound.bodyVanishes proper, fun vanish => empty_mem_ofSequence.mpr fun s inside => ?_⟩
    exact sound.mem_of_vanishes valid closed (vanish s inside)

namespace Grammar

variable {g : Grammar}

/-- The sets are exact for every sequence of symbols, in which the empty word's symbol counts for
nothing. The rounds end and come to the same sets. -/
theorem first_exact (reachable : Reachable g) :
    (∀ form : List Symbol, (∀ s ∈ form, s < g.size) →
        g.IsFirst (form.filter (· != Symbol.empty))
          (g.firstSets.ofBody (form.filter (· != Symbol.empty)))) ∧
      (∀ s ∈ g.nonterminals, g.firstSets.vanishes s = true ↔ g.Derives [s] []) ∧
      ∃ n ≤ g.rules.length * g.size,
        (∀ m < n, ((g.firstTable m).round g.rules).2 = true) ∧
        ((g.firstTable n).round g.rules).2 = false ∧
        (∀ form : List Symbol, g.IsFirst (form.filter (· != Symbol.empty))
          ((g.firstTable (n + 1)).ofSequence form)) ∧
        ∀ s ∈ g.nonterminals, (g.firstTable (n + 1)).nullable s = true ↔ g.Derives [s] [] := by
  have valid := reachable.wellFormed
  have alone : ∀ s, g.Vanishes s ↔ g.Derives [s] [] := fun s => by
    rw [← bodyVanishes_iff_derives, BodyVanishes, List.forall_mem_singleton]
  refine ⟨fun form declared => isFirst_ofBody valid fun s member => ?_,
    fun s _ => vanishes_firstSets.trans (alone s), ?_⟩
  · exact declared s (List.mem_filter.mp member).1
  · obtain ⟨n, bound, changed, ended⟩ := FirstTable.exists_unchanged valid
    obtain ⟨same, closed⟩ := FirstTable.round_unchanged ended
    have sound := FirstTable.Sound.rounds valid n
    have last : g.firstTable (n + 1) = g.firstTable n := same
    refine ⟨n, bound, changed, ended, fun form => ?_, fun s nonterminal => ?_⟩
    · exact last ▸ sound.isFirst valid closed form
    · rw [last, FirstTable.nullable_iff, ← alone]
      have proper := ne_empty (valid.nonterminal_bounds nonterminal).1
      exact ⟨sound.vanishes s proper, sound.mem_of_vanishes valid closed⟩

/-- Two nonterminals that can each vanish through the other. -/
def looped : Grammar :=
  ⟨["S", "A", "B", "c", "b"], [⟨2, [[3, 5]]⟩, ⟨3, [[4], []]⟩, ⟨4, [[3], [6]]⟩], some 2⟩

theorem looped_first :
    looped.firstSets.ofBody [3, 5] = [5, 6] ∧ looped.IsFirst [3, 5] [5, 6] ∧
      ∃ n ≤ 21, ((looped.firstTable n).round looped.rules).2 = false := by
  have built : ofEntries [⟨"S", [["A", "c"]]⟩, ⟨"A", [["B"], ["ε"]]⟩, ⟨"B", [["A"], ["b"]]⟩] =
    .ok looped := rfl
  have first : looped.firstSets.ofBody [3, 5] = [5, 6] := by cbv
  obtain ⟨exact, _, n, bound, _, ended, _⟩ := first_exact (.entries built)
  exact ⟨first, first ▸ exact [3, 0, 5] (by decide), n, bound, ended⟩

end Grammar
end Predictive
