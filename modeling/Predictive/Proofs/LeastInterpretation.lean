import Mathlib
import Predictive.Proofs.Derivations
import Predictive.Proofs.Interpretation

/-! What the symbols of a grammar stand for, as languages. The words that a symbol derives
are the least interpretation under which the rules are sound and letters stand at least
for themselves. To compare grammars it is thus enough to look at their rules. -/

namespace Predictive.Grammar
open Relation Computability

variable {g : Grammar}

/-- A letter stands for itself, a nonterminal for the words that it derives. -/
def language (g : Grammar) (s : Symbol) : Language Symbol := {word | g.Generates s word}

theorem mem_language {s : Symbol} {word : Body} :
    word ∈ g.language s ↔ g.IsWord word ∧ g.Derives [s] word := Iff.rfl

theorem mem_value_language {form word : Body} :
    word ∈ Body.value g.language form ↔ g.IsWord word ∧ g.Derives form word := by
  induction form generalizing word with
  | nil =>
    rw [value_nil, Language.mem_one]
    constructor
    · rintro rfl
      exact ⟨by simp [IsWord], .refl⟩
    · rintro ⟨_, derives⟩
      exact IsWord.eq_of_derives (by simp [IsWord]) derives
  | cons s rest ih =>
    rw [value_cons, Language.mem_mul]
    constructor
    · rintro ⟨left, first, right, later, rfl⟩
      obtain ⟨firstWord, first⟩ := mem_language.mp first
      obtain ⟨laterWord, later⟩ := ih.mp later
      exact ⟨IsWord.append.mpr ⟨firstWord, laterWord⟩, first.append later⟩
    · rintro ⟨isWord, derives⟩
      obtain ⟨left, right, rfl, first, later⟩ := derives.split_cons
      obtain ⟨firstWord, laterWord⟩ := IsWord.append.mp isWord
      exact ⟨left, mem_language.mpr ⟨firstWord, first⟩, right, ih.mpr ⟨laterWord, later⟩, rfl⟩

theorem sound_language {rule : Rule} (listed : rule ∈ g.rules) : rule.Sound g.language := by
  apply sound_iff.mpr
  intro body member word inside
  obtain ⟨isWord, derives⟩ := mem_value_language.mp inside
  have produces : g.Produces rule.left body := produces_iff.mpr ⟨rule, listed, rfl, member⟩
  exact mem_language.mpr ⟨isWord, produces.derives.trans derives⟩

theorem complete_language (valid : g.WellFormed) {rule : Rule} (listed : rule ∈ g.rules) :
    rule.Complete g.language := by
  intro word inside
  obtain ⟨isWord, derives⟩ := mem_language.mp inside
  rcases derives.of_singleton with rfl | ⟨body, produces, later⟩
  · have letter := not_isNonterminal_iff.mp (isWord rule.left List.mem_cons_self)
    exact absurd (List.mem_map_of_mem listed) letter
  · rw [Produces, valid.bodiesOf_eq listed] at produces
    have below : Body.value g.language body ≤ total g.language rule.bodies := value_le_total produces
    exact below (mem_value_language.mpr ⟨isWord, later⟩)

variable {value : Symbol → Language Symbol}

theorem mem_value_of_isWord {word : Body} (letters : ∀ s ∈ word, [s] ∈ value s) :
    word ∈ Body.value value word := by
  induction word with
  | nil => exact (Language.mem_one []).mpr rfl
  | cons s rest ih =>
    obtain ⟨first, later⟩ := List.forall_mem_cons.mp letters
    rw [value_cons, Language.mem_mul]
    exact ⟨[s], first, rest, ih later, rfl⟩

/-- The languages are least. -/
theorem language_le (valid : g.WellFormed)
    (letters : ∀ s < g.size, s ∉ g.nonterminals → [s] ∈ value s)
    (sound : ∀ rule ∈ g.rules, rule.Sound value) {s : Symbol} (declared : s < g.size) :
    g.language s ≤ value s := by
  intro word inside
  obtain ⟨isWord, derives⟩ := mem_language.mp inside
  have bounds := derives.declared valid (List.forall_mem_singleton.mpr declared)
  have member : word ∈ Body.value value word := mem_value_of_isWord fun t present =>
    letters t (bounds t present) (not_isNonterminal_iff.mp (isWord t present))
  have below := derives.value_le sound
  rw [value_singleton] at below
  exact below member

theorem mem_language_self {s : Symbol} (letter : s ∉ g.nonterminals) : [s] ∈ g.language s :=
  mem_language.mpr ⟨List.forall_mem_singleton.mpr (not_isNonterminal_iff.mpr letter), .refl⟩

/-! Two grammars of which one has more symbols, each of them a nonterminal. -/

section Extension

variable {h : Grammar} {count : Nat} (extension : g.Extends h count)
  (lefts : ∀ s, s ∈ h.nonterminals ↔ s ∈ g.nonterminals ∨ g.size ≤ s ∧ s < g.size + count)

include lefts in
theorem mem_nonterminals_of_lefts {s : Symbol} (declared : s < g.size) :
    s ∈ h.nonterminals ↔ s ∈ g.nonterminals :=
  (lefts s).trans ⟨fun member => member.resolve_right fun fresh => Nat.not_lt.mpr fresh.1 declared,
    .inl⟩

include extension lefts

/-- If the old languages make the new rules sound, given values for the new symbols, no old
symbol has gained a word. -/
theorem language_le_of_extension (valid : h.WellFormed)
    (same : ∀ s < g.size, value s = g.language s) (sound : ∀ rule ∈ h.rules, rule.Sound value)
    {s : Symbol} (declared : s < g.size) : h.language s ≤ g.language s := by
  rw [← same s declared]
  refine language_le valid ?_ sound ?_
  · intro t bound letter
    have old : t < g.size := by
      by_contra fresh
      exact letter ((lefts t).mpr (.inr ⟨Nat.not_lt.mp fresh, extension.size ▸ bound⟩))
    rw [same t old]
    exact mem_language_self (mt (mem_nonterminals_of_lefts lefts old).mpr letter)
  · exact Nat.lt_of_lt_of_le declared (extension.size ▸ Nat.le_add_right _ _)

omit extension in
/-- If the new languages make the old rules sound, no old symbol has lost a word. -/
theorem language_le_of_sound (valid : g.WellFormed) (sound : ∀ rule ∈ g.rules, rule.Sound h.language)
    {s : Symbol} (declared : s < g.size) : g.language s ≤ h.language s :=
  language_le valid (fun _ bound letter =>
    mem_language_self (mt (mem_nonterminals_of_lefts lefts bound).mp letter)) sound declared

end Extension

end Predictive.Grammar
