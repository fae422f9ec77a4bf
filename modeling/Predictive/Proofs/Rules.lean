import Predictive.Grammar.Basic

/-! What the rules of a grammar say, whichever table or list is asked: the left sides are
the nonterminals, and the numbered productions are the bodies of the rules. -/

namespace Predictive.Grammar

variable {g : Grammar}

theorem isNonterminal_iff {s : Symbol} : g.isNonterminal s = true ↔ s ∈ g.nonterminals := by
  simp [isNonterminal, nonterminals]

theorem not_isNonterminal_iff {s : Symbol} : g.isNonterminal s = false ↔ s ∉ g.nonterminals := by
  rw [← Bool.not_eq_true, isNonterminal_iff]

theorem produces_iff {s : Symbol} {body : Body} :
    g.Produces s body ↔ ∃ rule ∈ g.rules, rule.left = s ∧ body ∈ rule.bodies := by
  simp [Produces, bodiesOf, and_assoc]

theorem produces_of_listed : ∀ rule ∈ g.rules, ∀ body ∈ rule.bodies, g.Produces rule.left body :=
  fun rule listed _ chosen => produces_iff.mpr ⟨rule, listed, rfl, chosen⟩

theorem Produces.nonterminal {s : Symbol} {body : Body} (produces : g.Produces s body) :
    s ∈ g.nonterminals := by
  obtain ⟨rule, listed, rfl, _⟩ := produces_iff.mp produces
  exact List.mem_map_of_mem listed

theorem mem_productions {p : Production} (listed : p ∈ g.productions) :
    g.Produces p.left p.body := by
  obtain ⟨⟨⟨left, body⟩, number⟩, member, rfl⟩ := List.mem_map.mp listed
  have paired := List.fst_mem_of_mem_zipIdx member
  obtain ⟨rule, inside, present⟩ := List.mem_flatMap.mp paired
  obtain ⟨_, chosen, same⟩ := List.mem_map.mp present
  obtain ⟨rfl, rfl⟩ := Prod.mk.inj same
  exact produces_iff.mpr ⟨rule, inside, rfl, chosen⟩

theorem Produces.listed {s : Symbol} {body : Body} (produces : g.Produces s body) :
    ∃ p ∈ g.productions, p.left = s ∧ p.body = body := by
  obtain ⟨rule, inside, rfl, member⟩ := produces_iff.mp produces
  have paired : (rule.left, body) ∈
      g.rules.flatMap fun rule => rule.bodies.map (rule.left, ·) :=
    List.mem_flatMap.mpr ⟨rule, inside, List.mem_map_of_mem member⟩
  obtain ⟨index, bound, same⟩ := List.mem_iff_getElem.mp paired
  refine ⟨⟨1 + index, rule.left, body⟩, List.mem_map.mpr ⟨((rule.left, body), 1 + index), ?_, rfl⟩,
    rfl, rfl⟩
  exact List.mem_zipIdx_iff_le_and_getElem?_sub.mpr ⟨by omega, by
    simp [List.getElem?_eq_getElem bound, same]⟩

/-- A number belongs to one production only, so productions are told apart by number even
where left sides and bodies agree. -/
theorem eq_of_number {p q : Production} (first : p ∈ g.productions) (second : q ∈ g.productions)
    (same : p.number = q.number) : p = q := by
  obtain ⟨⟨⟨left, body⟩, number⟩, member, rfl⟩ := List.mem_map.mp first
  obtain ⟨⟨⟨left', body'⟩, number'⟩, member', rfl⟩ := List.mem_map.mp second
  obtain rfl : number = number' := same
  have here := (List.mem_zipIdx_iff_le_and_getElem?_sub.mp member).2
  have there := (List.mem_zipIdx_iff_le_and_getElem?_sub.mp member').2
  obtain ⟨rfl, rfl⟩ : left = left' ∧ body = body' := by
    simpa using here.symm.trans there
  rfl

/-! Kinds -/

theorem ne_empty {s : Symbol} (declared : 2 ≤ s) : s ≠ Symbol.empty := by
  rintro rfl
  exact absurd declared (by decide)

theorem ne_endMark {s : Symbol} (declared : 2 ≤ s) : s ≠ Symbol.endMark := by
  rintro rfl
  exact absurd declared (by decide)

theorem kind_of_terminal {s : Symbol} (terminal : g.isTerminal s = true) :
    g.kindOf s = .terminal := by
  simp only [isTerminal, Bool.and_eq_true, decide_eq_true_eq, Bool.not_eq_true'] at terminal
  simp [kindOf, ne_empty terminal.1.1, ne_endMark terminal.1.1, terminal.2]

theorem not_terminal_of_nonterminal {s : Symbol} (nonterminal : s ∈ g.nonterminals) :
    g.kindOf s ≠ .terminal := by
  unfold kindOf
  split
  · exact nofun
  · split
    · exact nofun
    · rw [if_pos (isNonterminal_iff.mpr nonterminal)]
      exact nofun

theorem emptyWord_of_kind {s : Symbol} (kind : g.kindOf s = .emptyWord) : s = Symbol.empty := by
  unfold kindOf at kind
  split at kind
  · assumption
  · split at kind
    · cases kind
    · split at kind <;> cases kind

theorem endMark_of_kind {s : Symbol} (kind : g.kindOf s = .endMark) : s = Symbol.endMark := by
  unfold kindOf at kind
  split at kind
  · cases kind
  · split at kind
    · assumption
    · split at kind <;> cases kind

theorem nonterminal_of_kind {s : Symbol} (kind : g.kindOf s = .nonterminal) :
    s ∈ g.nonterminals := by
  unfold kindOf at kind
  split at kind
  · cases kind
  · split at kind
    · cases kind
    · split at kind
      next found => exact isNonterminal_iff.mp found
      · cases kind

end Predictive.Grammar
