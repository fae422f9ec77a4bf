import Predictive.Proofs.FollowRounds

/-! Two grammars compared. Where the bodies of one can be derived in the other, nothing more is ahead in
it; and where each has ahead what the other one has, the sets are the same, down to the order in which
the letters are listed. -/

namespace Predictive.Grammar

variable {g h : Grammar} {start letter s t : Symbol} {body last : Body}

/-! In a grammar whose bodies derive in another one, nothing more is ahead. -/

section Implied

variable (implied : ∀ s body, h.Produces s body → g.Derives [s] body)

include implied

theorem derives_of_implied {form : Body} (derives : h.Derives form last) : g.Derives form last := by
  induction derives with
  | refl => exact .refl
  | tail _ step ih =>
    obtain @⟨s, body, before, after, produces⟩ := step
    have here := ((implied s body produces).append_right after).append_left before
    rw [List.append_assoc]
    exact ih.trans here

theorem bodyBegins_of_implied (begins : h.BodyBegins letter body) : g.BodyBegins letter body := by
  obtain ⟨rest, derives⟩ := bodyBegins_iff_derives.mp begins
  exact bodyBegins_iff_derives.mpr ⟨rest, derives_of_implied implied derives⟩

theorem bodyVanishes_of_implied (vanish : h.BodyVanishes body) : g.BodyVanishes body :=
  bodyVanishes_iff_derives.mpr (derives_of_implied implied (bodyVanishes_iff_derives.mp vanish))

theorem follows_of_implied (starts : h.start = g.start)
    (lefts : ∀ s ∈ h.nonterminals, s ∈ g.nonterminals) (follows : h.Follows letter s) :
    g.Follows letter s := by
  induction follows with
  | start last root nonterminal => exact .start last (starts ▸ root) (lefts _ nonterminal)
  | rest produces nonterminal begins =>
    apply follows_of_behind (implied _ _ produces) (lefts _ nonterminal)
    exact .inl (bodyBegins_of_implied implied begins)
  | left produces nonterminal vanish _ ih =>
    apply follows_of_behind (implied _ _ produces) (lefts _ nonterminal)
    exact .inr ⟨bodyVanishes_of_implied implied vanish, ih⟩

end Implied

/-! The same sets -/

/-- New nonterminals are not among the terminals. -/
theorem terminals_eq (size : g.size ≤ h.size)
    (lefts : ∀ s, s ∈ h.nonterminals ↔ s ∈ g.nonterminals ∨ g.size ≤ s ∧ s < h.size) :
    h.terminals = g.terminals := by
  have added : ((List.range (h.size - g.size)).map (g.size + ·)).filter h.isTerminal = [] := by
    refine List.filter_eq_nil_iff.mpr fun s member terminal => ?_
    obtain ⟨n, inside, rfl⟩ := List.mem_map.mp member
    have bound : g.size + n < h.size := Nat.add_lt_of_lt_sub' (List.mem_range.mp inside)
    have nonterminal := (lefts (g.size + n)).mpr (.inr ⟨Nat.le_add_right _ _, bound⟩)
    simp [isTerminal, isNonterminal_iff.mpr nonterminal] at terminal
  have kept : (List.range g.size).filter h.isTerminal = (List.range g.size).filter g.isTerminal := by
    refine List.filter_congr fun s inside => ?_
    have old := List.mem_range.mp inside
    have nonterminal : h.isNonterminal s = g.isNonterminal s := by
      rw [Bool.eq_iff_iff, isNonterminal_iff, isNonterminal_iff, lefts]
      exact or_iff_left fun new => Nat.not_le.mpr old new.1
    simp [isTerminal, old, Nat.lt_of_lt_of_le old size, nonterminal]
  rw [terminals, terminals, symbols, symbols, ← Nat.add_sub_cancel' size, List.range_add,
    List.filter_append, added, kept, List.append_nil]

theorem letters_eq (size : g.size ≤ h.size)
    (lefts : ∀ s, s ∈ h.nonterminals ↔ s ∈ g.nonterminals ∨ g.size ≤ s ∧ s < h.size) :
    h.letters = g.letters :=
  congrArg (· ++ [Symbol.endMark]) (terminals_eq size lefts)

theorem ofBody_eq (letters : h.letters = g.letters) (vanish : h.BodyVanishes body ↔ g.BodyVanishes last)
    (begins : ∀ t ∈ g.letters, h.BodyBegins t body ↔ g.BodyBegins t last) :
    h.firstSets.ofBody body = g.firstSets.ofBody last := by
  rw [FirstSets.ofBody, FirstSets.ofBody, map_fst_starters, map_fst_starters, letters]
  have empty : h.firstSets.bodyVanishes body = g.firstSets.bodyVanishes last := by
    rw [Bool.eq_iff_iff, bodyVanishes_firstSets, bodyVanishes_firstSets, vanish]
  rw [empty, List.append_cancel_left_eq]
  refine List.filter_congr fun t letter => ?_
  rw [Bool.eq_iff_iff, bodyBegins_firstSets letter, bodyBegins_firstSets (letters ▸ letter), begins t letter]

theorem of_eq {root : Symbol} (letters : h.letters = g.letters) (starts : g.start = some start)
    (starts' : h.start = some root) (follows : ∀ letter ∈ g.letters, h.Follows letter s ↔ g.Follows letter t) :
    (h.followSets h.firstSets).of s = (g.followSets g.firstSets).of t := by
  rw [FollowSets.of, FollowSets.of, map_fst_followed starts, map_fst_followed starts', letters]
  refine List.filter_congr fun letter listed => ?_
  rw [Bool.eq_iff_iff, follows_followSets starts listed, follows_followSets starts' (letters ▸ listed),
    follows letter listed]

end Predictive.Grammar
