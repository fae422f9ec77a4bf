import Predictive.Proofs.Comparison
import Predictive.Proofs.EliminationLanguage
import Predictive.Proofs.Heads
import Predictive.Proofs.PassLimit

/-! Elimination leaves FIRST of the old nonterminals as it is. Words would not do to show it, for a
nonterminal that derives none still has beginnings; so the rules are read as inequalities between sets
of beginnings. What forms of the old grammar begin with makes the new rules sound. In the other
direction the new rules say exactly what the letters are that their symbols begin with, for without left
recursion every symbol has some beginning; and this makes the old rules sound. -/

namespace Predictive

namespace LeftRecursion

variable {finished later rules : List Rule} {next : Symbol} {introduced : List Introduction}

/-- A new symbol can vanish. -/
theorem Eliminates.nil_mem {size : Nat} (done : Eliminates finished next later introduced rules)
    (below : ∀ rule ∈ later, rule.left < size) : ∀ rule ∈ rules, size ≤ rule.left → [] ∈ rule.bodies := by
  induction done with
  | nil => simp
  | keep _ _ _ ih =>
    obtain ⟨first, below⟩ := List.forall_mem_cons.mp below
    exact List.forall_mem_cons.mpr ⟨fun fresh => absurd first (Nat.not_lt.mpr fresh), ih below⟩
  | split _ _ _ ih =>
    obtain ⟨first, below⟩ := List.forall_mem_cons.mp below
    refine List.forall_mem_cons.mpr ⟨fun fresh => absurd first (Nat.not_lt.mpr fresh), ?_⟩
    exact List.forall_mem_cons.mpr ⟨fun _ => by simp [repetition], ih below⟩

end LeftRecursion

namespace Grammar

variable {g h : Grammar} {s : Symbol} {x : Head} {supply : NameSupply}

/-- If all that comes to the front has a beginning that stays, then so have the body and each of its
ends. -/
theorem exists_settled {before rest : Body} (corners : ∀ t, g.LeftCorner s t → (g.firsts t).down.Nonempty)
    (produces : g.Produces s (before ++ rest)) (vanish : g.BodyVanishes before) :
    ∃ last, g.Derives rest last ∧ g.Settled last.head := by
  induction rest generalizing before with
  | nil => exact ⟨[], .refl, settled_one⟩
  | cons t rest ih =>
    by_cases inner : t ∈ g.nonterminals
    · obtain ⟨x, settled, form, derives, rfl⟩ := corners t ⟨inner, before, rest, produces, vanish⟩
      cases form with
      | nil =>
        have gone : g.BodyVanishes (before ++ [t]) :=
          bodyVanishes_append.mpr ⟨vanish, bodyVanishes_iff_derives.mpr derives⟩
        rw [List.append_cons] at produces
        obtain ⟨last, derives', settled'⟩ := ih produces gone
        exact ⟨last, derives.append derives', settled'⟩
      | cons letter later => exact ⟨letter :: later ++ rest, derives.append_right rest, settled⟩
    · exact ⟨t :: rest, .refl, settled_cons.mpr inner⟩

/-- Without left recursion every symbol can begin with a letter or vanish, for what comes to the front
lies deeper and deeper. -/
theorem firsts_nonempty (valid : g.WellFormed) (acyclic : ∀ s, ¬ g.LeftRecursive s) (s : Symbol) :
    (g.firsts s).down.Nonempty := by
  induction depth : g.depth s using Nat.strongRecOn generalizing s with
  | ind depth ih =>
    subst depth
    by_cases nonterminal : s ∈ g.nonterminals
    · obtain ⟨rule, listed, rfl⟩ := List.mem_map.mp nonterminal
      obtain ⟨body, chosen⟩ := List.exists_mem_of_ne_nil _ (valid.rules rule listed).bodies
      have produces : g.Produces rule.left ([] ++ body) := produces_of_listed rule listed body chosen
      obtain ⟨last, derives, settled⟩ := exists_settled
        (fun t corner => ih _ (depth_lt acyclic corner) t rfl) produces (List.forall_mem_nil _)
      exact ⟨last.head, settled, last, produces.derives.trans derives, rfl⟩
    · exact ⟨Body.head [s], settled_cons.mpr nonterminal, [s], .refl, rfl⟩

theorem mem_nonterminals_of_new (done : (g.eliminateLeftRecursionWith supply).result = .ok h)
    (fresh : g.size ≤ s) (declared : s < h.size) : s ∈ h.nonterminals := by
  obtain ⟨introduced, eliminates, extension, _⟩ := eliminates_of_eliminateLeftRecursion done
  exact (eliminates.lefts s).mpr (.inr ⟨fresh, extension.size ▸ declared⟩)

/-- Whatever is added to the beginnings in the old grammar, every symbol has one. -/
theorem nonempty_of_sound (valid : g.WellFormed)
    (done : (g.eliminateLeftRecursionWith supply).result = .ok h) {value : Symbol → SetSemiring Head}
    (same : ∀ s < g.size, value s = g.heads s) (sound : ∀ rule ∈ h.rules, rule.Sound value)
    (declared : s < h.size) : (value s).down.Nonempty := by
  rcases Nat.lt_or_ge s g.size with old | fresh
  · exact same s old ▸ ⟨_, self_mem_heads s⟩
  · obtain ⟨introduced, eliminates, _⟩ := eliminates_of_eliminateLeftRecursion done
    obtain ⟨rule, listed, rfl⟩ := List.mem_map.mp (mem_nonterminals_of_new done fresh declared)
    have empty := eliminates.nil_mem valid.left_lt rule listed fresh
    exact ⟨1, sound_iff.mp (sound rule listed) [] empty rfl⟩

/-- Nothing new comes to the front. -/
theorem mem_heads_of_eliminated (valid : g.WellFormed)
    (done : (g.eliminateLeftRecursionWith supply).result = .ok h) (declared : s < g.size)
    (settled : h.Settled x) (member : x ∈ (h.heads s).down) : x ∈ (g.heads s).down := by
  obtain ⟨last, derives, rfl⟩ := member
  obtain ⟨introduced, eliminates, extension, _⟩ := eliminates_of_eliminateLeftRecursion done
  obtain ⟨value, same, sound⟩ := eliminates.exists_extension (by simp) valid.rules (by simp)
    fun rule listed => sound_heads listed
  have below := derives.value_le sound
  rw [value_singleton, same s declared] at below
  apply below
  have wider : s < h.size := Nat.lt_of_lt_of_le declared (extension.size ▸ Nat.le_add_right _ _)
  have bounds := derives.declared (valid.eliminated done) (List.forall_mem_singleton.mpr wider)
  cases last with
  | nil => exact rfl
  | cons t rest =>
    obtain ⟨first, later⟩ := List.forall_mem_cons.mp bounds
    have old : t < g.size := by
      apply Nat.lt_of_not_le
      exact fun fresh => settled_cons.mp settled (mem_nonterminals_of_new done fresh first)
    have here : Body.head (t :: rest) ∈ (value t).down := same t old ▸ self_mem_heads t
    exact mem_value_cons here fun u member => nonempty_of_sound valid done same sound (later u member)

/-- Nothing gets lost at the front. -/
theorem mem_heads_eliminated (valid : g.WellFormed)
    (done : (g.eliminateLeftRecursionWith supply).result = .ok h) (settled : h.Settled x)
    (member : x ∈ (g.heads s).down) : x ∈ (h.heads s).down := by
  obtain ⟨last, derives, rfl⟩ := member
  obtain ⟨introduced, eliminates, _, acyclic⟩ := eliminates_of_eliminateLeftRecursion done
  have valid' := valid.eliminated done
  have inhabited := firsts_nonempty valid' (not_leftRecursive acyclic)
  have sound : ∀ rule ∈ g.rules, rule.Sound h.firsts :=
    eliminates.sound_of_result (by simp) (fun rule listed => sound_firsts listed)
      (fun rule listed => complete_firsts inhabited valid' listed)
      fun next tails listed => firsts_le_kstar inhabited valid' listed
  have below := derives.value_le sound
  rw [value_singleton] at below
  exact (below (head_mem_value_firsts inhabited settled .refl)).2

/-- If elimination succeeds, every old nonterminal has the same FIRST set as before, by number, and
vanishes if it did. No word has to be derived for it. -/
theorem eliminated_first (reachable : Reachable g)
    (done : (g.eliminateLeftRecursionWith supply).result = .ok h) :
    ∀ s ∈ g.nonterminals, h.firstSets.ofBody [s] = g.firstSets.ofBody [s] ∧
      h.firstSets.vanishes s = g.firstSets.vanishes s := by
  have valid := reachable.wellFormed
  obtain ⟨introduced, eliminates, extension, _⟩ := eliminates_of_eliminateLeftRecursion done
  intro s nonterminal
  have declared := (valid.nonterminal_bounds nonterminal).2
  have same : ∀ x, h.Settled x → (x ∈ (h.heads s).down ↔ x ∈ (g.heads s).down) := fun x settled =>
    ⟨mem_heads_of_eliminated valid done declared settled, mem_heads_eliminated valid done settled⟩
  have vanish : h.BodyVanishes [s] ↔ g.BodyVanishes [s] := by
    rw [← one_mem_heads, ← one_mem_heads]
    exact same 1 settled_one
  have begins : ∀ t ∈ g.letters, h.BodyBegins t [s] ↔ g.BodyBegins t [s] := by
    intro t listed
    obtain ⟨_, bound, letter⟩ := (mem_letters valid).mp listed
    have letter' : t ∉ h.nonterminals := mt (mem_nonterminals_eliminated done bound).mp letter
    have settled : h.Settled (Body.head [t]) := settled_cons.mpr letter'
    exact head_mem_heads.symm.trans ((same _ settled).trans head_mem_heads)
  have size : g.size ≤ h.size := extension.size ▸ Nat.le_add_right _ _
  have letters : h.letters = g.letters := letters_eq size (extension.size ▸ eliminates.lefts)
  refine ⟨ofBody_eq letters vanish begins, ?_⟩
  rw [Bool.eq_iff_iff, vanishes_firstSets, vanishes_firstSets]
  simpa [BodyVanishes] using vanish

/-- `U` derives no word, but begins with `c` all the same; `S` is left recursive and begins with what
stands behind `A` only because `A` can vanish. -/
def barren : Grammar :=
  ⟨["S", "A", "U", "b", "a", "c"], [⟨2, [[2, 5], [3, 4]]⟩, ⟨3, [[3, 6], []]⟩, ⟨4, [[7, 4]]⟩], some 2⟩

def barrenEliminated : Grammar :=
  ⟨["S", "A", "U", "b", "a", "c", "S\x27", "A\x27"],
    [⟨2, [[3, 4, 8]]⟩, ⟨8, [[5, 8], []]⟩, ⟨3, [[9]]⟩, ⟨9, [[6, 9], []]⟩, ⟨4, [[7, 4]]⟩], some 2⟩

theorem barren_eliminated_first :
    (barren.eliminateLeftRecursionWith .empty).result = .ok barrenEliminated ∧
      barrenEliminated.firstSets.ofBody [2] = [6, 7] ∧
      barrenEliminated.firstSets.vanishes 2 = false ∧ barrenEliminated.firstSets.vanishes 3 = true := by
  have built : ofEntries [⟨"S", [["S", "b"], ["A", "U"]]⟩, ⟨"A", [["A", "a"], ["ε"]]⟩,
    ⟨"U", [["c", "U"]]⟩] = .ok barren := rfl
  have done : (barren.eliminateLeftRecursionWith .empty).result = .ok barrenEliminated := by cbv
  have kept := eliminated_first (.entries built) done
  obtain ⟨first, vanish⟩ := kept 2 (by decide)
  have before : barren.firstSets.ofBody [2] = [6, 7] ∧ barren.firstSets.vanishes 2 = false ∧
      barren.firstSets.vanishes 3 = true := by
    refine ⟨?_, ?_, ?_⟩ <;> cbv
  exact ⟨done, first.trans before.1, vanish.trans before.2.1,
    (kept 3 (by decide)).2.trans before.2.2⟩

end Grammar
end Predictive
