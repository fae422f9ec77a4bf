import Predictive.Lookahead.Rounds
import Predictive.Proofs.Filling
import Predictive.Proofs.FirstRounds

/-! FOLLOW holds exactly what derivations show behind a nonterminal: a letter follows where some
form derived from a nonterminal has it right behind, and the end mark follows what a form derived
from the start symbol ends in. The rounds that compute FOLLOW come to an end, and what is there
then are the same sets: whatever a round enters is right, and when nothing can be entered, all
that the rules account for is there. -/

namespace Predictive

namespace Grammar

variable {g : Grammar} {letter s t start : Symbol} {form : Body}

/-! Derivations -/

/-- What follows shows up behind, the end mark behind the end of a form. -/
theorem Follows.derives (follows : g.Follows letter s) :
    (∃ root ∈ g.nonterminals, ∃ before after, g.Derives [root] (before ++ s :: letter :: after)) ∨
      letter = Symbol.endMark ∧ ∃ start before, g.start = some start ∧
        g.Derives [start] (before ++ [s]) := by
  induction follows with
  | @start s last starts _ => exact .inr ⟨last, s, [], starts, .refl⟩
  | @rest left before s after produces _ begins =>
    obtain ⟨rest, derives⟩ := bodyBegins_iff_derives.mp begins
    refine .inl ⟨left, produces.nonterminal, before, rest, produces.derives.trans ?_⟩
    exact (derives.append_left [s]).append_left before
  | @left left before s after produces _ vanish _ ih =>
    have inside : ∀ earlier later, g.Derives (earlier ++ left :: later)
        (earlier ++ before ++ s :: later) := by
      intro earlier later
      have gone := (bodyVanishes_iff_derives.mp vanish).append_right later
      have body : g.Derives (left :: later) (before ++ s :: later) := by
        apply produces.derives_cons
        rw [List.append_assoc]
        exact (gone.append_left [s]).append_left before
      rw [List.append_assoc]
      exact body.append_left earlier
    rcases ih with ⟨root, nonterminal, earlier, later, derives⟩ | ⟨last, start, earlier, starts, derives⟩
    · exact .inl ⟨root, nonterminal, earlier ++ before, later, derives.trans (inside _ _)⟩
    · exact .inr ⟨last, start, earlier ++ before, starts, derives.trans (inside _ [])⟩

theorem Derives.endMark_not_mem (derives : g.Derives [s] form) (valid : g.WellFormed)
    (free : g.EndMarkFree) (nonterminal : s ∈ g.nonterminals) : Symbol.endMark ∉ form := by
  have others : ∀ t ∈ form, t ≠ Symbol.endMark := by
    refine derives.forall_mem (fun left body produces t member same => ?_) (fun t member => ?_)
    · obtain ⟨rule, listed, _, chosen⟩ := produces_iff.mp produces
      exact free rule listed body chosen (same ▸ member)
    · obtain rfl := List.mem_singleton.mp member
      exact ne_endMark (valid.nonterminal_bounds nonterminal).1
  exact fun member => others _ member rfl

theorem follows_iff_derives (other : letter ≠ Symbol.endMark) (nonterminal : s ∈ g.nonterminals) :
    g.Follows letter s ↔
      ∃ root ∈ g.nonterminals, ∃ before after, g.Derives [root] (before ++ s :: letter :: after) := by
  constructor
  · intro follows
    rcases follows.derives with shown | ⟨last, _⟩
    · exact shown
    · exact absurd last other
  · intro shown
    obtain ⟨root, _, before, after, derives⟩ := shown
    refine follows_of_derives (fun last => absurd last other) derives nonterminal (.inl ?_)
    exact bodyBegins_cons.mpr (.inl .self)

theorem endMark_follows_iff_derives (valid : g.WellFormed) (free : g.EndMarkFree)
    (starts : g.start = some start) (nonterminal : s ∈ g.nonterminals) :
    g.Follows Symbol.endMark s ↔ ∃ before, g.Derives [start] (before ++ [s]) := by
  constructor
  · intro follows
    rcases follows.derives with ⟨root, member, before, after, derives⟩ | ⟨_, other, before, same, derives⟩
    · have absent := derives.endMark_not_mem valid free member
      exact absurd (by simp) absent
    · obtain rfl := Option.some.inj (starts.symm.trans same)
      exact ⟨before, derives⟩
  · intro shown
    obtain ⟨before, derives⟩ := shown
    exact follows_of_derives (fun _ => starts) derives nonterminal (.inr ⟨rfl, by simp [BodyVanishes]⟩)

/-- The set of letters that can stand right behind `s`. The end mark is taken to stand behind every
form derived from the start symbol; where all nonterminals are part of such forms, only those forms
count. -/
structure IsFollow (g : Grammar) (start s : Symbol) (follow : List Symbol) : Prop where
  terminals : ∀ t, g.isTerminal t = true → (t ∈ follow ↔
    ∃ left ∈ g.nonterminals, ∃ before after, g.Derives [left] (before ++ s :: t :: after))
  endMark : Symbol.endMark ∈ follow ↔ ∃ before, g.Derives [start] (before ++ [s])
  accessible : (∀ u ∈ g.nonterminals, g.Accessible u) → ∀ t ∉ g.nonterminals, (t ∈ follow ↔
    ∃ form before after, g.Derives [start] form ∧ form ++ [Symbol.endMark] = before ++ s :: t :: after)

/-- Cut at the end mark, which is the last symbol and occurs nowhere else. -/
theorem concat_endMark_eq_iff {before : Body} (absent : Symbol.endMark ∉ form) :
    (∃ after, form ++ [Symbol.endMark] = before ++ s :: t :: after) ↔
      (∃ after, form = before ++ s :: t :: after) ∨ t = Symbol.endMark ∧ form = before ++ [s] := by
  constructor
  · intro shown
    obtain ⟨after, same⟩ := shown
    cases after using List.reverseRecOn with
    | nil =>
      have cut : form ++ [Symbol.endMark] = (before ++ [s]) ++ [t] := by simpa using same
      obtain ⟨rfl, last⟩ := List.append_inj' cut rfl
      exact .inr ⟨(List.singleton_inj.mp last).symm, rfl⟩
    | append_singleton after last _ =>
      have cut : form ++ [Symbol.endMark] = (before ++ s :: t :: after) ++ [last] := by
        simpa using same
      exact .inl ⟨after, (List.append_inj' cut rfl).1⟩
  · intro shown
    rcases shown with ⟨after, rfl⟩ | ⟨rfl, rfl⟩
    · exact ⟨after ++ [Symbol.endMark], by simp⟩
    · exact ⟨[], by simp⟩

/-- Where every nonterminal is accessible, what follows shows up in a form derived from the start
symbol. -/
theorem Follows.exists_form (follows : g.Follows t s) (starts : g.start = some start)
    (reached : ∀ u ∈ g.nonterminals, g.Accessible u) :
    ∃ form before, g.Derives [start] form ∧
      ((∃ after, form = before ++ s :: t :: after) ∨ t = Symbol.endMark ∧ form = before ++ [s]) := by
  rcases follows.derives with
    ⟨left, member, before, after, derives⟩ | ⟨last, other, before, same, derives⟩
  · obtain ⟨other, first, last, same, derives'⟩ := reached left member
    obtain rfl := Option.some.inj (starts.symm.trans same)
    have inside := (derives.append_right last).append_left first
    exact ⟨_, first ++ before, derives'.trans inside, .inl ⟨after ++ last, by simp⟩⟩
  · obtain rfl := Option.some.inj (starts.symm.trans same)
    exact ⟨_, before, derives, .inr ⟨last, rfl⟩⟩

theorem map_fst_followed (starts : g.start = some start) :
    (g.followSets g.firstSets).followed.map Prod.fst = g.letters := by
  simp [followSets, FollowSets.ofGrammar, starts, Function.comp_def]

theorem mem_followSets (starts : g.start = some start) :
    t ∈ (g.followSets g.firstSets).of s ↔ t ∈ g.letters ∧ g.Follows t s := by
  rw [FollowSets.of, map_fst_followed starts, List.mem_filter]
  exact and_congr_right fun letter => follows_followSets starts letter

theorem isFollow (valid : g.WellFormed) (free : g.EndMarkFree) (starts : g.start = some start)
    (nonterminal : s ∈ g.nonterminals) {follow : List Symbol}
    (members : ∀ t, t ∈ follow ↔ t ∈ g.letters ∧ g.Follows t s) : g.IsFollow start s follow where
  terminals t terminal := by
    have other : t ≠ Symbol.endMark := by
      rintro rfl
      cases kind_of_terminal terminal
    rw [members, follows_iff_derives other nonterminal]
    exact and_iff_right (mem_letters_of_isTerminal terminal)
  endMark := by
    rw [members, endMark_follows_iff_derives valid free starts nonterminal]
    exact and_iff_right endMark_mem_letters
  accessible reached t letter := by
    have root := valid.start start starts
    constructor
    · intro member
      obtain ⟨form, before, derives, place⟩ := ((members t).mp member).2.exists_form starts reached
      have absent := derives.endMark_not_mem valid free root
      obtain ⟨after, same⟩ := (concat_endMark_eq_iff absent).mpr place
      exact ⟨form, before, after, derives, same⟩
    · intro shown
      obtain ⟨form, before, after, derives, same⟩ := shown
      have absent := derives.endMark_not_mem valid free root
      rw [members]
      rcases (concat_endMark_eq_iff absent).mp ⟨after, same⟩ with ⟨after, rfl⟩ | ⟨rfl, rfl⟩
      · have bounds := derives.bounds valid (valid.bounds_singleton root) t (by simp)
        have other : t ≠ Symbol.endMark := fun last => absent (by simp [last])
        refine ⟨(mem_letters valid).mpr ⟨Nat.ne_of_gt bounds.1, bounds.2, letter⟩, ?_⟩
        exact (follows_iff_derives other nonterminal).mpr ⟨start, root, before, after, derives⟩
      · refine ⟨endMark_mem_letters, ?_⟩
        exact (endMark_follows_iff_derives valid free starts nonterminal).mpr ⟨before, derives⟩

/-! Rounds -/

/-- Every entry is a letter that follows. -/
def SoundFollow (g : Grammar) (table : Symbol → List Symbol) : Prop :=
  ∀ s, ∀ t ∈ table s, t ∈ g.letters ∧ g.Follows t s

variable {first : FirstTable} {table : Symbol → List Symbol}

theorem soundFollow_initial (valid : g.WellFormed) (first : FirstTable) :
    g.SoundFollow (g.followTable first 0) := by
  intro s t member
  change t ∈ if g.start = some s then [Symbol.endMark] else [] at member
  split at member
  next starts =>
    obtain rfl := List.mem_singleton.mp member
    exact ⟨endMark_mem_letters, .start rfl starts (valid.start s starts)⟩
  · cases member

section Exact

variable (valid : g.WellFormed)
  (initials : ∀ form, Symbol.empty ∉ form → g.IsFirst form (first.ofSequence form))

include valid initials

theorem SoundFollow.extend (sound : g.SoundFollow table) {place : Occurrence}
    (listed : place ∈ g.occurrences) : g.SoundFollow (first.following.extend table place) := by
  obtain ⟨nonterminal, before, produces⟩ := mem_occurrences.mp listed
  have bounds : ∀ t ∈ place.rest, 0 < t ∧ t < g.size := fun t member =>
    valid.body_bounds produces (by simp [member])
  have rest := initials place.rest fun member => Nat.lt_irrefl 0 (bounds _ member).1
  intro s t member
  rcases Filling.mem_extend.mp member with before | ⟨rfl, gained⟩
  · exact sound s t before
  · rcases mem_announced.mp (Filling.mem_gain.mp gained).1 with ⟨member, other⟩ | ⟨empty, inherited⟩
    · obtain ⟨letter, later, derives⟩ := (rest.letters t other).mp member
      have bound := derives.declared valid (fun u inside => (bounds u inside).2) t List.mem_cons_self
      refine ⟨(mem_letters valid).mpr ⟨other, bound, letter⟩, .rest produces nonterminal ?_⟩
      exact bodyBegins_iff_derives.mpr ⟨later, derives⟩
    · obtain ⟨letter, follows⟩ := sound place.left t inherited
      have vanish := bodyVanishes_iff_derives.mpr (rest.empty.mp empty)
      exact ⟨letter, .left produces nonterminal vanish follows⟩

theorem soundFollow (rounds : Nat) : g.SoundFollow (g.followTable first rounds) :=
  Filling.after_induction (soundFollow_initial valid first)
    (fun _ sound _ listed => sound.extend valid initials listed) rounds

/-- A table that no place can add to, with the end mark behind the start symbol, has every letter
that follows. -/
theorem mem_of_follows (closed : ∀ place ∈ g.occurrences, first.following.gain table place = [])
    (initial : ∀ s, g.start = some s → Symbol.endMark ∈ table s) (letter : t ∈ g.letters)
    (follows : g.Follows t s) : t ∈ table s := by
  obtain ⟨other, _, terminal⟩ := (mem_letters valid).mp letter
  have place : ∀ {left before s after}, g.Produces left (before ++ s :: after) →
      s ∈ g.nonterminals → t ∈ first.following.offer table ⟨s, left, after⟩ → t ∈ table s := by
    intro left before s after produces nonterminal offered
    have listed : ⟨s, left, after⟩ ∈ g.occurrences :=
      mem_occurrences.mpr ⟨nonterminal, before, produces⟩
    exact Filling.mem_of_gain (closed _ listed) offered
  have rest : ∀ {left before s after}, g.Produces left (before ++ s :: after) →
      g.IsFirst after (first.ofSequence after) := by
    intro left before s after produces
    apply initials
    intro member
    exact valid.empty_not_mem produces (by simp [member])
  induction follows with
  | @start s last starts _ => exact last ▸ initial s starts
  | rest produces nonterminal begins =>
    apply place produces nonterminal
    have shown := bodyBegins_iff_derives.mp begins
    have member := ((rest produces).letters t other).mpr ⟨terminal, shown⟩
    exact mem_announced.mpr (.inl ⟨member, other⟩)
  | left produces nonterminal vanish _ ih =>
    apply place produces nonterminal
    have empty := (rest produces).empty.mpr (bodyVanishes_iff_derives.mp vanish)
    exact mem_announced.mpr (.inr ⟨empty, ih⟩)

theorem exists_follow_unchanged : ∃ n ≤ g.rules.length * g.size,
    (∀ m < n, g.followGrows first m = true) ∧ g.followGrows first n = false := by
  have aimed : ∀ place ∈ g.occurrences, place.symbol ∈ g.nonterminals.toFinset := by
    intro place listed
    exact List.mem_toFinset.mpr (mem_occurrences.mp listed).1
  have declared : ∀ n, ∀ s ∈ g.nonterminals.toFinset, ∀ t ∈ g.followTable first n s,
      t ∈ Finset.range g.size := by
    intro n s _ t member
    have letter := (soundFollow valid initials n s t member).1
    exact Finset.mem_range.mpr ((mem_letters valid).mp letter).2.1
  obtain ⟨n, bound, ended⟩ := Filling.exists_unchanged aimed declared
  exact ⟨n, bound.trans card_places_le, ended⟩

/-- The round that adds nothing leaves the letters that follow. -/
theorem mem_followTable {n : Nat} (ended : g.followGrows first n = false) :
    t ∈ g.followTable first (n + 1) s ↔ t ∈ g.letters ∧ g.Follows t s := by
  obtain ⟨_, closed⟩ := Filling.round_unchanged ended
  have same : g.followTable first (n + 1) = g.followTable first n :=
    (Filling.round_unchanged ended).1
  rw [same]
  constructor
  · exact soundFollow valid initials n s t
  · intro shown
    apply mem_of_follows valid initials closed ?_ shown.1 shown.2
    intro s starts
    apply Filling.mem_after
    rw [if_pos starts]
    exact List.mem_cons_self

end Exact

/-- FOLLOW is what derivations show, and consists of letters only. Its rounds end, with the FIRST
sets that the rounds for FIRST leave, and come to the same sets. -/
theorem follow_exact (reachable : Reachable g) :
    (∀ start, g.start = some start → g.EndMarkFree → ∀ s ∈ g.nonterminals,
        g.IsFollow start s ((g.followSets g.firstSets).of s)) ∧
      (∀ s, ∀ t ∈ (g.followSets g.firstSets).of s, t ≠ Symbol.empty ∧ t ∉ g.nonterminals) ∧
      ∃ k, ((g.firstTable k).round g.rules).2 = false ∧
        ∃ n ≤ g.rules.length * g.size,
          (∀ m < n, g.followGrows (g.firstTable (k + 1)) m = true) ∧
          g.followGrows (g.firstTable (k + 1)) n = false ∧
          ∀ start, g.start = some start → ∀ s t,
            t ∈ g.followTable (g.firstTable (k + 1)) (n + 1) s ↔
              t ∈ (g.followSets g.firstSets).of s := by
  have valid := reachable.wellFormed
  refine ⟨fun start starts free s nonterminal => ?_, fun s t member => ?_, ?_⟩
  · exact isFollow valid free starts nonterminal fun t => mem_followSets starts
  · cases starts : g.start with
    | none => simp [followSets, FollowSets.ofGrammar, FollowSets.of, starts] at member
    | some start =>
      obtain ⟨letter, _⟩ := (mem_followSets starts).mp member
      obtain ⟨other, _, terminal⟩ := (mem_letters valid).mp letter
      exact ⟨other, terminal⟩
  · obtain ⟨k, _, _, ended⟩ := FirstTable.exists_unchanged valid
    have last : g.firstTable (k + 1) = g.firstTable k := (FirstTable.round_unchanged ended).1
    have initials : ∀ form, Symbol.empty ∉ form →
        g.IsFirst form ((g.firstTable (k + 1)).ofSequence form) := by
      intro form absent
      have whole : form.filter (· != Symbol.empty) = form := by
        apply List.filter_eq_self.mpr
        intro s member
        exact bne_iff_ne.mpr fun same => absent (same ▸ member)
      have isFirst := (FirstTable.Sound.rounds valid k).isFirst valid
        (FirstTable.round_unchanged ended).2 form
      rwa [whole, ← last] at isFirst
    obtain ⟨n, bound, changed, unchanged⟩ := exists_follow_unchanged valid initials
    refine ⟨k, ended, n, bound, changed, unchanged, fun start starts s t => ?_⟩
    rw [mem_followTable valid initials unchanged, mem_followSets starts]

/-- What `U` derives counts for FOLLOW, although nothing leads to `U`. -/
def detached : Grammar :=
  ⟨["S", "A", "U", "b", "a", "c"], [⟨2, [[3, 5]]⟩, ⟨3, [[6, 3], []]⟩, ⟨4, [[3, 7]]⟩], some 2⟩

theorem detached_follow :
    (detached.followSets detached.firstSets).of 3 = [5, 7] ∧ detached.IsFollow 2 3 [5, 7] ∧
      ∃ k, ∃ n ≤ 24, detached.followGrows (detached.firstTable (k + 1)) n = false := by
  have built : ofEntries [⟨"S", [["A", "b"]]⟩, ⟨"A", [["a", "A"], ["ε"]]⟩, ⟨"U", [["A", "c"]]⟩] =
    .ok detached := rfl
  have follow : (detached.followSets detached.firstSets).of 3 = [5, 7] := by cbv
  obtain ⟨follows, _, k, _, n, bound, _, ended, _⟩ := follow_exact (.entries built)
  exact ⟨follow, follow ▸ follows 2 rfl (by decide) 3 (by decide), k, n, bound, ended⟩

end Grammar
end Predictive
