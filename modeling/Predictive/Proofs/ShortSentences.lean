import Mathlib.Data.List.Perm.Subperm
import Mathlib.Logic.Function.Iterate
import Predictive.Proofs.BoundedDerivations
import Predictive.Proofs.Reached
import Predictive.Search

/-! The search for short sentences ends, and what it finds are the short words with a leftmost
derivation through short forms. Each pass takes up one of finitely many forms, and none is lined up
twice. A form that was met before is no loss: whatever can be reached from it is on the way already. -/

namespace Predictive

variable {g : Grammar} {limit : Nat}

namespace Search

variable {search : Search}

/-- Meeting forms adds the new ones to both lists. -/
theorem meet_all (forms : List Body) : ∃ fresh,
    forms.foldl meet search = ⟨search.met ++ fresh, search.waiting ++ fresh, search.found⟩ ∧
      (search.met.Nodup → (search.met ++ fresh).Nodup) ∧
      ∀ form, form ∈ search.met ++ fresh ↔ form ∈ search.met ∨ form ∈ forms := by
  induction forms generalizing search with
  | nil => exact ⟨[], by simp, by simp, by simp⟩
  | cons form later ih =>
    obtain ⟨fresh, same, distinct, members⟩ := @ih (search.meet form)
    rw [List.foldl_cons, same]
    by_cases known : form ∈ search.met
    · have unchanged : search.meet form = search := if_pos (List.contains_iff_mem.mpr known)
      rw [unchanged] at distinct members ⊢
      refine ⟨fresh, rfl, distinct, fun other => ?_⟩
      rw [members, List.mem_cons]
      grind
    · have extended : search.meet form =
          ⟨search.met ++ [form], search.waiting ++ [form], search.found⟩ :=
        if_neg (mt List.contains_iff_mem.mp known)
      rw [extended] at distinct members ⊢
      refine ⟨form :: fresh, by simp, fun before => ?_, fun other => ?_⟩
      · rw [List.append_cons]
        exact distinct (List.nodup_append.mpr ⟨before, by simp, by grind⟩)
      · rw [List.append_cons, members, List.mem_append, List.mem_singleton, List.mem_cons, or_assoc]

/-! Passes -/

/-- What a pass does: the first form in line is taken up, its successors are met, and it is found if
it is a word. -/
theorem pass_cons {form : Body} {later : List Body} (next : search.waiting = form :: later) :
    ∃ fresh found, search.pass g limit = ⟨search.met ++ fresh, later ++ fresh, found⟩ ∧
      (search.met.Nodup → (search.met ++ fresh).Nodup) ∧
      (∀ other, other ∈ search.met ++ fresh ↔
        other ∈ search.met ∨ other ∈ g.successors limit form) ∧
      ∀ names, names ∈ found ↔
        names ∈ search.found ∨ g.IsWord form ∧ names = form.map g.nameOf := by
  unfold pass
  rw [next]
  by_cases word : g.IsWord form
  · have none : g.successors limit form = [] := by
      unfold Grammar.successors
      rw [Grammar.leftmost?_of_isWord word]
    simp only [Grammar.leftmost?_of_isWord word]
    refine ⟨[], search.found.insert (form.map g.nameOf), by simp only [List.append_nil], by simp,
      by simp [none], fun names => ?_⟩
    rw [List.mem_insert_iff, or_comm]
    simp [word]
  · obtain ⟨before, s, after, rfl, front, nonterminal⟩ := Grammar.exists_leftmost word
    simp only [Grammar.leftmost?_append front nonterminal]
    obtain ⟨fresh, same, distinct, members⟩ :=
      @meet_all { search with waiting := later } (g.successors limit (before ++ s :: after))
    exact ⟨fresh, search.found, same, distinct, members, by simp [word]⟩

/-- The search knows what it does: all that it met can be reached, and what was taken up has had its
consequences. -/
structure Sound (g : Grammar) (limit : Nat) (search : Search) : Prop where
  start : ∀ s, g.start = some s → [s] ∈ search.met
  distinct : search.met.Nodup
  listed : ∀ form ∈ search.waiting, form ∈ search.met
  reached : ∀ form ∈ search.met, ∃ s, g.start = some s ∧ Reaches (g.successors limit) [s] form
  followed : ∀ form ∈ search.met, form ∈ search.waiting ∨
    (∀ next ∈ g.successors limit form, next ∈ search.met) ∧
      (g.IsWord form → form.map g.nameOf ∈ search.found)
  found : ∀ names ∈ search.found, ∃ word ∈ search.met, g.IsWord word ∧ names = word.map g.nameOf

theorem sound_opened : (opened g).Sound g limit := by
  unfold opened
  split
  next none => exact ⟨by simp [none], by simp, by simp, by simp, by simp, by simp⟩
  next start opens =>
    refine ⟨by simp [opens], by simp, by simp, ?_, by simp, by simp⟩
    simp only [List.mem_singleton, forall_eq]
    exact ⟨start, opens, .start _⟩

theorem Sound.pass (sound : search.Sound g limit) : (search.pass g limit).Sound g limit := by
  cases next : search.waiting with
  | nil =>
    have ended : search.pass g limit = search := by
      unfold Search.pass
      rw [next]
    rw [ended]
    exact sound
  | cons form later =>
    obtain ⟨fresh, found, same, distinct, members, names⟩ := @pass_cons g limit _ _ _ next
    have known : form ∈ search.met := sound.listed form (next ▸ List.mem_cons_self)
    rw [same]
    refine ⟨?_, distinct sound.distinct, ?_, ?_, ?_, ?_⟩
    · exact fun s starts => List.mem_append_left _ (sound.start s starts)
    · intro other waits
      rcases List.mem_append.mp waits with old | new
      · exact List.mem_append_left _ (sound.listed other (next ▸ List.mem_cons_of_mem _ old))
      · exact List.mem_append_right _ new
    · intro other met
      rcases (members other).mp met with old | new
      · exact sound.reached other old
      · obtain ⟨s, starts, reaches⟩ := sound.reached form known
        exact ⟨s, starts, .step reaches new⟩
    · intro other met
      rcases List.mem_append.mp met with old | new
      · rcases sound.followed other old with waits | ⟨onward, finds⟩
        · rcases List.mem_cons.mp (next ▸ waits) with rfl | waits
          · refine .inr ⟨fun last step => (members last).mpr (.inr step), fun word => ?_⟩
            exact (names _).mpr (.inr ⟨word, rfl⟩)
          · exact .inl (List.mem_append_left _ waits)
        · refine .inr ⟨fun last step => List.mem_append_left _ (onward last step), fun word => ?_⟩
          exact (names _).mpr (.inl (finds word))
      · exact .inl (List.mem_append_right _ new)
    · intro list member
      rcases (names list).mp member with old | ⟨word, rfl⟩
      · obtain ⟨word, met, rest⟩ := sound.found list old
        exact ⟨word, List.mem_append_left _ met, rest⟩
      · exact ⟨form, List.mem_append_left _ known, word, rfl⟩

theorem sound_iterate (passes : Nat) : ((pass g limit)^[passes] (opened g)).Sound g limit := by
  induction passes with
  | zero => exact sound_opened
  | succ passes ih =>
    rw [Function.iterate_succ_apply']
    exact ih.pass

/-- Each pass takes up one form more. -/
theorem taken_pass (going : search.waiting ≠ []) :
    (search.pass g limit).met.length + search.waiting.length =
      search.met.length + (search.pass g limit).waiting.length + 1 := by
  obtain ⟨form, later, next⟩ := List.exists_cons_of_ne_nil going
  obtain ⟨fresh, found, same, _⟩ := @pass_cons g limit _ _ _ next
  rw [same, next]
  simp only [List.length_append, List.length_cons]
  omega

theorem exists_collection (g : Grammar) (limit : Nat) : ∃ collection : List Body,
    ∀ search : Search, search.Sound g limit → search.met ⊆ collection := by
  cases opens : g.start with
  | none =>
    refine ⟨[], fun search sound form met => ?_⟩
    obtain ⟨s, starts, _⟩ := sound.reached form met
    rw [opens] at starts
    cases starts
  | some start =>
    refine ⟨explore (g.successors limit) [start] (g.successors_confined limit start), ?_⟩
    intro search sound form met
    obtain ⟨s, starts, reaches⟩ := sound.reached form met
    obtain rfl : start = s := Option.some.inj (opens.symm.trans starts)
    exact mem_explore.mpr reaches

/-- Only finitely many forms can be met, so at some point none is left to be taken up. -/
theorem exists_ended (g : Grammar) (limit : Nat) :
    ∃ passes, ((pass g limit)^[passes] (opened g)).waiting = [] := by
  by_contra never
  have going : ∀ passes, ((pass g limit)^[passes] (opened g)).waiting ≠ [] :=
    fun passes ended => never ⟨passes, ended⟩
  have taken : ∀ passes, ((pass g limit)^[passes] (opened g)).met.length =
      ((pass g limit)^[passes] (opened g)).waiting.length + passes := by
    intro passes
    induction passes with
    | zero =>
      change (opened g).met.length = (opened g).waiting.length
      unfold opened
      split <;> rfl
    | succ passes ih =>
      have step := @taken_pass g limit _ (going passes)
      rw [Function.iterate_succ_apply']
      omega
  obtain ⟨collection, confined⟩ := exists_collection g limit
  have sound : Sound g limit _ := sound_iterate (collection.length + 1)
  have bound := (sound.distinct.subperm (confined _ sound)).length_le
  rw [taken] at bound
  omega

end Search

namespace Grammar

theorem mem_sentences {names : List String} : names ∈ g.sentences limit ↔
    ∃ start word, g.start = some start ∧ Reaches (g.successors limit) [start] word ∧
      g.IsWord word ∧ names = word.map g.nameOf := by
  unfold sentences shortWords
  rw [List.mem_mergeSort, List.mem_map]
  cases opens : g.start with
  | none => simp
  | some start =>
    simp only [List.mem_filter, mem_explore, List.all_eq_true, Bool.not_eq_true', Option.some.injEq]
    constructor
    · rintro ⟨word, ⟨reaches, isWord⟩, rfl⟩
      exact ⟨start, word, rfl, reaches, isWord, rfl⟩
    · rintro ⟨_, word, rfl, reaches, isWord, rfl⟩
      exact ⟨word, ⟨reaches, isWord⟩, rfl⟩

end Grammar

/-- At the end every form that can be reached was met and taken up. -/
theorem Search.Sound.mem_found {search : Search} (sound : search.Sound g limit)
    (ended : search.waiting = []) (names : List String) :
    names ∈ search.found ↔ names ∈ g.sentences limit := by
  have followed : ∀ form ∈ search.met, (∀ next ∈ g.successors limit form, next ∈ search.met) ∧
      (g.IsWord form → form.map g.nameOf ∈ search.found) := by
    intro form met
    refine (sound.followed form met).resolve_left ?_
    rw [ended]
    exact List.not_mem_nil
  rw [Grammar.mem_sentences]
  constructor
  · intro found
    obtain ⟨word, met, isWord, same⟩ := sound.found names found
    obtain ⟨start, starts, reaches⟩ := sound.reached word met
    exact ⟨start, word, starts, reaches, isWord, same⟩
  · rintro ⟨start, word, starts, reaches, isWord, rfl⟩
    have met : word ∈ search.met := by
      clear isWord
      induction reaches with
      | start => exact sound.start start starts
      | step _ step ih => exact (followed _ ih).1 _ step
    exact (followed word met).2 isWord

namespace Grammar

/-- A word in the result has a leftmost derivation through short forms, and conversely. -/
theorem mem_sentences_iff (valid : g.WellFormed) {names : List String} :
    names ∈ g.sentences limit ↔ ∃ start word ps, g.start = some start ∧
      g.LeftmostWithin (g.formLimit limit) ps [start] word ∧
      g.IsWord word ∧ word.length ≤ limit ∧ names = word.map g.nameOf := by
  rw [mem_sentences]
  have letters : ∀ word, g.IsWord word → word.countP (!g.isNonterminal ·) = word.length := by
    intro word isWord
    exact List.countP_eq_length.mpr fun s member => by simpa using isWord s member
  have short : ∀ start : Symbol, [start].length ≤ g.formLimit limit :=
    fun _ => Nat.le_add_left 1 _
  constructor
  · rintro ⟨start, word, starts, reaches, isWord, same⟩
    obtain ⟨ps, within⟩ := exists_leftmostWithin (short start) reaches
    refine ⟨start, word, ps, starts, within, isWord, ?_, same⟩
    cases reaches with
    | start =>
      have letter := isWord start List.mem_cons_self
      exact absurd (valid.start start starts) (not_isNonterminal_iff.mp letter)
    | step _ member =>
      rw [← letters word isWord]
      exact (fits_iff.mp (mem_successors.mp member).2).1
  · rintro ⟨start, word, ps, starts, within, isWord, few, same⟩
    rw [← letters word isWord] at few
    exact ⟨start, word, starts, within.reaches few (.start _), isWord, same⟩

/-- The words of leftmost derivations are sentences. -/
theorem LeftmostWithin.sentence {bound : Nat} {ps : List Production} {start : Symbol} {word : Body}
    (within : g.LeftmostWithin bound ps [start] word) (starts : g.start = some start)
    (isWord : g.IsWord word) : g.Sentence word :=
  ⟨start, starts, isWord, (within.leftmost.yields isWord).derives⟩

theorem Sentence.within {word : Body} (sentence : g.Sentence word) (nonempty : ∀ s, ¬ g.Produces s [])
    {bound : Nat} (short : word.length ≤ bound) : ∃ start ps, g.start = some start ∧
      g.LeftmostWithin bound ps [start] word := by
  obtain ⟨start, starts, isWord, derives⟩ := sentence
  obtain ⟨ps, yields⟩ := exists_yields derives isWord
  exact ⟨start, ps, starts, yields.leftmost.within nonempty short⟩

/-- The search ends. It finds exactly the words that are short enough and have a leftmost derivation
in which no form exceeds their bound by more than the nonterminals and one. So all that it finds are
sentences, a larger bound only adds to them, and without empty bodies no short sentence is missed. -/
theorem sentences_exact (reachable : Reachable g) (limit : Nat) :
    (∃ passes, let search := (Search.pass g limit)^[passes] (Search.opened g)
      search.waiting = [] ∧ ∀ names, names ∈ search.found ↔ names ∈ g.sentences limit) ∧
    (∀ names, names ∈ g.sentences limit ↔ ∃ start word ps, g.start = some start ∧
      g.LeftmostWithin (limit + g.nonterminals.length + 1) ps [start] word ∧
      g.IsWord word ∧ word.length ≤ limit ∧ names = word.map g.nameOf) ∧
    (∀ names ∈ g.sentences limit, ∃ word, g.Sentence word ∧ names = word.map g.nameOf) ∧
    (∀ fewer ≤ limit, g.sentences fewer ⊆ g.sentences limit) ∧
    ((∀ s, ¬ g.Produces s []) → ∀ names, names ∈ g.sentences limit ↔
      ∃ word, g.Sentence word ∧ word.length ≤ limit ∧ names = word.map g.nameOf) := by
  have characterized := fun limit names => @mem_sentences_iff g limit reachable.wellFormed names
  refine ⟨?_, characterized limit, fun names found => ?_, fun fewer le names found => ?_,
    fun nonempty names => ?_⟩
  · obtain ⟨passes, ended⟩ := Search.exists_ended g limit
    exact ⟨passes, ended, (Search.sound_iterate passes).mem_found ended⟩
  · obtain ⟨start, word, ps, starts, within, isWord, _, same⟩ := (characterized limit names).mp found
    exact ⟨word, within.sentence starts isWord, same⟩
  · obtain ⟨start, word, ps, starts, within, isWord, short, same⟩ := (characterized fewer names).mp found
    have bound : g.formLimit fewer ≤ g.formLimit limit := by
      unfold formLimit
      omega
    exact (characterized limit names).mpr
      ⟨start, word, ps, starts, within.mono bound, isWord, Nat.le_trans short le, same⟩
  · rw [characterized]
    constructor
    · rintro ⟨start, word, ps, starts, within, isWord, short, same⟩
      exact ⟨word, within.sentence starts isWord, short, same⟩
    · rintro ⟨word, sentence, short, same⟩
      have bound : word.length ≤ g.formLimit limit := by
        unfold formLimit
        omega
      obtain ⟨start, ps, starts, within⟩ := sentence.within nonempty bound
      obtain ⟨_, _, isWord, _⟩ := sentence
      exact ⟨start, word, ps, starts, within, isWord, short, same⟩

/-- One summand or more, the last one apart. -/
def summation : Grammar := ⟨["E", "+", "n"], [⟨2, [[2, 3, 4], [4]]⟩], some 2⟩

theorem summation_sentences : Reachable summation ∧
    ["n", "+", "n"] ∈ summation.sentences 3 ∧ ["n", "+", "n"] ∉ summation.sentences 2 := by
  have built : ofEntries [⟨"E", [["E", "+", "n"], ["n"]]⟩] = .ok summation := rfl
  have reachable : Reachable summation := .entries built
  have filled : ∀ rule ∈ summation.rules, [] ∉ rule.bodies := by decide
  have nonempty : ∀ s, ¬ summation.Produces s [] := by
    intro s produces
    obtain ⟨rule, listed, _, chosen⟩ := produces_iff.mp produces
    exact filled rule listed chosen
  refine ⟨reachable, ?_, fun found => ?_⟩
  · apply ((sentences_exact reachable 3).2.2.2.2 nonempty _).mpr
    refine ⟨[4, 3, 4], ⟨2, rfl, by decide, ?_⟩, by decide, rfl⟩
    have longer : summation.Produces 2 [2, 3, 4] := by decide
    have single : summation.Produces 2 [4] := by decide
    have first : summation.Step [2] [2, 3, 4] := .expand [] [] longer
    have second : summation.Step [2, 3, 4] [4, 3, 4] := .expand [] [3, 4] single
    exact .tail (.single first) second
  · obtain ⟨_, word, _, _, _, _, short, same⟩ := ((sentences_exact reachable 2).2.1 _).mp found
    have lengths := congrArg List.length same
    rw [List.length_map] at lengths
    exact absurd short (lengths ▸ by decide)

end Grammar
end Predictive
