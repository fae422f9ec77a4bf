import Predictive.Proofs.ParserExactness

/-! How a rejecting run ends. The tokens before the error are the beginning of a sentential form
whose rest is on the stack. The error is also found as early as it can be: a parser without conflicts
has no choice, so the run goes along with every derivation whose word agrees with the tokens, up to
and including the next one, and such a derivation would have had a move for it. -/

namespace Predictive.Table
open Grammar

/-- The run gets from one configuration to the other, and reads these terminals on the way. -/
inductive Reads (table : Table) : Configuration → Body → Configuration → Prop where
  | here (c) : Reads table c [] c
  | letter {c next last s below token read} (top : c.stack = s :: below)
      (moved : table.move c = .matching token next) (rest : Reads table next read last) :
      Reads table c (s :: read) last
  | expand {c next last p read} (moved : table.move c = .expansion p next)
      (rest : Reads table next read last) : Reads table c read last

variable {g : Grammar} {table : Table} {c last : Configuration} {form read word : Body}
  {ps : List Production} {reason : Rejection}

/-- A run that rejects records the rejection in its last step. -/
theorem reads_of_rejected (c : Configuration) (rejected : (table.runFrom c).verdict = .rejected reason) :
    ∃ read last before, table.Reads c read last ∧ table.move last = .rejection reason ∧
      (table.runFrom c).steps = before ++ [table.record last (.rejection reason)] := by
  induction c using runFrom.induct table with
  | case1 c token next moved _ ih =>
    rw [runFrom_matching moved, verdict_after] at rejected
    obtain ⟨read, last, before, reads, refused, steps⟩ := ih rejected
    obtain ⟨s, stack, _⟩ := top_of_matching rfl moved
    refine ⟨s :: read, last, table.record c (.matching token) :: before, .letter stack moved reads,
      refused, ?_⟩
    rw [runFrom_matching moved]
    exact congrArg (table.record c (.matching token) :: ·) steps
  | case2 c p next moved _ ih =>
    rw [runFrom_expansion moved, verdict_after] at rejected
    obtain ⟨read, last, before, reads, refused, steps⟩ := ih rejected
    refine ⟨read, last, table.record c (table.expansionOf p) :: before, .expand moved reads,
      refused, ?_⟩
    rw [runFrom_expansion moved]
    exact congrArg (table.record c (table.expansionOf p) :: ·) steps
  | case3 c moved =>
    rw [runFrom_acceptance moved] at rejected
    cases rejected
  | case4 c other moved =>
    rw [runFrom_rejection moved] at rejected
    cases rejected
    refine ⟨[], c, [], .here c, moved, ?_⟩
    rw [runFrom_rejection moved]
    rfl
  | case5 c moved =>
    rw [runFrom_stuck moved] at rejected
    cases rejected

/-- What was read, with the form that is left on the stack, derives from the form that was there. -/
theorem Reads.derives (reads : table.Reads c read last) (own : table.grammar = g)
    (stack : c.stack = form ++ [Symbol.endMark]) :
    ∃ left, last.stack = left ++ [Symbol.endMark] ∧ g.Derives form (read ++ left) ∧
      c.rest = read.map g.nameOf ++ last.rest ∧ last.position = c.position + read.length := by
  induction reads generalizing form with
  | here c => exact ⟨form, stack, .refl, rfl, rfl⟩
  | @letter c next last s below token read top moved _ ih =>
    obtain ⟨t, later, rfl, _, rest, under⟩ := form_of_matching own stack moved
    obtain ⟨rfl, _⟩ := List.cons.inj (stack.symm.trans top)
    obtain ⟨left, same, derives, tokens, position⟩ := ih under
    refine ⟨left, same, derives.append_left [t], ?_, ?_⟩
    · rw [rest, tokens]
      rfl
    · rw [position, position_of_matching moved, List.length_cons]
      omega
  | @expand c next last p read moved _ ih =>
    obtain ⟨later, rfl, listed, _, rest, under⟩ := form_of_expansion own stack moved
    obtain ⟨left, same, derives, tokens, position⟩ := ih under
    rw [position_of_expansion moved] at position
    exact ⟨left, same, (mem_productions listed).derives_cons derives, rest ▸ tokens, position⟩

/-- The column depends on the next token only. -/
theorem column?_eq {d : Configuration} (ahead : c.rest.take 1 = d.rest.take 1) :
    c.column? g = d.column? g := by
  obtain ⟨_, rest, _⟩ := c
  obtain ⟨_, rest', _⟩ := d
  cases rest with
  | nil =>
    cases rest' with
    | nil => rfl
    | cons token later => cases ahead
  | cons token later =>
    cases rest' with
    | nil => cases ahead
    | cons token' later' =>
      obtain ⟨rfl, _⟩ := List.cons.inj ahead
      rfl

theorem take_one_of_take {names tokens : List String} {n : Nat}
    (same : names.take (n + 1) = tokens.take (n + 1)) : names.take 1 = tokens.take 1 := by
  have first := congrArg (List.take 1) same
  rwa [List.take_take, List.take_take, Nat.min_eq_left (Nat.le_add_left 1 n)] at first

section Agreement

variable (own : table.grammar = g) (valid : g.WellFormed) (free : g.EndMarkFree)
include own valid free

/-- The parser goes along with every derivation whose word begins like the tokens: with one of the
empty word it accepts, it reads the letter in front, and it expands as the derivation does. -/
theorem move_of_yields {before : Body} (derives : g.Derives [table.start] (before ++ form))
    (plain : g.Plain form) (stack : c.stack = form ++ [Symbol.endMark]) (yields : g.Yields ps form word)
    (agrees : (word.map g.nameOf).take 1 = c.rest.take 1) :
    (form = [] ∧ table.move c = .acceptance) ∨
      (∃ s later rest next, form = s :: later ∧ word = s :: rest ∧ g.Yields ps later rest ∧
        table.move c = .matching (g.nameOf s) next) ∨
      ∃ p later others next, form = p.left :: later ∧ g.Yields others (p.body ++ later) word ∧
        table.move c = .expansion p next := by
  obtain ⟨_, rest, position⟩ := c
  obtain rfl : _ = form ++ [Symbol.endMark] := stack
  cases yields with
  | nil =>
    cases rest with
    | nil => exact .inl ⟨rfl, rfl⟩
    | cons token later => cases agrees
  | @letter ps s form word letter behind =>
    cases rest with
    | nil => cases agrees
    | cons token later =>
      obtain ⟨rfl, _⟩ := List.cons.inj agrees
      have terminal := kind_of_terminal (plain.isTerminal letter)
      exact .inr (.inl ⟨s, form, word, _, rfl, rfl, behind,
        move_match own terminal (form ++ [Symbol.endMark]) position later⟩)
  | @expand p ps form word listed behind =>
    have produces := mem_productions listed
    have body := plain.expanded valid free listed
    obtain ⟨letter, member, column, ahead⟩ := column?_of_word valid behind.isWord
      (behind.plain valid free body) (p.left :: form ++ [Symbol.endMark]) position
    have predicts := predicts_of_ahead (table_starts own) derives listed (ahead _ behind.derives)
    have cell := (get?_eq_some_iff own).mpr ⟨listed, rfl, member, predicts⟩
    rw [column?_eq (d := ⟨p.left :: form ++ [Symbol.endMark], rest, position⟩) agrees] at column
    exact .inr (.inr ⟨p, form, ps, _, rfl, behind,
      move_nonterminal own valid produces.nonterminal column cell⟩)

/-- So it does along a run, as long as the word agrees with the tokens. -/
theorem Reads.yields (reads : table.Reads c read last) {before : Body}
    (derives : g.Derives [table.start] (before ++ form)) (plain : g.Plain form)
    (stack : c.stack = form ++ [Symbol.endMark]) (yields : g.Yields ps form word)
    (agrees : (word.map g.nameOf).take (read.length + 1) = c.rest.take (read.length + 1)) :
    ∃ first left others rest, g.Derives [table.start] (first ++ left) ∧ g.Plain left ∧
      last.stack = left ++ [Symbol.endMark] ∧ g.Yields others left rest ∧
      (rest.map g.nameOf).take 1 = last.rest.take 1 := by
  induction reads generalizing before form ps word with
  | here c => exact ⟨before, form, ps, word, derives, plain, stack, yields, agrees⟩
  | @letter c next last s below token read top moved _ ih =>
    have ahead := take_one_of_take agrees
    obtain ⟨t, later, rfl, _, tokens, under⟩ := form_of_matching own stack moved
    rcases move_of_yields own valid free derives plain stack yields ahead with
      ⟨absurdity, _⟩ | ⟨u, _, rest, _, same, rfl, behind, _⟩ | ⟨_, _, _, _, _, _, other⟩
    · cases absurdity
    · obtain ⟨rfl, rfl⟩ := List.cons.inj same
      rw [tokens] at agrees
      have passed : g.Derives [table.start] ((before ++ [t]) ++ later) := by simpa using derives
      exact ih passed (plain_cons.mp plain).2 under behind (List.cons.inj agrees).2
    · cases moved.symm.trans other
  | @expand c next last p read moved _ ih =>
    have ahead := take_one_of_take agrees
    obtain ⟨later, rfl, listed, _, tokens, under⟩ := form_of_expansion own stack moved
    have step := Step.expand before later (mem_productions listed)
    rcases move_of_yields own valid free derives plain stack yields ahead with
      ⟨absurdity, _⟩ | ⟨_, _, _, _, _, _, _, other⟩ | ⟨q, _, _, _, same, behind, other⟩
    · cases absurdity
    · cases moved.symm.trans other
    · cases moved.symm.trans other
      obtain ⟨_, rfl⟩ := List.cons.inj same
      rw [List.append_assoc] at step
      exact ih (derives.tail step) (plain.expanded valid free listed) under behind (tokens ▸ agrees)

/-- No word of the start symbol agrees with the tokens up to the one at the error. -/
theorem take_ne_of_rejected {tokens : List String} (reads : table.Reads (table.initial tokens) read last)
    (refused : table.move last = .rejection reason) (sentence : g.Sentence word) :
    (word.map g.nameOf).take (read.length + 1) ≠ tokens.take (read.length + 1) := by
  intro agrees
  obtain ⟨ps, yields⟩ := (sentence_iff_yields own).mp sentence
  have start : g.Derives [table.start] ([] ++ [table.start]) := .refl
  obtain ⟨_, left, _, _, derives, plain, stack, yields, ahead⟩ :=
    reads.yields own valid free start (plain_start own valid) rfl yields agrees
  rcases move_of_yields own valid free derives plain stack yields ahead with
    ⟨_, moved⟩ | ⟨_, _, _, _, _, _, _, moved⟩ | ⟨_, _, _, _, _, _, moved⟩
  all_goals cases refused.symm.trans moved

end Agreement

/-- A rejected text is right up to the error, where the stack tells how it could have gone on, and no
sentence goes on with the token that is there; where that is the end, the text is no sentence. -/
theorem rejected_at_first_error (reachable : Reachable g) (free : g.EndMarkFree)
    (built : g.table = .ok table) {tokens : List String}
    (rejected : (table.run tokens).verdict = .rejected reason) :
    (∃ before last start read left, (table.run tokens).steps = before ++ [last] ∧
        last.action = .rejection reason ∧ g.start = some start ∧
        g.Derives [start] (read ++ left) ∧ read.map g.nameOf = tokens.take reason.position ∧
        last.stack = Symbol.endMarkName :: (left.map g.nameOf).reverse) ∧
      (reason.position < tokens.length → ∀ word, g.Sentence word →
        ¬ tokens.take (reason.position + 1) <+: word.map g.nameOf) ∧
      reason.position ≤ tokens.length ∧
      (reason.position = tokens.length → ∀ word, g.Sentence word → word.map g.nameOf ≠ tokens) := by
  have own := table_grammar built
  have valid := reachable.wellFormed
  obtain ⟨read, last, before, reads, refused, steps⟩ := reads_of_rejected _ rejected
  have stack : (table.initial tokens).stack = [table.start] ++ [Symbol.endMark] := rfl
  obtain ⟨left, under, derives, split, position⟩ := reads.derives own stack
  change tokens = _ at split
  change last.position = 0 + read.length at position
  have place : reason.position = read.length := by
    rw [position_of_rejection refused]
    omega
  have length := congrArg List.length split
  rw [List.length_append, List.length_map] at length
  have differs : ∀ word, g.Sentence word →
      (word.map g.nameOf).take (read.length + 1) ≠ tokens.take (read.length + 1) :=
    fun _ sentence => take_ne_of_rejected own valid free reads refused sentence
  refine ⟨?_, ?_, ?_, ?_⟩
  · refine ⟨before, _, table.start, read, left, steps, rfl, table_starts own, derives, ?_, ?_⟩
    · rw [place, split]
      simp
    · have mark : g.nameOf Symbol.endMark = Symbol.endMarkName := rfl
      simp [record, Configuration.step, under, own, mark]
  · intro inside word sentence leads
    apply differs word sentence
    rw [← place]
    have same := List.prefix_iff_eq_take.mp leads
    rw [List.length_take_of_le inside] at same
    exact same.symm
  · omega
  · intro all word sentence same
    apply differs word sentence
    rw [same]

/-- `A` vanishes before `c` and before `d`, but in different places. -/
def context : Grammar :=
  ⟨["S", "A", "a", "c", "b", "d"], [⟨2, [[4, 3, 5], [6, 3, 7]]⟩, ⟨3, [[]]⟩], some 2⟩

def contextTable : Table :=
  ⟨context, 2, [⟨2, 4, ⟨1, 2, [4, 3, 5]⟩⟩, ⟨2, 6, ⟨2, 2, [6, 3, 7]⟩⟩, ⟨3, 5, ⟨3, 3, []⟩⟩,
    ⟨3, 7, ⟨3, 3, []⟩⟩], rfl, by decide +kernel, by decide +kernel⟩

/-- The letter `d` is wrong here, although it makes `A` vanish first. -/
theorem context_rejected :
    (contextTable.run ["a", "d"]).verdict = .rejected (.mismatch "c" "d" 1) ∧
      (∃ read left, context.Derives [2] (read ++ left) ∧ read.map context.nameOf = ["a"]) ∧
      ∀ word, context.Sentence word → ¬ ["a", "d"] <+: word.map context.nameOf := by
  have built : ofEntries [⟨"S", [["a", "A", "c"], ["b", "A", "d"]]⟩, ⟨"A", [["ε"]]⟩] = .ok context := rfl
  have settled : context.table = .ok contextTable := table_self contextTable
  have rejected : (contextTable.run ["a", "d"]).verdict = .rejected (.mismatch "c" "d" 1) := by
    have expands : contextTable.move ⟨[2, 1], ["a", "d"], 0⟩ =
        .expansion ⟨1, 2, [4, 3, 5]⟩ ⟨[4, 3, 5, 1], ["a", "d"], 0⟩ := rfl
    have reads : contextTable.move ⟨[4, 3, 5, 1], ["a", "d"], 0⟩ =
        .matching "a" ⟨[3, 5, 1], ["d"], 1⟩ := rfl
    have vanishes : contextTable.move ⟨[3, 5, 1], ["d"], 1⟩ =
        .expansion ⟨3, 3, []⟩ ⟨[5, 1], ["d"], 1⟩ := rfl
    have refuses : contextTable.move ⟨[5, 1], ["d"], 1⟩ = .rejection (.mismatch "c" "d" 1) := rfl
    change (contextTable.runFrom ⟨[2, 1], ["a", "d"], 0⟩).verdict = _
    rw [runFrom_expansion expands, runFrom_matching reads, runFrom_expansion vanishes,
      runFrom_rejection refuses]
    rfl
  obtain ⟨beginning, early, _, _⟩ :=
    rejected_at_first_error (.entries built) (by decide) settled rejected
  obtain ⟨_, _, start, read, left, _, _, starts, derives, tokens, _⟩ := beginning
  obtain rfl := Option.some.inj starts
  exact ⟨rejected, ⟨read, left, derives, tokens⟩, early (by decide)⟩

end Predictive.Table
