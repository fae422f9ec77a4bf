import Predictive.Proofs.LeftmostDerivations
import Predictive.Proofs.Lookahead
import Predictive.Proofs.ParserRuns
import Predictive.Proofs.Reached

/-! The parser accepts exactly the sentences, and the expansions of an accepting run are
the only leftmost derivation of the tokens. The stack is the part of a left sentential
form that is still to be read, as long as the end mark occurs at its bottom only. -/

namespace Predictive
namespace Grammar

/-- Made of terminals and nonterminals, without the end mark. -/
def Plain (g : Grammar) (form : Body) : Prop := ∀ s ∈ form, 2 ≤ s ∧ s < g.size

variable {g : Grammar} {table : Table} {ps : List Production} {form word : Body}

theorem plain_cons {s : Symbol} : g.Plain (s :: form) ↔ (2 ≤ s ∧ s < g.size) ∧ g.Plain form :=
  List.forall_mem_cons

theorem Produces.plain {s : Symbol} (valid : g.WellFormed) (free : g.EndMarkFree)
    (produces : g.Produces s form) : g.Plain form := by
  intro t member
  obtain ⟨positive, bound⟩ := valid.body_bounds produces member
  obtain ⟨rule, listed, _, chosen⟩ := produces_iff.mp produces
  have other : t ≠ Symbol.endMark := fun same => free rule listed form chosen (same ▸ member)
  exact ⟨Nat.lt_of_le_of_ne positive (Ne.symm other), bound⟩

theorem Plain.expanded {p : Production} (plain : g.Plain (p.left :: form)) (valid : g.WellFormed)
    (free : g.EndMarkFree) (listed : p ∈ g.productions) : g.Plain (p.body ++ form) :=
  List.forall_mem_append.mpr
    ⟨(mem_productions listed).plain valid free, (plain_cons.mp plain).2⟩

theorem Plain.isTerminal {s : Symbol} (plain : g.Plain (s :: form)) (letter : s ∉ g.nonterminals) :
    g.isTerminal s = true := by
  obtain ⟨low, high⟩ := (plain_cons.mp plain).1
  simp only [Grammar.isTerminal, not_isNonterminal_iff.mpr letter, Bool.not_false, Bool.and_true,
    Bool.and_eq_true, decide_eq_true_eq]
  exact ⟨low, high⟩

theorem Yields.plain (yields : g.Yields ps form word) (valid : g.WellFormed)
    (free : g.EndMarkFree) (plain : g.Plain form) : g.Plain word := by
  induction yields with
  | nil => exact plain
  | letter _ _ ih =>
    obtain ⟨first, later⟩ := plain_cons.mp plain
    exact plain_cons.mpr ⟨first, ih later⟩
  | expand listed _ ih => exact ih (plain.expanded valid free listed)

/-- The column that a word selects is what can be seen ahead in every form deriving it. -/
theorem column?_of_word (valid : g.WellFormed) (isWord : g.IsWord word) (plain : g.Plain word)
    (stack : List Symbol) (position : Nat) :
    ∃ letter ∈ g.letters,
      Configuration.column? ⟨stack, word.map g.nameOf, position⟩ g = some letter ∧
        ∀ form, g.Derives form word → g.Ahead letter form := by
  cases word with
  | nil =>
    refine ⟨Symbol.endMark, endMark_mem_letters, rfl, fun form derives => ?_⟩
    exact .inr ⟨rfl, bodyVanishes_iff_derives.mpr derives⟩
  | cons s rest =>
    have letter := not_isNonterminal_iff.mp (List.forall_mem_cons.mp isWord).1
    have terminal := plain.isTerminal letter
    obtain ⟨low, high⟩ := (plain_cons.mp plain).1
    refine ⟨s, mem_letters_of_isTerminal terminal, ?_, fun form derives => ?_⟩
    · simp [Configuration.column?, valid.find?_nameOf low high, terminal]
    · exact .inl (bodyBegins_iff_derives.mpr ⟨rest, derives⟩)

end Grammar

namespace Table
open Grammar

variable {g : Grammar} {table : Table} {ps : List Production} {form word : Body}

/-- With part of a left sentential form on the stack, the parser finds every way in which
it yields the rest of the tokens. -/
theorem runFrom_of_yields (own : table.grammar = g) (valid : g.WellFormed) (free : g.EndMarkFree)
    (yields : g.Yields ps form word) (plain : g.Plain form) {read : Body}
    (derives : g.Derives [table.start] (read ++ form)) (position : Nat) :
    (table.runFrom ⟨form ++ [Symbol.endMark], word.map g.nameOf, position⟩).accepted = true ∧
      (table.runFrom ⟨form ++ [Symbol.endMark], word.map g.nameOf, position⟩).expansions =
        ps.map table.expansionOf := by
  induction yields generalizing read position with
  | nil =>
    rw [runFrom_acceptance rfl]
    exact ⟨rfl, rfl⟩
  | @letter ps s form word letter rest ih =>
    have place : read ++ s :: form = (read ++ [s]) ++ form := by simp
    have terminal := kind_of_terminal (plain.isTerminal letter)
    have moved := move_match own terminal (form ++ [Symbol.endMark]) position (word.map g.nameOf)
    rw [List.cons_append, List.map_cons, runFrom_matching moved, accepted_after,
      expansions_matching]
    exact ih (plain_cons.mp plain).2 (place ▸ derives) (position + 1)
  | @expand p ps form word listed rest ih =>
    have produces := mem_productions listed
    have later : g.Derives [table.start] (read ++ (p.body ++ form)) := by
      have step := Step.expand read form produces
      rw [List.append_assoc] at step
      exact derives.tail step
    have body := plain.expanded valid free listed
    obtain ⟨letter, member, column, ahead⟩ := column?_of_word valid rest.isWord
      (rest.plain valid free body) (p.left :: (form ++ [Symbol.endMark])) position
    have predicts := predicts_of_ahead (table_starts own) derives listed (ahead _ rest.derives)
    have cell := (get?_eq_some_iff own).mpr ⟨listed, rfl, member, predicts⟩
    have moved := move_nonterminal own valid produces.nonterminal column cell
    rw [← List.append_assoc] at moved
    obtain ⟨accepted, expansions⟩ := ih body later position
    rw [List.cons_append, runFrom_expansion moved, accepted_after, expansions_expansion,
      expansions]
    exact ⟨accepted, rfl⟩

/-- Conversely, the expansions of an accepting run read the rest of the tokens from the
stack down to the end mark. -/
theorem yields_of_runFrom (own : table.grammar = g) (valid : g.WellFormed) (free : g.EndMarkFree)
    (c : Configuration) (plain : g.Plain form) (stack : c.stack = form ++ [Symbol.endMark])
    (accepted : (table.runFrom c).accepted = true) :
    ∃ ps word, g.Yields ps form word ∧ word.map g.nameOf = c.rest ∧
      (table.runFrom c).expansions = ps.map table.expansionOf := by
  induction c using runFrom.induct table generalizing form with
  | case1 c token next moved _ ih =>
    rw [runFrom_matching moved, accepted_after] at accepted
    rw [runFrom_matching moved, expansions_matching]
    obtain ⟨s, later, rfl, terminal, rest, below⟩ := form_of_matching own stack moved
    have letter : s ∉ g.nonterminals := fun member => not_terminal_of_nonterminal member terminal
    obtain ⟨ps, word, yields, tokens, expansions⟩ := ih (plain_cons.mp plain).2 below accepted
    exact ⟨ps, s :: word, .letter letter yields, by rw [rest, ← tokens, List.map_cons], expansions⟩
  | case2 c p next moved _ ih =>
    rw [runFrom_expansion moved, accepted_after] at accepted
    rw [runFrom_expansion moved, expansions_expansion]
    obtain ⟨later, rfl, listed, _, rest, below⟩ := form_of_expansion own stack moved
    obtain ⟨ps, word, yields, tokens, expansions⟩ := ih (plain.expanded valid free listed) below accepted
    exact ⟨p :: ps, word, .expand listed yields, tokens.trans rest,
      by rw [expansions, List.map_cons]⟩
  | case3 c moved =>
    rw [runFrom_acceptance moved]
    obtain ⟨below, same, rest⟩ := top_of_acceptance moved
    cases form with
    | nil => exact ⟨[], [], .nil, rest.symm, rfl⟩
    | cons s form =>
      obtain ⟨rfl, _⟩ := List.cons.inj (stack.symm.trans same)
      exact absurd (plain_cons.mp plain).1.1 (by decide)
  | case4 c reason moved =>
    rw [runFrom_rejection moved] at accepted
    cases accepted
  | case5 c moved =>
    rw [runFrom_stuck moved] at accepted
    cases accepted

theorem expansionOf_injective {p q : Production} (first : p ∈ g.productions)
    (second : q ∈ g.productions) (same : table.expansionOf p = table.expansionOf q) : p = q := by
  injection same with number
  exact eq_of_number first second number

theorem map_expansionOf_injective {ps qs : List Production} (first : ∀ p ∈ ps, p ∈ g.productions)
    (second : ∀ p ∈ qs, p ∈ g.productions)
    (same : ps.map table.expansionOf = qs.map table.expansionOf) : ps = qs := by
  induction ps generalizing qs with
  | nil => exact (List.map_eq_nil_iff.mp same.symm).symm
  | cons p ps ih =>
    cases qs with
    | nil => cases same
    | cons q qs =>
      obtain ⟨head, tail⟩ := List.cons.inj same
      obtain ⟨p_listed, first⟩ := List.forall_mem_cons.mp first
      obtain ⟨q_listed, second⟩ := List.forall_mem_cons.mp second
      rw [expansionOf_injective p_listed q_listed head, ih first second tail]

theorem sentence_iff_yields (own : table.grammar = g) :
    g.Sentence word ↔ ∃ ps, g.Yields ps [table.start] word := by
  constructor
  · rintro ⟨start, starts, isWord, derives⟩
    obtain rfl := Option.some.inj (starts.symm.trans (table_starts own))
    exact exists_yields derives isWord
  · rintro ⟨ps, yields⟩
    exact ⟨table.start, table_starts own, yields.isWord, yields.derives⟩

theorem plain_start (own : table.grammar = g) (valid : g.WellFormed) : g.Plain [table.start] :=
  plain_cons.mpr ⟨valid.nonterminal_bounds (valid.start _ (table_starts own)), by simp [Plain]⟩

theorem yields_of_accepted {tokens : List String} (own : table.grammar = g) (valid : g.WellFormed)
    (free : g.EndMarkFree) (accepted : (table.run tokens).accepted = true) :
    ∃ ps word, g.Yields ps [table.start] word ∧ word.map g.nameOf = tokens ∧
      (table.run tokens).expansions = ps.map table.expansionOf :=
  yields_of_runFrom own valid free (table.initial tokens) (plain_start own valid) rfl accepted

theorem run_of_yields (own : table.grammar = g) (valid : g.WellFormed) (free : g.EndMarkFree)
    (yields : g.Yields ps [table.start] word) :
    (table.run (word.map g.nameOf)).accepted = true ∧
      (table.run (word.map g.nameOf)).expansions = ps.map table.expansionOf := by
  have derives : g.Derives [table.start] ([] ++ [table.start]) := .refl
  exact runFrom_of_yields own valid free yields (plain_start own valid) derives 0

/-- For a grammar without conflicts that keeps the end mark out of its bodies, acceptance
is derivability, and the expansions are the only leftmost derivation. -/
theorem run_exact (reachable : Reachable g) (free : g.EndMarkFree) (built : g.table = .ok table)
    (tokens : List String) :
    ((table.run tokens).accepted = true ↔
        ∃ word, g.Sentence word ∧ word.map g.nameOf = tokens) ∧
      ((table.run tokens).accepted = true →
        ∃ start word ps, g.start = some start ∧ g.IsWord word ∧ word.map g.nameOf = tokens ∧
          (table.run tokens).expansions = ps.map table.expansionOf ∧
          g.Leftmost ps [start] word ∧
          ∀ word' ps', g.IsWord word' → word'.map g.nameOf = tokens →
            g.Leftmost ps' [start] word' → ps' = ps) := by
  have own := table_grammar built
  have valid := reachable.wellFormed
  refine ⟨⟨?_, ?_⟩, ?_⟩
  · intro accepted
    obtain ⟨ps, word, yields, same, _⟩ := yields_of_accepted own valid free accepted
    exact ⟨word, (sentence_iff_yields own).mpr ⟨ps, yields⟩, same⟩
  · rintro ⟨word, sentence, rfl⟩
    obtain ⟨ps, yields⟩ := (sentence_iff_yields own).mp sentence
    exact (run_of_yields own valid free yields).1
  · intro accepted
    obtain ⟨ps, word, yields, same, expansions⟩ := yields_of_accepted own valid free accepted
    refine ⟨table.start, word, ps, table_starts own, yields.isWord, same, expansions,
      yields.leftmost, ?_⟩
    intro word' ps' isWord same' leftmost
    have yields' := leftmost.yields isWord
    have expansions' := (run_of_yields own valid free yields').2
    rw [same', expansions] at expansions'
    exact map_expansionOf_injective yields'.listed yields.listed expansions'.symm

/-- Any number of pairs, one inside the other. -/
def nested : Grammar := ⟨["S", "a", "b"], [⟨2, [[3, 2, 4], []]⟩], some 2⟩

def nestedTable : Table :=
  ⟨nested, 2, [⟨2, 3, ⟨1, 2, [3, 2, 4]⟩⟩, ⟨2, 4, ⟨2, 2, []⟩⟩, ⟨2, 1, ⟨2, 2, []⟩⟩], rfl,
    by decide +kernel, by decide +kernel⟩

theorem nested_run : (nestedTable.run ["a", "b"]).accepted = true := by
  have built : ofEntries [⟨"S", [["a", "S", "b"], ["ε"]]⟩] = .ok nested := rfl
  have settled : nested.table = .ok nestedTable := table_self nestedTable
  have outer : nested.Produces 2 [3, 2, 4] := by decide
  have inner : nested.Produces 2 [] := by decide
  have derives : nested.Derives [2] [3, 4] :=
    outer.derives.trans ((inner.derives.append_right [4]).append_left [3])
  have sentence : nested.Sentence [3, 4] := ⟨2, rfl, by decide, derives⟩
  exact (run_exact (.entries built) (by decide) settled ["a", "b"]).1.mpr ⟨[3, 4], sentence, rfl⟩

end Table
end Predictive
