import Predictive.Proofs.ListedRules
import Predictive.Proofs.ParserExactness
import Predictive.Proofs.Tokens
import Predictive.Query

/-! Terminals with spaces between them. A terminal that comes from a text is a symbol of a right side, so it
is not empty and has no blank in it. No word then reaches over a space, and a sentence that is
written with spaces is cut into the terminals that it is made of. -/

namespace Predictive

namespace Text

variable {words : List (List Char)} {word token : List Char}

/-- No word reaches over a blank, so one that is followed by a blank is the longest there. -/
theorem takes_before_blank {c : Char} {rest : List Char} (known : token ∈ words)
    (solid : ∀ word ∈ words, ∀ d ∈ word, isBlank d = false) (blank : isBlank c = true) :
    Takes words (token ++ c :: rest) token := by
  refine .word known (List.prefix_append _ _) fun word listed here => ?_
  cases List.prefix_or_prefix_of_prefix here (List.prefix_append token (c :: rest)) with
  | inl within => exact within.length_le
  | inr beyond =>
    obtain ⟨more, rfl⟩ := beyond
    cases more with
    | nil => rw [List.append_nil]
    | cons d more =>
      -- a longer word would hold the blank that follows
      obtain ⟨rfl, _⟩ := List.cons_prefix_cons.mp ((List.prefix_append_right_inj token).mp here)
      have inside := solid _ listed d (List.mem_append_right token List.mem_cons_self)
      rw [blank] at inside
      cases inside

theorem takes_all (known : token ∈ words) : Takes words (token ++ []) token := by
  rw [List.append_nil]
  exact .word known List.prefix_rfl fun word _ here => here.length_le

theorem Tokenized.blank_cons {c : Char} {text : List Char} {found : List (List Char)}
    (tokenized : Tokenized words text found) (blank : isBlank c = true) : Tokenized words (c :: text) found := by
  cases tokenized with
  | done blanks => exact .done (List.forall_mem_cons.mpr ⟨blank, blanks⟩)
  | token blanks begins takes later =>
    exact .token (List.forall_mem_cons.mpr ⟨blank, blanks⟩) begins takes later

/-- Words without blanks that are written with spaces between them. -/
theorem tokenized_joined (filled : [] ∉ words) (solid : ∀ word ∈ words, ∀ d ∈ word, isBlank d = false)
    {symbols : List String} (known : ∀ t ∈ symbols, t.toList ∈ words) :
    Tokenized words (joined symbols) (symbols.map String.toList) := by
  have begins : ∀ t : String, t.toList ∈ words → ∀ rest : List Char, ∀ c ∈ (t.toList ++ rest).head?,
      isBlank c = false := by
    intro t listed rest c first
    have proper : t.toList ≠ [] := fun none => filled (none ▸ listed)
    rw [List.head?_append_of_ne_nil _ proper] at first
    exact solid _ listed c (List.mem_of_mem_head? first)
  induction symbols with
  | nil => exact .done nofun
  | cons t later ih =>
    obtain ⟨first, others⟩ := List.forall_mem_cons.mp known
    have space : isBlank ' ' = true := by decide
    cases later with
    | nil =>
      have last : Tokenized words ([] ++ (t.toList ++ [])) [t.toList] :=
        .token nofun (begins t first []) (takes_all first) (.done nofun)
      rw [joined_singleton]
      simpa using last
    | cons u later =>
      have cut : Tokenized words ([] ++ (t.toList ++ ' ' :: joined (u :: later)))
          (t.toList :: (u :: later).map String.toList) :=
        .token nofun (begins t first _) (takes_before_blank first solid space) ((ih others).blank_cons space)
      rw [joined_cons_cons]
      exact cut

end Text

namespace Grammar
open Text

variable {g : Grammar} {source : String}

/-- The terminals of a grammar that is read from a text are symbols of its right sides. -/
theorem lexical_of_ofText (reads : ofText source = .ok g) : ∀ s ∈ g.terminals, Lexical (g.nameOf s).toList := by
  have written := Source.written_read source
  obtain ⟨rfl, _, _⟩ := assemble_of_build reads
  have same : (Source.read source).entries.map Entry.trimmed = (Source.read source).entries :=
    (List.map_congr_left fun entry listed => (written.entries entry listed).trimmed).trans (List.map_id' _)
  rw [same]
  intro s terminal
  have used := map_nameOf_terminals_assemble.mp (List.mem_map_of_mem terminal)
  obtain ⟨entry, listed, inside⟩ := List.mem_flatMap.mp (List.mem_filter.mp used).1
  obtain ⟨body, chosen, symbol⟩ := List.mem_flatten.mp inside
  exact ((written.entries entry listed).spelled body chosen _ symbol).lexical

theorem tokens_joined (reads : ofText source = .ok g) {names : List String}
    (terminals : ∀ t ∈ names, t ∈ g.terminals.map g.nameOf) : g.tokens (" ".intercalate names) = names := by
  have lexical : ∀ word ∈ g.vocabulary, Lexical word := by
    intro word listed
    obtain ⟨s, terminal, rfl⟩ := List.mem_map.mp listed
    exact lexical_of_ofText reads s terminal
  have filled : [] ∉ g.vocabulary := fun none => (lexical [] none).ne_nil rfl
  have solid : ∀ word ∈ g.vocabulary, ∀ c ∈ word, isBlank c = false :=
    fun word listed => (lexical word listed).not_isBlank
  have known : ∀ t ∈ names, t.toList ∈ g.vocabulary := by
    intro t member
    obtain ⟨s, terminal, rfl⟩ := List.mem_map.mp (terminals t member)
    exact List.mem_map_of_mem terminal
  have cut := (tokenized_joined filled solid known).eq_tokens filled
  change (Text.tokens g.vocabulary (joined names)).map String.ofList = names
  rw [← cut, List.map_map]
  exact (List.map_congr_left fun t _ => String.ofList_toList).trans (List.map_id' names)

/-- A sentence consists of terminals and end marks. -/
theorem Sentence.terminals {word : Body} (sentence : g.Sentence word) (valid : g.WellFormed) :
    ∀ s ∈ word, s = Symbol.endMark ∨ s ∈ g.terminals := by
  obtain ⟨start, starts, isWord, derives⟩ := sentence
  have bounds := derives.bounds valid (valid.bounds_singleton (valid.start start starts))
  intro s member
  obtain ⟨positive, high⟩ := bounds s member
  have letter := not_isNonterminal_iff.mp (isWord s member)
  by_cases mark : s = Symbol.endMark
  · exact .inl mark
  · have low : 2 ≤ s := Nat.lt_of_le_of_ne positive (Ne.symm mark)
    exact .inr (mem_terminals.mpr ⟨low, high, letter⟩)

/-- Names of terminals with spaces between them are read as they are, whichever they are and however many.
So every sentence without the end mark can be asked for as a text, and where the parser accepts
the sentences it accepts that text. -/
theorem tokens_of_joined_terminals (reads : ofText source = .ok g) :
    (∀ names : List String, (∀ t ∈ names, t ∈ g.terminals.map g.nameOf) →
      g.tokens (" ".intercalate names) = names) ∧
    ∀ word, g.Sentence word → Symbol.endMark ∉ word →
      Query.run source (" ".intercalate (word.map g.nameOf)) =
        Query.answer source (fun h => (h.parse (word.map g.nameOf)).map (·.render .json)) ∧
      ∀ table, g.table = .ok table → g.EndMarkFree → ∃ trace : Trace, trace.accepted = true ∧
        Query.run source (" ".intercalate (word.map g.nameOf)) =
          (trace.render .json, (Source.read source).notes) := by
  have built : ofEntries (Source.read source).entries = .ok g := reads
  refine ⟨fun names terminals => tokens_joined reads terminals, fun word sentence unmarked => ?_⟩
  have valid := wellFormed_build reads
  have read : g.tokens (" ".intercalate (word.map g.nameOf)) = word.map g.nameOf := by
    refine tokens_joined reads fun t member => ?_
    obtain ⟨s, inside, rfl⟩ := List.mem_map.mp member
    have other : s ≠ Symbol.endMark := fun mark => unmarked (mark ▸ inside)
    exact List.mem_map_of_mem ((sentence.terminals valid s inside).resolve_left other)
  have asked : Query.run source (" ".intercalate (word.map g.nameOf)) =
      Query.answer source (fun h => (h.parse (word.map g.nameOf)).map (·.render .json)) := by
    simp only [Query.run, Query.answer, built, bind, Except.bind, read]
  refine ⟨asked, fun table settled free => ?_⟩
  have own := table_grammar settled
  obtain ⟨ps, yields⟩ := (Table.sentence_iff_yields own).mp sentence
  refine ⟨table.run (word.map g.nameOf), (Table.run_of_yields own valid free yields).1, ?_⟩
  simp only [asked, Query.answer, built, parse, settled, bind, Except.bind, Except.map]

/-- One terminal begins another. -/
def prefixing : Grammar := ⟨["S", "i", "id", "+"], [⟨2, [[3, 2], [4, 2], [5]]⟩], some 2⟩

def prefixingTable : Table :=
  ⟨prefixing, 2, [⟨2, 3, ⟨1, 2, [3, 2]⟩⟩, ⟨2, 4, ⟨2, 2, [4, 2]⟩⟩, ⟨2, 5, ⟨3, 2, [5]⟩⟩], rfl,
    by decide +kernel, by decide +kernel⟩

theorem prefixing_tokens_of_joined : ofText "S -> i S | id S | +" = .ok prefixing ∧
    prefixing.tokens "i id id i +" = ["i", "id", "id", "i", "+"] ∧
    ∃ trace : Trace, trace.accepted = true ∧
      Query.run "S -> i S | id S | +" "i id +" = (trace.render .json, []) := by
  have read : ofText "S -> i S | id S | +" = .ok prefixing := by cbv
  have settled : prefixing.table = .ok prefixingTable := table_self prefixingTable
  have first : prefixing.Produces 2 [3, 2] := by decide
  have second : prefixing.Produces 2 [4, 2] := by decide
  have third : prefixing.Produces 2 [5] := by decide
  have rest : prefixing.Derives [2] [4, 5] := second.derives.trans (third.derives.append_left [4])
  have derives : prefixing.Derives [2] [3, 4, 5] := first.derives.trans (rest.append_left [3])
  have sentence : prefixing.Sentence [3, 4, 5] := ⟨2, rfl, by decide, derives⟩
  obtain ⟨joined, asked⟩ := tokens_of_joined_terminals read
  obtain ⟨trace, accepted, answer⟩ := (asked _ sentence (by decide)).2 _ settled (by decide)
  have names : ∀ t ∈ ["i", "id", "id", "i", "+"], t ∈ prefixing.terminals.map prefixing.nameOf := by decide
  have text : " ".intercalate ([3, 4, 5].map prefixing.nameOf) = "i id +" := by decide
  have skipped : (Source.read "S -> i S | id S | +").skipped = [] := by rfl
  have notes : (Source.read "S -> i S | id S | +").notes = [] := by rw [Source.Reading.notes, skipped]; rfl
  rw [text, notes] at answer
  exact ⟨read, joined _ names, trace, accepted, answer⟩

end Grammar
end Predictive
