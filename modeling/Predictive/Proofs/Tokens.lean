import Mathlib.Data.List.Infix
import Predictive.Grammar.Entries
import Predictive.Grammar.Vocabulary
import Predictive.Proofs.Trimming
import Predictive.Text.Scan

/-! How a text falls into tokens. A vocabulary cuts every text in one way, taking the longest word
that fits wherever something is left to read; and the loop over bytes, which only looks for the first word
that fits in a list with longer words first, cuts it in that way too. -/

namespace Predictive
namespace Text

/-- What is cut off in front of a text: the longest word that it begins with, or one character if it begins
with none. -/
inductive Takes (words : List (List Char)) (text : List Char) : List Char → Prop where
  | word {token} (known : token ∈ words) (here : token <+: text)
      (longest : ∀ word ∈ words, word <+: text → word.length ≤ token.length) : Takes words text token
  | sign {c rest} (begins : text = c :: rest) (unknown : ∀ word ∈ words, ¬ word <+: text) :
      Takes words text [c]

/-- The text is made of the tokens in this order, with nothing but blanks between them and around them. -/
inductive Tokenized (words : List (List Char)) : List Char → List (List Char) → Prop where
  | done {gap} (blanks : ∀ c ∈ gap, isBlank c = true) : Tokenized words gap []
  | token {gap token rest tokens} (blanks : ∀ c ∈ gap, isBlank c = true)
      (begins : ∀ c ∈ (token ++ rest).head?, isBlank c = false) (takes : Takes words (token ++ rest) token)
      (later : Tokenized words rest tokens) : Tokenized words (gap ++ (token ++ rest)) (token :: tokens)

variable {words : List (List Char)} {text token : List Char}

namespace Takes

theorem unique {other : List Char} (takes : Takes words text token) (takes' : Takes words text other) :
    other = token := by
  cases takes with
  | word known here longest =>
    cases takes' with
    | word known' here' longest' =>
      have same : other.length = token.length :=
        Nat.le_antisymm (longest other known' here') (longest' token known here)
      exact (List.prefix_of_prefix_length_le here' here same.le).eq_of_length same
    | sign _ unknown => exact absurd here (unknown token known)
  | sign begins unknown =>
    cases takes' with
    | word known here => exact absurd here (unknown other known)
    | sign begins' => rw [(List.cons.inj (begins.symm.trans begins')).1]

theorem ne_nil (takes : Takes words text token) (worded : [] ∉ words) : token ≠ [] := by
  cases takes with
  | word known => exact fun none => worded (none ▸ known)
  | sign => exact List.cons_ne_nil _ _

end Takes

/-! The first word in the line is the longest -/

@[simp] theorem byteLength_append (front back : List Char) :
    byteLength (front ++ back) = byteLength front + byteLength back := by
  induction front with
  | nil => exact (Nat.zero_add _).symm
  | cons c front ih => rw [List.cons_append, byteLength, byteLength, ih, Nat.add_assoc]

theorem byteLength_eq_zero (none : byteLength text = 0) : text = [] := by
  cases text with
  | nil => rfl
  | cons c rest =>
    have positive := c.utf8Size_pos
    simp only [byteLength] at none
    omega

/-- Of two beginnings of one text the one with more bytes has more characters. -/
theorem length_le_of_byteLength_le {other : List Char} (here : token <+: text) (there : other <+: text)
    (bytes : byteLength other ≤ byteLength token) : other.length ≤ token.length := by
  cases List.prefix_or_prefix_of_prefix here there with
  | inl within =>
    obtain ⟨more, rfl⟩ := within
    rw [byteLength_append] at bytes
    have empty : byteLength more = 0 := by omega
    rw [byteLength_eq_zero empty, List.append_nil]
  | inr within => exact within.length_le

theorem cutAt_append (front back : List Char) : cutAt (byteLength front) (front ++ back) = some (front, back) := by
  induction front with
  | nil => cases back <;> rfl
  | cons c front ih =>
    have positive := c.utf8Size_pos
    obtain ⟨bytes, same⟩ : ∃ bytes, byteLength (c :: front) = bytes + 1 :=
      Nat.exists_eq_succ_of_ne_zero (by simp only [byteLength]; omega)
    have split : byteLength (c :: front) = c.utf8Size + byteLength front := rfl
    have within : c.utf8Size ≤ bytes + 1 := by omega
    have remaining : bytes + 1 - c.utf8Size = byteLength front := by omega
    rw [same, List.cons_append, cutAt, if_pos within, remaining, ih]
    rfl

theorem pairwise_longestFirst (words : List (List Char)) :
    (longestFirst words).Pairwise fun first second => byteLength second ≤ byteLength first := by
  have transitive : ∀ a b c : List Char, decide (byteLength b ≤ byteLength a) = true →
      decide (byteLength c ≤ byteLength b) = true → decide (byteLength c ≤ byteLength a) = true := by
    intro a b c first second
    exact decide_eq_true ((of_decide_eq_true second).trans (of_decide_eq_true first))
  have total : ∀ a b : List Char,
      (decide (byteLength b ≤ byteLength a) || decide (byteLength a ≤ byteLength b)) = true := by
    intro a b
    simpa using Nat.le_total (byteLength b) (byteLength a)
  have sorted := List.pairwise_mergeSort transitive total words
  simpa only [longestFirst, decide_eq_true_eq] using sorted

theorem mem_longestFirst {word : List Char} : word ∈ longestFirst words ↔ word ∈ words :=
  List.mem_mergeSort

/-- No word that fits has more bytes than the first one in the line. -/
theorem byteLength_le_of_find? (found : (longestFirst words).find? (·.isPrefixOf text) = some token) :
    token ∈ words ∧ token <+: text ∧ ∀ word ∈ words, word <+: text → byteLength word ≤ byteLength token := by
  obtain ⟨fits, before, after, line, missed⟩ := List.find?_eq_some_iff_append.mp found
  have known : token ∈ longestFirst words := line ▸ List.mem_append_right before List.mem_cons_self
  refine ⟨mem_longestFirst.mp known, List.isPrefixOf_iff_prefix.mp fits, ?_⟩
  intro word listed here
  have place : word ∈ before ++ token :: after := line ▸ mem_longestFirst.mpr listed
  cases List.mem_append.mp place with
  | inl earlier =>
    -- The search has passed it, so it does not fit.
    have unfit := missed word earlier
    rw [List.isPrefixOf_iff_prefix.mpr here] at unfit
    cases unfit
  | inr behind =>
    have ordered := pairwise_longestFirst words
    rw [line] at ordered
    have shorter := (List.pairwise_cons.mp (List.pairwise_append.mp ordered).2.1).1
    cases List.mem_cons.mp behind with
    | inl same => exact same ▸ le_refl _
    | inr behind => exact shorter word behind

/-- The first word in the line that fits is the longest that does, and its bytes are what is cut off. -/
theorem takes_of_find? (words : List (List Char)) (c : Char) (later : List Char) :
    ∃ token rest, Takes words (c :: later) token ∧ c :: later = token ++ rest ∧
      Scan.tokenBytes (longestFirst words) c later = byteLength token := by
  unfold Scan.tokenBytes
  cases found : (longestFirst words).find? (·.isPrefixOf (c :: later)) with
  | none =>
    refine ⟨[c], later, .sign rfl ?_, rfl, rfl⟩
    intro word known here
    have missed := List.find?_eq_none.mp found word (mem_longestFirst.mpr known)
    exact missed (List.isPrefixOf_iff_prefix.mpr here)
  | some token =>
    obtain ⟨known, here, most⟩ := byteLength_le_of_find? found
    obtain ⟨rest, same⟩ := here
    refine ⟨token, rest, .word known ⟨rest, same⟩ ?_, same.symm, rfl⟩
    intro word listed there
    exact length_le_of_byteLength_le ⟨rest, same⟩ there (most word listed there)

theorem exists_takes (words : List (List Char)) (c : Char) (later : List Char) :
    ∃ token rest, Takes words (c :: later) token ∧ c :: later = token ++ rest := by
  obtain ⟨token, rest, takes, same, _⟩ := takes_of_find? words c later
  exact ⟨token, rest, takes, same⟩

/-! One token -/

theorem tokenLength_le_iff {bound : Nat} : tokenLength words text ≤ bound ↔
    1 ≤ bound ∧ ∀ word ∈ words, word <+: text → word.length ≤ bound := by
  have general : ∀ (fitting : List (List Char)) (least : Nat),
      fitting.foldl (fun longest word => max longest word.length) least ≤ bound ↔
        least ≤ bound ∧ ∀ word ∈ fitting, word.length ≤ bound := by
    intro fitting
    induction fitting with
    | nil => simp
    | cons word fitting ih =>
      intro least
      rw [List.foldl_cons, ih, Nat.max_le, List.forall_mem_cons, and_assoc]
  rw [tokenLength, general]
  simp [List.mem_filter, List.isPrefixOf_iff_prefix]

theorem Takes.length_eq (takes : Takes words text token) (worded : [] ∉ words) :
    tokenLength words text = token.length := by
  apply Nat.le_antisymm
  · apply tokenLength_le_iff.mpr
    cases takes with
    | word known here longest =>
      exact ⟨List.length_pos_iff.mpr (Takes.ne_nil (.word known here longest) worded), longest⟩
    | sign _ unknown => exact ⟨le_refl 1, fun word known here => absurd here (unknown word known)⟩
  · obtain ⟨positive, longest⟩ := tokenLength_le_iff.mp (le_refl (tokenLength words text))
    cases takes with
    | word known here => exact longest token known here
    | sign => exact positive

theorem tokens_of_blank (blank : trimStart text = []) : tokens words text = [] := by
  rw [tokens]
  split
  · rfl
  next seen =>
    rw [blank] at seen
    cases seen

theorem tokens_of_begins {c : Char} {later : List Char} (seen : trimStart text = c :: later) :
    tokens words text = (c :: later.take (tokenLength words (c :: later) - 1)) ::
      tokens words (later.drop (tokenLength words (c :: later) - 1)) := by
  rw [tokens]
  split
  next blank =>
    rw [seen] at blank
    cases blank
  next d rest here =>
    obtain ⟨rfl, rfl⟩ := List.cons.inj (seen.symm.trans here)
    rfl

theorem tokens_of_takes {rest : List Char} (worded : [] ∉ words) (seen : trimStart text = token ++ rest)
    (takes : Takes words (token ++ rest) token) : tokens words text = token :: tokens words rest := by
  obtain ⟨c, more, rfl⟩ := List.exists_cons_of_ne_nil (takes.ne_nil worded)
  have length : tokenLength words (c :: (more ++ rest)) - 1 = more.length := by
    have whole := takes.length_eq worded
    rw [List.cons_append, List.length_cons] at whole
    omega
  rw [tokens_of_begins seen, List.append_eq, length, List.take_left, List.drop_left]

/-! Whole texts -/

theorem tokenized_tokens (worded : [] ∉ words) (text : List Char) :
    Tokenized words text (tokens words text) := by
  obtain ⟨gap, same, blanks, begins⟩ := exists_gap text
  cases seen : trimStart text with
  | nil =>
    rw [seen, List.append_nil] at same
    rw [tokens_of_blank seen, same]
    exact .done blanks
  | cons c later =>
    obtain ⟨token, rest, takes, cut⟩ := exists_takes words c later
    -- A token has at least one character, so less is left to read.
    have shorter : rest.length < text.length := by
      have filled := List.length_pos_iff.mpr (takes.ne_nil worded)
      rw [same, seen, cut, List.length_append, List.length_append]
      omega
    rw [seen, cut] at begins
    rw [cut] at takes
    rw [tokens_of_takes worded (seen.trans cut) takes, same, seen, cut]
    exact .token blanks begins takes (tokenized_tokens worded rest)
termination_by text.length

/-- A vocabulary cuts a text in one way only. -/
theorem Tokenized.eq_tokens {found : List (List Char)} (tokenized : Tokenized words text found)
    (worded : [] ∉ words) : found = tokens words text := by
  induction tokenized with
  | done blanks => exact (tokens_of_blank (trimStart_of_blanks blanks)).symm
  | token blanks begins takes _ ih =>
    rw [tokens_of_takes worded (trimStart_append blanks begins) takes, ← ih]

/-- Nothing but blanks is lost, and the rest stays in order. -/
theorem Tokenized.filter_eq {found : List (List Char)} (tokenized : Tokenized words text found) :
    found.flatten.filter (! isBlank ·) = text.filter (! isBlank ·) := by
  have unseen : ∀ gap : List Char, (∀ c ∈ gap, isBlank c = true) → gap.filter (! isBlank ·) = [] :=
    fun gap blanks => List.filter_eq_nil_iff.mpr fun c inside => by simp [blanks c inside]
  induction tokenized with
  | done blanks => rw [unseen _ blanks, List.flatten_nil, List.filter_nil]
  | token blanks _ _ _ ih =>
    rw [List.flatten_cons, List.filter_append, ih, List.filter_append, unseen _ blanks, List.nil_append,
      List.filter_append]

/-! The loop -/

namespace Scan

theorem pass_blank {gap : List Char} (blanks : ∀ c ∈ gap, isBlank c = true) (found : List (List Char)) :
    pass (longestFirst words) (reading gap found) = finished found := by
  simp only [pass, trimStart_of_blanks blanks]

/-- The cut is made where the longest word ends, so never inside a character. -/
theorem pass_token {gap rest : List Char} (blanks : ∀ c ∈ gap, isBlank c = true)
    (begins : ∀ c ∈ (token ++ rest).head?, isBlank c = false) (filled : token ++ rest ≠ [])
    (takes : Takes words (token ++ rest) token) (found : List (List Char)) :
    pass (longestFirst words) (reading (gap ++ (token ++ rest)) found) = reading rest (found ++ [token]) := by
  obtain ⟨c, later, seen⟩ := List.exists_cons_of_ne_nil filled
  obtain ⟨other, behind, takes', cut, bytes⟩ := takes_of_find? words c later
  obtain rfl := takes.unique (seen ▸ takes')
  obtain rfl := List.append_cancel_left (seen.trans cut)
  have trimmed := trimStart_append blanks begins
  have made := cutAt_append other rest
  rw [seen] at trimmed made ⊢
  simp only [pass, trimmed, bytes, made]

/-- One pass for each token, and one for the end. -/
theorem run_of_tokenized {found : List (List Char)} (tokenized : Tokenized words text found)
    (worded : [] ∉ words) (earlier : List (List Char)) :
    run (longestFirst words) (found.length + 1) (reading text earlier) = finished (earlier ++ found) := by
  induction tokenized generalizing earlier with
  | done blanks =>
    rw [List.append_nil]
    exact pass_blank blanks earlier
  | token blanks begins takes _ ih =>
    have filled := List.append_ne_nil_of_left_ne_nil (takes.ne_nil worded)
    rw [List.length_cons, run, pass_token blanks begins (filled _) takes, ih, List.append_assoc]
    rfl

/-- With the empty word among the words there is no end where no other word fits. -/
theorem run_of_empty_word {c : Char} {later : List Char} (known : [] ∈ words)
    (unknown : ∀ word ∈ words, word <+: c :: later → word = []) (seen : trimStart text = c :: later)
    (passes : Nat) (found : List (List Char)) : ∃ rest, trimStart rest = c :: later ∧
      run (longestFirst words) passes (reading text found) =
        reading rest (found ++ List.replicate passes []) := by
  induction passes generalizing text found with
  | zero => exact ⟨text, seen, by rw [List.replicate_zero, List.append_nil]; rfl⟩
  | succ passes ih =>
    obtain ⟨gap, same, blanks, begins⟩ := exists_gap text
    have takes : Takes words ([] ++ c :: later) [] :=
      .word known List.nil_prefix fun word listed here => (unknown word listed here ▸ le_refl _)
    have again : pass (longestFirst words) (reading text found) = reading (c :: later) (found ++ [[]]) := by
      rw [seen] at same begins
      rw [same]
      exact pass_token blanks begins (List.cons_ne_nil _ _) takes found
    have still : trimStart (c :: later) = c :: later := by
      rw [seen] at begins
      exact List.dropWhile_cons_of_neg (by simp [begins c rfl])
    obtain ⟨rest, trimmed, reached⟩ := ih still (found ++ [[]])
    refine ⟨rest, trimmed, ?_⟩
    rw [run, again, reached, List.append_assoc]
    rfl

end Scan
end Text

namespace Grammar
open Text

/-- A text of any kind comes to an end in the loop, cut into tokens as the terminals have it, and all of
it that is not blank is in the tokens. -/
theorem tokens_exact (g : Grammar) (named : "" ∉ g.terminals.map g.nameOf) (input : String) :
    ∃ found, g.tokens input = found.map String.ofList ∧
      Tokenized g.vocabulary input.toList found ∧
      (∀ other, Tokenized g.vocabulary input.toList other → other = found) ∧
      Scan.run (longestFirst g.vocabulary) (found.length + 1) (.reading input.toList []) = .finished found ∧
      found.flatten.filter (! isBlank ·) = input.toList.filter (! isBlank ·) := by
  have worded : [] ∉ g.vocabulary := by
    intro empty
    obtain ⟨s, listed, none⟩ := List.mem_map.mp empty
    exact named (List.mem_map.mpr ⟨s, listed, String.toList_eq_nil_iff.mp none⟩)
  have tokenized := tokenized_tokens worded input.toList
  exact ⟨Text.tokens g.vocabulary input.toList, rfl, tokenized, fun other cut => cut.eq_tokens worded,
    Scan.run_of_tokenized tokenized worded [], tokenized.filter_eq⟩

/-- One terminal begins another, which has a blank inside, and one is no ASCII. -/
def spaced : Grammar := ⟨["S", "a", "a b", "é"], [⟨2, [[3, 4, 5]]⟩], some 2⟩

theorem spaced_tokens_exact : ofEntries [⟨"S", [["a", "a b", "é"]]⟩] = .ok spaced ∧
    Tokenized spaced.vocabulary " a bé a?".toList [['a', ' ', 'b'], ['é'], ['a'], ['?']] ∧
      Scan.run (longestFirst spaced.vocabulary) 5 (.reading " a bé a?".toList []) =
        .finished [['a', ' ', 'b'], ['é'], ['a'], ['?']] := by
  obtain ⟨found, tokens, tokenized, _, finished, _⟩ := tokens_exact spaced (by decide) " a bé a?"
  have cut : spaced.tokens " a bé a?" = ["a b", "é", "a", "?"] := by cbv
  have same : found = [['a', ' ', 'b'], ['é'], ['a'], ['?']] := by
    have chars := congrArg (List.map String.toList) (cut.symm.trans tokens)
    simpa using chars.symm
  subst same
  exact ⟨rfl, tokenized, finished⟩

end Grammar
end Predictive
