import Predictive.Grammar.Basic
import Predictive.Exploration

/-! The short sentences of a grammar, found by expanding the leftmost nonterminal in
every possible way. A form is given up when it has too many letters or is too long to be
worth following. For grammars without empty bodies nothing is lost by that; otherwise a
sentence may be missed if all its derivations pass through longer forms. -/

namespace Predictive

/-- All words of at most the given length. -/
def words (alphabet : List Symbol) : Nat → List Body
  | 0 => [[]]
  | length + 1 => [] :: alphabet.flatMap fun s => (words alphabet length).map (s :: ·)

theorem mem_words {alphabet : List Symbol} {length : Nat} {word : Body} :
    word ∈ words alphabet length ↔ word.length ≤ length ∧ ∀ s ∈ word, s ∈ alphabet := by
  induction length generalizing word with
  | zero => cases word <;> simp [words]
  | succ length ih =>
    cases word with
    | nil => simp [words]
    | cons s rest => simp [words, ih]; grind

namespace Grammar

variable (g : Grammar)

/-- The form around its leftmost nonterminal. -/
def leftmost? : Body → Option (Body × Symbol × Body)
  | [] => none
  | s :: rest =>
    if g.isNonterminal s then some ([], s, rest)
    else (leftmost? rest).map fun (before, t, after) => (s :: before, t, after)

/-- The longest form that is followed in search of sentences of `limit` letters. -/
def formLimit (limit : Nat) : Nat := limit + g.nonterminals.length + 1

def fits (limit : Nat) (form : Body) : Bool :=
  form.countP (!g.isNonterminal ·) ≤ limit && form.length ≤ g.formLimit limit

def successors (limit : Nat) (form : Body) : List Body :=
  match g.leftmost? form with
  | none => []
  | some (before, s, after) =>
    ((g.bodiesOf s).map (before ++ · ++ after)).filter (g.fits limit)

theorem eq_of_leftmost? {form before after : Body} {s : Symbol}
    (found : g.leftmost? form = some (before, s, after)) : form = before ++ s :: after := by
  induction form generalizing before with
  | nil => simp [leftmost?] at found
  | cons t rest ih =>
    simp only [leftmost?] at found
    split at found
    · obtain ⟨rfl, rfl, rfl⟩ := by simpa using found
      rfl
    · obtain ⟨⟨earlier, u, later⟩, inner, same⟩ := Option.map_eq_some_iff.mp found
      simp only [Prod.mk.injEq] at same
      obtain ⟨rfl, rfl, rfl⟩ := same
      rw [ih inner]
      rfl

theorem successors_confined (limit : Nat) (start : Symbol) :
    Confined (g.successors limit) [start] := by
  refine ⟨words (start :: (g.rules.flatMap Rule.bodies).flatten) (g.formLimit limit), ?_, ?_⟩
  · simp [mem_words, formLimit]
  · intro form inside next step
    obtain ⟨_, inside⟩ := mem_words.mp inside
    unfold successors at step
    split at step
    · simp at step
    · rename_i before s after found
      obtain ⟨⟨body, chosen, rfl⟩, fits⟩ := by simpa using step
      rw [g.eq_of_leftmost? found] at inside
      refine mem_words.mpr ⟨?_, ?_⟩
      · simp [Grammar.fits] at fits
        simp
        omega
      · simp only [bodiesOf, List.mem_flatMap, List.mem_filter] at chosen
        obtain ⟨rule, ⟨listed, _⟩, chosen⟩ := chosen
        intro t member
        simp only [List.mem_append] at member
        rcases member with member | member | member
        · exact inside t (by simp [member])
        · refine List.mem_cons_of_mem _ (List.mem_flatten.mpr ⟨body, ?_, member⟩)
          exact List.mem_flatMap.mpr ⟨rule, listed, chosen⟩
        · exact inside t (by simp [member])

/-- The sentences with at most `limit` letters that the search finds, by symbol. -/
def shortWords (limit : Nat) : List Body :=
  match g.start with
  | none => []
  | some start =>
    (explore (g.successors limit) [start] (g.successors_confined limit start)).filter
      fun form => form.all (!g.isNonterminal ·)

/-- The same by name, in dictionary order. -/
def sentences (limit : Nat) : List (List String) :=
  ((g.shortWords limit).map (·.map g.nameOf)).mergeSort fun a b => !decide (b < a)

end Grammar
end Predictive
