import Predictive.Proofs.Comparison
import Predictive.Proofs.Families
import Predictive.Proofs.NamedRules
import Predictive.Proofs.Trimming
import Predictive.Proofs.Unfolding

/-! What stays true of names and terminals in every grammar that can come about. Every terminal stands in
a body: elimination and factoring move symbols from one body to another, but lose none. And no name of a
nonterminal begins or ends with a blank, since new ones are old ones with primes added. -/

namespace Predictive

/-- Primes are no blanks. -/
theorem NamedAfter.trim {base name : String} (named : NamedAfter base name)
    (trimmed : Text.trim base.toList = base.toList) : Text.trim name.toList = name.toList := by
  obtain ⟨primes, positive, rfl⟩ := named
  obtain ⟨fewer, rfl⟩ := Nat.exists_eq_succ_of_ne_zero (Nat.ne_of_gt positive)
  have prime : Text.isBlank '\x27' = false := by decide
  have spelled : (NameSupply.primed base (fewer + 1)).toList =
      base.toList ++ List.replicate fewer '\x27' ++ ['\x27'] := by
    simp [NameSupply.primed, List.replicate_succ']
  have first := (Text.trim_ends base.toList).1
  rw [trimmed] at first
  rw [spelled]
  apply Text.trim_eq_self
  · intro c begins
    cases chars : base.toList with
    | nil =>
      rw [chars, List.nil_append] at begins
      cases List.mem_append.mp (List.mem_of_mem_head? begins) with
      | inl inside => exact List.eq_of_mem_replicate inside ▸ prime
      | inr inside => exact List.mem_singleton.mp inside ▸ prime
    | cons d rest =>
      rw [chars] at begins first
      exact first c begins
  · intro c ends
    rw [List.getLast?_concat] at ends
    exact Option.some.inj ends ▸ prime

namespace LeftRecursion

variable {finished later rules : List Rule} {next t : Symbol} {introduced : List Introduction}

/-- A symbol other than the finished nonterminals is not lost when these are replaced. -/
theorem Resolved.used {bodies result : List Body} (resolved : Resolved finished bodies result)
    (settled : ∀ rule ∈ finished, rule.bodies ≠ [] ∧ t ≠ rule.left) (used : t ∈ bodies.flatten) :
    ∃ body ∈ result, t ∈ body := by
  obtain ⟨body, inside, here⟩ := List.mem_flatten.mp used
  apply resolved.exists_keep (t ∈ ·) ?_ ⟨body, inside, here⟩
  intro rule listed rest inside
  obtain ⟨filled, other⟩ := settled rule listed
  obtain ⟨front, chosen⟩ := List.exists_mem_of_ne_nil _ filled
  exact ⟨front, chosen, List.mem_append_right front ((List.mem_cons.mp inside).resolve_left other)⟩

theorem used_of_split (next : Symbol) {left : Symbol} {bodies : List Body} {body : Body}
    (inside : body ∈ bodies) (here : t ∈ body) (other : t ≠ left) :
    t ∈ (restarted left next bodies).bodies.flatten ∨ t ∈ (repetition left next bodies).bodies.flatten := by
  by_cases begins : body.head? = some left
  · obtain ⟨rest, rfl⟩ := List.head?_eq_some_iff.mp begins
    have behind := (List.mem_cons.mp here).resolve_left other
    right
    apply List.mem_flatten.mpr
    refine ⟨rest ++ [next], List.mem_append_left _ ?_, List.mem_append_left _ behind⟩
    exact List.mem_map_of_mem (mem_tailsOf.mpr inside)
  · left
    apply List.mem_flatten.mpr
    refine ⟨body ++ [next], List.mem_map_of_mem ?_, List.mem_append_left _ here⟩
    exact List.mem_filter.mpr ⟨inside, by simpa using begins⟩

theorem Eliminates.used (done : Eliminates finished next later introduced rules)
    (settled : ∀ rule ∈ finished, rule.bodies ≠ [] ∧ t ≠ rule.left)
    (pending : ∀ rule ∈ later, rule.bodies ≠ [] ∧ t ≠ rule.left)
    (used : ∃ rule ∈ later, t ∈ rule.bodies.flatten) : ∃ rule ∈ rules, t ∈ rule.bodies.flatten := by
  -- no finished rule is empty: replacing its left side by its alternatives would drop what follows there
  induction done with
  | nil => exact used
  | @keep finished next rule later introduced rules bodies resolved _ _ ih =>
    obtain ⟨⟨filled, other⟩, behind⟩ := List.forall_mem_cons.mp pending
    have kept : bodies ≠ [] := resolved.ne_nil (fun rule listed => (settled rule listed).1) filled
    obtain ⟨source, listed, inside⟩ := used
    cases List.mem_cons.mp listed with
    | inl same =>
      subst same
      exact ⟨⟨source.left, bodies⟩, List.mem_cons_self, List.mem_flatten.mpr (resolved.used settled inside)⟩
    | inr listed =>
      have onward : ∀ source ∈ finished ++ [⟨rule.left, bodies⟩], source.bodies ≠ [] ∧ t ≠ source.left :=
        List.forall_mem_append.mpr ⟨settled, List.forall_mem_singleton.mpr ⟨kept, other⟩⟩
      obtain ⟨found, member, there⟩ := ih onward behind ⟨source, listed, inside⟩
      exact ⟨found, List.mem_cons_of_mem _ member, there⟩
  | @split finished next rule later introduced rules bodies resolved founded _ ih =>
    obtain ⟨⟨filled, other⟩, behind⟩ := List.forall_mem_cons.mp pending
    obtain ⟨source, listed, inside⟩ := used
    cases List.mem_cons.mp listed with
    | inl same =>
      subst same
      obtain ⟨body, member, here⟩ := resolved.used settled inside
      cases used_of_split next member here other with
      | inl first => exact ⟨_, List.mem_cons_self, first⟩
      | inr second => exact ⟨_, List.mem_cons_of_mem _ List.mem_cons_self, second⟩
    | inr listed =>
      have kept : (restarted rule.left next bodies).bodies ≠ [] := by simpa [restarted] using founded
      have onward : ∀ source ∈ finished ++ [restarted rule.left next bodies],
          source.bodies ≠ [] ∧ t ≠ source.left :=
        List.forall_mem_append.mpr ⟨settled, List.forall_mem_singleton.mpr ⟨kept, other⟩⟩
      obtain ⟨found, member, there⟩ := ih onward behind ⟨source, listed, inside⟩
      exact ⟨found, List.mem_cons_of_mem _ (List.mem_cons_of_mem _ member), there⟩

end LeftRecursion

namespace Grammar

variable {g h : Grammar} {t : Symbol}

/-- Every terminal stands in a body. -/
def TerminalsUsed (g : Grammar) : Prop := ∀ t ∈ g.terminals, ∃ s body, g.Produces s body ∧ t ∈ body

theorem exists_produces_iff : (∃ s body, g.Produces s body ∧ t ∈ body) ↔
    ∃ rule ∈ g.rules, t ∈ rule.bodies.flatten := by
  constructor
  · intro stands
    obtain ⟨s, body, produces, inside⟩ := stands
    obtain ⟨rule, listed, _, chosen⟩ := produces_iff.mp produces
    exact ⟨rule, listed, List.mem_flatten.mpr ⟨body, chosen, inside⟩⟩
  · intro stands
    obtain ⟨rule, listed, used⟩ := stands
    obtain ⟨body, chosen, inside⟩ := List.mem_flatten.mp used
    exact ⟨rule.left, body, produces_of_listed rule listed body chosen, inside⟩

/-- What stands in an alternative before it was taken apart stands in one of the parts. -/
theorem Unfolds.used {size : Symbol} {bodies fulls : List Body} (unfolds : h.Unfolds size bodies fulls)
    (used : t ∈ fulls.flatten) : t ∈ bodies.flatten ∨ ∃ s body, h.Produces s body ∧ t ∈ body := by
  induction unfolds with
  | nil => exact .inl used
  | @old body bodies fulls _ _ ih =>
    rw [List.flatten_cons, List.mem_append] at used ⊢
    cases used with
    | inl here => exact .inl (.inl here)
    | inr behind => exact (ih behind).imp_left .inr
  | @new front n bodies inner fulls _ _ _ _ _ named ih =>
    rw [List.flatten_append, List.mem_append] at used
    rw [List.flatten_cons, List.mem_append]
    cases used with
    | inl here =>
      obtain ⟨whole, listed, inside⟩ := List.mem_flatten.mp here
      obtain ⟨rest, member, rfl⟩ := List.mem_map.mp listed
      cases List.mem_append.mp inside with
      | inl shared => exact .inl (.inl (List.mem_append_left _ shared))
      | inr apart =>
        cases named (List.mem_flatten.mpr ⟨rest, member, apart⟩) with
        | inl own =>
          obtain ⟨body, produces, inside⟩ := List.mem_flatten.mp own
          exact .inr ⟨n, body, produces, inside⟩
        | inr deeper => exact .inr deeper
    | inr behind => exact (ih behind).imp_left .inr

theorem TerminalsUsed.factored (used : g.TerminalsUsed) (valid : g.WellFormed) (supply : NameSupply) :
    (g.factorWith supply).result.TerminalsUsed := by
  have unfolding := valid.unfolding supply
  intro t terminal
  rw [terminals_eq unfolding.size unfolding.lefts] at terminal
  obtain ⟨s, body, produces, inside⟩ := used t terminal
  obtain ⟨fulls, unfolds, same⟩ := unfolding.bodies s produces.nonterminal
  have full : t ∈ fulls.flatten := List.mem_flatten.mpr ⟨body, same.mem_iff.mpr produces, inside⟩
  cases unfolds.used full with
  | inl own =>
    obtain ⟨part, produced, inside⟩ := List.mem_flatten.mp own
    exact ⟨s, part, produced, inside⟩
  | inr apart => exact apart

theorem TerminalsUsed.eliminated (used : g.TerminalsUsed) (valid : g.WellFormed) {supply : NameSupply}
    (done : (g.eliminateLeftRecursionWith supply).result = .ok h) : h.TerminalsUsed := by
  obtain ⟨introduced, eliminates, extension, _⟩ := eliminates_of_eliminateLeftRecursion done
  have lefts : ∀ s, s ∈ h.nonterminals ↔ s ∈ g.nonterminals ∨ g.size ≤ s ∧ s < h.size := by
    intro s
    rw [extension.size]
    exact eliminates.lefts s
  have wider : g.size ≤ h.size := extension.size ▸ Nat.le_add_right _ _
  intro t terminal
  rw [terminals_eq wider lefts] at terminal
  have letter := (mem_terminals.mp terminal).2.2
  have settled : ∀ rule ∈ g.rules, rule.bodies ≠ [] ∧ t ≠ rule.left := by
    intro rule listed
    exact ⟨(valid.rules rule listed).bodies, fun same => letter (same ▸ List.mem_map_of_mem listed)⟩
  exact exists_produces_iff.mpr
    (eliminates.used (List.forall_mem_nil _) settled (exists_produces_iff.mp (used t terminal)))

theorem terminalsUsed_build {allowed : String → Bool} {entries : List Entry}
    (built : build allowed entries = .ok g) : g.TerminalsUsed := by
  obtain ⟨rfl, unreserved, _⟩ := assemble_of_build built
  generalize entries.map Entry.trimmed = entries at unreserved ⊢
  intro t terminal
  obtain ⟨low, high, _⟩ := mem_terminals.mp terminal
  have named := map_nameOf_terminals_assemble.mp (List.mem_map_of_mem terminal)
  obtain ⟨entry, listed, inside⟩ := List.mem_flatMap.mp (List.mem_filter.mp named).1
  obtain ⟨names, chosen, here⟩ := List.mem_flatten.mp inside
  have left : entry.left ∈ Entry.lefts entries := List.mem_eraseDups.mpr (List.mem_map_of_mem listed)
  obtain ⟨index, bound, same⟩ := List.getElem_of_mem left
  have placed : (entry.left, index) ∈ (Entry.lefts entries).zipIdx :=
    List.mem_zipIdx_iff_getElem?.mpr (List.getElem?_eq_some_iff.mpr ⟨bound, same⟩)
  have rule : (⟨index + 2, (Entry.bodiesOf entries entry.left).map (assemble entries).bodyOf⟩ : Rule) ∈
      (assemble entries).rules := List.mem_map.mpr ⟨_, placed, rfl⟩
  have body : names ∈ Entry.bodiesOf entries entry.left :=
    List.mem_flatMap.mpr ⟨entry, List.mem_filter.mpr ⟨listed, beq_self_eq_true _⟩, chosen⟩
  have found := find?_nameOf (nodup_knownNames_assemble unreserved) low high
  have proper : t ≠ Symbol.empty := ne_empty low
  refine ⟨_, _, produces_of_listed _ rule _ (List.mem_map_of_mem body), List.mem_filter.mpr ⟨?_, ?_⟩⟩
  · exact List.mem_filterMap.mpr ⟨_, here, found⟩
  · simpa using proper

theorem Reachable.terminalsUsed (reachable : Reachable g) : g.TerminalsUsed := by
  induction reachable with
  | empty => exact fun t terminal => absurd terminal (by decide +revert)
  | entries built => exact terminalsUsed_build built
  | entriesOver built => exact terminalsUsed_build built
  | start _ moved ih =>
    obtain ⟨s, _, rfl⟩ := exists_of_withStart moved
    exact ih
  | eliminated before done ih => exact ih.eliminated before.wellFormed done
  | factored supply before ih => exact ih.factored before.wellFormed supply

/-! Names -/

/-- No name of a nonterminal begins or ends with a blank. -/
def LeftsTrimmed (g : Grammar) : Prop :=
  ∀ s ∈ g.nonterminals, Text.trim (g.nameOf s).toList = (g.nameOf s).toList

theorem LeftsTrimmed.arranged {next count : Nat} {families : List Family} (trimmed : g.LeftsTrimmed)
    (arranged : h.Arranged next count g.rules h.rules families)
    (names : ∀ s ∈ g.nonterminals, h.nameOf s = g.nameOf s) : h.LeftsTrimmed := by
  intro s member
  rw [nonterminals, ← arranged.members] at member
  obtain ⟨family, listed, member⟩ := List.mem_flatMap.mp member
  have root : family.root ∈ g.nonterminals := by
    rw [nonterminals, ← arranged.roots]
    exact List.mem_map_of_mem listed
  have own : Text.trim (h.nameOf family.root).toList = (h.nameOf family.root).toList := by
    rw [names _ root]
    exact trimmed _ root
  cases List.mem_cons.mp member with
  | inl same => exact same ▸ own
  | inr fresh => exact ((arranged.kin family listed).named s fresh).trim own

theorem leftsTrimmed_build {allowed : String → Bool} {entries : List Entry}
    (built : build allowed entries = .ok g) : g.LeftsTrimmed := by
  obtain ⟨rfl, _, _⟩ := assemble_of_build built
  intro s member
  obtain ⟨rule, listed, rfl⟩ := List.mem_map.mp member
  obtain ⟨⟨left, index⟩, placed, rfl⟩ := List.mem_map.mp listed
  have given : left ∈ (entries.map Entry.trimmed).map Entry.left :=
    List.mem_eraseDups.mp (List.fst_mem_of_mem_zipIdx placed)
  obtain ⟨entry, _, rfl⟩ := List.mem_map.mp (List.map_map ▸ given)
  rw [Registry.nameOf_left placed]
  simp only [Function.comp, Entry.trimmed, String.toList_ofList, Text.trim_trim]

theorem Reachable.leftsTrimmed (reachable : Reachable g) : g.LeftsTrimmed := by
  induction reachable with
  | empty => exact fun s member => absurd member (by decide +revert)
  | entries built => exact leftsTrimmed_build built
  | entriesOver built => exact leftsTrimmed_build built
  | start _ moved ih =>
    obtain ⟨s, _, rfl⟩ := exists_of_withStart moved
    exact ih
  | eliminated before done ih =>
    have valid := before.wellFormed
    obtain ⟨_, _, extension, _⟩ := eliminates_of_eliminateLeftRecursion done
    obtain ⟨families, arranged, _⟩ := arranged_eliminateLeftRecursion valid done
    exact ih.arranged arranged fun s member => extension.nameOf s (valid.nonterminal_bounds member).2
  | @factored g supply before ih =>
    have valid := before.wellFormed
    obtain ⟨_, _, extension⟩ := factorWith_result (g := g) supply
    obtain ⟨families, arranged⟩ := arranged_factorWith valid supply
    exact ih.arranged arranged fun s member => extension.nameOf s (valid.nonterminal_bounds member).2

end Grammar
end Predictive
