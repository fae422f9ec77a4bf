import Predictive.Proofs.Cells
import Predictive.Proofs.Derivations

/-! The lookahead sets and derivations. A symbol vanishes if it derives the empty word, and
begins with the letters that a derivation brings to its front; the letters seen behind a
nonterminal in a form derived from the start are among those that follow it. A table thus
predicts a production wherever a derivation could use it. -/

namespace Predictive.Grammar
open Relation

variable {g : Grammar} {letter : Symbol}

theorem BodyVanishes.derives {body : Body} (vanish : ∀ s ∈ body, g.Derives [s] []) :
    g.Derives body [] := by
  induction body with
  | nil => exact .refl
  | cons s rest ih =>
    obtain ⟨first, later⟩ := List.forall_mem_cons.mp vanish
    exact first.append (ih later)

theorem Vanishes.derives {s : Symbol} (vanishes : g.Vanishes s) : g.Derives [s] [] := by
  induction vanishes with
  | intro produces all ih => exact produces.derives.trans (BodyVanishes.derives ih)

theorem bodyVanishes_iff_derives {body : Body} : g.BodyVanishes body ↔ g.Derives body [] := by
  constructor
  · exact fun vanish => BodyVanishes.derives fun s member => (vanish s member).derives
  · intro derives
    induction derives using ReflTransGen.head_induction_on with
    | refl => simp [BodyVanishes]
    | head step _ ih =>
      obtain ⟨before, after, produces⟩ := step
      intro t member
      rcases List.mem_append.mp member with earlier | later
      · exact ih t (by simp [earlier])
      · rcases List.mem_cons.mp later with rfl | later
        · exact .intro produces fun u inside => ih u (by simp [inside])
        · exact ih t (by simp [later])

theorem Begins.derives {s : Symbol} (begins : g.Begins letter s) :
    ∃ rest, g.Derives [s] (letter :: rest) := by
  induction begins with
  | self => exact ⟨[], .refl⟩
  | @intro s before t after produces vanish _ ih =>
    obtain ⟨rest, derives⟩ := ih
    have front := (bodyVanishes_iff_derives.mp vanish).append (derives.append_right after)
    exact ⟨rest ++ after, produces.derives.trans front⟩

/-- A form derives one that begins with the letter exactly when it begins with it behind
vanishing symbols. -/
theorem bodyBegins_iff_derives {body : Body} :
    g.BodyBegins letter body ↔ ∃ rest, g.Derives body (letter :: rest) := by
  constructor
  · rintro ⟨before, s, after, rfl, vanish, begins⟩
    obtain ⟨rest, derives⟩ := begins.derives
    exact ⟨rest ++ after,
      (bodyVanishes_iff_derives.mp vanish).append (derives.append_right after)⟩
  · rintro ⟨rest, derives⟩
    induction derives using ReflTransGen.head_induction_on with
    | refl => exact bodyBegins_cons.mpr (.inl .self)
    | head step _ ih =>
      obtain ⟨before, after, produces⟩ := step
      rw [List.append_assoc, bodyBegins_append, bodyBegins_append] at ih
      rw [bodyBegins_append, bodyBegins_cons]
      rcases ih with here | ⟨vanish, here | ⟨gone, here⟩⟩
      · exact .inl here
      · exact .inr ⟨vanish, .inl (produces.begins here)⟩
      · exact .inr ⟨vanish, .inr ⟨.intro produces gone, here⟩⟩

/-- What can be seen right behind a place: a letter that the rest begins with, or the end
mark if the rest vanishes. -/
def Ahead (g : Grammar) (letter : Symbol) (after : Body) : Prop :=
  g.BodyBegins letter after ∨ letter = Symbol.endMark ∧ g.BodyVanishes after

theorem ahead_append {first second : Body} :
    g.Ahead letter (first ++ second) ↔
      g.BodyBegins letter first ∨ g.BodyVanishes first ∧ g.Ahead letter second := by
  rw [Ahead, Ahead, bodyBegins_append, bodyVanishes_append, or_assoc, and_left_comm, ← and_or_left]

/-- What the rest of a form derived from a symbol begins with follows the nonterminal before it, and
if the rest vanishes so does what follows the symbol. -/
theorem follows_of_behind {root s : Symbol} {before after : Body}
    (derives : g.Derives [root] (before ++ s :: after)) (nonterminal : s ∈ g.nonterminals)
    (behind : g.BodyBegins letter after ∨ g.BodyVanishes after ∧ g.Follows letter root) :
    g.Follows letter s := by
  generalize same : before ++ s :: after = form at derives
  induction derives generalizing before s after with
  | refl =>
    obtain ⟨rfl, rfl, rfl⟩ : before = [] ∧ s = root ∧ after = [] := by
      cases before <;> simp_all
    rcases behind with ⟨_, _, _, absurdity, _⟩ | ⟨_, follows⟩
    · simp at absurdity
    · exact follows
  | tail _ step ih =>
    obtain @⟨u, body, first, last, produces⟩ := step
    rcases split_middle same with ⟨rest, rfl, rfl⟩ | ⟨left, right, rfl, rfl, rfl⟩ | ⟨rest, rfl, rfl⟩
    · have place : before ++ s :: (rest ++ u :: last) = before ++ s :: rest ++ u :: last := by simp
      have onward : g.Derives (rest ++ u :: last) (rest ++ body ++ last) :=
        .single (.expand rest last produces)
      refine ih nonterminal (behind.imp (fun begins => ?_) fun ⟨vanish, follows⟩ => ⟨?_, follows⟩) place
      · obtain ⟨later, derives⟩ := bodyBegins_iff_derives.mp begins
        exact bodyBegins_iff_derives.mpr ⟨later, onward.trans derives⟩
      · exact bodyVanishes_iff_derives.mpr (onward.trans (bodyVanishes_iff_derives.mp vanish))
    · rw [bodyBegins_append, bodyVanishes_append] at behind
      rcases behind with (begins | ⟨vanish, begins⟩) | ⟨⟨vanish, gone⟩, follows⟩
      · exact .rest produces nonterminal begins
      · exact .left produces nonterminal vanish (ih produces.nonterminal (.inl begins) rfl)
      · exact .left produces nonterminal vanish (ih produces.nonterminal (.inr ⟨gone, follows⟩) rfl)
    · have place : first ++ u :: rest ++ s :: after = first ++ u :: (rest ++ s :: after) := by simp
      exact ih nonterminal behind place

/-- Whatever is seen behind a nonterminal in a form derived from any symbol follows it, the end
mark only if that is the start symbol. -/
theorem follows_of_derives {root s : Symbol} {before after : Body}
    (starts : letter = Symbol.endMark → g.start = some root)
    (derives : g.Derives [root] (before ++ s :: after)) (nonterminal : s ∈ g.nonterminals)
    (ahead : g.Ahead letter after) : g.Follows letter s := by
  refine follows_of_behind derives nonterminal (ahead.imp_right fun ⟨last, vanish⟩ => ⟨vanish, ?_⟩)
  have rooted : root ∈ g.nonterminals := by
    rcases derives.of_singleton with same | ⟨_, produces, _⟩
    · obtain ⟨rfl, rfl, _⟩ : before = [] ∧ s = root ∧ after = [] := by
        cases before <;> simp_all
      exact nonterminal
    · exact produces.nonterminal
  exact .start last (starts last) rooted

/-- In a form derived from the start, a production whose body can bring the letter to the
front there is predicted by it. -/
theorem predicts_of_ahead {start : Symbol} {before after : Body} {p : Production}
    (starts : g.start = some start) (derives : g.Derives [start] (before ++ p.left :: after))
    (listed : p ∈ g.productions) (ahead : g.Ahead letter (p.body ++ after)) :
    g.Predicts p letter := by
  rcases ahead_append.mp ahead with begins | ⟨vanish, later⟩
  · exact .inl begins
  · exact .inr ⟨vanish,
      follows_of_derives (fun _ => starts) derives (mem_productions listed).nonterminal later⟩

end Predictive.Grammar
