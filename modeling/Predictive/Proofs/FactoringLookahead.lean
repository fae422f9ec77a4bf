import Predictive.Proofs.Unfolding

/-! What can be told of a grammar from its factored form. A new symbol vanishes, or begins with a
letter, only if one of the alternatives that it unfolds to does; and what follows it follows the
nonterminal at the root of its stem. -/

namespace Predictive.Grammar

variable {g h : Grammar} {size : Nat}

/-! One body at a time -/

namespace Unfolds

variable {body before after : Body} {bodies fulls part : List Body} {s : Symbol}

theorem ne_nil (unfolds : h.Unfolds size (body :: bodies) fulls) : fulls ≠ [] := by
  cases unfolds with
  | old => exact List.cons_ne_nil _ _
  | new _ _ several =>
    intro none
    obtain ⟨inner, _⟩ := List.append_eq_nil_iff.mp none
    rw [List.map_eq_nil_iff.mp inner] at several
    cases several

theorem of_cons (unfolds : h.Unfolds size (body :: bodies) fulls) :
    ∃ part others, fulls = part ++ others ∧ h.Unfolds size [body] part ∧
      h.Unfolds size bodies others := by
  cases unfolds with
  | @old _ _ fulls old rest => exact ⟨[body], fulls, rfl, .old old .nil, rest⟩
  | @new front n _ inner fulls old fresh several named rest =>
    have alone := Unfolds.new old fresh several named .nil
    rw [List.append_nil] at alone
    exact ⟨_, fulls, rfl, alone, rest⟩

theorem of_mem (unfolds : h.Unfolds size bodies fulls) (member : body ∈ bodies) :
    ∃ part, part.Sublist fulls ∧ h.Unfolds size [body] part := by
  induction bodies generalizing fulls with
  | nil => cases member
  | cons first later ih =>
    obtain ⟨part, others, rfl, here, behind⟩ := unfolds.of_cons
    rcases List.mem_cons.mp member with rfl | member
    · exact ⟨part, List.sublist_append_left part others, here⟩
    · obtain ⟨inside, within, unfolds⟩ := ih behind member
      exact ⟨inside, within.trans (List.sublist_append_right part others), unfolds⟩

theorem of_nil (unfolds : h.Unfolds size [[]] part) : part = [[]] := by
  generalize same : [[]] = bodies at unfolds
  cases unfolds with
  | nil => cases same
  | old _ rest =>
    obtain ⟨rfl, rfl⟩ := List.cons.inj same
    cases rest
    rfl
  | @new front => simp at same

/-- An old symbol in front stays in front. -/
theorem cons_old (unfolds : h.Unfolds size [s :: after] part) (old : s < size) :
    ∃ tails, h.Unfolds size [after] tails ∧ part = tails.map (s :: ·) := by
  generalize same : [s :: after] = bodies at unfolds
  cases unfolds with
  | nil => cases same
  | old kept rest =>
    obtain ⟨rfl, rfl⟩ := List.cons.inj same
    cases rest
    exact ⟨[after], .old (List.forall_mem_cons.mp kept).2 .nil, rfl⟩
  | @new front n _ inner _ kept fresh several named rest =>
    obtain ⟨place, rfl⟩ := List.cons.inj same
    cases rest
    cases front with
    | nil =>
      obtain ⟨rfl, _⟩ := List.cons.inj place
      exact absurd old (Nat.not_lt.mpr fresh)
    | cons t front =>
      obtain ⟨rfl, rfl⟩ := List.cons.inj place
      have behind := Unfolds.new (List.forall_mem_cons.mp kept).2 fresh several named .nil
      rw [List.append_nil] at behind
      refine ⟨_, behind, ?_⟩
      rw [List.append_nil, List.map_map]
      rfl

/-- A new symbol stands at the end. -/
theorem cons_new (unfolds : h.Unfolds size [s :: after] part) (fresh : size ≤ s) :
    after = [] ∧ 1 < part.length ∧ h.Unfolds size (h.bodiesOf s) part := by
  generalize same : [s :: after] = bodies at unfolds
  cases unfolds with
  | nil => cases same
  | old kept rest =>
    obtain ⟨rfl, rfl⟩ := List.cons.inj same
    exact absurd (List.forall_mem_cons.mp kept).1 (Nat.not_lt.mpr fresh)
  | @new front n _ inner _ kept _ several named rest =>
    obtain ⟨place, rfl⟩ := List.cons.inj same
    cases rest
    cases front with
    | nil =>
      obtain ⟨rfl, rfl⟩ := List.cons.inj place
      have alone : inner.map (([] : Body) ++ ·) ++ [] = inner := by simp
      rw [alone]
      exact ⟨rfl, several, named⟩
    | cons t front =>
      obtain ⟨rfl, _⟩ := List.cons.inj place
      exact absurd (List.forall_mem_cons.mp kept).1 (Nat.not_lt.mpr fresh)

theorem of_append (unfolds : h.Unfolds size [before ++ s :: after] part) :
    (∀ t ∈ before, t < size) ∧
      ∃ tails, h.Unfolds size [s :: after] tails ∧ part = tails.map (before ++ ·) := by
  induction before generalizing part with
  | nil => exact ⟨by simp, part, unfolds, by simp⟩
  | cons t before ih =>
    have old : t < size := by
      apply Nat.lt_of_not_le
      intro fresh
      obtain ⟨none, _⟩ := unfolds.cons_new fresh
      simp at none
    obtain ⟨tails, behind, rfl⟩ := unfolds.cons_old old
    obtain ⟨olds, rests, last, rfl⟩ := ih behind
    refine ⟨List.forall_mem_cons.mpr ⟨old, olds⟩, rests, last, ?_⟩
    rw [List.map_map]
    rfl

end Unfolds

/-- A fact about symbols and forms holds of an old symbol, and of one of the alternatives that a new
one unfolds to. -/
def Shows (g h : Grammar) (symbol : Symbol → Prop) (form : Body → Prop) (s : Symbol) : Prop :=
  (s < g.size → symbol s) ∧
    (g.size ≤ s → ∀ fulls, h.Unfolds g.size (h.bodiesOf s) fulls → ∃ full ∈ fulls, form full)

namespace Unfolding

variable {s n root letter : Symbol} {body stem before after : Body} {part : List Body}
  (unfolding : g.Unfolding h)

include unfolding

theorem old_of_nonterminal (nonterminal : s ∈ h.nonterminals) (old : s < g.size) :
    s ∈ g.nonterminals := by
  rcases (unfolding.lefts s).mp nonterminal with member | ⟨fresh, _⟩
  · exact member
  · exact absurd old (Nat.not_lt.mpr fresh)

theorem shows_of_produces {symbol : Symbol → Prop} {form : Body → Prop} (produces : h.Produces s body)
    (unfolded : ∀ part, h.Unfolds g.size [body] part → ∃ full ∈ part, form full)
    (whole : ∀ full, g.Produces s full → form full → symbol s) : Shows g h symbol form s := by
  constructor
  · intro old
    obtain ⟨fulls, unfolds, same⟩ := unfolding.bodies s (unfolding.old_of_nonterminal produces.nonterminal old)
    obtain ⟨part, inside, here⟩ := unfolds.of_mem produces
    obtain ⟨full, member, holds⟩ := unfolded part here
    exact whole full (same.subset (inside.subset member)) holds
  · intro _ fulls unfolds
    obtain ⟨part, inside, here⟩ := unfolds.of_mem produces
    obtain ⟨full, member, holds⟩ := unfolded part here
    exact ⟨full, inside.subset member, holds⟩

omit unfolding in
theorem bodyVanishes_of_shows (all : ∀ s ∈ body, Shows g h g.Vanishes g.BodyVanishes s)
    (unfolds : h.Unfolds g.size [body] part) : ∃ full ∈ part, g.BodyVanishes full := by
  induction body generalizing part with
  | nil =>
    rw [unfolds.of_nil]
    exact ⟨[], List.mem_cons_self, by simp [BodyVanishes]⟩
  | cons s after ih =>
    obtain ⟨first, later⟩ := List.forall_mem_cons.mp all
    rcases Nat.lt_or_ge s g.size with old | fresh
    · obtain ⟨tails, behind, rfl⟩ := unfolds.cons_old old
      obtain ⟨full, member, vanish⟩ := ih later behind
      exact ⟨s :: full, List.mem_map_of_mem member, List.forall_mem_cons.mpr ⟨first.1 old, vanish⟩⟩
    · obtain ⟨rfl, _, named⟩ := unfolds.cons_new fresh
      exact first.2 fresh part named

theorem shows_vanishes (vanishes : h.Vanishes s) : Shows g h g.Vanishes g.BodyVanishes s := by
  induction vanishes with
  | intro produces _ ih =>
    apply unfolding.shows_of_produces produces
    · exact fun part unfolds => bodyVanishes_of_shows ih unfolds
    · exact fun full whole vanish => .intro whole vanish

theorem bodyVanishes (vanish : h.BodyVanishes body) (unfolds : h.Unfolds g.size [body] part) :
    ∃ full ∈ part, g.BodyVanishes full :=
  bodyVanishes_of_shows (fun s member => unfolding.shows_vanishes (vanish s member)) unfolds

theorem bodyVanishes_old (vanish : h.BodyVanishes body) (old : ∀ s ∈ body, s < g.size) :
    g.BodyVanishes body :=
  fun s member => (unfolding.shows_vanishes (vanish s member)).1 (old s member)

theorem bodyBegins_of_shows (vanish : h.BodyVanishes before)
    (begins : Shows g h (g.Begins letter) (g.BodyBegins letter) s)
    (unfolds : h.Unfolds g.size [before ++ s :: after] part) :
    ∃ full ∈ part, g.BodyBegins letter full := by
  obtain ⟨olds, tails, behind, rfl⟩ := unfolds.of_append
  have front := unfolding.bodyVanishes_old vanish olds
  rcases Nat.lt_or_ge s g.size with old | fresh
  · obtain ⟨rests, ends, rfl⟩ := behind.cons_old old
    obtain ⟨rest, member⟩ := List.exists_mem_of_ne_nil rests ends.ne_nil
    refine ⟨before ++ s :: rest, List.mem_map_of_mem (List.mem_map_of_mem member), ?_⟩
    exact ⟨before, s, rest, rfl, front, begins.1 old⟩
  · obtain ⟨rfl, _, named⟩ := behind.cons_new fresh
    obtain ⟨full, member, here⟩ := begins.2 fresh tails named
    exact ⟨before ++ full, List.mem_map_of_mem member, bodyBegins_append.mpr (.inr ⟨front, here⟩)⟩

theorem shows_begins (begins : h.Begins letter s) (old : letter < g.size) :
    Shows g h (g.Begins letter) (g.BodyBegins letter) s := by
  induction begins with
  | self => exact ⟨fun _ => .self, fun fresh => absurd old (Nat.not_lt.mpr fresh)⟩
  | intro produces vanish _ ih =>
    apply unfolding.shows_of_produces produces
    · exact fun part unfolds => unfolding.bodyBegins_of_shows vanish ih unfolds
    · exact fun full whole begins => Produces.begins whole begins

theorem bodyBegins (begins : h.BodyBegins letter body) (old : letter < g.size)
    (unfolds : h.Unfolds g.size [body] part) : ∃ full ∈ part, g.BodyBegins letter full := by
  obtain ⟨before, s, after, rfl, vanish, begins⟩ := begins
  exact unfolding.bodyBegins_of_shows vanish (unfolding.shows_begins begins old) unfolds

/-! Behind a stem -/

/-- The alternatives that a symbol unfolds to, behind its stem, are among those of the root. -/
theorem unfolds_of_stem (rooted : root ∈ g.nonterminals)
    (stems : h.Stem g.size root stem n) :
    ∃ fulls, h.Unfolds g.size (h.bodiesOf n) fulls ∧
      (fulls.map (stem ++ ·)).Subperm (g.bodiesOf root) ∧ (g.size ≤ n → 1 < fulls.length) := by
  induction stems with
  | root =>
    obtain ⟨fulls, unfolds, same⟩ := unfolding.bodies root rooted
    refine ⟨fulls, unfolds, ?_, fun fresh => absurd (unfolding.below root rooted) (Nat.not_lt.mpr fresh)⟩
    rw [show fulls.map (([] : Body) ++ ·) = fulls by simp]
    exact same.subperm
  | @branch stem n front m _ produces fresh ih =>
    obtain ⟨fulls, unfolds, among, _⟩ := ih
    obtain ⟨part, inside, here⟩ := unfolds.of_mem produces
    obtain ⟨_, tails, behind, rfl⟩ := here.of_append
    obtain ⟨_, several, named⟩ := behind.cons_new fresh
    refine ⟨tails, named, ?_, fun _ => several⟩
    have shifted := (inside.map (stem ++ ·)).subperm.trans among
    rw [List.map_map] at shifted
    simpa only [Function.comp_def, ← List.append_assoc] using shifted

/-- Where an old symbol occurs, it occurs behind the stem as well, with what the rest unfolds to. -/
theorem occurs_old (rooted : root ∈ g.nonterminals)
    (stems : h.Stem g.size root stem n) (produces : h.Produces n (before ++ s :: after))
    (old : s < g.size) :
    (∀ t ∈ before, t < g.size) ∧ ∃ tails, h.Unfolds g.size [after] tails ∧
      ∀ rest ∈ tails, g.Produces root (stem ++ before ++ s :: rest) := by
  obtain ⟨fulls, unfolds, among, _⟩ := unfolding.unfolds_of_stem rooted stems
  obtain ⟨part, inside, here⟩ := unfolds.of_mem produces
  obtain ⟨olds, tails, behind, rfl⟩ := here.of_append
  obtain ⟨rests, ends, rfl⟩ := behind.cons_old old
  refine ⟨olds, rests, ends, fun rest member => ?_⟩
  have listed := inside.subset (List.mem_map_of_mem (List.mem_map_of_mem member))
  have whole := among.subset (List.mem_map_of_mem listed)
  rw [← List.append_assoc] at whole
  exact whole

/-- A new symbol occurs at the end only. -/
theorem occurs_new (rooted : root ∈ g.nonterminals)
    (stems : h.Stem g.size root stem n) (produces : h.Produces n (before ++ s :: after))
    (fresh : g.size ≤ s) : after = [] ∧ ∀ t ∈ before, t < g.size := by
  obtain ⟨fulls, unfolds, _⟩ := unfolding.unfolds_of_stem rooted stems
  obtain ⟨part, _, here⟩ := unfolds.of_mem produces
  obtain ⟨olds, tails, behind, _⟩ := here.of_append
  exact ⟨(behind.cons_new fresh).1, olds⟩

theorem last_new (produces : h.Produces n body) (inside : s ∈ body) (fresh : g.size ≤ s) :
    ∃ front, body = front ++ [s] ∧ ∀ t ∈ front, t < g.size := by
  obtain ⟨root, rooted, stem, stems⟩ := unfolding.stems n produces.nonterminal
  obtain ⟨front, after, rfl⟩ := List.append_of_mem inside
  obtain ⟨rfl, old⟩ := unfolding.occurs_new rooted stems produces fresh
  exact ⟨front, rfl, old⟩

theorem follows (valid : g.WellFormed) (follows : h.Follows letter n) (old : letter < g.size) :
    ∃ root ∈ g.nonterminals, ∃ stem, h.Stem g.size root stem n ∧ g.Follows letter root := by
  induction follows with
  | @start s last starts _ =>
    rw [unfolding.start] at starts
    have member := valid.start s starts
    exact ⟨s, member, [], .root, .start last starts member⟩
  | @rest left before s after produces nonterminal begins =>
    obtain ⟨root, rooted, stem, stems⟩ := unfolding.stems left produces.nonterminal
    rcases Nat.lt_or_ge s g.size with known | fresh
    · obtain ⟨_, tails, unfolds, occurs⟩ := unfolding.occurs_old rooted stems produces known
      obtain ⟨rest, member, begins⟩ := unfolding.bodyBegins begins old unfolds
      have here := unfolding.old_of_nonterminal nonterminal known
      exact ⟨s, here, [], .root, .rest (occurs rest member) here begins⟩
    · obtain ⟨rfl, _⟩ := unfolding.occurs_new rooted stems produces fresh
      obtain ⟨_, _, _, absurdity, _⟩ := begins
      simp at absurdity
  | @left left before s after produces nonterminal vanish _ ih =>
    obtain ⟨root, rooted, stem, stems, follows⟩ := ih
    rcases Nat.lt_or_ge s g.size with known | fresh
    · obtain ⟨_, tails, unfolds, occurs⟩ := unfolding.occurs_old rooted stems produces known
      obtain ⟨rest, member, vanish⟩ := unfolding.bodyVanishes vanish unfolds
      have here := unfolding.old_of_nonterminal nonterminal known
      exact ⟨s, here, [], .root, .left (occurs rest member) here vanish follows⟩
    · obtain ⟨rfl, _⟩ := unfolding.occurs_new rooted stems produces fresh
      exact ⟨root, rooted, stem ++ before, stems.branch produces fresh, follows⟩

end Unfolding
end Predictive.Grammar
