import Predictive.Factoring
import Predictive.Registry.Basic

/-! Left factoring on a registry. The alternatives of a nonterminal are sorted into groups by
the symbol they begin with. A group of several gives way to what its members share and a new
nonterminal, which is entered behind the last one, factored in turn and then written back. -/

namespace Predictive.Registry

/-- Alternatives that begin with the same symbol, without it. -/
structure Group where
  key : Symbol
  tails : List (List Symbol)
  deriving DecidableEq, Repr

namespace Group

def bodies (group : Group) : List (List Symbol) := group.tails.map (group.key :: ·)

/-- What the alternatives weigh without the empty word, with one for the group. -/
def weight (group : Group) : Nat := Factoring.weight (group.bodies.map bare) + 1

end Group

/-- Adds an alternative to the group that it belongs to. The empty word is a group of its own,
each time. -/
def sortIn (key : Symbol) (tail : List Symbol) : List Group → List Group
  | [] => [⟨key, [tail]⟩]
  | group :: later =>
    if key ≠ Symbol.empty ∧ group.key = key then ⟨key, group.tails ++ [tail]⟩ :: later
    else group :: sortIn key tail later

def groups (bodies : List (List Symbol)) : List Group :=
  bodies.foldl (fun groups body => sortIn (body.headD Symbol.empty) body.tail groups) []

/-- How many symbols the bodies have in common from the start. -/
def agreement (bodies : List (List Symbol)) : Nat :=
  let shortest := (bodies.map List.length).min?.getD 0
  ((List.range shortest).find? fun i => bodies.any (·[i]? != (bodies.headD [])[i]?)).getD shortest

/-- How many symbols are to be factored out. -/
def Group.shared (group : Group) : Nat :=
  if 1 < group.tails.length then agreement group.bodies else 0

/-- What stands behind the shared symbols. -/
def Group.rests (group : Group) : List (List Symbol) :=
  group.bodies.map fun body => normalize (body.drop group.shared)

def weight : List Group → Nat
  | [] => 0
  | group :: later => group.weight + weight later

private theorem weight_concat (bodies : List Body) (body : Body) :
    Factoring.weight (bodies ++ [body]) = Factoring.weight bodies + body.length + 1 := by
  induction bodies with
  | nil => simp [Factoring.weight]
  | cons first later ih =>
    rw [List.cons_append, Factoring.weight, Factoring.weight, ih]
    omega

private theorem weight_sortIn (key : Symbol) (tail : List Symbol) (groups : List Group) :
    weight (sortIn key tail groups) ≤
      weight groups + (bare (key :: tail)).length + 2 := by
  induction groups with
  | nil => simp [sortIn, weight, Group.weight, Group.bodies, Factoring.weight]
  | cons group later ih =>
    unfold sortIn
    split
    next found =>
      obtain ⟨_, rfl⟩ := found
      simp only [weight, Group.weight, Group.bodies, List.map_append, List.map_cons, List.map_nil,
        weight_concat]
      omega
    next =>
      simp only [weight]
      omega

private theorem weight_foldl (bodies : List (List Symbol)) (before : List Group) :
    weight (bodies.foldl
        (fun groups body => sortIn (body.headD Symbol.empty) body.tail groups) before) ≤
      weight before + Factoring.weight (bodies.map bare) + bodies.length := by
  induction bodies generalizing before with
  | nil => exact Nat.le_add_right _ _
  | cons body later ih =>
    have first := weight_sortIn (body.headD Symbol.empty) body.tail before
    have same : (bare (body.headD Symbol.empty :: body.tail)).length =
        (bare body).length := by
      cases body <;> rfl
    have others := ih (sortIn (body.headD Symbol.empty) body.tail before)
    simp only [List.foldl_cons, List.map_cons, List.length_cons, Factoring.weight]
    omega

/-- Each alternative loses its key, and that makes up for the group it may begin. -/
theorem weight_groups_rests_lt {group : Group} (keyed : group.key ≠ Symbol.empty)
    (sharing : group.shared ≠ 0) : weight (groups group.rests) < group.weight := by
  have sorted := weight_foldl group.rests []
  have shorter : ∀ tail : List Symbol,
      (bare (normalize ((group.key :: tail).drop group.shared))).length + 1 ≤
        (bare (group.key :: tail)).length := by
    intro tail
    obtain ⟨n, many⟩ := Nat.exists_eq_succ_of_ne_zero sharing
    have kept : bare (group.key :: tail) = group.key :: bare tail :=
      List.filter_cons_of_pos (by simpa using keyed)
    rw [bare_normalize, many, kept, List.drop_succ_cons, List.length_cons]
    have dropped : (bare (tail.drop n)).length ≤ (bare tail).length :=
      ((List.drop_sublist n tail).filter (· != Symbol.empty)).length_le
    omega
  have total : Factoring.weight (group.rests.map bare) + group.rests.length ≤
      Factoring.weight (group.bodies.map bare) := by
    simp only [Group.rests, Group.bodies, List.map_map, List.length_map]
    induction group.tails with
    | nil => exact Nat.le_refl 0
    | cons tail later ih =>
      have first := shorter tail
      simp only [List.map_cons, List.length_cons, Factoring.weight, Function.comp_apply] at ih ⊢
      omega
  have empty : weight [] = 0 := rfl
  unfold groups Group.weight
  omega

/-- A registry in the course of factoring. New nonterminals go behind the anchor. -/
structure Draft where
  registry : Registry
  supply : NameSupply
  anchor : Symbol

namespace Draft

def introduce (state : Draft) (left : Symbol) : Draft :=
  let (fresh, supply) := state.supply.fresh (state.registry.nameOf left)
  ⟨state.registry.addNonterminalAfter state.anchor fresh, supply, state.registry.next⟩

def setBodies (state : Draft) (left : Symbol) (bodies : List (List Symbol)) : Draft :=
  { state with registry := state.registry.setBodies left bodies }

end Draft

/-- The new alternatives of `left`, from the groups of the old ones. -/
def factorGroups (left : Symbol) (state : Draft) :
    List Group → List (List Symbol) × Draft
  | [] => ([], state)
  | group :: later =>
    if group.key = Symbol.empty ∨ group.shared = 0 then
      let (bodies, state) := factorGroups left state later
      (group.bodies ++ bodies, state)
    else
      let prime := state.registry.next
      let (rests, state) := factorGroups prime (state.introduce left) (groups group.rests)
      let (bodies, state) := factorGroups left (state.setBodies prime rests) later
      (((group.bodies.headD []).take group.shared ++ [prime]) :: bodies, state)
termination_by groups => weight groups
decreasing_by
  · simp only [weight, Group.weight]
    omega
  · obtain ⟨keyed, sharing⟩ := not_or.mp ‹¬(group.key = Symbol.empty ∨ group.shared = 0)›
    have lighter := weight_groups_rests_lt keyed sharing
    simp only [weight] at lighter ⊢
    omega
  · simp only [weight, Group.weight]
    omega

/-- Factors the alternatives of `left`. -/
def factorBodies (left : Symbol) (bodies : List (List Symbol)) (state : Draft) : Draft :=
  let (result, state) := factorGroups left state (groups bodies)
  state.setBodies left result

/-- Factors one nonterminal of `r`, whose alternatives nothing has touched so far. -/
def factorNext (r : Registry) (state : Registry × NameSupply) (left : Symbol) :
    Registry × NameSupply :=
  let done := factorBodies left (r.bodiesOf left) ⟨state.1, state.2, left⟩
  (done.registry, done.supply)

def factorWith (r : Registry) (supply : NameSupply) : Registry × NameSupply :=
  r.order.foldl r.factorNext (r, supply.reserveAll (r.names.map Prod.fst))

def factor (r : Registry) : Registry := (r.factorWith r.ownSupply).1

end Predictive.Registry
