import Predictive.Grammar.Basic

/-! Taking bodies apart at the front. -/

namespace Predictive

/-- The bodies that begin with `s`, without it. -/
def tailsOf (s : Symbol) (bodies : List Body) : List Body :=
  bodies.filterMap fun
    | [] => none
    | t :: rest => if t = s then some rest else none

def notBeginning (s : Symbol) (bodies : List Body) : List Body :=
  bodies.filter (·.head? != some s)

namespace Body

/-- Some symbol of the body satisfies `here`, and all before it vanish. -/
def reaches (vanishes here : Symbol → Bool) : Body → Bool
  | [] => false
  | s :: rest => here s || (vanishes s && reaches vanishes here rest)

/-- Each symbol of the body with the rest behind it. -/
def positions : Body → List (Symbol × Body)
  | [] => []
  | s :: rest => (s, rest) :: positions rest

/-- The symbols on which two bodies agree from the start. -/
def common : Body → Body → Body
  | s :: rest, t :: other => if s = t then s :: common rest other else []
  | _, _ => []

def commonToAll (body : Body) (others : List Body) : Body := others.foldl common body

end Body
end Predictive
