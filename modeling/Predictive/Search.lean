import Predictive.Sentences

/-! The search for short sentences, pass by pass. It remembers all forms that it met and lines up
those of them that were not taken up yet. A pass takes up the form that waits longest: a word is
found, and of the successors of any other form the ones that are new get in line. -/

namespace Predictive

structure Search where
  met : List Body
  waiting : List Body
  found : List (List String)
  deriving DecidableEq, Repr

namespace Search

def meet (search : Search) (form : Body) : Search :=
  if search.met.contains form then search
  else { search with met := search.met ++ [form], waiting := search.waiting ++ [form] }

def opened (g : Grammar) : Search :=
  match g.start with
  | none => ⟨[], [], []⟩
  | some start => ⟨[[start]], [[start]], []⟩

def pass (g : Grammar) (limit : Nat) (search : Search) : Search :=
  match search.waiting with
  | [] => search
  | form :: later =>
    let search := { search with waiting := later }
    match g.leftmost? form with
    | none => { search with found := search.found.insert (form.map g.nameOf) }
    | some _ => (g.successors limit form).foldl meet search

end Search
end Predictive
