import Mathlib.Logic.Relation
import Predictive.Grammar.Basic

/-! What a grammar means, apart from every algorithm. A step expands one nonterminal
of a form by one of its bodies; the sentences are the words of letters that the start
symbol derives. A leftmost derivation always expands the first nonterminal, and is
determined by the productions it uses. -/

namespace Predictive.Grammar
open Relation

variable (g : Grammar)

inductive Step : Body → Body → Prop where
  | expand {s body} (before after) (produces : g.Produces s body) :
      Step (before ++ s :: after) (before ++ body ++ after)

/-- In any number of steps, none included. -/
def Derives : Body → Body → Prop := ReflTransGen g.Step

/-- In at least one step. -/
def DerivesPlus : Body → Body → Prop := TransGen g.Step

/-- No symbol can be expanded. -/
def IsWord (form : Body) : Prop := ∀ s ∈ form, g.isNonterminal s = false

instance (form : Body) : Decidable (g.IsWord form) :=
  inferInstanceAs (Decidable (∀ s ∈ form, g.isNonterminal s = false))

/-- The words that a nonterminal stands for. -/
def Generates (s : Symbol) (word : Body) : Prop := g.IsWord word ∧ g.Derives [s] word

def Sentence (word : Body) : Prop := ∃ start, g.start = some start ∧ g.Generates start word

def Productive (s : Symbol) : Prop := ∃ word, g.Generates s word

/-- Some form that derives from the start symbol contains `s`. -/
def Accessible (s : Symbol) : Prop :=
  ∃ start before after, g.start = some start ∧ g.Derives [start] (before ++ s :: after)

def LeftRecursive (s : Symbol) : Prop := ∃ rest, g.DerivesPlus [s] (s :: rest)

/-- Derives itself alone. -/
def Cyclic (s : Symbol) : Prop := g.DerivesPlus [s] [s]

/-- The end mark, which a grammar may use like a terminal, occurs in no body. -/
def EndMarkFree : Prop :=
  ∀ rule ∈ g.rules, ∀ body ∈ rule.bodies, Symbol.endMark ∉ body

instance : Decidable g.EndMarkFree :=
  inferInstanceAs (Decidable (∀ rule ∈ g.rules, ∀ body ∈ rule.bodies, Symbol.endMark ∉ body))

/-- Expands the first nonterminal by the given production. -/
inductive LeftmostStep : Production → Body → Body → Prop where
  | expand {p} {before : Body} (after) (word : g.IsWord before)
      (listed : p ∈ g.productions) :
      LeftmostStep p (before ++ p.left :: after) (before ++ p.body ++ after)

inductive Leftmost : List Production → Body → Body → Prop where
  | done (form) : Leftmost [] form form
  | step {p later first second last} (head : g.LeftmostStep p first second)
      (tail : Leftmost later second last) : Leftmost (p :: later) first last

end Predictive.Grammar
