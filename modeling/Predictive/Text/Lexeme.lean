import Predictive.Text.Blank
import Predictive.Text.Alphanumeric

/-! Symbols as they are written in the right side of a rule. A run of name
characters is one symbol and every other character stands for itself, so that
`id+(E)` needs no spaces. The two shapes of the letter epsilon never join a name
and are both read as the empty word. -/

namespace Predictive.Text

def isEpsilon (c : Char) : Bool :=
  c == 'ε' || c == 'ϵ'

def isNameChar (c : Char) : Bool :=
  (isAlphanumeric c || c == '_' || c == '\x27') && !isEpsilon c

def lexemes : List Char → List String
  | [] => []
  | c :: rest =>
    if isBlank c then lexemes rest
    else if isEpsilon c then "ε" :: lexemes rest
    else if isNameChar c then
      String.ofList (c :: rest.takeWhile isNameChar) :: lexemes (rest.dropWhile isNameChar)
    else String.ofList [c] :: lexemes rest
termination_by text => text.length
decreasing_by
  all_goals have := (List.dropWhile_sublist (l := rest) isNameChar).length_le
  all_goals simp only [List.length_cons]; omega

end Predictive.Text
