import Predictive.Text.Blank

/-! Tokens of an input text, given the words of a vocabulary. The longest word
that fits is taken; where none fits a single character is, so that no text is
lost and the parser is the one to complain. -/

namespace Predictive.Text

/-- The length of the longest word that `text` begins with, and at least one. -/
def tokenLength (words : List (List Char)) (text : List Char) : Nat :=
  (words.filter (·.isPrefixOf text)).foldl (fun longest word => max longest word.length) 1

def tokens (words : List (List Char)) (text : List Char) : List (List Char) :=
  match seen : trimStart text with
  | [] => []
  | c :: rest =>
    let more := tokenLength words (c :: rest) - 1
    (c :: rest.take more) :: tokens words (rest.drop more)
termination_by text.length
decreasing_by
  have short := length_trimStart_le text
  simp only [seen, List.length_cons] at short
  simp only [List.length_drop]
  omega

end Predictive.Text
