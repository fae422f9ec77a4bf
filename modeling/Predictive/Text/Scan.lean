import Predictive.Text.Blank

/-! Tokens cut off a text one after the other, as a loop over bytes. The words are lined up with the
longest in bytes first, so that the first one that fits is the one to take; the text is then cut
behind as many bytes as that word has. -/

namespace Predictive.Text

def byteLength : List Char → Nat
  | [] => 0
  | c :: rest => c.utf8Size + byteLength rest

/-- What stands before and behind so many bytes, unless that place is inside a character or beyond the end. -/
def cutAt : Nat → List Char → Option (List Char × List Char)
  | 0, text => some ([], text)
  | _ + 1, [] => none
  | bytes + 1, c :: rest =>
    if c.utf8Size ≤ bytes + 1 then
      (cutAt (bytes + 1 - c.utf8Size) rest).map fun (front, back) => (c :: front, back)
    else none

/-- Words of the same length stay in their order. -/
def longestFirst (words : List (List Char)) : List (List Char) :=
  words.mergeSort fun first second => byteLength second ≤ byteLength first

/-- Between two passes of the loop, with the tokens found so far. -/
inductive Scan where
  | reading (rest : List Char) (found : List (List Char))
  | finished (found : List (List Char))
  /-- A cut that cannot be made. -/
  | broken
  deriving DecidableEq, Repr

namespace Scan

/-- The number of bytes that the next token takes. -/
def tokenBytes (lined : List (List Char)) (c : Char) (later : List Char) : Nat :=
  match lined.find? (·.isPrefixOf (c :: later)) with
  | some word => byteLength word
  | none => c.utf8Size

def pass (lined : List (List Char)) : Scan → Scan
  | reading text found =>
    match trimStart text with
    | [] => finished found
    | c :: later =>
      match cutAt (tokenBytes lined c later) (c :: later) with
      | some (token, rest) => reading rest (found ++ [token])
      | none => broken
  | scan => scan

/-- So many passes, one after the other. -/
def run (lined : List (List Char)) : Nat → Scan → Scan
  | 0, scan => scan
  | passes + 1, scan => run lined passes (pass lined scan)

end Scan
end Predictive.Text
