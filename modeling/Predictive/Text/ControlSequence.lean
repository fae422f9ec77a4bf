/-! Control sequences of terminals. A text that goes to a terminal may hold sequences that
begin with an escape character. They are no part of what is shown, and neither are control
characters other than blanks. -/

namespace Predictive.Text

/-- What has been seen of a sequence. A device string has parameters and then a body; a
body, like that of the other strings, is open to the end mark. -/
inductive ControlState where
  | ground
  | escape
  | escapeIntermediate
  | command
  | device
  | deviceParameter
  | deviceIntermediate
  | body
  | systemCommand
  deriving DecidableEq, Repr

namespace ControlState

/-- The state after a byte. Cancelling and a new escape are possible everywhere. -/
def next (state : ControlState) (byte : Nat) : ControlState :=
  if byte == 0x18 || byte == 0x1A then ground
  else if byte == 0x1B then escape
  else
    let within := fun first last => first ≤ byte && byte ≤ last
    match state with
    | ground => ground
    | escape =>
      if byte == 0x5B then command
      else if byte == 0x5D then systemCommand
      else if byte == 0x50 then device
      else if byte == 0x58 || byte == 0x5E || byte == 0x5F then body
      else if within 0x20 0x2F then escapeIntermediate
      else if within 0x30 0x7E then ground
      else escape
    | escapeIntermediate => if within 0x30 0x7E then ground else escapeIntermediate
    | command => if within 0x40 0x7E then ground else command
    | device =>
      if within 0x20 0x2F then deviceIntermediate
      else if byte == 0x3A || within 0x40 0x7E then body
      else if within 0x30 0x3F then deviceParameter
      else device
    | deviceParameter =>
      if within 0x20 0x2F then deviceIntermediate
      else if byte == 0x3A || within 0x3C 0x3F || within 0x40 0x7E then body
      else deviceParameter
    | deviceIntermediate => if within 0x30 0x7E then body else deviceIntermediate
    | body => if byte == 0x9C then ground else body
    | systemCommand => if byte == 0x07 then ground else systemCommand

/-- Blanks are shown even inside a sequence, which they end, but not in strings. -/
def showsBlanks : ControlState → Bool
  | ground | escape | escapeIntermediate | command => true
  | _ => false

def isShown (state : ControlState) (c : Char) : Bool :=
  if c == '\t' || c == '\n' || c == '\x0C' || c == '\r' then state.showsBlanks
  else state == ground && 0x20 ≤ c.toNat && c != '\x7F'

end ControlState

/-- The part of a text that a terminal shows. -/
def shown (state : ControlState) : List Char → List Char
  | [] => []
  | c :: rest =>
    if state.isShown c then c :: shown .ground rest
    else shown ((String.utf8EncodeChar c).foldl (fun state byte => state.next byte.toNat) state) rest

end Predictive.Text
