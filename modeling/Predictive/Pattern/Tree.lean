import Predictive.Pattern.Basic
import Predictive.Pattern.Fault

/-! Patterns as they are written. What an element stands for depends on the flags that
are set where it stands. -/

namespace Predictive.Pattern

inductive Flag where
  | ignoreCase
  | multiLine
  | dotAll
  | swapGreed
  | unicode
  | carriage
  | verbose
  deriving DecidableEq, Repr

/-- Flags after a negation are switched off. -/
inductive FlagItem where
  | negation
  | flag (flag : Flag)
  deriving DecidableEq, Repr

/-- A literal that is written with two hexadecimal digits is a byte without Unicode. -/
structure Literal where
  span : Span
  char : Char
  byte : Bool
  deriving DecidableEq, Repr

inductive Anchor where
  | lineStart
  | lineFinish
  | textStart
  | textFinish
  | word (boundary : Boundary)
  deriving DecidableEq, Repr

inductive Shorthand where
  | digit
  | space
  | word
  deriving DecidableEq, Repr

/-- The classes of ASCII characters that have a name. -/
inductive AsciiClass where
  | alnum
  | alpha
  | ascii
  | blank
  | cntrl
  | digit
  | graph
  | lower
  | print
  | punct
  | space
  | upper
  | word
  | xdigit
  deriving DecidableEq, Repr

/-- How a property is asked for. -/
inductive Query where
  | named (name : List Char)
  | valued (differs : Bool) (name value : List Char)
  deriving DecidableEq, Repr

inductive SetOperator where
  | intersection
  | difference
  | symmetricDifference
  deriving DecidableEq, Repr

inductive SetTree where
  | empty (span : Span)
  | literal (literal : Literal)
  | range (span : Span) (first last : Literal)
  | ascii (span : Span) (negated : Bool) (kind : AsciiClass)
  | shorthand (span : Span) (negated : Bool) (kind : Shorthand)
  | property (span : Span) (negated : Bool) (query : Query)
  | union (span : Span) (items : List SetTree)
  | operation (span : Span) (operator : SetOperator) (left right : SetTree)
  | bracket (span : Span) (negated : Bool) (inner : SetTree)
  deriving Repr

inductive Tree where
  | empty (span : Span)
  | flags (span : Span) (items : List FlagItem)
  | literal (literal : Literal)
  | dot (span : Span)
  | anchor (span : Span) (anchor : Anchor)
  | shorthand (span : Span) (negated : Bool) (kind : Shorthand)
  | property (span : Span) (negated : Bool) (query : Query)
  | bracket (span : Span) (negated : Bool) (inner : SetTree)
  | repetition (span : Span) (least : Nat) (most : Option Nat) (inner : Tree)
  | group (span : Span) (items : List FlagItem) (inner : Tree)
  | chain (span : Span) (parts : List Tree)
  | alternatives (span : Span) (branches : List Tree)
  deriving Repr

namespace SetTree

def span : SetTree → Span
  | literal l => l.span
  | empty s | range s .. | ascii s .. | shorthand s .. | property s .. | union s .. => s
  | operation s .. | bracket s .. => s

/-- Whether the tree is deeper than so many levels, with the part that is too deep. -/
def tooDeep? (room : Nat) : SetTree → Option Span
  | union span items => if room = 0 then some span else tooDeepAll? (room - 1) items
  | operation span _ left right =>
    if room = 0 then some span
    else (tooDeep? (room - 1) left).orElse fun _ => tooDeep? (room - 1) right
  | bracket span _ inner => if room = 0 then some span else tooDeep? (room - 1) inner
  | _ => none
where
  tooDeepAll? (room : Nat) : List SetTree → Option Span
    | [] => none
    | item :: later => (tooDeep? room item).orElse fun _ => tooDeepAll? room later

end SetTree

namespace Tree

def span : Tree → Span
  | literal l => l.span
  | empty s | flags s .. | dot s | anchor s .. | shorthand s .. | property s .. => s
  | bracket s .. | repetition s .. | group s .. | chain s .. | alternatives s .. => s

def tooDeep? (room : Nat) : Tree → Option Span
  | bracket span _ inner => if room = 0 then some span else inner.tooDeep? (room - 1)
  | repetition span _ _ inner => if room = 0 then some span else tooDeep? (room - 1) inner
  | group span _ inner => if room = 0 then some span else tooDeep? (room - 1) inner
  | chain span parts => if room = 0 then some span else tooDeepAll? (room - 1) parts
  | alternatives span branches =>
    if room = 0 then some span else tooDeepAll? (room - 1) branches
  | _ => none
where
  tooDeepAll? (room : Nat) : List Tree → Option Span
    | [] => none
    | item :: later => (tooDeep? room item).orElse fun _ => tooDeepAll? room later

end Tree

end Predictive.Pattern
