import Predictive.Note
import Predictive.Pattern.Accepted

/-! Which lines are logged. A filter is written as directives between commas. A level
alone is meant for every origin, `reader=debug` for the origins that begin with `reader`,
and an origin without a level lets everything from it through. Of the directives for an
origin the longest decides. What follows a slash is a pattern that has to occur in a
message. -/

namespace Predictive.Command

inductive Verbosity where
  | off
  | upTo (most : Level)
  deriving DecidableEq, Repr

namespace Verbosity

def admits (level : Level) : Verbosity → Bool
  | off => false
  | upTo most => level.rank ≤ most.rank

/-- Names are in any case. -/
def ofName? (name : List Char) : Option Verbosity :=
  let name := name.map Char.toUpper
  if name = "OFF".toList then some off
  else
    ([Level.error, .warn, .info, .debug, .trace].find? fun level => level.name.toList == name).map
      upTo

end Verbosity

structure Directive where
  /-- How the origins begin. Without it the directive is for all of them. -/
  origin : Option (List Char)
  verbosity : Verbosity
  deriving DecidableEq, Repr

namespace Directive

def covers (directive : Directive) (origin : List Char) : Bool :=
  directive.origin.all fun start => start.isPrefixOf origin

def length (directive : Directive) : Nat :=
  (directive.origin.map List.length).getD 0

/-- Later directives take the place of earlier ones for the same origin. -/
def insert (directive : Directive) : List Directive → List Directive
  | [] => [directive]
  | earlier :: more =>
    if earlier.origin = directive.origin then directive :: more
    else earlier :: insert directive more

/-- The longest directive for an origin, the last of equals. -/
def choose? (origin : List Char) (directives : List Directive) : Option Directive :=
  (directives.filter (covers · origin)).foldl
    (fun best next => if best.all (length · ≤ next.length) then some next else best) none

end Directive

structure LogFilter where
  directives : List Directive
  wanted : Option Pattern
  deriving DecidableEq, Repr

namespace LogFilter

inductive Fault where
  | directive (text : List Char)
  | slashes (text : List Char)
  | pattern (text : List Char) (refusal : Pattern.Refusal)
  deriving DecidableEq, Repr

def Fault.message : Fault → String
  | directive text => "invalid logging spec '" ++ String.ofList text ++ "'"
  | slashes text => "invalid logging spec '" ++ String.ofList text ++ "' (too many '/'s)"
  | pattern text refusal => "invalid regex filter - " ++ refusal.message text

/-- A directive that is not blank. -/
def readDirective (text : List Char) : Except Fault Directive :=
  match text.splitOn '=' with
  | [name] =>
    match Verbosity.ofName? name with
    | some verbosity => .ok ⟨none, verbosity⟩
    | none => .ok ⟨some name, .upTo .trace⟩
  | [name, level] =>
    let level := Text.trim level
    if level.isEmpty then .ok ⟨some name, .upTo .trace⟩
    else
      match Verbosity.ofName? level with
      | some verbosity => .ok ⟨some name, verbosity⟩
      | none => .error (.directive level)
  | _ => .error (.directive text)

/-- The directives of a list of texts, and the faults of those that are none. -/
def readDirectives : List Directive → List (List Char) → List Directive × List Fault
  | directives, [] => (directives, [])
  | directives, text :: later =>
    let text := Text.trim text
    if text.isEmpty then readDirectives directives later
    else
      match readDirective text with
      | .ok directive => readDirectives (directive.insert directives) later
      | .error fault =>
        let (directives, faults) := readDirectives directives later
        (directives, fault :: faults)

/-- Only errors are logged when there is no directive. -/
def ofDirectives (directives : List Directive) (wanted : Option Pattern) : LogFilter :=
  if directives.isEmpty then ⟨[⟨none, .upTo .error⟩], wanted⟩ else ⟨directives, wanted⟩

def readWanted : List (List Char) → Option Pattern × List Fault
  | text :: _ =>
    match Pattern.ofText text with
    | .ok pattern => (some pattern, [])
    | .error refusal => (none, [.pattern text refusal])
  | [] => (none, [])

/-- The filter that a text describes. What is faulty in it counts as absent. -/
def read (text : String) : LogFilter × List Fault :=
  match text.toList.splitOn '/' with
  | [] => (ofDirectives [] none, [])
  | directives :: wanted =>
    if 1 < wanted.length then (ofDirectives [] none, [.slashes text.toList])
    else
      let (directives, faults) := readDirectives [] (directives.splitOn ',')
      let (wanted, more) := readWanted wanted
      (ofDirectives directives wanted, faults ++ more)

def admits (filter : LogFilter) (level : Level) (origin message : String) : Bool :=
  (Directive.choose? origin.toList filter.directives).any (·.verbosity.admits level) &&
    filter.wanted.all fun pattern => pattern.occursIn message.toList

end LogFilter

end Predictive.Command
