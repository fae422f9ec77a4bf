import Predictive.Command.LogFilter
import Predictive.Command.Options
import Predictive.Factoring
import Predictive.Grammar.Vocabulary
import Predictive.LeftRecursion.Elimination
import Predictive.Listing.Grid
import Predictive.Listing.Lookaheads
import Predictive.Listing.Run
import Predictive.Parser.Run
import Predictive.Sentences
import Predictive.Text.ControlSequence

/-! A run of the program. The grammar is read, transformed as asked, and shown in each
of the wanted outputs. The first failure ends the run; what was printed before it stays. -/

namespace Predictive.Command

inductive ReadFailure where
  | missing
  | notDirectory
  | directory
  | nameTooLong
  | notText
  | other (reason : String)
  deriving DecidableEq, Repr

def ReadFailure.message : ReadFailure → String
  | missing => "No such file or directory (os error 2)"
  | notDirectory => "Not a directory (os error 20)"
  | directory => "Is a directory (os error 21)"
  | nameTooLong => "File name too long (os error 36)"
  | notText => "stream did not contain valid UTF-8"
  | other reason => reason

inductive Failure where
  | unreadable (path : Option String) (cause : ReadFailure)
  | grammar (error : GrammarError)
  | noInput
  deriving DecidableEq, Repr

def Failure.message : Failure → String
  | unreadable path cause =>
    let place := match path with
      | some path => "file " ++ path
      | none => "from stdin"
    "failed to read grammar " ++ place ++ "\n\nCaused by:\n    " ++ cause.message
  | grammar error => error.message
  | noInput => "the parse output needs --input"

/-- What has been written so far, in reverse order. -/
structure Streams where
  printed : List String
  logged : List String
  deriving DecidableEq, Repr

/-- The streams go on through a failure. -/
abbrev Session := ExceptT Failure (StateM Streams)

namespace Session

def print (text : String) : Session Unit :=
  modify fun streams => { streams with printed := (text ++ "\n") :: streams.printed }

/-- A line of the log, with the part of the program that it comes from. Names may hold
control characters, of which the log is cleared. -/
def log (filter : LogFilter) (level : Level) (origin text : String) : Session Unit :=
  if filter.admits level origin text then
    let line := "[" ++ Columns.flushLeft 5 level.name ++ " " ++ origin ++ "] " ++ text ++ "\n"
    let line := String.ofList (Text.shown .ground line.toList)
    modify fun streams => { streams with logged := line :: streams.logged }
  else pure ()

def info (filter : LogFilter) (text : String) : Session Unit :=
  log filter .info "ll1_helper" text

def originOf : Note → String
  | .skippedLine .. => "ll1_helper::grammar::parse"
  | .leftRecursive .. => "ll1_helper::grammar::eliminate_left_recursion"
  | .factored .. => "ll1_helper::grammar::left_factor"
  | .conflictingCells .. => "ll1_helper::grammar::ll1_parsing_table"

def logNotes (filter : LogFilter) (notes : List Note) : Session Unit :=
  notes.forM fun note => log filter note.level (originOf note) note.message

/-- Goes on with the value, or fails after logging what belongs to the error. -/
def accept {α : Type} (filter : LogFilter) : Except GrammarError α → Session α
  | .ok value => pure value
  | .error error => do
    logNotes filter error.notes
    throw (.grammar error)

end Session

open Session

def printOutput (options : Options) (filter : LogFilter) (g : Grammar) (sets : g.OwnLookaheads) :
    Output → Session Unit
  | .rules => print (g.listRules options.format)
  | .lookaheads => print (g.listLookaheads sets.val options.format)
  | .table => do
    let table ← accept filter (g.tableFrom sets)
    print (table.grid.render options.format)
  | .parse => do
    let some input := options.input | throw .noInput
    let table ← accept filter (g.tableFrom sets)
    let tokens := g.tokens input
    info filter ("Input tokens: " ++ " ".intercalate tokens)
    print ((table.run tokens).render options.format)
  | .sentences =>
    (g.sentences options.maxLength).forM fun sentence =>
      print (if sentence.isEmpty then Symbol.emptyName else " ".intercalate sentence)

def session (options : Options) (filter : LogFilter)
    (source : Except ReadFailure String) : Session Unit := do
  let text ← match source with
    | .ok text => pure text
    | .error cause => throw (.unreadable options.grammar cause)
  let reading := Source.read text
  logNotes filter reading.notes
  let mut g ← accept filter (Grammar.ofEntries reading.entries)
  info filter s!"Grammar has {g.productions.length} productions, {g.nonterminals.length} nonterminals, {g.terminals.length} terminals"
  let mut supply := NameSupply.ofGrammar g
  if options.eliminate then
    let outcome := g.eliminateLeftRecursionWith supply
    logNotes filter outcome.notes
    g ← accept filter outcome.result
    supply := outcome.supply
    info filter s!"{g.nonterminals.length} nonterminals after left-recursion elimination"
  if options.factor then
    let outcome := g.factorWith supply
    logNotes filter outcome.notes
    g := outcome.result
    info filter s!"{g.nonterminals.length} nonterminals after left factoring"
  options.outputs.forM (printOutput options filter g g.ownLookaheads)

structure Result where
  code : Nat
  out : String
  err : String
  deriving DecidableEq, Repr

def Streams.written (lines : List String) : String := String.join lines.reverse

/-- A run with a filter that is given as text. Its faults are reported first. -/
def run (options : Options) (filter : String) (source : Except ReadFailure String) : Result :=
  let (filter, faults) := LogFilter.read filter
  let warnings := faults.map fun fault => "warning: " ++ fault.message ++ ", ignoring it\n"
  let (outcome, streams) := (session options filter source).run ⟨[], warnings.reverse⟩
  let out := Streams.written streams.printed
  let err := Streams.written streams.logged
  match outcome with
  | .ok () => ⟨0, out, err⟩
  | .error failure => ⟨1, out, err ++ "Error: " ++ failure.message ++ "\n"⟩

end Predictive.Command
