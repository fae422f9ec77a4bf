import Predictive.Command.Session

/-! The program itself: it reads the grammar, runs, and writes both streams. -/

open Predictive Predictive.Command

def failureOf : IO.Error → ReadFailure
  | .noFileOrDirectory .. => .missing
  | .inappropriateType _ 20 _ => .notDirectory
  | .inappropriateType .. => .directory
  | .invalidArgument _ 36 _ => .nameTooLong
  | error => .other (toString error)

def readGrammar (path : Option String) : IO (Except ReadFailure String) := do
  try
    let bytes ← match path with
      | some path => IO.FS.readBinFile path
      | none => (← IO.getStdin).readBinToEnd
    match String.fromUTF8? bytes with
    | some text => return .ok text
    | none => return .error .notText
  catch error => return .error (failureOf error)

def main (arguments : List String) : IO UInt32 := do
  match request? arguments with
  | none =>
    IO.eprintln usage
    return 2
  | some .help =>
    IO.println usage
    return 0
  | some .version =>
    IO.println programName
    return 0
  | some (.run options) =>
    let filter := (← IO.getEnv "RUST_LOG").getD ""
    let result := run options filter (← readGrammar options.grammar)
    IO.print result.out
    IO.eprint result.err
    return result.code.toUInt32
