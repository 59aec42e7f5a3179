/-
This file is the command line program. It reads the file that the command names, if any, runs
the command and prints the outcome. Log records are shown up to the level that the environment
asks for, and up to warnings if it asks for none.
-/

import ContentQuery.CommandLine.Run

namespace ContentQuery.CommandLine

/-- The environment variable that holds the level up to which log records are shown. -/
def levelVariable : String := "RUST_LOG"

/-- The text of a file, or why there is none. -/
def readText (path : String) : IO (Except ReadFailure String) := do
  try
    let bytes ← IO.FS.readBinFile path
    match String.fromUTF8? bytes with
    | some text => pure (.ok text)
    | none => pure (.error .notText)
  catch failure =>
    match failure with
    | .noFileOrDirectory _ _ _ => pure (.error .absent)
    | .inappropriateType _ _ _ => pure (.error .directory)
    | failure => pure (.error (.other (toString failure)))

/-- How the program is called. -/
def usage : String :=
  "usage: cql parse [--json] <QUERY>\n       cql check [--file <FILE>] [QUERIES]..."

end ContentQuery.CommandLine

open ContentQuery ContentQuery.CommandLine in
/-- Runs the command that the arguments ask for. -/
def main (arguments : List String) : IO UInt32 := do
  match Command.ofArguments? arguments with
  | none =>
    IO.eprintln usage
    pure 2
  | some command =>
    let level := ((← IO.getEnv levelVariable).bind LogLevel.ofName?).getD .warn
    let content ←
      match command.file? with
      | some path => readText path
      | none => pure (.error .absent)
    let outcome := command.run level fun _ => content
    IO.eprint outcome.errors
    IO.print outcome.output
    pure outcome.exitCode.toUInt32
