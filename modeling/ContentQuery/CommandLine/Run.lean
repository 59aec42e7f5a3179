/-
This file runs the commands of the command line. Running one is a function from the command,
and from what its file holds, to what is printed and the code that the program exits with;
nothing is printed before the file is read.
-/

import ContentQuery.CommandLine.Command
import ContentQuery.Json.Text
import ContentQuery.Query.Record
import ContentQuery.Term.Json
import ContentQuery.Term.Outline
import ContentQuery.Text.Blank

namespace ContentQuery.CommandLine

/-! ### Files of queries -/

/-- Why a file could not be read. -/
inductive ReadFailure where
  /-- There is no such file. -/
  | absent
  /-- The path names a directory. -/
  | directory
  /-- The content is no text in UTF-8. -/
  | notText
  /-- Another reason, in the words of the system. -/
  | other (reason : String)
deriving DecidableEq

/-- The wording of a reason. -/
def ReadFailure.reason : ReadFailure → String
  | absent => "No such file or directory (os error 2)"
  | directory => "Is a directory (os error 21)"
  | notText => "stream did not contain valid UTF-8"
  | other reason => reason

/-- The lines of a text of which `line`, read backwards, comes first on its line. Each line
ends at a line feed, or at a carriage return and a line feed; the last one may lack its end. -/
def linesAfter (line : List Char) : List Char → List (List Char)
  | [] => if line.isEmpty then [] else [line.reverse]
  | '\n' :: rest =>
    match line with
    | '\r' :: before => before.reverse :: linesAfter [] rest
    | line => line.reverse :: linesAfter [] rest
  | character :: rest => linesAfter (character :: line) rest

/-- The queries in a file, one on each line that is not blank. -/
def queriesIn (content : String) : List String :=
  ((linesAfter [] content.toList).filter (!Text.isBlank ·)).map String.ofList

/-! ### Outcomes -/

/-- What a run prints, and the code it exits with. -/
structure Outcome where
  /-- Zero, or one if something was rejected or could not be read. -/
  exitCode : Nat
  /-- What is printed to the standard output. -/
  output : String
  /-- What is printed to the standard error output. -/
  errors : String
deriving DecidableEq

/-- Parses a query and shows its term. -/
def runParse (most : LogLevel) (query : String) (asJson : Bool) : Outcome :=
  let (result, record) := Query.parseRecorded query
  match result with
  | .ok term =>
    ⟨0, if asJson then term.toJson.pretty ++ "\n" else term.outline, record.shown most⟩
  | .error error => ⟨1, "", record.shown most ++ "error: " ++ error.context ++ "\n"⟩

/-- What checking a single query comes to. -/
structure Check where
  /-- Whether the query was accepted. -/
  accepted : Bool
  /-- The line that is printed. -/
  line : String
  /-- The log records of the check. -/
  records : List LogRecord

/-- Checks a query. -/
def check (query : String) : Check :=
  let (result, record) := Query.parseRecorded query
  match result with
  | .ok _ => ⟨true, "ok       " ++ query ++ "\n", [record]⟩
  | .error error =>
    ⟨false, "invalid  " ++ query ++ "\n", [record, ⟨.debug, "cql", error.context⟩]⟩

/-- Checks queries in order. -/
def checkAll (most : LogLevel) (queries : List String) : Outcome :=
  let checks := queries.map check
  let invalid := (checks.filter (!·.accepted)).length
  let log := String.join ((checks.flatMap (·.records)).map (·.shown most))
  let output := String.join (checks.map (·.line))
  if invalid = 0 then ⟨0, output, log⟩
  else
    ⟨1, output, log ++ toString invalid ++ " of " ++ toString queries.length ++
      " queries invalid\n"⟩

/-- Checks the given queries, and then those of a file if one is named. -/
def runCheck (most : LogLevel) (contentOf : String → Except ReadFailure String)
    (queries : List String) : Option String → Outcome
  | none => checkAll most queries
  | some path =>
    match contentOf path with
    | .error failure =>
      ⟨1, "", "error: failed to read " ++ path ++ ": " ++ failure.reason ++ "\n"⟩
    | .ok content =>
      let outcome := checkAll most (queries ++ queriesIn content)
      let record : LogRecord := ⟨.info, "cql", "read queries from " ++ path⟩
      ⟨outcome.exitCode, outcome.output, record.shown most ++ outcome.errors⟩

/-- Runs a command, showing log records up to the given level. -/
def Command.run (most : LogLevel) (contentOf : String → Except ReadFailure String) :
    Command → Outcome
  | .parse query asJson => runParse most query asJson
  | .check queries file => runCheck most contentOf queries file

end ContentQuery.CommandLine
