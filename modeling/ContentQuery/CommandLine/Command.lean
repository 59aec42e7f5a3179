/-
This file reads the commands of the command line. There are two: one parses a query and shows
its term, the other checks any number of queries, given as arguments or in a file. A command
line that fits neither is a usage error, whatever is wrong with it.
-/

import ContentQuery.CommandLine.Argument

namespace ContentQuery.CommandLine

/-- What the command line asks for. -/
inductive Command where
  /-- Parse a query and show its term as an outline, or as JSON. -/
  | parse (query : String) (asJson : Bool)
  /-- Check queries, and then those of a file if one is named. -/
  | check (queries : List String) (file : Option String)
deriving DecidableEq

/-- The file that a command reads, if any. -/
def Command.file? : Command → Option String
  | parse _ _ => none
  | check _ file => file

/-! ### Parsing one query -/

/-- What the arguments of the command that parses have said so far. -/
structure ParseRequest where
  /-- The query. -/
  query : Option String
  /-- Whether JSON is asked for. -/
  asJson : Bool

namespace ParseRequest

/-- Takes the query, which cannot be given twice. -/
def takeQuery (request : ParseRequest) (query : String) : Option ParseRequest :=
  match request.query with
  | none => some ⟨some query, request.asJson⟩
  | some _ => none

/-- Takes arguments; after the end of the options every argument is a query. -/
def takeArguments (optionsEnded : Bool) (request : ParseRequest) :
    List String → Option ParseRequest
  | [] => some request
  | text :: rest =>
    if optionsEnded then
      (request.takeQuery text).bind (takeArguments true · rest)
    else
      match Argument.ofString text with
      | .endOfOptions => takeArguments true request rest
      | .long "json" none =>
        if request.asJson then none else takeArguments false ⟨request.query, true⟩ rest
      | .plain text => (request.takeQuery text).bind (takeArguments false · rest)
      | _ => none

/-- The command, once all arguments are taken. -/
def command? (request : ParseRequest) : Option Command :=
  request.query.map fun query => .parse query request.asJson

end ParseRequest

/-! ### Checking many queries -/

/-- What the arguments of the command that checks have said so far. -/
structure CheckRequest where
  /-- The queries. -/
  queries : List String
  /-- The file that holds more of them. -/
  file : Option String

namespace CheckRequest

/-- Takes a further query. -/
def takeQuery (request : CheckRequest) (query : String) : CheckRequest :=
  ⟨request.queries ++ [query], request.file⟩

/-- Takes the file, which cannot be given twice and must have a name. -/
def takeFile (request : CheckRequest) (path : String) : Option CheckRequest :=
  match request.file with
  | none => if path.isEmpty then none else some ⟨request.queries, some path⟩
  | some _ => none

/-- The value of an option by its letter, with or without an equals sign before it. -/
def attachedValue (attached : List Char) : String :=
  match attached with
  | '=' :: value => String.ofList value
  | value => String.ofList value

/-- Takes the file from an argument of its own, which must not be an option. -/
def takeSeparateFile (request : CheckRequest) (path : String) : Option CheckRequest :=
  match Argument.ofString path with
  | .plain path => request.takeFile path
  | _ => none

/-- Takes arguments; after the end of the options every argument is a query. The file is
attached to its option or is the argument after it. -/
def takeArguments (optionsEnded : Bool) (request : CheckRequest) :
    List String → Option CheckRequest
  | [] => some request
  | text :: rest =>
    if optionsEnded then takeArguments true (request.takeQuery text) rest
    else
      match Argument.ofString text, rest with
      | .endOfOptions, rest => takeArguments true request rest
      | .long "file" (some path), rest =>
        (request.takeFile path).bind (takeArguments false · rest)
      | .short 'f' (first :: attached), rest =>
        (request.takeFile (attachedValue (first :: attached))).bind (takeArguments false · rest)
      | .long "file" none, path :: rest =>
        (request.takeSeparateFile path).bind (takeArguments false · rest)
      | .short 'f' [], path :: rest =>
        (request.takeSeparateFile path).bind (takeArguments false · rest)
      | .plain text, rest => takeArguments false (request.takeQuery text) rest
      | _, _ => none

/-- The command, once all arguments are taken; there must be a query or a file. -/
def command? (request : CheckRequest) : Option Command :=
  if request.queries.isEmpty && request.file.isNone then none
  else some (.check request.queries request.file)

end CheckRequest

/-! ### The command line -/

/-- The command that a command line asks for. -/
def Command.ofArguments? : List String → Option Command
  | "parse" :: arguments =>
    (ParseRequest.takeArguments false ⟨none, false⟩ arguments).bind ParseRequest.command?
  | "check" :: arguments =>
    (CheckRequest.takeArguments false ⟨[], none⟩ arguments).bind CheckRequest.command?
  | _ => none

end ContentQuery.CommandLine
