/-
This file parses queries and keeps a log record of it. Every query leaves one record, which
shows it with its case folded: an accepted query at the finest level, and a rejected one a
level above, with the place of the failure and what was expected there.
-/

import ContentQuery.Log
import ContentQuery.Query.Parse
import ContentQuery.Text.Quoted

namespace ContentQuery.Query

/-- The record of reading a folded query. -/
def record (folded : List Char) (outcome : Except Failure Term) : LogRecord :=
  let shown := String.ofList (Text.quoted folded)
  let source := "cql_query::parser"
  match outcome with
  | .ok _ => ⟨.trace, source, "parsed query " ++ shown⟩
  | .error failure =>
    ⟨.debug, source, "rejected query " ++ shown ++ " at offset " ++ toString failure.position ++
      ": expected " ++ failure.expected.text⟩

/-- The term that a query denotes, or why it denotes none, and the record of reading it. -/
def parseRecorded (query : String) : Except QueryError Term × LogRecord :=
  let folded := Text.fold query.toList
  let outcome := readTerm folded
  (resultOf folded outcome, record folded outcome)

theorem parseRecorded_fst (query : String) : (parseRecorded query).1 = parse query := by
  rw [parseRecorded, parse]

end ContentQuery.Query
