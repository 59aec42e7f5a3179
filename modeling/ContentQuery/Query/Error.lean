/-
This file holds the error of a query that was rejected: the query, the place of the failure
and what was expected there. The place is shown by a caret under the query.
-/

import ContentQuery.Query.Failure
import ContentQuery.Text.Width

namespace ContentQuery

open Text

/-- Why a query was rejected. -/
structure QueryError where
  /-- The place of the failure, in bytes from the start of the query. -/
  position : Nat
  /-- What was expected at that place. -/
  expected : String
  /-- The query with its case folded. -/
  query : String

namespace QueryError

/-- The error of a failure in a query. -/
def ofFailure (failure : Query.Failure) (query : String) : QueryError :=
  ⟨failure.position, failure.expected.text, query⟩

/-- What is said of every rejected query. -/
def message : String := "query could not be parsed"

/-- The column of the failure: the number of characters before it. A place past the end of
the query counts as its end, and a place inside a character as its offset. -/
def column (error : QueryError) : Nat :=
  let place := min error.position (utf8Length error.query.toList)
  (charactersBefore? error.query.toList place).getD place

/-- The error in three parts, each beginning a line: the message, the query, and a caret under
the place of the failure. -/
def context (error : QueryError) : String :=
  message ++ ": expected " ++ error.expected ++ "\n  " ++ error.query ++ "\n  " ++
    String.ofList (List.replicate error.column ' ') ++ "^"

end QueryError

end ContentQuery
