/-
This file holds why and where a rule of the grammar gives up. What was expected is kept as
the cause itself, and its wording is fixed in one place. Of the failures of several
alternatives the one that got furthest into the query is reported, and the first of them on
a tie.
-/

namespace ContentQuery.Query

/-- What a rule of the grammar looks for. -/
inductive Expectation where
  /-- The name of a field. -/
  | fieldName
  /-- An operator that takes a single value. -/
  | comparisonOperator
  /-- An operator that takes a list of values. -/
  | listOperator
  /-- An operator that suits the field. -/
  | allowedOperator
  /-- A value that suits the field. -/
  | allowedValue
  /-- A value without quotes. -/
  | value
  /-- A value in quotes. -/
  | quotedValue
  /-- The quote that ends a quoted value. -/
  | closingQuote
  /-- An item of a list, without quotes. -/
  | listItem
  /-- The comma between two items of a list. -/
  | comma
  /-- An opening bracket. -/
  | openingBracket
  /-- A closing bracket. -/
  | closingBracket
  /-- The given word, standing by itself. -/
  | word (spelling : String)
  /-- No more brackets around this place. -/
  | shallowerNesting
  /-- The end of the text. -/
  | endOfQuery
deriving DecidableEq

/-- The wording of an expectation. -/
def Expectation.text : Expectation → String
  | fieldName => "field name"
  | comparisonOperator => "comparison operator"
  | listOperator => "list operator"
  | allowedOperator => "operator allowed for this field"
  | allowedValue => "value allowed for this field"
  | value => "value"
  | quotedValue => "quoted value"
  | closingQuote => "closing quote"
  | listItem => "list item"
  | comma => "','"
  | openingBracket => "'('"
  | closingBracket => "')'"
  | word spelling => spelling
  | shallowerNesting => "shallower nesting"
  | endOfQuery => "end of query"

/-- Where a rule of the grammar gave up, and what it looked for there. -/
structure Failure where
  /-- The place of the failure, in bytes from the start of the query. -/
  position : Nat
  /-- What was looked for. -/
  expected : Expectation
deriving DecidableEq

/-- The failure that got further, or the first one on a tie. -/
def Failure.furthest (first second : Failure) : Failure :=
  if first.position < second.position then second else first

theorem Failure.furthest_of_le {first second : Failure}
    (notFurther : second.position ≤ first.position) : first.furthest second = first := by
  simp only [furthest, Nat.not_lt.mpr notFurther, if_false]

theorem Failure.furthest_of_lt {first second : Failure}
    (further : first.position < second.position) : first.furthest second = second := by
  simp only [furthest, further, if_true]

end ContentQuery.Query
