/-
This file holds places in a query while it is read. A place carries the text that is still
to be read, so nothing is ever cut out of the query by position: the only way forward is to
read some text off the front of what is left. The offset counts the bytes of what has been
read, and the depth counts the groups that are open.
-/

import ContentQuery.Query.Failure
import ContentQuery.Text.Width

namespace ContentQuery.Query

open Text

/-- A place in a query. -/
structure Cursor where
  /-- The number of bytes before the place. -/
  offset : Nat
  /-- The text from the place on. -/
  rest : List Char
  /-- The number of groups that are open at the place. -/
  depth : Nat

namespace Cursor

/-- The start of a text, with no group open. -/
def start (text : List Char) : Cursor := ⟨0, text, 0⟩

/-- The place after a text that stands at this place. -/
def advance (cursor : Cursor) (lexeme : List Char) : Cursor :=
  ⟨cursor.offset + utf8Length lexeme, cursor.rest.drop lexeme.length, cursor.depth⟩

/-- The same place with another number of open groups. -/
def atDepth (cursor : Cursor) (depth : Nat) : Cursor :=
  ⟨cursor.offset, cursor.rest, depth⟩

/-- The failure to find something at this place. -/
def missing (cursor : Cursor) (expected : Expectation) : Failure :=
  ⟨cursor.offset, expected⟩

/-- A cursor is a place in a text when what it has left is the end of the text and its offset
is the width of what comes before. -/
def IsIn (cursor : Cursor) (text : List Char) : Prop :=
  ∃ before, text = before ++ cursor.rest ∧ cursor.offset = utf8Length before

theorem start_isIn (text : List Char) : (start text).IsIn text :=
  ⟨[], rfl, rfl⟩

theorem atDepth_isIn {cursor : Cursor} {text : List Char} (depth : Nat)
    (place : cursor.IsIn text) : (cursor.atDepth depth).IsIn text :=
  place

end Cursor

end ContentQuery.Query
