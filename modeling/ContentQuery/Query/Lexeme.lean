/-
This file holds the smallest rules of the grammar: spaces, words, values and lists of values.
Only the plain space separates. A quoted value runs to the next quote of the same kind and
has no escapes, so the other quote may stand in it. A list runs to the next closing bracket,
whatever stands before it, and its items are read from the text between the brackets alone.
-/

import ContentQuery.Query.Rule
import ContentQuery.Text.Alphanumeric

namespace ContentQuery.Query

open Rule

/-! ### Spaces and words -/

/-- Reads any number of spaces. -/
def spaces : Rule Unit := do
  let _ ← takeWhile (· == ' ')
  pure ()

/-- A rule and the spaces after it. -/
def token {Value : Type} (rule : Rule Value) : Rule Value := do
  let value ← rule
  spaces
  pure value

/-- Whether a character continues a word. -/
def continuesWord (character : Char) : Bool :=
  Text.isAlphanumeric character || character == '_' || character == '.' || character == '-'

/-- Reads a word that no character of a longer word follows; fails at the start of the word. -/
def keyword (word : String) (expected : Expectation) : Rule Unit := do
  let start ← here
  literal word expected
  let after ← here
  if after.rest.head?.any continuesWord then reject (start.missing expected) else pure ()

/-! ### Values -/

/-- Reads a value between two quotes of the given kind; a quote that is never closed is the
fault of the opening one. -/
def quotedBy (quote : Char) : Rule (List Char) := do
  let start ← here
  literal quote.toString .quotedValue
  let content ← takeWhile (· != quote)
  match ← attempt (literal quote.toString .closingQuote) with
  | some () => pure content
  | none => reject (start.missing .closingQuote)

/-- Reads a value in double or single quotes. -/
def quotedValue : Rule (List Char) := (quotedBy '"').orElse (quotedBy '\'')

/-- Whether a character ends a value without quotes. -/
def endsBareValue (character : Char) : Bool :=
  character == ' ' || character == ')' || character == '"' || character == '\'' ||
    character == ','

/-- Reads a value without quotes. -/
def bareValue : Rule (List Char) := takeWhileSome (!endsBareValue ·) .value

/-- Reads a value with or without quotes. -/
def value : Rule (List Char) := quotedValue.orElse bareValue

/-! ### Lists of values -/

/-- Reads an item without quotes. -/
def bareItem : Rule (List Char) :=
  takeWhileSome (fun character => character != ',' && character != ' ') .listItem

/-- Reads an item with or without quotes, and the spaces on both sides of it. -/
def item : Rule (List Char) := do
  spaces
  token (quotedValue.orElse bareItem)

/-- Reads further items, each behind a comma, until there is no comma; an item must follow
every comma. A bound on the number of items makes the recursion end. -/
def moreItems : (bound : Nat) → Rule (List (List Char))
  | 0 => pure []
  | bound + 1 => do
    match ← attempt (literal "," .comma) with
    | none => pure []
    | some () =>
      let next ← item
      let further ← moreItems bound
      pure (next :: further)

/-- Reads items separated by commas. Every item is behind a comma of its own but the first,
so the number of characters left bounds the number of items. -/
def items : Rule (List (List Char)) := do
  let start ← here
  let first ← item
  let further ← moreItems start.rest.length
  pure (first :: further)

/-- Reads a list of values in brackets. -/
def valueList : Rule (List (List Char)) := do
  literal "(" .openingBracket
  let start ← here
  let content ← takeWhile (· != ')')
  literal ")" .closingBracket
  inside start content items

end ContentQuery.Query
