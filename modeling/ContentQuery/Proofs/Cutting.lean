/-
This file reads queries once more, with places given by byte offsets alone. Whatever is read at
a mark is first cut out of the whole text at the offset of the mark, and what is taken is cut
off by its width in bytes. An offset that lies inside a character or past the end of the text
cannot be cut at. Such a miscut ends the run at once: no choice and no option catches it, unlike
a failure to read something.

The rules are the rules of the grammar, with their parts put together in the same way. What is
between the brackets of a list is a text of its own, with offsets of its own, so a failure in it
is moved by the offset at which the text begins in the query.
-/

import ContentQuery.Query.Parse

namespace ContentQuery

/-- The two parts of a text at a byte offset, unless the offset lies inside a character or past
the end of the text. -/
def Text.cut? (text : List Char) (offset : Nat) : Option (List Char × List Char) :=
  (charactersBefore? text offset).map text.splitAt

namespace Query

open Text

/-- A place in a text, by its offset. -/
structure Mark where
  /-- The whole text. -/
  text : List Char
  /-- The number of bytes before the place. -/
  offset : Nat
  /-- The number of groups that are open at the place. -/
  depth : Nat

/-- The failure to find something at this place. -/
def Mark.missing (mark : Mark) (expected : Expectation) : Failure :=
  ⟨mark.offset, expected⟩

/-- The place that lies the given number of bytes ahead. -/
def Mark.advance (mark : Mark) (length : Nat) : Mark :=
  ⟨mark.text, mark.offset + length, mark.depth⟩

/-- The same place with another number of open groups. -/
def Mark.atDepth (mark : Mark) (depth : Nat) : Mark :=
  ⟨mark.text, mark.offset, depth⟩

/-- The same failure in a text that is preceded by the given number of bytes. -/
def Failure.movedBy (failure : Failure) (shift : Nat) : Failure :=
  ⟨failure.position + shift, failure.expected⟩

/-- Why a run on offsets ends without a value. -/
inductive Stop where
  /-- Something was looked for and not found. -/
  | failed (failure : Failure)
  /-- A text was to be cut where it cannot be cut. -/
  | miscut (text : List Char) (offset : Nat)

/-- A rule of the grammar that cuts texts at offsets. -/
def Cutter (Value : Type) : Type := Mark → Except Stop (Value × Mark)

namespace Cutter

variable {Value : Type}

/-- Rules run one after another, and the first stop ends the run. -/
instance : Monad Cutter where
  pure value := fun mark => .ok (value, mark)
  bind cutter next := fun mark =>
    match cutter mark with
    | .ok (value, after) => next value after
    | .error stop => .error stop

/-! ### Choice -/

/-- Yields the place itself. -/
def here : Cutter Mark := fun mark => .ok (mark, mark)

/-- Fails as given, wherever it stands. -/
def reject (failure : Failure) : Cutter Value := fun _ => .error (.failed failure)

/-- The first rule, or the second one from the same place if the first fails. -/
def orElse (first second : Cutter Value) : Cutter Value := fun mark =>
  match first mark with
  | .error (.failed firstFailure) =>
    match second mark with
    | .error (.failed secondFailure) => .error (.failed (firstFailure.furthest secondFailure))
    | outcome => outcome
  | outcome => outcome

/-- Yields `none` and reads nothing where the rule fails. -/
def attempt (cutter : Cutter Value) : Cutter (Option Value) := fun mark =>
  match cutter mark with
  | .ok (value, after) => .ok (some value, after)
  | .error (.failed _) => .ok (none, mark)
  | .error (.miscut text offset) => .error (.miscut text offset)

/-! ### Cutting -/

/-- The two parts of a text at an offset. -/
def cut (text : List Char) (offset : Nat) : Cutter (List Char × List Char) := fun mark =>
  match cut? text offset with
  | some parts => .ok (parts, mark)
  | none => .error (.miscut text offset)

/-- The text from the place on. -/
def rest : Cutter (List Char) := do
  let mark ← here
  let parts ← cut mark.text mark.offset
  pure parts.2

/-- Goes on by the given number of bytes. -/
def advance (length : Nat) : Cutter Unit := fun mark => .ok ((), mark.advance length)

/-- Takes the given number of bytes off the text from the place on. -/
def take (length : Nat) : Cutter (List Char) := do
  let text ← rest
  let parts ← cut text length
  advance length
  pure parts.1

/-- Reads the given word. -/
def literal (word : String) (expected : Expectation) : Cutter Unit := do
  let mark ← here
  let text ← rest
  if word.toList.isPrefixOf text then
    let _ ← take (utf8Length word.toList)
    pure ()
  else reject (mark.missing expected)

/-- Reads the first spelling of the table that stands at the place. -/
def spelled (table : List (String × Value)) (expected : Expectation) : Cutter Value := do
  let mark ← here
  let text ← rest
  match table.find? fun entry => entry.1.toList.isPrefixOf text with
  | some (spelling, value) =>
    let _ ← take (utf8Length spelling.toList)
    pure value
  | none => reject (mark.missing expected)

/-- Reads characters of a class, up to the first one that is not of the class. -/
def takeWhile (holds : Char → Bool) : Cutter (List Char) := do
  let text ← rest
  take (utf8Length (text.takeWhile holds))

/-- Reads characters of a class, at least one. -/
def takeWhileSome (holds : Char → Bool) (expected : Expectation) : Cutter (List Char) := do
  let mark ← here
  let found ← takeWhile holds
  if found.isEmpty then reject (mark.missing expected) else pure found

/-- Succeeds only where the offset is not before the end of the text. -/
def endOfText : Cutter Unit := fun mark =>
  if utf8Length mark.text ≤ mark.offset then .ok ((), mark)
  else .error (.failed (mark.missing .endOfQuery))

/-- Runs a rule on a whole text that begins at the given offset of the query. -/
def inside (offset : Nat) (content : List Char) (cutter : Cutter Value) : Cutter Value :=
  fun mark =>
    match (do let value ← cutter; endOfText; pure value : Cutter Value)
        ⟨content, 0, mark.depth⟩ with
    | .ok (value, _) => .ok (value, mark)
    | .error (.failed failure) => .error (.failed (failure.movedBy offset))
    | .error (.miscut text place) => .error (.miscut text place)

/-- Runs a rule with one more group open, unless the limit on open groups is reached. -/
def nested (limit : Option Nat) (cutter : Cutter Value) : Cutter Value := fun mark =>
  if limit.any (· ≤ mark.depth) then .error (.failed (mark.missing .shallowerNesting))
  else
    match cutter (mark.atDepth (mark.depth + 1)) with
    | .ok (value, after) => .ok (value, after.atDepth mark.depth)
    | .error stop => .error stop

/-! ### Words and values -/

/-- Reads any number of spaces. -/
def spaces : Cutter Unit := do
  let _ ← takeWhile (· == ' ')
  pure ()

/-- A rule and the spaces after it. -/
def token (cutter : Cutter Value) : Cutter Value := do
  let value ← cutter
  spaces
  pure value

/-- Reads a word that no character of a longer word follows. -/
def keyword (word : String) (expected : Expectation) : Cutter Unit := do
  let mark ← here
  literal word expected
  let behind ← rest
  if behind.head?.any continuesWord then reject (mark.missing expected) else pure ()

/-- Reads a value between two quotes of the given kind. The second quote is searched for, and
what lies before it is cut off by the offset at which it is found. -/
def quotedBy (quote : Char) : Cutter (List Char) := do
  let mark ← here
  literal quote.toString .quotedValue
  let text ← rest
  if quote ∈ text then
    let content ← take (utf8Length (text.takeWhile (· != quote)))
    advance quote.utf8Size
    pure content
  else reject (mark.missing .closingQuote)

/-- Reads a value in double or single quotes. -/
def quotedValue : Cutter (List Char) := (quotedBy '"').orElse (quotedBy '\'')

/-- Reads a value with or without quotes. -/
def value : Cutter (List Char) := quotedValue.orElse (takeWhileSome (!endsBareValue ·) .value)

/-- Reads an item with or without quotes, and the spaces on both sides of it. -/
def item : Cutter (List Char) := do
  spaces
  token (quotedValue.orElse
    (takeWhileSome (fun character => character != ',' && character != ' ') .listItem))

/-- Reads further items, each behind a comma. -/
def moreItems : (bound : Nat) → Cutter (List (List Char))
  | 0 => pure []
  | bound + 1 => do
    match ← attempt (literal "," .comma) with
    | none => pure []
    | some () =>
      let next ← item
      let further ← moreItems bound
      pure (next :: further)

/-- Reads items separated by commas. -/
def items : Cutter (List (List Char)) := do
  let text ← rest
  let first ← item
  let further ← moreItems text.length
  pure (first :: further)

/-- Reads a list of values in brackets. Its content begins one byte behind its start. -/
def valueList : Cutter (List (List Char)) := do
  let mark ← here
  literal "(" .openingBracket
  let content ← takeWhile (· != ')')
  literal ")" .closingBracket
  inside (mark.offset + 1) content items

/-! ### Atoms -/

/-- Reads the two words of a negated membership. -/
def notIn : Cutter Membership := do
  token (literal "not" .listOperator)
  keyword "in" .listOperator
  pure .notIn

/-- Reads an operator. -/
def operator : Cutter Operator :=
  (Operator.comparison <$> spelled comparisonSymbols .comparisonOperator).orElse
    (Operator.membership <$>
      (do keyword "in" .listOperator; pure .isIn : Cutter Membership).orElse notIn)

/-- Reads what an operator takes. -/
def operand (field : Field) : Operator → Cutter Atom
  | .comparison comparison => do
    let text ← token value
    pure (.single field comparison (String.ofList text))
  | .membership membership => do
    let texts ← token valueList
    pure (.list field membership (texts.map String.ofList))

/-- Reads a valid atom; an invalid one fails at its operator or at its value. -/
def atom : Cutter Atom := do
  let field ← token (spelled fieldSpellings .fieldName)
  let operatorMark ← here
  let operator ← token operator
  let valueMark ← here
  let atom ← operand field operator
  if atom.isValid then pure atom
  else if atom.field.allows atom.operator then reject (valueMark.missing .allowedValue)
  else reject (operatorMark.missing .allowedOperator)

/-! ### Terms -/

/-- Reads a word that joins or negates terms, and the spaces after it. -/
def connective (word : String) : Cutter Unit := token (keyword word (.word word))

/-- Reads further operands of a connective. -/
def chainAfter (kind : Connective) (operand : Cutter Term) : (bound : Nat) → Term → Cutter Term
  | 0, left => pure left
  | bound + 1, left => do
    match ← attempt (connective kind.word) with
    | none => pure left
    | some () =>
      let right ← operand
      chainAfter kind operand bound (.join kind left right)

/-- Reads operands of a connective. -/
def chain (kind : Connective) (bound : Nat) (operand : Cutter Term) : Cutter Term := do
  let first ← operand
  chainAfter kind operand bound first

/-- Reads an operand that may stand behind one negation. -/
def unaryOf (primary : Cutter Term) : Cutter Term := do
  match ← attempt (connective negationWord) with
  | none => primary
  | some () =>
    let operand ← primary
    pure (.negate operand)

/-- Reads a term in brackets. -/
def groupOf (limit : Option Nat) (term : Cutter Term) : Cutter Term := do
  token (literal "(" .openingBracket)
  nested limit do
    let inner ← term
    token (literal ")" .closingBracket)
    pure inner

/-- Reads an atom or a group. -/
def primaryOf (limit : Option Nat) (term : Cutter Term) : Cutter Term :=
  (Tree.leaf <$> atom).orElse (groupOf limit term)

/-- Reads a term where fewer than `bound` characters are left. -/
def termWithin (limit : Option Nat) : (bound : Nat) → Cutter Term
  | 0 => fun mark => .error (.failed (mark.missing .fieldName))
  | bound + 1 =>
    let primary := primaryOf limit (termWithin limit bound)
    chain .or bound (chain .and bound (unaryOf primary))

/-- Reads a whole text as spaces and a term. -/
def whole (limit : Option Nat) : Cutter Term := do
  spaces
  let text ← rest
  let term ← termWithin limit (text.length + 1)
  endOfText
  pure term

/-- The term that a folded text denotes, read by offsets. -/
def readTerm (text : List Char) : Except Stop Term :=
  (whole (some depthLimit) ⟨text, 0, 0⟩).map Prod.fst

end Cutter

end Query

end ContentQuery
