/-
This file holds the rules for atoms: a field, an operator, and a value or a list of values,
whichever the operator takes. An atom that is well formed is not yet accepted. Its operator
must suit its field, and so must its values; what does not suit is rejected where it stands.
-/

import ContentQuery.Query.Lexeme
import ContentQuery.Validity

namespace ContentQuery.Query

open Rule

/-! ### Fields and operators -/

/-- The spellings of all fields, in the order in which they are tried. -/
def fieldSpellings : List (String × Field) :=
  Field.all.flatMap fun field => field.spellings.map fun spelling => (spelling, field)

/-- Reads the name of a field; a name may run into what follows it. -/
def fieldName : Rule Field := spelled fieldSpellings .fieldName

/-- The symbols of all comparisons. -/
def comparisonSymbols : List (String × Comparison) :=
  Comparison.all.map fun comparison => (comparison.symbol, comparison)

/-- Reads a comparison. -/
def comparison : Rule Comparison := spelled comparisonSymbols .comparisonOperator

/-- Reads the two words of a negated membership; they need no space between them. -/
def notIn : Rule Membership := do
  token (literal "not" .listOperator)
  keyword "in" .listOperator
  pure .notIn

/-- Reads a membership operator. -/
def membership : Rule Membership :=
  (do keyword "in" .listOperator; pure .isIn : Rule Membership).orElse notIn

/-- Reads an operator. -/
def operator : Rule Operator :=
  (Operator.comparison <$> comparison).orElse (Operator.membership <$> membership)

/-! ### Atoms -/

/-- An atom with the places of its operator and of its value. -/
structure PlacedAtom where
  /-- The atom. -/
  atom : Atom
  /-- The place of the operator. -/
  operatorPlace : Cursor
  /-- The place of the value or of the list of values. -/
  valuePlace : Cursor

/-- Why an atom is not accepted; of its operator and its values, the operator is blamed
first. -/
def PlacedAtom.fault? (placed : PlacedAtom) : Option Failure :=
  if placed.atom.isValid then none
  else if placed.atom.field.allows placed.atom.operator then
    some (placed.valuePlace.missing .allowedValue)
  else some (placed.operatorPlace.missing .allowedOperator)

/-- Reads what an operator takes, and yields the atom that it makes with the field. -/
def operand (field : Field) : Operator → Rule Atom
  | .comparison comparison => do
    let text ← token value
    pure (.single field comparison (String.ofList text))
  | .membership membership => do
    let texts ← token valueList
    pure (.list field membership (texts.map String.ofList))

/-- Reads a well-formed atom, valid or not. -/
def placedAtom : Rule PlacedAtom := do
  let field ← token fieldName
  let operatorPlace ← here
  let operator ← token operator
  let valuePlace ← here
  let atom ← operand field operator
  pure ⟨atom, operatorPlace, valuePlace⟩

/-- Reads a valid atom. -/
def atom : Rule Atom := do
  let placed ← placedAtom
  match placed.fault? with
  | none => pure placed.atom
  | some failure => reject failure

end ContentQuery.Query
