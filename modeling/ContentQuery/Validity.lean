/-
This file holds the rules on which operators and which values suit a field. Equality is
defined on every field, containment on titles alone, and membership on fields that a list of
values makes sense for. The shape of a field's values is the same for every operator, and a
list suits a field only if each of its values does.
-/

import ContentQuery.Term

namespace ContentQuery

/-! ### Shapes of values -/

/-- The shape that a field asks of its values. -/
inductive ValueShape where
  /-- Any text. -/
  | any
  /-- Decimal digits only, possibly none. -/
  | digits
  /-- At least one character, all of them small letters or digits. -/
  | alphanumeric
  /-- Any text free of `reservedInLabels`. -/
  | label
  /-- One of the given texts. -/
  | oneOf (choices : List String)

/-- The characters that have a meaning in text searches, and so cannot stand in a label. -/
def reservedInLabels : List Char := "!#&()*,.:;<>@[]^".toList

/-- The kinds of content. -/
def contentTypes : List String := ["page", "attachment", "comment", "blogpost"]

/-- Whether a value has the given shape. -/
def ValueShape.admits (shape : ValueShape) (value : String) : Bool :=
  match shape with
  | any => true
  | digits => value.toList.all Char.isDigit
  | alphanumeric =>
    !value.toList.isEmpty &&
      value.toList.all fun character => character.isLower || character.isDigit
  | label => value.toList.all fun character => !reservedInLabels.contains character
  | oneOf choices => choices.contains value

/-! ### Rules of the fields -/

namespace Field

/-- The shape of a field's values. -/
def valueShape : Field → ValueShape
  | ancestor => .digits
  | creator => .alphanumeric
  | label => .label
  | parent => .digits
  | space => .alphanumeric
  | title => .any
  | type => .oneOf contentTypes

/-- Whether a field can be asked to contain a text. -/
def allowsContainment : Field → Bool
  | title => true
  | _ => false

/-- Whether a field can be looked for in a list of values. -/
def allowsMembership : Field → Bool
  | parent => false
  | title => false
  | _ => true

/-- Whether an operator suits a field. -/
def allows (field : Field) : Operator → Bool
  | .comparison .equals => true
  | .comparison .notEquals => true
  | .comparison .contains => field.allowsContainment
  | .comparison .notContains => field.allowsContainment
  | .membership _ => field.allowsMembership

/-- Whether a value suits a field. -/
def admits (field : Field) (value : String) : Bool :=
  field.valueShape.admits value

end Field

/-- Whether the operator of an atom and all of its values suit its field. -/
def Atom.isValid (atom : Atom) : Bool :=
  atom.field.allows atom.operator && atom.values.all atom.field.admits

end ContentQuery
