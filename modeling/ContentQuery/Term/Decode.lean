/-
This file reads terms from JSON. A node is an object that has the fields of its kind by name,
in any order and possibly among others, or an array of exactly those fields in order. The
node does not name its kind, so the kinds are tried in turn and the first that fits is taken.
Nothing is asked of an atom beyond its form: it may be invalid.

The decoder goes through a value from the leaves up. It pairs every item and member with the
term that it decodes to, if any, and a kind then only picks the parts that it needs.
-/

import ContentQuery.Json.Basic
import ContentQuery.Term

namespace ContentQuery

/-! ### The parts of a node -/

/-- A component of a JSON value, with the term that it decodes to by itself. -/
structure Part where
  /-- The component. -/
  value : Json
  /-- The term that the component decodes to. -/
  term? : Option Term

/-- The components of a JSON value that may be a node. -/
inductive Parts where
  /-- The members of an object. -/
  | named (members : List (String × Part))
  /-- The items of an array. -/
  | placed (items : List Part)

/-- The components that stand for the fields of the given names: by name in an object, by
place in an array of just as many items. -/
def Parts.select (names : List String) : Parts → Option (List Part)
  | named members => names.mapM fun name => List.lookup name members
  | placed items => if items.length = names.length then some items else none

/-! ### The kinds of node -/

/-- The kind of a node. -/
inductive Kind where
  /-- Two terms joined by a connective. -/
  | join
  /-- The negation of a term. -/
  | negate
  /-- An atom with a single value. -/
  | single
  /-- An atom with a list of values. -/
  | list
deriving DecidableEq

namespace Kind

/-- The kinds of terms, in the order in which they are tried. -/
def all : List Kind := [join, negate, single, list]

/-- The kinds of atoms, in the order in which they are tried. -/
def atoms : List Kind := [single, list]

/-- The names of a kind's fields, in order. -/
def fields : Kind → List String
  | join => ["operator", "term1", "term2"]
  | negate => ["operator", "term"]
  | single => ["operator", "field", "value"]
  | list => ["operator", "field", "value"]

end Kind

/-- The field that a value stands for. -/
def Field.ofJson? (value : Json) : Option Field := value.word?.bind ofName?

/-- The comparison that a value stands for. -/
def Comparison.ofJson? (value : Json) : Option Comparison := value.word?.bind ofSymbol?

/-- The membership operator that a value stands for. -/
def Membership.ofJson? (value : Json) : Option Membership := value.word?.bind ofName?

/-- The operator that a value stands for; comparisons are tried first. -/
def Operator.ofJson? (value : Json) : Option Operator :=
  match Comparison.ofJson? value with
  | some operator => some (.comparison operator)
  | none => (Membership.ofJson? value).map .membership

/-- The connective that a value stands for. -/
def Connective.ofJson? (value : Json) : Option Connective := value.word?.bind ofWord?

/-- Whether a value stands for the word of negation. -/
def isNegationWord (value : Json) : Bool := value.word? == some negationWord

namespace Kind

/-- The node of a kind with the given fields. -/
def assemble : Kind → List Part → Option Term
  | join, [operator, left, right] => do
    let connective ← Connective.ofJson? operator.value
    let left ← left.term?
    let right ← right.term?
    some (.join connective left right)
  | negate, [operator, operand] =>
    if isNegationWord operator.value then operand.term?.map .negate else none
  | single, [operator, field, value] => do
    let comparison ← Comparison.ofJson? operator.value
    let field ← Field.ofJson? field.value
    let value ← value.value.text?
    some (.single field comparison value)
  | list, [operator, field, values] => do
    let membership ← Membership.ofJson? operator.value
    let field ← Field.ofJson? field.value
    let values ← values.value.texts?
    some (.list field membership values)
  | _, _ => none

/-- The node of a kind with the given parts. -/
def ofParts? (kind : Kind) (parts : Parts) : Option Term :=
  (parts.select kind.fields).bind kind.assemble

/-- The node of the first of the kinds that the given parts fit. -/
def firstOfParts? (order : List Kind) (parts : Parts) : Option Term :=
  order.findSome? (·.ofParts? parts)

end Kind

/-! ### Decoding -/

namespace Term

mutual

/-- The term that a value decodes to when the kinds are tried in the given order. -/
def ofJsonIn? (order : List Kind) : Json → Option Term
  | .array items => Kind.firstOfParts? order (.placed (itemParts order items))
  | .object members => Kind.firstOfParts? order (.named (memberParts order members))
  | _ => none

/-- The items of an array with what they decode to. -/
def itemParts (order : List Kind) : List Json → List Part
  | [] => []
  | item :: rest => ⟨item, ofJsonIn? order item⟩ :: itemParts order rest

/-- The members of an object with what they decode to. -/
def memberParts (order : List Kind) : List (String × Json) → List (String × Part)
  | [] => []
  | (name, value) :: rest =>
    (name, ⟨value, ofJsonIn? order value⟩) :: memberParts order rest

end

/-- The term that a value decodes to. -/
def ofJson? (value : Json) : Option Term := ofJsonIn? Kind.all value

/-- The parts of a value, with what each of them decodes to. -/
def parts? : Json → Option Parts
  | .array items => some (.placed (itemParts Kind.all items))
  | .object members => some (.named (memberParts Kind.all members))
  | _ => none

/-- The node of the given kind that a value decodes to. -/
def ofJsonAs? (kind : Kind) (value : Json) : Option Term :=
  (parts? value).bind kind.ofParts?

end Term

/-- The atom that a value decodes to. -/
def Atom.ofJson? (value : Json) : Option Atom :=
  match (Term.parts? value).bind (Kind.firstOfParts? Kind.atoms) with
  | some (.leaf atom) => some atom
  | _ => none

end ContentQuery
