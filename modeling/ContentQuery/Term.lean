/-
This file holds the terms that queries denote. A term is a tree of connectives and negations
over atoms. The tree is generic in what stands at its leaves, because a query can also be
read with more at each leaf than its atom, such as the place where the atom stood.
-/

import ContentQuery.Field
import ContentQuery.Operator

namespace ContentQuery

/-- A condition on one field. Nothing here says that the operator and the values suit the
field; `Atom.isValid` does. -/
inductive Atom where
  /-- The field is compared with one value. -/
  | single (field : Field) (comparison : Comparison) (value : String)
  /-- The field is looked for in a list of values, kept in order and with repetitions. -/
  | list (field : Field) (membership : Membership) (values : List String)
deriving DecidableEq

namespace Atom

/-- The field that an atom filters on. -/
def field : Atom → Field
  | single field _ _ => field
  | list field _ _ => field

/-- The operator of an atom. -/
def operator : Atom → Operator
  | single _ comparison _ => .comparison comparison
  | list _ membership _ => .membership membership

/-- The values of an atom. -/
def values : Atom → List String
  | single _ _ value => [value]
  | list _ _ values => values

end Atom

/-- A tree of connectives and negations. -/
inductive Tree (Leaf : Type) where
  /-- Two trees joined by a connective. -/
  | join (connective : Connective) (left right : Tree Leaf)
  /-- The negation of a tree. -/
  | negate (operand : Tree Leaf)
  /-- A single condition. -/
  | leaf (content : Leaf)
deriving DecidableEq

namespace Tree

/-- Both trees must match. -/
def and {Leaf : Type} (left right : Tree Leaf) : Tree Leaf := .join .and left right

/-- At least one of the trees must match. -/
def or {Leaf : Type} (left right : Tree Leaf) : Tree Leaf := .join .or left right

/-- The tree with every leaf replaced. -/
def map {Leaf Other : Type} (replace : Leaf → Other) : Tree Leaf → Tree Other
  | .join connective left right => .join connective (left.map replace) (right.map replace)
  | .negate operand => .negate (operand.map replace)
  | .leaf content => .leaf (replace content)

/-- The leaves of a tree, from left to right. -/
def leaves {Leaf : Type} : Tree Leaf → List Leaf
  | .join _ left right => left.leaves ++ right.leaves
  | .negate operand => operand.leaves
  | .leaf content => [content]

end Tree

/-- What a query denotes. -/
abbrev Term : Type := Tree Atom

/-- The term that compares a field with one value. -/
def Term.single (field : Field) (comparison : Comparison) (value : String) : Term :=
  .leaf (.single field comparison value)

/-- The term that looks for a field in a list of values. -/
def Term.list (field : Field) (membership : Membership) (values : List String) : Term :=
  .leaf (.list field membership values)

end ContentQuery
