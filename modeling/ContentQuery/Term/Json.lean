/-
This file writes terms as JSON. Every node is an object that begins with its operator. A node
does not say what kind of node it is: the operators of the kinds are different words, and
that is how a reader tells them apart.
-/

import ContentQuery.Json.Basic
import ContentQuery.Term

namespace ContentQuery

/-- The JSON form of an atom. -/
def Atom.toJson : Atom → Json
  | single field comparison value =>
    .object [("operator", .string comparison.symbol), ("field", .string field.name),
      ("value", .string value)]
  | list field membership values =>
    .object [("operator", .string membership.name), ("field", .string field.name),
      ("value", .ofTexts values)]

/-- The JSON form of a term. -/
def Term.toJson : Term → Json
  | .join connective left right =>
    .object [("operator", .string connective.word), ("term1", Term.toJson left),
      ("term2", Term.toJson right)]
  | .negate operand =>
    .object [("operator", .string negationWord), ("term", Term.toJson operand)]
  | .leaf atom => atom.toJson

end ContentQuery
