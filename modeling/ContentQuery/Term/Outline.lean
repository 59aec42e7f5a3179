/-
This file renders terms as outlines: one line for each node, in preorder, indented by two
spaces for each level. Connectives and negations are named; an atom shows its field, its
operator and its values in quotes.
-/

import ContentQuery.Term
import ContentQuery.Text.Quoted

namespace ContentQuery

/-- The values of an atom as its line shows them. -/
def Atom.quotedValues : Atom → List Char
  | single _ _ value => Text.quoted value.toList
  | list _ _ values => Text.quotedList (values.map String.toList)

/-- The line of an atom. -/
def Atom.line (atom : Atom) : List Char :=
  atom.field.name.toList ++ ' ' :: atom.operator.spelling.toList ++ ' ' :: atom.quotedValues

namespace Term

/-- The lines of a term whose root stands at the given level, each with its level. -/
def lines (level : Nat) : Term → List (Nat × List Char)
  | .join connective left right =>
    (level, connective.title.toList) :: (lines (level + 1) left ++ lines (level + 1) right)
  | .negate operand => (level, "Not".toList) :: lines (level + 1) operand
  | .leaf atom => [(level, atom.line)]

/-- A line with its indentation and its end. -/
def indented (line : Nat × List Char) : List Char :=
  List.replicate (2 * line.1) ' ' ++ line.2 ++ ['\n']

/-- The outline of a term. -/
def outline (term : Term) : String :=
  String.ofList ((lines 0 term).flatMap indented)

end Term

end ContentQuery
