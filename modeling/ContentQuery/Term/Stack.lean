/-
This file builds terms step by step on a stack, in the manner of a desk calculator. A step
that needs more terms than there are leaves the stack as it is.
-/

import ContentQuery.Term

namespace ContentQuery

/-- A step that builds or inspects terms on a stack. -/
inductive StackStep where
  /-- Puts a term on top. -/
  | push (term : Term)
  /-- Negates the top term. -/
  | negate
  /-- Joins the two top terms, the lower one on the left. -/
  | join (connective : Connective)
  /-- Repeats the top term. -/
  | duplicate
  /-- Removes the top term. -/
  | drop
  /-- Exchanges the two top terms. -/
  | swap
  /-- Asks whether the two top terms are equal. -/
  | compare
  /-- Asks for the atom that the top term is, if it is one. -/
  | inspect

/-- What a step has to say beyond its effect on the stack. -/
inductive StackAnswer where
  /-- Nothing. -/
  | nothing
  /-- Whether two terms are equal. -/
  | equal (verdict : Bool)
  /-- The atom that a term is. -/
  | atom (atom : Atom)

/-- The answer of a step and the stack after it, with the top first, unless the stack has too
few terms for the step. -/
def StackStep.run : StackStep → List Term → Option (StackAnswer × List Term)
  | push term, stack => some (.nothing, term :: stack)
  | negate, top :: rest => some (.nothing, .negate top :: rest)
  | join connective, right :: left :: rest => some (.nothing, .join connective left right :: rest)
  | duplicate, top :: rest => some (.nothing, top :: top :: rest)
  | drop, _ :: rest => some (.nothing, rest)
  | swap, first :: second :: rest => some (.nothing, second :: first :: rest)
  | compare, first :: second :: rest => some (.equal (first == second), first :: second :: rest)
  | inspect, .leaf atom :: rest => some (.atom atom, .leaf atom :: rest)
  | inspect, top :: rest => some (.nothing, top :: rest)
  | _, _ => none

end ContentQuery
