/-
This file holds the rules for terms. From the loosest to the tightest, a term is built by
`or`, by `and`, by `not`, and by brackets around a term; both connectives group to the left,
and `not` applies once. The rules are generic in the rule for leaves, because what stands
between the connectives does not matter to them.

Brackets make the grammar recursive. The recursion is bounded by the number of characters
that are left: a group reads its opening bracket before it reads a term, and a connective is
read before the operand after it.
-/

import ContentQuery.Query.Lexeme
import ContentQuery.Term

namespace ContentQuery.Query

open Rule

variable {Leaf : Type}

/-! ### Connectives -/

/-- Reads a word that joins or negates terms, and the spaces after it. -/
def connective (word : String) : Rule Unit := token (keyword word (.word word))

/-- Reads further operands of a connective, each behind its word, and joins them to the left
operand one by one. Once the word is read, its operand must follow. A bound on the number of
operands makes the recursion end. -/
def chainAfter (kind : Connective) (operand : Rule (Tree Leaf)) :
    (bound : Nat) → Tree Leaf → Rule (Tree Leaf)
  | 0, left => pure left
  | bound + 1, left => do
    match ← attempt (connective kind.word) with
    | none => pure left
    | some () =>
      let right ← operand
      chainAfter kind operand bound (.join kind left right)

/-- Reads at most `bound + 1` operands of a connective. -/
def chain (kind : Connective) (bound : Nat) (operand : Rule (Tree Leaf)) :
    Rule (Tree Leaf) := do
  let first ← operand
  chainAfter kind operand bound first

/-! ### Negations and groups -/

/-- Reads an operand that may stand behind one negation. -/
def unaryOf (primary : Rule (Tree Leaf)) : Rule (Tree Leaf) := do
  match ← attempt (connective negationWord) with
  | none => primary
  | some () =>
    let operand ← primary
    pure (.negate operand)

/-- Reads a term in brackets, at most `limit` deep. Too deep a group fails behind its opening
bracket, before anything in it is read. -/
def groupOf (limit : Option Nat) (term : Rule (Tree Leaf)) : Rule (Tree Leaf) := do
  token (literal "(" .openingBracket)
  nested limit do
    let inner ← term
    token (literal ")" .closingBracket)
    pure inner

/-- Reads a leaf or a group. -/
def primaryOf (limit : Option Nat) (leaf : Rule Leaf) (term : Rule (Tree Leaf)) :
    Rule (Tree Leaf) :=
  (Tree.leaf <$> leaf).orElse (groupOf limit term)

/-! ### Terms -/

/-- Reads a term where fewer than `bound` characters are left. Every group takes at least its
bracket off the characters that are left, so the bound is never used up. -/
def termWithin (limit : Option Nat) (leaf : Rule Leaf) : (bound : Nat) → Rule (Tree Leaf)
  | 0 => fun cursor => .error (cursor.missing .fieldName)
  | bound + 1 =>
    let primary := primaryOf limit leaf (termWithin limit leaf bound)
    chain .or bound (chain .and bound (unaryOf primary))

/-- Reads a term. -/
def term (limit : Option Nat) (leaf : Rule Leaf) : Rule (Tree Leaf) := fun cursor =>
  termWithin limit leaf (cursor.rest.length + 1) cursor

end ContentQuery.Query
