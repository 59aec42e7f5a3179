/-
This file parses queries. The case of a query is folded before anything is read, so names,
words and values are all the same in capitals and small letters. A query is read as one term
from its start to its end, with spaces allowed on both sides.
-/

import ContentQuery.Query.Atom
import ContentQuery.Query.Error
import ContentQuery.Query.Expression
import ContentQuery.Text.Fold

namespace ContentQuery

namespace Query

open Rule

/-- The number of groups that may be open at a time. -/
def depthLimit : Nat := 64

/-- Reads a whole text as spaces and a term. -/
def whole {Leaf : Type} (limit : Option Nat) (leaf : Rule Leaf) : Rule (Tree Leaf) := do
  spaces
  let tree ← term limit leaf
  endOfText
  pure tree

/-- The tree that a folded text denotes, with the given limit on open groups and the given
rule for leaves. -/
def read {Leaf : Type} (limit : Option Nat) (leaf : Rule Leaf) (text : List Char) :
    Except Failure (Tree Leaf) :=
  match whole limit leaf (.start text) with
  | .ok (tree, _) => .ok tree
  | .error failure => .error failure

/-- The term that a folded text denotes. -/
def readTerm (text : List Char) : Except Failure Term := read (some depthLimit) atom text

/-- The outcome of reading a folded text, with a failure turned into the error that shows it. -/
def resultOf (folded : List Char) (outcome : Except Failure Term) : Except QueryError Term :=
  outcome.mapError fun failure => .ofFailure failure (String.ofList folded)

end Query

/-- The term that a query denotes, or why it denotes none. -/
def parse (query : String) : Except QueryError Term :=
  let folded := Text.fold query.toList
  Query.resultOf folded (Query.readTerm folded)

end ContentQuery
