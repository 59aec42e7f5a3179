/-
This file holds the operators of the query language. An atom compares a field with one value
or asks whether it belongs to a list of values, and connectives join two terms. Each operator
has a spelling for reading and rendering; the second word of a negated membership makes its
name in JSON differ from its spelling.
-/

namespace ContentQuery

/-- An operator that compares a field with a single value. -/
inductive Comparison where
  /-- The field is the value. -/
  | equals
  /-- The field is not the value. -/
  | notEquals
  /-- The field contains the value. -/
  | contains
  /-- The field does not contain the value. -/
  | notContains
deriving DecidableEq

namespace Comparison

/-- Every comparison, in the order in which symbols are tried. -/
def all : List Comparison := [equals, notEquals, contains, notContains]

/-- The symbol of a comparison. -/
def symbol : Comparison → String
  | equals => "="
  | notEquals => "!="
  | contains => "~"
  | notContains => "!~"

/-- The comparison with the given symbol. -/
def ofSymbol? (symbol : String) : Option Comparison :=
  all.find? (·.symbol == symbol)

theorem ofSymbol?_symbol (comparison : Comparison) :
    ofSymbol? comparison.symbol = some comparison := by
  cases comparison <;> decide

end Comparison

/-- An operator that asks whether a field belongs to a list of values. -/
inductive Membership where
  /-- The field is one of the values. -/
  | isIn
  /-- The field is none of the values. -/
  | notIn
deriving DecidableEq

namespace Membership

/-- Every membership operator. -/
def all : List Membership := [isIn, notIn]

/-- The spelling of a membership operator in a query. -/
def spelling : Membership → String
  | isIn => "in"
  | notIn => "not in"

/-- The name of a membership operator in JSON. -/
def name : Membership → String
  | isIn => "in"
  | notIn => "not_in"

/-- The membership operator of the given name. -/
def ofName? (name : String) : Option Membership :=
  all.find? (·.name == name)

theorem ofName?_name (membership : Membership) :
    ofName? membership.name = some membership := by
  cases membership <;> decide

end Membership

/-- The operator of an atom. -/
inductive Operator where
  /-- The field is compared with one value. -/
  | comparison (operator : Comparison)
  /-- The field is looked for in a list of values. -/
  | membership (operator : Membership)
deriving DecidableEq

/-- The spelling of an operator in a query. -/
def Operator.spelling : Operator → String
  | .comparison operator => operator.symbol
  | .membership operator => operator.spelling

/-- A word that joins two terms. -/
inductive Connective where
  /-- Both terms must match. -/
  | and
  /-- At least one of the terms must match. -/
  | or
deriving DecidableEq

namespace Connective

/-- Every connective. -/
def all : List Connective := [and, or]

/-- The word of a connective, in queries and in JSON. -/
def word : Connective → String
  | and => "and"
  | or => "or"

/-- The connective with the given word. -/
def ofWord? (word : String) : Option Connective :=
  all.find? (·.word == word)

theorem ofWord?_word (connective : Connective) :
    ofWord? connective.word = some connective := by
  cases connective <;> decide

/-- The name of a connective in an outline. -/
def title : Connective → String
  | and => "And"
  | or => "Or"

end Connective

/-- The word that negates the term after it, in queries and in JSON. -/
def negationWord : String := "not"

end ContentQuery
