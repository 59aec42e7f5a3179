/-
This file holds JSON values, the data in which terms are exchanged. Numbers keep the text
they were written with, since nothing here computes with them. The members of an object are
kept in order, and a member is looked up by its first occurrence.
-/

namespace ContentQuery

/-- A JSON value. -/
inductive Json where
  /-- The literal null. -/
  | null
  /-- A truth value. -/
  | bool (value : Bool)
  /-- A number, by the text it is written with. -/
  | number (text : String)
  /-- A string. -/
  | string (value : String)
  /-- An array. -/
  | array (items : List Json)
  /-- An object, by its members in order. -/
  | object (members : List (String × Json))
deriving Inhabited

namespace Json

/-- The text of a string value. -/
def text? : Json → Option String
  | string value => some value
  | _ => none

/-- The texts of an array of strings. -/
def texts? : Json → Option (List String)
  | array items => items.mapM text?
  | _ => none

/-- The word that a value stands for: a string, or an object with a single member whose value
is null, which stands for the name of that member. -/
def word? : Json → Option String
  | string word => some word
  | object [(word, null)] => some word
  | _ => none

/-- The array of the given strings. -/
def ofTexts (texts : List String) : Json :=
  array (texts.map string)

theorem texts?_ofTexts (texts : List String) : (ofTexts texts).texts? = some texts := by
  induction texts with
  | nil => rfl
  | cons text rest inductionHypothesis =>
    simp only [ofTexts, texts?] at inductionHypothesis
    simp [ofTexts, texts?, text?, inductionHypothesis]

end Json

end ContentQuery
