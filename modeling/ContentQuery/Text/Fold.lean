/-
This file folds the case of a text. Every character goes to its small letter on its own,
with one exception: a capital sigma that ends a word becomes the final form. Whether it
ends a word is decided on the text as written, looking past case-ignorable characters: a
cased character must stand before it and none after it.
-/

import ContentQuery.Text.Cased
import ContentQuery.Text.CaseIgnorable
import ContentQuery.Text.Lowercase

namespace ContentQuery.Text

/-- Whether the first character of a text that is not case-ignorable is cased. -/
def startsCased (text : List Char) : Bool :=
  (text.dropWhile isCaseIgnorable).head?.any isCased

/-- The small form of a character that stands between `before`, read backwards, and `after`. -/
def foldCharacter (before : List Char) (character : Char) (after : List Char) : List Char :=
  if character = 'Σ' then
    if startsCased before && !startsCased after then ['ς'] else ['σ']
  else lowercase character

/-- Folds the rest of a text of which `before`, read backwards, comes first. -/
def foldAfter (before : List Char) : List Char → List Char
  | [] => []
  | character :: after =>
    foldCharacter before character after ++ foldAfter (character :: before) after

/-- The text with its case folded. -/
def fold (text : List Char) : List Char :=
  foldAfter [] text

end ContentQuery.Text
