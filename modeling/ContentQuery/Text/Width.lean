/-
This file measures texts in UTF-8 bytes. Places in a query are given as byte offsets, so they
are compared with the number of characters that precede them.
-/

namespace ContentQuery.Text

/-- The number of bytes that a text takes in UTF-8. -/
def utf8Length : List Char → Nat
  | [] => 0
  | character :: rest => character.utf8Size + utf8Length rest

theorem utf8Length_append (front back : List Char) :
    utf8Length (front ++ back) = utf8Length front + utf8Length back := by
  induction front with
  | nil => simp [utf8Length]
  | cons character rest inductionHypothesis =>
    simp only [List.cons_append, utf8Length, inductionHypothesis, Nat.add_assoc]

/-- The number of characters before a byte offset, unless the offset falls inside a character
or past the end of the text. -/
def charactersBefore? (text : List Char) (offset : Nat) : Option Nat :=
  match offset, text with
  | 0, _ => some 0
  | _ + 1, [] => none
  | offset + 1, character :: rest =>
    if offset + 1 < character.utf8Size then none
    else (charactersBefore? rest (offset + 1 - character.utf8Size)).map (· + 1)

/-- The offset just after a beginning of a text is preceded by that beginning's characters. -/
theorem charactersBefore?_utf8Length (front back : List Char) :
    charactersBefore? (front ++ back) (utf8Length front) = some front.length := by
  induction front with
  | nil => simp [charactersBefore?, utf8Length]
  | cons character rest inductionHypothesis =>
    have positive : 0 < character.utf8Size := character.utf8Size_pos
    obtain ⟨offset, same⟩ : ∃ offset, character.utf8Size + utf8Length rest = offset + 1 :=
      ⟨character.utf8Size + utf8Length rest - 1, by omega⟩
    have fits : ¬ offset + 1 < character.utf8Size := by omega
    have remaining : offset + 1 - character.utf8Size = utf8Length rest := by omega
    simp only [List.cons_append, utf8Length, same, charactersBefore?, fits, if_false,
      remaining, inductionHypothesis, Option.map_some, List.length_cons]

end ContentQuery.Text
