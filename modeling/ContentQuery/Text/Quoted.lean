/-
This file writes texts in double quotes with escapes, as outlines and log records show them.
A character is written as itself unless it would end the quoted text or would not be seen
where it stands: because it has no printed form, is ignored in display, or is drawn on the
character before it.
-/

import ContentQuery.Text.DefaultIgnorable
import ContentQuery.Text.GraphemeExtend
import ContentQuery.Text.Printable

namespace ContentQuery.Text

/-- Whether a character can be seen in the place where it stands. -/
def isVisible (character : Char) : Bool :=
  isPrintable character && !isDefaultIgnorable character && !isDrawnOnPrevious character

/-- The escape of a code point by its hexadecimal digits. -/
def escapeCode (code : Nat) : List Char :=
  '\\' :: 'u' :: '\x7b' :: (Nat.toDigits 16 code ++ ['\x7d'])

/-- A character as it is written inside quotes. -/
def escape (character : Char) : List Char :=
  match character with
  | '"' => ['\\', '"']
  | '\\' => ['\\', '\\']
  | '\t' => ['\\', 't']
  | '\n' => ['\\', 'n']
  | '\r' => ['\\', 'r']
  | '\x00' => ['\\', '0']
  | character =>
    if isVisible character then [character] else escapeCode character.toNat

/-- A text in quotes. -/
def quoted (text : List Char) : List Char :=
  '"' :: (text.flatMap escape ++ ['"'])

/-- Texts in quotes, in brackets and separated by commas. -/
def quotedList (texts : List (List Char)) : List Char :=
  '[' :: ((texts.map quoted).intersperse [',', ' ']).flatten ++ [']']

end ContentQuery.Text
