/-
This file writes JSON values as text, in two layouts with the same tokens. The compact layout
has no white space. The pretty layout puts every item and member on a line of its own, two
spaces further in than the line that opens its array or object; an empty array or object
stays on one line in both.
-/

import ContentQuery.Json.Basic

namespace ContentQuery.Json

/-! ### Strings -/

/-- The escape of a control character by its four hexadecimal digits. -/
def escapeControl (code : Nat) : List Char :=
  let digits := Nat.toDigits 16 code
  '\\' :: 'u' :: (List.replicate (4 - digits.length) '0' ++ digits)

/-- A character as it is written inside a string. -/
def escape (character : Char) : List Char :=
  match character with
  | '"' => ['\\', '"']
  | '\\' => ['\\', '\\']
  | '\x08' => ['\\', 'b']
  | '\t' => ['\\', 't']
  | '\n' => ['\\', 'n']
  | '\x0c' => ['\\', 'f']
  | '\r' => ['\\', 'r']
  | character =>
    if character.toNat < 0x20 then escapeControl character.toNat else [character]

/-- A string in its quotes. -/
def quote (value : String) : String :=
  String.ofList ('"' :: (value.toList.flatMap escape ++ ['"']))

/-! ### The compact layout -/

mutual

/-- The text of a value without white space. -/
def compact : Json → String
  | null => "null"
  | bool true => "true"
  | bool false => "false"
  | number text => text
  | string value => quote value
  | array [] => "[]"
  | array (first :: rest) => "[" ++ first.compact ++ compactItems rest ++ "]"
  | object [] => "\x7b\x7d"
  | object ((name, first) :: rest) =>
    "\x7b" ++ quote name ++ ":" ++ first.compact ++ compactMembers rest ++ "\x7d"

/-- The items after the first, each behind its comma. -/
def compactItems : List Json → String
  | [] => ""
  | item :: rest => "," ++ item.compact ++ compactItems rest

/-- The members after the first, each behind its comma. -/
def compactMembers : List (String × Json) → String
  | [] => ""
  | (name, value) :: rest =>
    "," ++ quote name ++ ":" ++ value.compact ++ compactMembers rest

end

/-! ### The pretty layout -/

/-- The start of a line at the given level. -/
def newLine (level : Nat) : String :=
  String.ofList ('\n' :: List.replicate (2 * level) ' ')

mutual

/-- The text of a value whose first line stands at the given level. -/
def prettyAt (level : Nat) : Json → String
  | null => "null"
  | bool true => "true"
  | bool false => "false"
  | number text => text
  | string value => quote value
  | array [] => "[]"
  | array (first :: rest) =>
    "[" ++ newLine (level + 1) ++ first.prettyAt (level + 1) ++ prettyItems (level + 1) rest ++
      newLine level ++ "]"
  | object [] => "\x7b\x7d"
  | object ((name, first) :: rest) =>
    "\x7b" ++ newLine (level + 1) ++ quote name ++ ": " ++ first.prettyAt (level + 1) ++
      prettyMembers (level + 1) rest ++ newLine level ++ "\x7d"

/-- The items after the first, each behind its comma on a line at the given level. -/
def prettyItems (level : Nat) : List Json → String
  | [] => ""
  | item :: rest => "," ++ newLine level ++ item.prettyAt level ++ prettyItems level rest

/-- The members after the first, each behind its comma on a line at the given level. -/
def prettyMembers (level : Nat) : List (String × Json) → String
  | [] => ""
  | (name, value) :: rest =>
    "," ++ newLine level ++ quote name ++ ": " ++ value.prettyAt level ++
      prettyMembers level rest

end

/-- The text of a value with one item or member to a line. -/
def pretty (value : Json) : String := value.prettyAt 0

end ContentQuery.Json
