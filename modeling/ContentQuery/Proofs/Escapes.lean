/-
This file proves that a text in quotes can be read back, whatever characters it holds and
whatever stands behind it. Outlines and JSON escape different characters, but in the same ways: a
character stands for itself, or there is a letter for it behind a backslash, or its code in
hexadecimal digits behind a backslash and a `u`. What a character is written as is never the
beginning of what another one is written as, and never begins with a quote, so the quote behind
the text is found and the characters before it are told apart.
-/

import ContentQuery.Json.Text
import ContentQuery.Text.Quoted
import Mathlib.Data.List.Basic

namespace ContentQuery

namespace Text

/-! ### Hexadecimal digits -/

/-- The hexadecimal digits, in small letters. -/
def hexDigits : List Char := "0123456789abcdef".toList

/-- The value of a hexadecimal digit. -/
def hexDigitValue (digit : Char) : Nat :=
  if digit.isDigit then digit.toNat - '0'.toNat else digit.toNat - 'a'.toNat + 10

/-- The number that is written with the digits. -/
def hexValue (digits : List Char) : Nat :=
  digits.foldl (fun value digit => 16 * value + hexDigitValue digit) 0

theorem digitChar_mem_hexDigits {value : Nat} (small : value < 16) :
    value.digitChar ∈ hexDigits := by
  have each : ∀ value < 16, Nat.digitChar value ∈ hexDigits := by decide
  exact each value small

theorem hexDigitValue_digitChar {value : Nat} (small : value < 16) :
    hexDigitValue value.digitChar = value := by
  have each : ∀ value < 16, hexDigitValue (Nat.digitChar value) = value := by decide
  exact each value small

theorem mem_hexDigits {number : Nat} {digit : Char} (member : digit ∈ Nat.toDigits 16 number) :
    digit ∈ hexDigits := by
  induction number using Nat.strongRecOn with
  | ind number inductionHypothesis =>
    by_cases small : number < 16
    · rw [Nat.toDigits_of_lt_base small, List.mem_singleton] at member
      exact member ▸ digitChar_mem_hexDigits small
    · rw [Nat.toDigits_of_base_le (by decide) (Nat.le_of_not_lt small), List.mem_append,
        List.mem_singleton] at member
      rcases member with earlier | last
      · exact inductionHypothesis (number / 16) (by omega) earlier
      · exact last ▸ digitChar_mem_hexDigits (Nat.mod_lt _ (by decide))

/-- The digits of a number have its value. -/
theorem hexValue_toDigits (number : Nat) : hexValue (Nat.toDigits 16 number) = number := by
  induction number using Nat.strongRecOn with
  | ind number inductionHypothesis =>
    by_cases small : number < 16
    · rw [Nat.toDigits_of_lt_base small, hexValue, List.foldl_cons, List.foldl_nil,
        hexDigitValue_digitChar small, Nat.mul_zero, Nat.zero_add]
    · have earlier := inductionHypothesis (number / 16) (by omega)
      have last := hexDigitValue_digitChar (Nat.mod_lt number (by decide : 0 < 16))
      rw [Nat.toDigits_of_base_le (by decide) (Nat.le_of_not_lt small), hexValue,
        List.foldl_append, ← hexValue, earlier, List.foldl_cons, List.foldl_nil, last]
      exact Nat.div_add_mod number 16

end Text

/-! ### Escapes -/

/-- The characters that are never written as themselves inside quotes. -/
def escapedSigns : List Char := ['"', '\\', '\n']

/-- The ways to write a character inside quotes, given which characters have letters and which
texts are codes of characters. -/
inductive IsEscape (letters : List (Char × Char)) (Codes : Char → List Char → Prop)
    (character : Char) : List Char → Prop where
  /-- The character stands for itself. -/
  | plain (notSign : character ∉ escapedSigns) : IsEscape letters Codes character [character]
  /-- There is a letter for the character. -/
  | letter {letter : Char} (member : (character, letter) ∈ letters) :
    IsEscape letters Codes character ['\\', letter]
  /-- The character is given by its code. -/
  | code {digits : List Char} (codes : Codes character digits) :
    IsEscape letters Codes character ('\\' :: 'u' :: digits)

/-- A way to write all characters inside quotes. -/
structure Escaping where
  /-- What a character is written as. -/
  write : Char → List Char
  /-- The characters with a letter, and their letters. -/
  letters : List (Char × Char)
  /-- The text is the code of the character. -/
  Codes : Char → List Char → Prop
  /-- Every character is written in one of the ways. -/
  isEscape (character : Char) : IsEscape letters Codes character (write character)
  /-- A letter is that of one character only. -/
  letters_inj : ∀ first ∈ letters, ∀ second ∈ letters, first.2 = second.2 → first.1 = second.1
  /-- No letter announces a code or ends a line. -/
  letters_ne : ∀ entry ∈ letters, entry.2 ≠ 'u' ∧ entry.2 ≠ '\n'
  /-- A code is that of one character only, whatever stands behind it. -/
  codes_inj {first second : Char} {digits others tail otherTail : List Char}
    (codes : Codes first digits) (codesOther : Codes second others)
    (same : digits ++ tail = others ++ otherTail) : first = second
  /-- Codes hold nothing that would have to be escaped. -/
  codes_plain {character : Char} {digits : List Char} (codes : Codes character digits) :
    ∀ digit ∈ digits, digit ∉ escapedSigns

theorem ne_backslash {character : Char} (notSign : character ∉ escapedSigns) :
    '\\' ≠ character := by
  rintro rfl
  exact notSign (by decide)

theorem not_mem_escapedSigns {character : Char} (notQuote : character ≠ '"')
    (notBackslash : character ≠ '\\') (notNewline : character ≠ '\n') :
    character ∉ escapedSigns := by
  simp only [escapedSigns, List.mem_cons, List.not_mem_nil, or_false]
  rintro (isQuote | isBackslash | isNewline)
  · exact notQuote isQuote
  · exact notBackslash isBackslash
  · exact notNewline isNewline

namespace Escaping

variable (escaping : Escaping) {first second character : Char}
  {text other tail otherTail : List Char}

/-! ### Reading back -/

/-- What is written for one character is not the beginning of what is written for another. -/
theorem eq_of_write_append
    (same : escaping.write first ++ tail = escaping.write second ++ otherTail) :
    first = second := by
  have isEscape := escaping.isEscape first
  have isEscapeToo := escaping.isEscape second
  generalize escaping.write first = written at same isEscape
  generalize escaping.write second = writtenToo at same isEscapeToo
  have sameHead := congrArg List.head? same
  have sameSecond := congrArg (List.head? ∘ List.tail) same
  cases isEscape with
  | plain notSign =>
    cases isEscapeToo with
    | plain _ => exact Option.some.inj sameHead
    | letter _ => exact absurd (Option.some.inj sameHead).symm (ne_backslash notSign)
    | code _ => exact absurd (Option.some.inj sameHead).symm (ne_backslash notSign)
  | letter member =>
    cases isEscapeToo with
    | plain notSign => exact absurd (Option.some.inj sameHead) (ne_backslash notSign)
    | letter memberToo =>
      exact escaping.letters_inj _ member _ memberToo (Option.some.inj sameSecond)
    | code _ => exact absurd (Option.some.inj sameSecond) (escaping.letters_ne _ member).1
  | code codes =>
    cases isEscapeToo with
    | plain notSign => exact absurd (Option.some.inj sameHead) (ne_backslash notSign)
    | letter member =>
      exact absurd (Option.some.inj sameSecond).symm (escaping.letters_ne _ member).1
    | code codesOther =>
      exact escaping.codes_inj codes codesOther (List.cons.inj (List.cons.inj same).2).2

/-- What is written for a character does not begin with a quote. -/
theorem write_append_ne : escaping.write character ++ tail ≠ '"' :: otherTail := by
  intro same
  have isEscape := escaping.isEscape character
  generalize escaping.write character = written at same isEscape
  have sameHead := congrArg List.head? same
  cases isEscape with
  | plain notSign =>
    obtain rfl : character = '"' := Option.some.inj sameHead
    exact notSign (by decide)
  | letter _ => exact absurd (Option.some.inj sameHead) (by decide)
  | code _ => exact absurd (Option.some.inj sameHead) (by decide)

/-- A text in quotes. -/
def quoted (text : List Char) : List Char := '"' :: (text.flatMap escaping.write ++ ['"'])

/-- Up to the quote behind it, a text is read back character by character. -/
theorem eq_of_flatMap_append
    (same : text.flatMap escaping.write ++ '"' :: tail =
      other.flatMap escaping.write ++ '"' :: otherTail) : text = other := by
  induction text generalizing other with
  | nil =>
    cases other with
    | nil => rfl
    | cons character rest =>
      rw [List.flatMap_cons, List.append_assoc] at same
      exact absurd same.symm escaping.write_append_ne
  | cons character rest inductionHypothesis =>
    cases other with
    | nil =>
      rw [List.flatMap_cons, List.append_assoc] at same
      exact absurd same escaping.write_append_ne
    | cons otherCharacter otherRest =>
      rw [List.flatMap_cons, List.flatMap_cons, List.append_assoc, List.append_assoc] at same
      obtain rfl := escaping.eq_of_write_append same
      rw [inductionHypothesis (List.append_cancel_left same)]

/-- A text in quotes and what stands behind it can be told from the whole. -/
theorem quoted_append_inj
    (same : escaping.quoted text ++ tail = escaping.quoted other ++ otherTail) :
    text = other ∧ tail = otherTail := by
  have inner := same
  simp only [quoted, List.cons_append, List.append_assoc, List.nil_append, List.cons.injEq,
    true_and] at inner
  obtain rfl := escaping.eq_of_flatMap_append inner
  exact ⟨rfl, List.append_cancel_left same⟩

theorem quoted_inj (same : escaping.quoted text = escaping.quoted other) : text = other :=
  (escaping.quoted_append_inj (congrArg (· ++ []) same)).1

/-! ### Lines -/

theorem newline_not_mem_write : '\n' ∉ escaping.write character := by
  have isEscape := escaping.isEscape character
  generalize escaping.write character = written at isEscape
  cases isEscape with
  | plain notSign =>
    rw [List.mem_singleton]
    rintro rfl
    exact notSign (by decide)
  | letter member =>
    have noNewline := (escaping.letters_ne _ member).2.symm
    simpa using noNewline
  | code codes =>
    have noNewline : '\n' ∉ _ := fun inside => escaping.codes_plain codes _ inside (by decide)
    simpa using noNewline

/-- A text in quotes is written on one line. -/
theorem newline_not_mem_quoted (text : List Char) : '\n' ∉ escaping.quoted text := by
  intro member
  rw [quoted, List.mem_cons, List.mem_append, List.mem_flatMap, List.mem_singleton] at member
  rcases member with isQuote | ⟨character, _, inside⟩ | isQuote
  · cases isQuote
  · exact escaping.newline_not_mem_write inside
  · cases isQuote

end Escaping

/-! ### Outlines -/

namespace Text

/-- What stands before the first of some sign can be told from the whole. -/
theorem eq_of_append_cons {sign : Char} {front otherFront tail otherTail : List Char}
    (free : sign ∉ front) (otherFree : sign ∉ otherFront)
    (same : front ++ sign :: tail = otherFront ++ sign :: otherTail) : front = otherFront := by
  have parts := congrArg (List.splitOn sign) same
  rw [List.splitOn_append_cons_self_of_not_mem free,
    List.splitOn_append_cons_self_of_not_mem otherFree] at parts
  exact (List.cons.inj parts).1

/-- No hexadecimal digit is escaped or ends a code. -/
theorem plain_of_mem_hexDigits {digit : Char} (member : digit ∈ hexDigits) :
    digit ∉ escapedSigns ∧ digit ≠ '\x7d' := by
  have plain : hexDigits.all
      (fun digit => decide (digit ∉ escapedSigns ∧ digit ≠ '\x7d')) = true := by decide
  exact of_decide_eq_true (List.all_eq_true.mp plain digit member)

/-- The escapes of texts in outlines. -/
def escaping : Escaping where
  write := escape
  letters := [('"', '"'), ('\\', '\\'), ('\t', 't'), ('\n', 'n'), ('\r', 'r'), ('\x00', '0')]
  Codes character digits :=
    digits = '\x7b' :: (Nat.toDigits 16 character.toNat ++ ['\x7d'])
  isEscape character := by
    unfold escape
    split
    case h_7 notQuote notBackslash _ notNewline _ _ =>
      split
      · exact .plain (not_mem_escapedSigns notQuote notBackslash notNewline)
      · exact .code rfl
    all_goals exact .letter (by decide)
  letters_inj := by decide
  letters_ne := by decide
  codes_inj := by
    rintro first second _ _ tail otherTail rfl rfl same
    have free : ∀ number : Nat, '\x7d' ∉ Nat.toDigits 16 number := fun number member =>
      (plain_of_mem_hexDigits (mem_hexDigits member)).2 rfl
    simp only [List.cons_append, List.append_assoc, List.nil_append, List.cons.injEq,
      true_and] at same
    have sameValue := congrArg hexValue (eq_of_append_cons (free _) (free _) same)
    rw [hexValue_toDigits, hexValue_toDigits] at sameValue
    exact Char.toNat_inj.mp sameValue
  codes_plain := by
    rintro character _ rfl digit member
    rw [List.mem_cons, List.mem_append, List.mem_singleton] at member
    rcases member with rfl | member | rfl
    · decide
    · exact (plain_of_mem_hexDigits (mem_hexDigits member)).1
    · decide

end Text

/-! ### JSON -/

namespace Json

open Text

/-- The digits that a control character is escaped with. -/
def controlDigits (code : Nat) : List Char :=
  List.replicate (4 - (Nat.toDigits 16 code).length) '0' ++ Nat.toDigits 16 code

theorem length_controlDigits {code : Nat} (control : code < 0x20) :
    (controlDigits code).length = 4 := by
  have atMost : (Nat.toDigits 16 code).length ≤ 4 :=
    (Nat.length_toDigits_le_iff (by decide) (by decide)).mpr (Nat.lt_trans control (by decide))
  rw [controlDigits, List.length_append, List.length_replicate]
  exact Nat.sub_add_cancel atMost

/-- Zeros in front of the digits do not change their value. -/
theorem hexValue_controlDigits (code : Nat) : hexValue (controlDigits code) = code := by
  have withoutZeros : ∀ count,
      hexValue (List.replicate count '0' ++ Nat.toDigits 16 code) = code := by
    intro count
    induction count with
    | zero => exact hexValue_toDigits code
    | succ count inductionHypothesis => exact inductionHypothesis
  exact withoutZeros _

/-- The escapes of strings in JSON. -/
def escaping : Escaping where
  write := escape
  letters := [('"', '"'), ('\\', '\\'), ('\x08', 'b'), ('\t', 't'), ('\n', 'n'), ('\x0c', 'f'),
    ('\r', 'r')]
  Codes character digits := character.toNat < 0x20 ∧ digits = controlDigits character.toNat
  isEscape character := by
    unfold escape
    split
    case h_8 notQuote notBackslash _ _ notNewline _ _ =>
      split
      · rename_i control
        exact .code ⟨control, rfl⟩
      · exact .plain (not_mem_escapedSigns notQuote notBackslash notNewline)
    all_goals exact .letter (by decide)
  letters_inj := by decide
  letters_ne := by decide
  codes_inj := by
    rintro first second _ _ tail otherTail ⟨control, rfl⟩ ⟨controlToo, rfl⟩ same
    have sameLength := (length_controlDigits control).trans (length_controlDigits controlToo).symm
    have sameValue := congrArg hexValue (List.append_inj same sameLength).1
    rw [hexValue_controlDigits, hexValue_controlDigits] at sameValue
    exact Char.toNat_inj.mp sameValue
  codes_plain := by
    rintro character _ ⟨_, rfl⟩ digit member
    rcases List.mem_append.mp member with zero | digit
    · rw [List.eq_of_mem_replicate zero]
      decide
    · exact (plain_of_mem_hexDigits (mem_hexDigits digit)).1

theorem toList_quote (value : String) : (quote value).toList = escaping.quoted value.toList :=
  String.toList_ofList

end Json

end ContentQuery
