/-
This file proves that the JSON text of a term, in either layout, identifies the term. The text of
a value without numbers can be told from whatever stands behind it: its first character says what
kind of value it is, a string ends at its quote, and behind an item or a member there is a comma
or the bracket that closes. Numbers are left out because they keep the text they were written
with, and that may be any text.

The pretty layout has the tokens of the compact one, and between them nothing but spaces and line
feeds. They are deleted by a scan that knows whether it is inside a string, which the escapes
make it know.
-/

import ContentQuery.CommandLine.Run
import ContentQuery.Proofs.Decoding
import ContentQuery.Proofs.Escapes

namespace ContentQuery

namespace Json

/-! ### Values without numbers -/

/-- The value holds no number at any depth. -/
inductive IsNumberless : Json → Prop where
  /-- The literal null. -/
  | null : IsNumberless .null
  /-- A truth value. -/
  | bool (value : Bool) : IsNumberless (.bool value)
  /-- A string. -/
  | string (value : String) : IsNumberless (.string value)
  /-- An array of such values. -/
  | array {items : List Json} (numberless : ∀ item ∈ items, IsNumberless item) :
    IsNumberless (.array items)
  /-- An object whose members are such values. -/
  | object {members : List (String × Json)}
    (numberless : ∀ member ∈ members, IsNumberless member.2) : IsNumberless (.object members)

theorem IsNumberless.noMembers : IsNumberless (.object []) := .object nofun

theorem IsNumberless.member {name : String} {value : Json} {rest : List (String × Json)}
    (numberless : IsNumberless value) (others : IsNumberless (.object rest)) :
    IsNumberless (.object ((name, value) :: rest)) := by
  cases others with
  | object others => exact .object (List.forall_mem_cons.mpr ⟨numberless, others⟩)

/-- The character that the text of a value without numbers begins with. -/
def opening : Json → Char
  | .null => 'n'
  | .bool true => 't'
  | .bool false => 'f'
  | .number _ => '0'
  | .string _ => '"'
  | .array _ => '['
  | .object _ => '\x7b'

/-! ### The compact layout -/

theorem toList_compact_string (value : String) :
    (string value).compact.toList = escaping.quoted value.toList := by
  rw [compact, toList_quote]

theorem toList_compact_array_cons (first : Json) (rest : List Json) :
    (array (first :: rest)).compact.toList =
      '[' :: (first.compact.toList ++ ((compactItems rest).toList ++ [']'])) := by
  simp [compact]

theorem toList_compact_object_cons (name : String) (first : Json) (rest : List (String × Json)) :
    (object ((name, first) :: rest)).compact.toList =
      '\x7b' :: (escaping.quoted name.toList ++
        ':' :: (first.compact.toList ++ ((compactMembers rest).toList ++ ['\x7d']))) := by
  simp [compact, toList_quote]

theorem toList_compactItems_cons (item : Json) (rest : List Json) :
    (compactItems (item :: rest)).toList =
      ',' :: (item.compact.toList ++ (compactItems rest).toList) := by
  simp [compactItems]

theorem toList_compactMembers_cons (name : String) (value : Json) (rest : List (String × Json)) :
    (compactMembers ((name, value) :: rest)).toList =
      ',' :: (escaping.quoted name.toList ++
        ':' :: (value.compact.toList ++ (compactMembers rest).toList)) := by
  simp [compactMembers, toList_quote]

theorem exists_compact_eq_cons {value : Json} (numberless : value.IsNumberless) :
    ∃ rest, value.compact.toList = value.opening :: rest := by
  cases numberless with
  | null => exact ⟨_, rfl⟩
  | bool value => cases value <;> exact ⟨_, rfl⟩
  | string value => exact ⟨_, toList_compact_string value⟩
  | array _ =>
    rename_i items _
    cases items with
    | nil => exact ⟨_, rfl⟩
    | cons first rest => exact ⟨_, toList_compact_array_cons first rest⟩
  | object _ =>
    rename_i members _
    cases members with
    | nil => exact ⟨_, rfl⟩
    | cons member rest => exact ⟨_, toList_compact_object_cons member.1 member.2 rest⟩

/-- Before any text, the text of the value is told from that of every other one. -/
def IsReadable (value : Json) : Prop :=
  ∀ ⦃other : Json⦄, other.IsNumberless → ∀ ⦃tail otherTail : List Char⦄,
    value.compact.toList ++ tail = other.compact.toList ++ otherTail →
      value = other ∧ tail = otherTail

theorem opening_eq_of_append {first second : Json} {tail otherTail : List Char}
    (numberless : first.IsNumberless) (numberlessToo : second.IsNumberless)
    (same : first.compact.toList ++ tail = second.compact.toList ++ otherTail) :
    first.opening = second.opening := by
  obtain ⟨rest, firstEq⟩ := exists_compact_eq_cons numberless
  obtain ⟨otherRest, secondEq⟩ := exists_compact_eq_cons numberlessToo
  rw [firstEq, secondEq] at same
  exact (List.cons.inj same).1

theorem eq_of_compactItems_append {items others : List Json}
    (readable : ∀ item ∈ items, item.IsReadable) (numberless : ∀ other ∈ others, other.IsNumberless)
    {tail otherTail : List Char}
    (same : (compactItems items).toList ++ ']' :: tail =
      (compactItems others).toList ++ ']' :: otherTail) : items = others := by
  induction items generalizing others with
  | nil =>
    cases others with
    | nil => rfl
    | cons other others =>
      rw [toList_compactItems_cons] at same
      exact absurd (List.cons.inj same).1 (by decide)
  | cons item items inductionHypothesis =>
    cases others with
    | nil =>
      rw [toList_compactItems_cons] at same
      exact absurd (List.cons.inj same).1 (by decide)
    | cons other others =>
      rw [List.forall_mem_cons] at readable numberless
      simp only [toList_compactItems_cons, List.cons_append, List.append_assoc, List.cons.injEq,
        true_and] at same
      obtain ⟨rfl, further⟩ := readable.1 numberless.1 same
      rw [inductionHypothesis readable.2 numberless.2 further]

theorem eq_of_compactMembers_append {members others : List (String × Json)}
    (readable : ∀ member ∈ members, member.2.IsReadable)
    (numberless : ∀ other ∈ others, other.2.IsNumberless) {tail otherTail : List Char}
    (same : (compactMembers members).toList ++ '\x7d' :: tail =
      (compactMembers others).toList ++ '\x7d' :: otherTail) : members = others := by
  induction members generalizing others with
  | nil =>
    cases others with
    | nil => rfl
    | cons other others =>
      rw [toList_compactMembers_cons] at same
      exact absurd (List.cons.inj same).1 (by decide)
  | cons member members inductionHypothesis =>
    cases others with
    | nil =>
      rw [toList_compactMembers_cons] at same
      exact absurd (List.cons.inj same).1 (by decide)
    | cons other others =>
      obtain ⟨name, value⟩ := member
      obtain ⟨otherName, otherValue⟩ := other
      rw [List.forall_mem_cons] at readable numberless
      simp only [toList_compactMembers_cons, List.cons_append, List.append_assoc, List.cons.injEq,
        true_and] at same
      obtain ⟨sameName, behindName⟩ := escaping.quoted_append_inj same
      obtain ⟨rfl, further⟩ := readable.1 numberless.1 (List.cons.inj behindName).2
      rw [String.toList_inj.mp sameName, inductionHypothesis readable.2 numberless.2 further]

theorem compact_append_ne {value : Json} (numberless : value.IsNumberless)
    {tail otherTail : List Char} : value.compact.toList ++ tail ≠ ']' :: otherTail := by
  obtain ⟨rest, compactEq⟩ := exists_compact_eq_cons numberless
  rw [compactEq]
  intro same
  have isBracket : value.opening = ']' := (List.cons.inj same).1
  cases numberless with
  | bool value => cases value <;> cases isBracket
  | null | string | array | object => cases isBracket

theorem eq_of_array_append {items others : List Json} (readable : ∀ item ∈ items, item.IsReadable)
    (numberless : ∀ item ∈ items, item.IsNumberless)
    (numberlessToo : ∀ other ∈ others, other.IsNumberless) {tail otherTail : List Char}
    (same : (array items).compact.toList ++ tail = (array others).compact.toList ++ otherTail) :
    items = others := by
  cases items with
  | nil =>
    cases others with
    | nil => rfl
    | cons other others =>
      rw [toList_compact_array_cons, List.cons_append, List.append_assoc] at same
      exact absurd (List.cons.inj same).2.symm
        (compact_append_ne (numberlessToo other List.mem_cons_self))
  | cons item items =>
    cases others with
    | nil =>
      rw [toList_compact_array_cons, List.cons_append, List.append_assoc] at same
      exact absurd (List.cons.inj same).2 (compact_append_ne (numberless item List.mem_cons_self))
    | cons other others =>
      rw [List.forall_mem_cons] at readable numberlessToo
      simp only [toList_compact_array_cons, List.cons_append, List.append_assoc, List.nil_append,
        List.cons.injEq, true_and] at same
      obtain ⟨rfl, further⟩ := readable.1 numberlessToo.1 same
      rw [eq_of_compactItems_append readable.2 numberlessToo.2 further]

theorem eq_of_object_append {members others : List (String × Json)}
    (readable : ∀ member ∈ members, member.2.IsReadable)
    (numberless : ∀ other ∈ others, other.2.IsNumberless) {tail otherTail : List Char}
    (same : (object members).compact.toList ++ tail = (object others).compact.toList ++ otherTail) :
    members = others := by
  cases members with
  | nil =>
    cases others with
    | nil => rfl
    | cons other others =>
      rw [toList_compact_object_cons] at same
      exact absurd (List.cons.inj (List.cons.inj same).2).1 (by decide)
  | cons member members =>
    cases others with
    | nil =>
      rw [toList_compact_object_cons] at same
      exact absurd (List.cons.inj (List.cons.inj same).2).1 (by decide)
    | cons other others =>
      obtain ⟨name, value⟩ := member
      obtain ⟨otherName, otherValue⟩ := other
      rw [List.forall_mem_cons] at readable numberless
      simp only [toList_compact_object_cons, List.cons_append, List.append_assoc, List.nil_append,
        List.cons.injEq, true_and] at same
      obtain ⟨sameName, behindName⟩ := escaping.quoted_append_inj same
      obtain ⟨rfl, further⟩ := readable.1 numberless.1 (List.cons.inj behindName).2
      rw [String.toList_inj.mp sameName,
        eq_of_compactMembers_append readable.2 numberless.2 further]

/-- Only values that begin alike are to be told apart, and what stands behind follows. -/
theorem IsNumberless.isReadable_of {value : Json} (numberless : value.IsNumberless)
    (distinct : ∀ ⦃other : Json⦄, other.IsNumberless → value.opening = other.opening →
      ∀ ⦃tail otherTail : List Char⦄, value.compact.toList ++ tail =
        other.compact.toList ++ otherTail → value = other) : value.IsReadable := by
  intro other numberlessToo tail otherTail same
  obtain rfl := distinct numberlessToo (opening_eq_of_append numberless numberlessToo same) same
  exact ⟨rfl, List.append_cancel_left same⟩

/-- The compact text of a value without numbers can be told from whatever stands behind it. The
induction is on the value, and an array or an object is read item by item to its closing
bracket. -/
theorem IsNumberless.isReadable {value : Json} (numberless : value.IsNumberless) :
    value.IsReadable := by
  induction numberless with
  | null =>
    refine isReadable_of .null fun other numberlessToo sameOpening tail otherTail same => ?_
    cases numberlessToo with
    | null => rfl
    | bool value => cases value <;> cases sameOpening
    | string | array | object => cases sameOpening
  | bool value =>
    refine isReadable_of (.bool value) fun other numberlessToo sameOpening tail otherTail same => ?_
    cases numberlessToo with
    | bool other => cases value <;> cases other <;> first | rfl | cases sameOpening
    | null | string | array | object => cases value <;> cases sameOpening
  | string value =>
    refine isReadable_of (.string value)
      fun other numberlessToo sameOpening tail otherTail same => ?_
    cases numberlessToo with
    | string other =>
      rw [toList_compact_string, toList_compact_string] at same
      rw [String.toList_inj.mp (escaping.quoted_append_inj same).1]
    | bool value => cases value <;> cases sameOpening
    | null | array | object => cases sameOpening
  | array numberless readable =>
    refine isReadable_of (.array numberless)
      fun other numberlessToo sameOpening tail otherTail same => ?_
    cases numberlessToo with
    | array numberlessToo => rw [eq_of_array_append readable numberless numberlessToo same]
    | bool value => cases value <;> cases sameOpening
    | null | string | object => cases sameOpening
  | object numberless readable =>
    refine isReadable_of (.object numberless)
      fun other numberlessToo sameOpening tail otherTail same => ?_
    cases numberlessToo with
    | object numberlessToo => rw [eq_of_object_append readable numberlessToo same]
    | bool value => cases value <;> cases sameOpening
    | null | string | array => cases sameOpening

theorem IsNumberless.compact_inj {first second : Json} (numberless : first.IsNumberless)
    (numberlessToo : second.IsNumberless) (same : first.compact = second.compact) :
    first = second :=
  (numberless.isReadable numberlessToo
    (congrArg (fun text : String => text.toList ++ []) same)).1

/-! ### White space between tokens -/

/-- Where a scan of a JSON text is. -/
inductive ScanState where
  /-- Between tokens or in one that is not a string. -/
  | outside
  /-- In a string. -/
  | inside
  /-- In a string, behind a backslash. -/
  | escaped

/-- The state behind a character. -/
def ScanState.after : ScanState → Char → ScanState
  | outside, character => if character = '"' then inside else outside
  | inside, character =>
    if character = '"' then outside else if character = '\\' then escaped else inside
  | escaped, _ => inside

/-- The text without the spaces and line feeds that stand outside strings, scanned from the given
state. -/
def dropLayout : ScanState → List Char → List Char
  | _, [] => []
  | .outside, character :: rest =>
    if character = ' ' ∨ character = '\n' then dropLayout .outside rest
    else character :: dropLayout (ScanState.outside.after character) rest
  | state, character :: rest => character :: dropLayout (state.after character) rest

/-- Outside strings, a character that is neither white space nor a quote is kept. -/
theorem dropLayout_outside_cons {character : Char} (keeps : character ∉ [' ', '\n', '"'])
    (rest : List Char) :
    dropLayout .outside (character :: rest) = character :: dropLayout .outside rest := by
  simp only [List.mem_cons, List.not_mem_nil, or_false, not_or] at keeps
  rw [dropLayout, if_neg (not_or.mpr ⟨keeps.1, keeps.2.1⟩), ScanState.after, if_neg keeps.2.2]

/-- A token that is not a string is kept. -/
theorem dropLayout_token_append {token : List Char}
    (keeps : ∀ character ∈ token, character ∉ [' ', '\n', '"']) (rest : List Char) :
    dropLayout .outside (token ++ rest) = token ++ dropLayout .outside rest := by
  induction token with
  | nil => rfl
  | cons character token inductionHypothesis =>
    rw [List.forall_mem_cons] at keeps
    rw [List.cons_append, dropLayout_outside_cons keeps.1, inductionHypothesis keeps.2,
      List.cons_append]

/-- Inside strings, characters that do not have to be escaped lead nowhere else. -/
theorem dropLayout_inside_append {text : List Char}
    (plain : ∀ character ∈ text, character ∉ escapedSigns) (rest : List Char) :
    dropLayout .inside (text ++ rest) = text ++ dropLayout .inside rest := by
  induction text with
  | nil => rfl
  | cons character text inductionHypothesis =>
    rw [List.forall_mem_cons] at plain
    have notQuote : character ≠ '"' := by
      rintro rfl
      exact plain.1 (by decide)
    rw [List.cons_append, dropLayout, ScanState.after, if_neg notQuote,
      if_neg (ne_backslash plain.1).symm, inductionHypothesis plain.2, List.cons_append]
    exact nofun

/-- The escape of a character is kept, and the string goes on behind it. -/
theorem dropLayout_write_append (character : Char) (rest : List Char) :
    dropLayout .inside (escaping.write character ++ rest) =
      escaping.write character ++ dropLayout .inside rest := by
  have isEscape := escaping.isEscape character
  generalize escaping.write character = written at isEscape ⊢
  cases isEscape with
  | plain notSign =>
    exact dropLayout_inside_append (List.forall_mem_singleton.mpr notSign) rest
  | letter _ => rfl
  | code codes =>
    rename_i digits
    have kept := dropLayout_inside_append (escaping.codes_plain codes) rest
    show '\\' :: 'u' :: dropLayout .inside (digits ++ rest) = _
    rw [kept]
    rfl

/-- A string is kept as it is, and behind it the scan is outside again. -/
theorem dropLayout_quoted_append (text rest : List Char) :
    dropLayout .outside (escaping.quoted text ++ rest) =
      escaping.quoted text ++ dropLayout .outside rest := by
  have keepsText : dropLayout .inside (text.flatMap escaping.write ++ '"' :: rest) =
      text.flatMap escaping.write ++ '"' :: dropLayout .outside rest := by
    induction text with
    | nil => rfl
    | cons character text inductionHypothesis =>
      rw [List.flatMap_cons, List.append_assoc, dropLayout_write_append, inductionHypothesis,
        List.append_assoc]
  have opens : escaping.quoted text ++ rest =
      '"' :: (text.flatMap escaping.write ++ '"' :: rest) := by
    simp [Escaping.quoted]
  rw [opens]
  show '"' :: dropLayout .inside _ = _
  rw [keepsText]
  simp [Escaping.quoted]

theorem dropLayout_newLine_append (level : Nat) (rest : List Char) :
    dropLayout .outside ((newLine level).toList ++ rest) = dropLayout .outside rest := by
  have dropsSpaces : ∀ count, dropLayout .outside (List.replicate count ' ' ++ rest) =
      dropLayout .outside rest := by
    intro count
    induction count with
    | zero => rfl
    | succ count inductionHypothesis => exact inductionHypothesis
  rw [newLine, String.toList_ofList]
  exact dropsSpaces (2 * level)

/-! ### The pretty layout -/

theorem toList_prettyAt_array_cons (level : Nat) (first : Json) (rest : List Json) :
    ((array (first :: rest)).prettyAt level).toList =
      '[' :: ((newLine (level + 1)).toList ++ ((first.prettyAt (level + 1)).toList ++
        ((prettyItems (level + 1) rest).toList ++ ((newLine level).toList ++ [']'])))) := by
  simp [prettyAt]

theorem toList_prettyAt_object_cons (level : Nat) (name : String) (first : Json)
    (rest : List (String × Json)) :
    ((object ((name, first) :: rest)).prettyAt level).toList =
      '\x7b' :: ((newLine (level + 1)).toList ++ (escaping.quoted name.toList ++
        ':' :: ' ' :: ((first.prettyAt (level + 1)).toList ++
          ((prettyMembers (level + 1) rest).toList ++ ((newLine level).toList ++ ['\x7d']))))) := by
  simp [prettyAt, toList_quote]

theorem toList_prettyItems_cons (level : Nat) (item : Json) (rest : List Json) :
    (prettyItems level (item :: rest)).toList =
      ',' :: ((newLine level).toList ++
        ((item.prettyAt level).toList ++ (prettyItems level rest).toList)) := by
  simp [prettyItems]

theorem toList_prettyMembers_cons (level : Nat) (name : String) (value : Json)
    (rest : List (String × Json)) :
    (prettyMembers level ((name, value) :: rest)).toList =
      ',' :: ((newLine level).toList ++ (escaping.quoted name.toList ++
        ':' :: ' ' :: ((value.prettyAt level).toList ++ (prettyMembers level rest).toList))) := by
  simp [prettyMembers, toList_quote]

/-- At every level, what is left of the pretty text of the value is its compact text. -/
def DropsToCompact (value : Json) : Prop :=
  ∀ (level : Nat) (rest : List Char), dropLayout .outside ((value.prettyAt level).toList ++ rest) =
    value.compact.toList ++ dropLayout .outside rest

/-- The texts that both layouts have for values without strings and without values in them. -/
def words : List String := ["null", "true", "false", "[]", "\x7b\x7d"]

theorem dropsToCompact_of_word {value : Json} (word : String) (isWord : word ∈ words)
    (prettyEq : ∀ level, value.prettyAt level = word) (compactEq : value.compact = word) :
    value.DropsToCompact := by
  have keeps : ∀ word ∈ words,
      word.toList.all (fun character => decide (character ∉ [' ', '\n', '"'])) = true := by decide
  intro level rest
  rw [prettyEq, compactEq, dropLayout_token_append fun character member =>
    of_decide_eq_true (List.all_eq_true.mp (keeps word isWord) character member)]

theorem dropLayout_colon (rest : List Char) :
    dropLayout .outside (':' :: ' ' :: rest) = ':' :: dropLayout .outside rest := rfl

theorem dropLayout_prettyItems {items : List Json} (drops : ∀ item ∈ items, item.DropsToCompact)
    (level : Nat) (rest : List Char) :
    dropLayout .outside ((prettyItems level items).toList ++ rest) =
      (compactItems items).toList ++ dropLayout .outside rest := by
  induction items with
  | nil => rfl
  | cons item items inductionHypothesis =>
    rw [List.forall_mem_cons] at drops
    simp only [toList_prettyItems_cons, toList_compactItems_cons, List.cons_append,
      List.append_assoc]
    rw [dropLayout_outside_cons (by decide), dropLayout_newLine_append, drops.1,
      inductionHypothesis drops.2]

theorem dropLayout_prettyMembers {members : List (String × Json)}
    (drops : ∀ member ∈ members, member.2.DropsToCompact) (level : Nat) (rest : List Char) :
    dropLayout .outside ((prettyMembers level members).toList ++ rest) =
      (compactMembers members).toList ++ dropLayout .outside rest := by
  induction members with
  | nil => rfl
  | cons member members inductionHypothesis =>
    obtain ⟨name, value⟩ := member
    rw [List.forall_mem_cons] at drops
    simp only [toList_prettyMembers_cons, toList_compactMembers_cons, List.cons_append,
      List.append_assoc]
    rw [dropLayout_outside_cons (by decide), dropLayout_newLine_append, dropLayout_quoted_append,
      dropLayout_colon, drops.1, inductionHypothesis drops.2]

/-- The layouts of a value without numbers differ in white space between tokens only. -/
theorem IsNumberless.dropsToCompact {value : Json} (numberless : value.IsNumberless) :
    value.DropsToCompact := by
  induction numberless with
  | null => exact dropsToCompact_of_word "null" (by decide) (fun _ => rfl) rfl
  | bool value =>
    cases value with
    | true => exact dropsToCompact_of_word "true" (by decide) (fun _ => rfl) rfl
    | false => exact dropsToCompact_of_word "false" (by decide) (fun _ => rfl) rfl
  | string value =>
    intro level rest
    rw [prettyAt, toList_quote, toList_compact_string, dropLayout_quoted_append]
  | array numberless drops =>
    rename_i items
    cases items with
    | nil => exact dropsToCompact_of_word "[]" (by decide) (fun _ => rfl) rfl
    | cons first items =>
      intro level rest
      rw [List.forall_mem_cons] at drops
      simp only [toList_prettyAt_array_cons, toList_compact_array_cons, List.cons_append,
        List.append_assoc, List.nil_append]
      rw [dropLayout_outside_cons (by decide), dropLayout_newLine_append, drops.1,
        dropLayout_prettyItems drops.2, dropLayout_newLine_append,
        dropLayout_outside_cons (by decide)]
  | object numberless drops =>
    rename_i members
    cases members with
    | nil => exact dropsToCompact_of_word "\x7b\x7d" (by decide) (fun _ => rfl) rfl
    | cons member members =>
      intro level rest
      obtain ⟨name, first⟩ := member
      rw [List.forall_mem_cons] at drops
      simp only [toList_prettyAt_object_cons, toList_compact_object_cons, List.cons_append,
        List.append_assoc, List.nil_append]
      rw [dropLayout_outside_cons (by decide), dropLayout_newLine_append, dropLayout_quoted_append,
        dropLayout_colon, drops.1, dropLayout_prettyMembers drops.2, dropLayout_newLine_append,
        dropLayout_outside_cons (by decide)]

theorem IsNumberless.dropLayout_pretty {value : Json} (numberless : value.IsNumberless) :
    dropLayout .outside value.pretty.toList = value.compact.toList := by
  have dropped := numberless.dropsToCompact 0 []
  rwa [List.append_nil, dropLayout, List.append_nil] at dropped

end Json

/-! ### Terms -/

namespace Term

theorem isNumberless_toJson (term : Term) : (toJson term).IsNumberless := by
  induction term with
  | join connective left right leftHypothesis rightHypothesis =>
    exact .member (.string _) (.member leftHypothesis (.member rightHypothesis .noMembers))
  | negate operand inductionHypothesis =>
    exact .member (.string _) (.member inductionHypothesis .noMembers)
  | leaf atom =>
    cases atom with
    | single field comparison value =>
      exact .member (.string _) (.member (.string _) (.member (.string _) .noMembers))
    | list field membership values =>
      have texts : (Json.ofTexts values).IsNumberless := .array fun item member => by
        obtain ⟨text, _, rfl⟩ := List.mem_map.mp member
        exact .string text
      exact .member (.string _) (.member (.string _) (.member texts .noMembers))

theorem toJson_inj {first second : Term} (same : toJson first = toJson second) :
    first = second := by
  have decodes := ofJson?_eq_some_iff.mpr ⟨_, ofJsonAs?_toJson first⟩
  have decodesToo := ofJson?_eq_some_iff.mpr ⟨_, ofJsonAs?_toJson second⟩
  rw [same, decodesToo] at decodes
  exact (Option.some.inj decodes).symm

theorem compact_toJson_inj {first second : Term}
    (same : (toJson first).compact = (toJson second).compact) : first = second :=
  toJson_inj (first.isNumberless_toJson.compact_inj second.isNumberless_toJson same)

/-- White space between tokens aside, pretty texts are compact ones, so they identify as much. -/
theorem pretty_toJson_inj {first second : Term}
    (same : (toJson first).pretty = (toJson second).pretty) : first = second := by
  have dropped := first.isNumberless_toJson.dropLayout_pretty
  rw [same, second.isNumberless_toJson.dropLayout_pretty] at dropped
  exact compact_toJson_inj (String.toList_inj.mp dropped.symm)

/-- With `--json` the command line prints the pretty text and a line feed. -/
theorem output_runParse {query : String} {term : Term} (accepted : parse query = .ok term)
    (most : LogLevel) :
    (CommandLine.runParse most query true).output = (toJson term).pretty ++ "\n" := by
  have result := Query.parseRecorded_fst query
  rw [accepted] at result
  unfold CommandLine.runParse
  generalize Query.parseRecorded query = recorded at result ⊢
  obtain ⟨_, record⟩ := recorded
  cases result
  rfl

/-- The JSON text of a term identifies it in both layouts. For a query that denotes the term, the
command line prints the pretty one, so what it prints identifies the term too. Without the spaces
and line feeds between its tokens, the pretty text of a term is its compact text. -/
theorem jsonText_faithful (first second : Term) :
    ((toJson first).compact = (toJson second).compact ↔ first = second) ∧
    ((toJson first).pretty = (toJson second).pretty ↔ first = second) ∧
    (∀ (most : LogLevel) (query : String), parse query = .ok first →
      (CommandLine.runParse most query true).output = (toJson first).pretty ++ "\n") ∧
    (∀ (most : LogLevel) (query other : String), parse query = .ok first →
      parse other = .ok second → ((CommandLine.runParse most query true).output =
        (CommandLine.runParse most other true).output ↔ first = second)) ∧
    Json.dropLayout .outside (toJson first).pretty.toList = (toJson first).compact.toList := by
  have prettyIff : (toJson first).pretty = (toJson second).pretty ↔ first = second :=
    ⟨pretty_toJson_inj, congrArg fun term => (toJson term).pretty⟩
  refine ⟨⟨compact_toJson_inj, congrArg fun term => (toJson term).compact⟩, prettyIff,
    fun most query accepted => output_runParse accepted most,
    fun most query other accepted acceptedToo => ?_, first.isNumberless_toJson.dropLayout_pretty⟩
  rw [output_runParse accepted, output_runParse acceptedToo, String.append_left_inj]
  exact prettyIff

/-- Two queries that denote the same term, and what is printed for them. -/
theorem jsonText_faithful_instances :
    parse "label = a" = .ok (single .label .equals "a") ∧
    parse "(LABEL = \"a\")" = .ok (single .label .equals "a") ∧
    (CommandLine.runParse .warn "label = a" true).output =
      (CommandLine.runParse .warn "(LABEL = \"a\")" true).output ∧
    (CommandLine.runParse .warn "label = a" true).output =
      "\x7b\n  \"operator\": \"=\",\n  \"field\": \"label\",\n  \"value\": \"a\"\n\x7d\n" := by
  have accepted : parse "label = a" = .ok (single .label .equals "a") := rfl
  have acceptedToo : parse "(LABEL = \"a\")" = .ok (single .label .equals "a") := rfl
  have pretty : (toJson (single .label .equals "a")).pretty ++ "\n" =
      "\x7b\n  \"operator\": \"=\",\n  \"field\": \"label\",\n  \"value\": \"a\"\n\x7d\n" := by
    decide +kernel
  obtain ⟨_, _, prints, printsAlike, _⟩ :=
    jsonText_faithful (single .label .equals "a") (single .label .equals "a")
  exact ⟨accepted, acceptedToo, (printsAlike .warn _ _ accepted acceptedToo).mpr rfl,
    (prints .warn _ accepted).trans pretty⟩

example : (toJson (list .label .isIn [])).pretty =
    "\x7b\n  \"operator\": \"in\",\n  \"field\": \"label\",\n  \"value\": []\n\x7d" := by
  decide +kernel

end Term

end ContentQuery
