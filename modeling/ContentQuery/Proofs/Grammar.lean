/-
This file states the grammar of folded queries, apart from how queries are read. Every
relation has three sides: a text, what a beginning of the text denotes, and the rest of the
text behind that beginning. Plain spaces may stand behind every word and sign, and around the
items of a list.

The grammar leaves nothing to the order in which alternatives are tried. A value without
quotes is as long as it can be, an item of a list is read without its quotes wherever these
are closed before the list is, and the brackets of a list hold no closing bracket. How many
groups may be open at a time is the number of levels that a derivation has room for.
-/

import ContentQuery.Query.Parse

namespace ContentQuery.Query

variable {Leaf : Type}

/-! ### Spaces and words -/

/-- Nothing but spaces stands before the rest. -/
def Spaces (text rest : List Char) : Prop :=
  ∃ count, text = List.replicate count ' ' ++ rest

/-- The text does not begin with a space. -/
def BeginsTight (text : List Char) : Prop := text.head? ≠ some ' '

/-- No word runs into the text. -/
def EndsWord (text : List Char) : Prop :=
  ∀ character ∈ text.head?, continuesWord character = false

/-- A word that joins or negates terms, and spaces behind it. -/
def DerivesWord (word : String) (text rest : List Char) : Prop :=
  ∃ behind, text = word.toList ++ behind ∧ EndsWord behind ∧ Spaces behind rest

/-- A bracket, and spaces behind it. -/
def DerivesBracket (bracket : Char) (text rest : List Char) : Prop :=
  ∃ behind, text = bracket :: behind ∧ Spaces behind rest

/-! ### Fields and operators -/

/-- A spelling of the field; it may run into what follows it. -/
def DerivesField (text : List Char) (field : Field) (rest : List Char) : Prop :=
  ∃ spelling ∈ field.spellings, text = spelling.toList ++ rest

theorem DerivesField.head_mem {text rest : List Char} {field : Field}
    (derives : DerivesField text field rest) :
    ∃ character ∈ ['a', 'c', 'l', 'p', 's', 't'], text.head? = some character := by
  have begins : ∀ field ∈ Field.all, ∀ spelling ∈ field.spellings,
      spelling.toList.head?.any (['a', 'c', 'l', 'p', 's', 't'].contains ·) = true := by decide
  obtain ⟨spelling, member, rfl⟩ := derives
  obtain ⟨character, head, characterMember⟩ :=
    (Option.any_eq_true _ _).mp (begins field field.mem_all spelling member)
  refine ⟨character, List.contains_iff_mem.mp characterMember, ?_⟩
  rw [List.head?_append, head]
  rfl

/-- The sign or the words of an operator. -/
inductive DerivesOperator : List Char → Operator → List Char → Prop where
  /-- The symbol of a comparison. -/
  | comparison (sign : Comparison) (rest : List Char) :
    DerivesOperator (sign.symbol.toList ++ rest) (.comparison sign) rest
  /-- The word of a membership. -/
  | isIn {rest : List Char} (ends : EndsWord rest) :
    DerivesOperator ("in".toList ++ rest) (.membership .isIn) rest
  /-- The two words of a negated membership, which need no space between them. -/
  | notIn {behind rest : List Char} (spaces : Spaces behind ("in".toList ++ rest))
      (ends : EndsWord rest) :
    DerivesOperator ("not".toList ++ behind) (.membership .notIn) rest

theorem DerivesOperator.head_mem {text rest : List Char} {operator : Operator}
    (derives : DerivesOperator text operator rest) :
    ∃ character ∈ ['=', '!', '~', 'i', 'n'], text.head? = some character := by
  cases derives with
  | comparison sign rest =>
    cases sign with
    | equals => exact ⟨'=', by decide, rfl⟩
    | notEquals => exact ⟨'!', by decide, rfl⟩
    | contains => exact ⟨'~', by decide, rfl⟩
    | notContains => exact ⟨'!', by decide, rfl⟩
  | isIn _ => exact ⟨'i', by decide, rfl⟩
  | notIn _ _ => exact ⟨'n', by decide, rfl⟩

theorem DerivesOperator.beginsTight {text rest : List Char} {operator : Operator}
    (derives : DerivesOperator text operator rest) : BeginsTight text := by
  obtain ⟨character, member, begins⟩ := derives.head_mem
  have notSpace : ∀ sign ∈ ['=', '!', '~', 'i', 'n'], some sign ≠ some ' ' := by simp
  rw [BeginsTight, begins]
  exact notSpace character member

/-! ### Values -/

/-- A text between two quotes of one kind, without that quote in it. -/
inductive DerivesQuoted : List Char → List Char → List Char → Prop where
  /-- The quote is double or single. -/
  | between {quote : Char} {value rest : List Char} (isQuote : quote = '"' ∨ quote = '\'')
      (free : quote ∉ value) : DerivesQuoted (quote :: (value ++ quote :: rest)) value rest

theorem derivesQuoted_iff {text value rest : List Char} :
    DerivesQuoted text value rest ↔
      ∃ quote, (quote = '"' ∨ quote = '\'') ∧ quote ∉ value ∧
        text = quote :: (value ++ quote :: rest) := by
  constructor
  · rintro ⟨isQuote, free⟩
    exact ⟨_, isQuote, free, rfl⟩
  · rintro ⟨quote, isQuote, free, rfl⟩
    exact .between isQuote free

/-- The longest run of characters none of which is a stop; it is not empty. -/
structure DerivesRun (stops text value rest : List Char) : Prop where
  /-- The run stands at the beginning of the text. -/
  text_eq : text = value ++ rest
  /-- The run has a character. -/
  nonempty : value ≠ []
  /-- No character of the run is a stop. -/
  free : ∀ character ∈ value, character ∉ stops
  /-- The run goes up to a stop or to the end. -/
  longest : ∀ character ∈ rest.head?, character ∈ stops

theorem DerivesQuoted.beginsTight {text value rest : List Char}
    (between : DerivesQuoted text value rest) : BeginsTight text := by
  obtain ⟨isQuote, _⟩ := between
  rcases isQuote with rfl | rfl <;> simp [BeginsTight]

theorem DerivesRun.beginsTight {stops text value rest : List Char}
    (run : DerivesRun stops text value rest) (space : ' ' ∈ stops) : BeginsTight text := by
  obtain ⟨character, tail, rfl⟩ := List.exists_cons_of_ne_nil run.nonempty
  rw [run.text_eq]
  intro begins
  cases begins
  exact run.free ' ' List.mem_cons_self space

/-- A value with or without quotes. -/
inductive DerivesValue : List Char → List Char → List Char → Prop where
  /-- A value in quotes. -/
  | quoted {text value rest : List Char} (between : DerivesQuoted text value rest) :
    DerivesValue text value rest
  /-- A value without quotes. -/
  | bare {text value rest : List Char}
      (run : DerivesRun [' ', ')', '"', '\'', ','] text value rest) :
    DerivesValue text value rest

theorem DerivesValue.beginsTight {text value rest : List Char}
    (derives : DerivesValue text value rest) : BeginsTight text := by
  cases derives with
  | quoted between => exact between.beginsTight
  | bare run => exact run.beginsTight (by decide)

/-! ### Lists of values -/

/-- An item with or without quotes. A quote that is not closed within the list belongs to an
item without quotes. -/
inductive DerivesItem : List Char → List Char → List Char → Prop where
  /-- An item in quotes. -/
  | quoted {text value rest : List Char} (between : DerivesQuoted text value rest) :
    DerivesItem text value rest
  /-- An item without quotes. -/
  | bare {text value rest : List Char}
      (unquoted : ∀ content behind, ¬ DerivesQuoted text content behind)
      (run : DerivesRun [' ', ','] text value rest) : DerivesItem text value rest

theorem DerivesItem.beginsTight {text value rest : List Char}
    (derives : DerivesItem text value rest) : BeginsTight text := by
  cases derives with
  | quoted between => exact between.beginsTight
  | bare _ run => exact run.beginsTight (by decide)

/-- An item with spaces on both sides. -/
def DerivesSpacedItem (text value rest : List Char) : Prop :=
  ∃ front back, Spaces text front ∧ DerivesItem front value back ∧ Spaces back rest

/-- Items each behind a comma, up to the end of the text. -/
inductive DerivesFurtherItems : List Char → List (List Char) → Prop where
  /-- There are no further items. -/
  | none : DerivesFurtherItems [] []
  /-- A comma, an item and further items. -/
  | comma {text value rest : List Char} {values : List (List Char)}
      (next : DerivesSpacedItem text value rest) (further : DerivesFurtherItems rest values) :
    DerivesFurtherItems (',' :: text) (value :: values)

theorem DerivesFurtherItems.beginsTight {text : List Char} {values : List (List Char)}
    (derives : DerivesFurtherItems text values) : BeginsTight text := by
  cases derives <;> simp [BeginsTight]

/-- Items separated by commas, up to the end of the text; there is at least one. -/
inductive DerivesItems : List Char → List (List Char) → Prop where
  /-- An item and further items. -/
  | items {text value rest : List Char} {values : List (List Char)}
      (first : DerivesSpacedItem text value rest) (further : DerivesFurtherItems rest values) :
    DerivesItems text (value :: values)

/-- Items in brackets that have no closing bracket between them. -/
inductive DerivesList : List Char → List (List Char) → List Char → Prop where
  /-- The items are the whole text between the brackets. -/
  | brackets {content rest : List Char} {values : List (List Char)} (free : ')' ∉ content)
      (items : DerivesItems content values) :
    DerivesList ('(' :: (content ++ ')' :: rest)) values rest

theorem DerivesList.beginsTight {text rest : List Char} {values : List (List Char)}
    (derives : DerivesList text values rest) : BeginsTight text := by
  cases derives
  simp [BeginsTight]

/-! ### Atoms -/

/-- What an operator takes, and the atom that it makes with the field: a comparison takes one
value, and a membership takes a list. -/
inductive DerivesOperand (field : Field) :
    Operator → List Char → Atom → List Char → Prop where
  /-- A field compared with one value. -/
  | single {sign : Comparison} {text value rest : List Char}
      (derives : DerivesValue text value rest) :
    DerivesOperand field (.comparison sign) text (.single field sign (String.ofList value)) rest
  /-- A field looked for in a list of values. -/
  | list {sign : Membership} {text rest : List Char} {values : List (List Char)}
      (derives : DerivesList text values rest) :
    DerivesOperand field (.membership sign) text (.list field sign (values.map String.ofList))
      rest

theorem DerivesOperand.beginsTight {field : Field} {operator : Operator}
    {text rest : List Char} {atom : Atom}
    (derives : DerivesOperand field operator text atom rest) : BeginsTight text := by
  cases derives with
  | single derives => exact derives.beginsTight
  | list derives => exact derives.beginsTight

/-- A well-formed atom: a field, an operator, and what the operator takes, each with spaces
behind it. -/
inductive DerivesAtom : List Char → Atom → List Char → Prop where
  /-- The three parts of an atom. -/
  | parts {field : Field} {operator : Operator} {atom : Atom}
      {text fieldEnd operatorStart operatorEnd valueStart valueEnd rest : List Char}
      (name : DerivesField text field fieldEnd) (fieldSpaces : Spaces fieldEnd operatorStart)
      (sign : DerivesOperator operatorStart operator operatorEnd)
      (operatorSpaces : Spaces operatorEnd valueStart)
      (operand : DerivesOperand field operator valueStart atom valueEnd)
      (valueSpaces : Spaces valueEnd rest) : DerivesAtom text atom rest

/-- A well-formed atom whose operator and values suit its field. -/
def DerivesValidAtom (text : List Char) (atom : Atom) (rest : List Char) : Prop :=
  DerivesAtom text atom rest ∧ atom.isValid = true

/-! ### Terms -/

/-- The levels of the grammar of terms. -/
inductive Level where
  /-- A leaf or a group. -/
  | primary
  /-- A primary that may be negated once. -/
  | unary
  /-- Operands joined by a connective. -/
  | chain (kind : Connective)

/-- The level of the operands of a connective; `and` binds tighter than `or`. -/
def Level.operand : Connective → Level
  | .and => .unary
  | .or => .chain .and

/-- A term of a level, with room for the given number of groups inside each other. A chain
grows at its end, so both connectives group to the left. -/
inductive Derives (leaf : List Char → Leaf → List Char → Prop) :
    Level → Nat → List Char → Tree Leaf → List Char → Prop where
  /-- A leaf. -/
  | leaf {room : Nat} {text rest : List Char} {content : Leaf}
      (stands : leaf text content rest) : Derives leaf .primary room text (.leaf content) rest
  /-- A term in brackets. -/
  | group {room : Nat} {text inside inner rest : List Char} {tree : Tree Leaf}
      (opens : DerivesBracket '(' text inside)
      (term : Derives leaf (.chain .or) room inside tree inner)
      (closes : DerivesBracket ')' inner rest) : Derives leaf .primary (room + 1) text tree rest
  /-- A primary that is not negated. -/
  | plain {room : Nat} {text rest : List Char} {tree : Tree Leaf}
      (primary : Derives leaf .primary room text tree rest) :
    Derives leaf .unary room text tree rest
  /-- A negated primary. -/
  | negate {room : Nat} {text behind rest : List Char} {tree : Tree Leaf}
      (word : DerivesWord negationWord text behind)
      (primary : Derives leaf .primary room behind tree rest) :
    Derives leaf .unary room text (.negate tree) rest
  /-- The first operand of a chain. -/
  | first {kind : Connective} {room : Nat} {text rest : List Char} {tree : Tree Leaf}
      (operand : Derives leaf (.operand kind) room text tree rest) :
    Derives leaf (.chain kind) room text tree rest
  /-- A chain with one more operand. -/
  | join {kind : Connective} {room : Nat} {text middle behind rest : List Char}
      {left right : Tree Leaf} (chain : Derives leaf (.chain kind) room text left middle)
      (word : DerivesWord kind.word middle behind)
      (operand : Derives leaf (.operand kind) room behind right rest) :
    Derives leaf (.chain kind) room text (.join kind left right) rest

/-- A folded text that is a term from its start to its end, with spaces allowed on both
sides, valid atoms at the leaves, and room for the given number of open groups. -/
def DerivesQuery (room : Nat) (text : List Char) (term : Term) : Prop :=
  ∃ inside, Spaces text inside ∧ Derives DerivesValidAtom (.chain .or) room inside term []

end ContentQuery.Query
