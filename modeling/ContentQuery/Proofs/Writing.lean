/-
This file writes terms as queries, with brackets only where the grammar needs them, and proves
that a query so written is read back as its term. A chain is a left operand of its own kind
without brackets, since chains grow at their end. Every value stands in quotes, so nothing
behind it can run into it, and a list holds no closing bracket because no value that suits a
list does.
-/

import ContentQuery.Proofs.Exactness

namespace ContentQuery.Query

open Text

variable {Leaf : Type}

/-! ### Atoms -/

/-- A value in double quotes, or in single quotes where it holds a double quote. -/
def writeValue (value : String) : List Char :=
  let quote := if '"' ∈ value.toList then '\'' else '"'
  quote :: (value.toList ++ [quote])

/-- The items of a list, separated by commas. -/
def writeItems : List String → List Char
  | [] => []
  | value :: values => writeValue value ++ values.flatMap fun next => ',' :: writeValue next

/-- What the operator of an atom takes. -/
def writeOperand : Atom → List Char
  | .single _ _ value => writeValue value
  | .list _ _ values => '(' :: (writeItems values ++ [')'])

/-- The field, the operator and what the operator takes, with spaces between them. -/
def writeAtom (atom : Atom) : List Char :=
  atom.field.name.toList ++ ' ' :: (atom.operator.spelling.toList ++ ' ' :: writeOperand atom)

/-! ### Terms -/

/-- How loose a level is. A term of a level is a term of every looser one. -/
def Level.looseness : Level → Nat
  | .primary => 0
  | .unary => 1
  | .chain .and => 2
  | .chain .or => 3

/-- The tightest level that a tree has without brackets. -/
def treeLevel : Tree Leaf → Level
  | .join kind _ _ => .chain kind
  | .negate _ => .unary
  | .leaf _ => .primary

theorem Level.looseness_le (level : Level) : level.looseness ≤ (Level.chain .or).looseness := by
  cases level with
  | primary => decide
  | unary => decide
  | chain kind => cases kind <;> decide

theorem Level.looseness_operand_lt (kind : Connective) :
    (Level.operand kind).looseness < (Level.chain kind).looseness := by
  cases kind <;> decide

/-- Whether a tree stands at a level only in brackets. -/
def needsBrackets (level : Level) (tree : Tree Leaf) : Bool :=
  level.looseness < (treeLevel tree).looseness

/-- The text of a tree as it stands at a level. -/
def bracketAt (level : Level) (tree : Tree Leaf) (text : List Char) : List Char :=
  if needsBrackets level tree then '(' :: (text ++ [')']) else text

/-- The query of a term, with the fewest brackets. -/
def write : Term → List Char
  | .join kind left right =>
    bracketAt (.chain kind) left (write left) ++
      ' ' :: (kind.word.toList ++ ' ' :: bracketAt (.operand kind) right (write right))
  | .negate operand => negationWord.toList ++ ' ' :: bracketAt .primary operand (write operand)
  | .leaf atom => writeAtom atom

/-- The number of groups inside each other that a tree needs to stand at a level, from the
number that it needs by itself. -/
def groupsAt (level : Level) (tree : Tree Leaf) (groups : Nat) : Nat :=
  if needsBrackets level tree then groups + 1 else groups

/-- The number of groups inside each other in the query of a term. -/
def groups : Tree Leaf → Nat
  | .join kind left right =>
    max (groupsAt (.chain kind) left (groups left)) (groupsAt (.operand kind) right (groups right))
  | .negate operand => groupsAt .primary operand (groups operand)
  | .leaf _ => 0

/-! ### Terms that can be written -/

/-- Each character of the text is its own lowercase. -/
def IsSmall (text : List Char) : Prop :=
  ∀ character ∈ text, lowercase character = [character]

/-- The value does not hold both quotes, and it is in small letters. -/
def IsWritableValue (value : String) : Prop :=
  ¬ ('"' ∈ value.toList ∧ '\'' ∈ value.toList) ∧ IsSmall value.toList

/-- The atom is valid, and it has a value and only values that can be written. -/
def IsWritableAtom (atom : Atom) : Prop :=
  atom.isValid = true ∧ atom.values ≠ [] ∧ ∀ value ∈ atom.values, IsWritableValue value

/-- Every atom of the term can be written. -/
def IsWritable (term : Term) : Prop := ∀ atom ∈ term.leaves, IsWritableAtom atom

instance (text : List Char) : Decidable (IsSmall text) := List.decidableBAll _ text

instance (value : String) : Decidable (IsWritableValue value) :=
  inferInstanceAs (Decidable (¬ ('"' ∈ value.toList ∧ '\'' ∈ value.toList) ∧ IsSmall value.toList))

instance (atom : Atom) : Decidable (IsWritableAtom atom) :=
  inferInstanceAs (Decidable (atom.isValid = true ∧ atom.values ≠ [] ∧
    ∀ value ∈ atom.values, IsWritableValue value))

instance (term : Term) : Decidable (IsWritable term) :=
  inferInstanceAs (Decidable (∀ atom ∈ term.leaves, IsWritableAtom atom))

/-! ### Values and atoms are derived from what is written for them -/

theorem derivesQuoted_writeValue {value : String} (writable : IsWritableValue value)
    (rest : List Char) : DerivesQuoted (writeValue value ++ rest) value.toList rest := by
  have textEq : ∀ quote : Char,
      quote :: (value.toList ++ [quote]) ++ rest = quote :: (value.toList ++ quote :: rest) := by
    simp
  unfold writeValue
  by_cases holds : '"' ∈ value.toList
  · simp only [holds, if_true, textEq]
    exact .between (Or.inr rfl) fun single => writable.1 ⟨holds, single⟩
  · simp only [holds, if_false, textEq]
    exact .between (Or.inl rfl) holds

theorem spaces_refl (text : List Char) : Spaces text text := ⟨0, rfl⟩

theorem spaces_cons (text : List Char) : Spaces (' ' :: text) text := ⟨1, rfl⟩

theorem derivesSpacedItem_writeValue {value : String} (writable : IsWritableValue value)
    (rest : List Char) : DerivesSpacedItem (writeValue value ++ rest) value.toList rest :=
  ⟨_, _, spaces_refl _, .quoted (derivesQuoted_writeValue writable rest), spaces_refl _⟩

theorem derivesFurtherItems_write {values : List String}
    (writable : ∀ value ∈ values, IsWritableValue value) :
    DerivesFurtherItems (values.flatMap fun next => ',' :: writeValue next)
      (values.map String.toList) := by
  induction values with
  | nil => exact .none
  | cons value values inductionHypothesis =>
    have further := inductionHypothesis fun next member =>
      writable next (List.mem_cons_of_mem _ member)
    exact .comma (derivesSpacedItem_writeValue (writable value List.mem_cons_self) _) further

theorem derivesItems_write {values : List String} (nonempty : values ≠ [])
    (writable : ∀ value ∈ values, IsWritableValue value) :
    DerivesItems (writeItems values) (values.map String.toList) := by
  cases values with
  | nil => exact absurd rfl nonempty
  | cons value values =>
    exact .items (derivesSpacedItem_writeValue (writable value List.mem_cons_self) _)
      (derivesFurtherItems_write fun next member => writable next (List.mem_cons_of_mem _ member))

/-- A character that is no small letter and no digit stands in no values but titles and, if it
is not reserved there, labels. -/
theorem eq_title_or_label_of_admits {field : Field} {value : String} {character : Char}
    (admits : field.admits value = true) (member : character ∈ value.toList)
    (notLower : character.isLower = false) (notDigit : character.isDigit = false) :
    field = .title ∨ field = .label ∧ character ∉ reservedInLabels := by
  have notDigits : ¬ ValueShape.digits.admits value = true := fun admits =>
    Bool.false_ne_true (notDigit.symm.trans (List.all_eq_true.mp admits character member))
  have notAlphanumeric : ¬ ValueShape.alphanumeric.admits value = true := by
    intro admits
    have suits := List.all_eq_true.mp (Bool.and_eq_true_iff.mp admits).2 character member
    rw [notLower, notDigit] at suits
    exact Bool.false_ne_true suits
  cases field with
  | ancestor => exact absurd admits notDigits
  | creator => exact absurd admits notAlphanumeric
  | label =>
    refine Or.inr ⟨rfl, fun reserved => ?_⟩
    have suits := List.all_eq_true.mp admits character member
    rw [List.contains_iff_mem.mpr reserved] at suits
    exact Bool.false_ne_true suits
  | parent => exact absurd admits notDigits
  | space => exact absurd admits notAlphanumeric
  | title => exact Or.inl rfl
  | type =>
    have small : contentTypes.all (fun choice => choice.toList.all Char.isLower) = true := by decide
    have isLower := List.all_eq_true.mp (List.all_eq_true.mp small value
      (List.contains_iff_mem.mp admits)) character member
    exact absurd (notLower.symm.trans isLower) Bool.false_ne_true

/-- No value that suits a list holds a closing bracket. -/
theorem not_mem_of_admits {field : Field} {value : String} (lists : field.allowsMembership = true)
    (admits : field.admits value = true) : ')' ∉ value.toList := by
  intro member
  rcases eq_title_or_label_of_admits admits member (by decide) (by decide) with
    rfl | ⟨_, notReserved⟩
  · cases lists
  · exact notReserved (by decide)

theorem not_mem_writeItems {values : List String}
    (free : ∀ value ∈ values, ')' ∉ value.toList) : ')' ∉ writeItems values := by
  have freeValue : ∀ value ∈ values, ')' ∉ writeValue value := by
    intro value member
    unfold writeValue
    by_cases holds : '"' ∈ value.toList <;> simp [holds, free value member]
  cases values with
  | nil => simp [writeItems]
  | cons value values =>
    simp only [writeItems, List.mem_append, List.mem_flatMap, List.mem_cons, not_or, not_exists,
      not_and]
    refine ⟨freeValue value List.mem_cons_self, fun next member => ⟨by decide, ?_⟩⟩
    exact freeValue next (List.mem_cons_of_mem _ member)

theorem derivesOperand_write {atom : Atom} (writable : IsWritableAtom atom) (rest : List Char) :
    DerivesOperand atom.field atom.operator (writeOperand atom ++ rest) atom rest := by
  obtain ⟨valid, nonempty, values⟩ := writable
  cases atom with
  | single field sign value =>
    have quoted := derivesQuoted_writeValue (values value List.mem_cons_self) rest
    have derives : DerivesOperand field (.comparison sign) (writeValue value ++ rest)
        (.single field sign (String.ofList value.toList)) rest := .single (.quoted quoted)
    rwa [String.ofList_toList] at derives
  | list field sign texts =>
    simp only [Atom.isValid, Bool.and_eq_true, List.all_eq_true] at valid
    have free : ')' ∉ writeItems texts := not_mem_writeItems fun value member =>
      not_mem_of_admits valid.1 (valid.2 value member)
    have derives : DerivesOperand field (.membership sign)
        ('(' :: (writeItems texts ++ ')' :: rest))
        (.list field sign ((texts.map String.toList).map String.ofList)) rest :=
      .list (.brackets free (derivesItems_write nonempty values))
    simpa [Atom.field, Atom.operator, writeOperand, Function.comp_def] using derives

theorem endsWord_cons (text : List Char) : EndsWord (' ' :: text) := by
  intro character begins
  cases begins
  decide

theorem derivesOperator_spelling (operator : Operator) (rest : List Char) :
    DerivesOperator (operator.spelling.toList ++ ' ' :: rest) operator (' ' :: rest) := by
  cases operator with
  | comparison sign => exact .comparison sign _
  | membership sign =>
    cases sign with
    | isIn => exact .isIn (endsWord_cons rest)
    | notIn => exact .notIn (spaces_cons _) (endsWord_cons rest)

theorem derivesValidAtom_write {atom : Atom} (writable : IsWritableAtom atom)
    {behind rest : List Char} (spaces : Spaces behind rest) :
    DerivesValidAtom (writeAtom atom ++ behind) atom rest := by
  have name : atom.field.name ∈ atom.field.spellings := by
    cases atom.field <;> decide
  have textEq : writeAtom atom ++ behind = atom.field.name.toList ++ ' ' ::
      (atom.operator.spelling.toList ++ ' ' :: (writeOperand atom ++ behind)) := by
    simp [writeAtom]
  rw [textEq]
  exact ⟨.parts ⟨_, name, rfl⟩ (spaces_cons _) (derivesOperator_spelling _ _) (spaces_cons _)
    (derivesOperand_write writable behind) spaces, writable.1⟩

/-! ### Terms are derived from what is written for them -/

theorem Derives.of_unary {relation : List Char → Leaf → List Char → Prop} {room : Nat}
    {text rest : List Char} {tree : Tree Leaf}
    (derives : Derives relation .unary room text tree rest) (kind : Connective) :
    Derives relation (.chain kind) room text tree rest := by
  cases kind with
  | and => exact .first derives
  | or => exact .first (.first derives)

theorem Derives.of_primary {relation : List Char → Leaf → List Char → Prop} {room : Nat}
    {text rest : List Char} {tree : Tree Leaf}
    (derives : Derives relation .primary room text tree rest) (level : Level) :
    Derives relation level room text tree rest := by
  cases level with
  | primary => exact derives
  | unary => exact .plain derives
  | chain kind => exact Derives.of_unary (.plain derives) kind

/-- A term of a level is a term of every looser level. -/
theorem Derives.loosen {relation : List Char → Leaf → List Char → Prop} {level looser : Level}
    {room : Nat} {text rest : List Char} {tree : Tree Leaf}
    (derives : Derives relation level room text tree rest)
    (loose : level.looseness ≤ looser.looseness) :
    Derives relation looser room text tree rest := by
  cases level with
  | primary => exact derives.of_primary looser
  | unary =>
    cases looser with
    | primary => exact absurd loose (by decide)
    | unary => exact derives
    | chain kind => exact derives.of_unary kind
  | chain kind =>
    cases looser with
    | primary => exact absurd loose (by cases kind <;> decide)
    | unary => exact absurd loose (by cases kind <;> decide)
    | chain looserKind =>
      cases kind <;> cases looserKind
      · exact derives
      · exact .first derives
      · exact absurd loose (by decide)
      · exact derives

/-- With room for the given number of groups, the text denotes the tree whatever spaces stand
behind it. -/
def Denotes (groups : Nat) (level : Level) (text : List Char) (term : Term) : Prop :=
  ∀ ⦃room : Nat⦄ ⦃behind rest : List Char⦄, groups ≤ room → Spaces behind rest →
    Derives DerivesValidAtom level room (text ++ behind) term rest

/-- A term stands at a level as it is if the level is loose enough, and in a group if not. -/
theorem Denotes.bracketAt {groups : Nat} {text : List Char} {term : Term} (level : Level)
    (denotes : Denotes groups (treeLevel term) text term) :
    Denotes (groupsAt level term groups) level (bracketAt level term text) term := by
  intro room behind rest fits spaces
  unfold groupsAt at fits
  unfold Query.bracketAt
  by_cases tight : needsBrackets level term = true
  · rw [if_pos tight] at fits ⊢
    obtain ⟨roomInside, rfl⟩ : ∃ roomInside, room = roomInside + 1 := ⟨room - 1, by omega⟩
    have inside : Derives DerivesValidAtom (.chain .or) roomInside
        (text ++ ')' :: behind) term (')' :: behind) :=
      (denotes (by omega) (spaces_refl _)).loosen (Level.looseness_le _)
    have group : Derives DerivesValidAtom .primary (roomInside + 1)
        ('(' :: (text ++ [')']) ++ behind) term rest :=
      .group ⟨_, by simp, spaces_refl _⟩ inside ⟨behind, rfl, spaces⟩
    exact group.of_primary level
  · rw [if_neg tight] at fits ⊢
    exact (denotes fits spaces).loosen (Nat.not_lt.mp fun tighter => tight (by
      simpa [needsBrackets] using tighter))

theorem derivesWord_cons {word : String} (text : List Char) :
    DerivesWord word (word.toList ++ ' ' :: text) text :=
  ⟨_, rfl, endsWord_cons text, spaces_cons text⟩

/-- The query of a term denotes the term, with room for the groups that it opens. -/
theorem denotes_write {term : Term} (writable : IsWritable term) :
    Denotes (groups term) (treeLevel term) (write term) term := by
  induction term with
  | join kind left right leftHypothesis rightHypothesis =>
    intro room behind rest fits spaces
    have leftDenotes := (leftHypothesis fun atom member =>
      writable atom (List.mem_append_left _ member)).bracketAt (.chain kind)
    have rightDenotes := (rightHypothesis fun atom member =>
      writable atom (List.mem_append_right _ member)).bracketAt (.operand kind)
    simp only [groups, Nat.max_le] at fits
    have textEq : write (.join kind left right) ++ behind =
        bracketAt (.chain kind) left (write left) ++ ' ' :: (kind.word.toList ++ ' ' ::
          (bracketAt (.operand kind) right (write right) ++ behind)) := by
      simp [write]
    rw [textEq]
    exact .join (leftDenotes fits.1 (spaces_cons _)) (derivesWord_cons _)
      (rightDenotes fits.2 spaces)
  | negate operand inductionHypothesis =>
    intro room behind rest fits spaces
    have denotes := (inductionHypothesis writable).bracketAt .primary
    have textEq : write (.negate operand) ++ behind =
        negationWord.toList ++ ' ' :: (bracketAt .primary operand (write operand) ++ behind) := by
      simp [write]
    rw [textEq]
    exact .negate (derivesWord_cons _) (denotes fits spaces)
  | leaf atom =>
    intro room behind rest _ spaces
    exact .leaf (derivesValidAtom_write (writable atom (by simp [Tree.leaves])) spaces)

/-! ### Folding what is written -/

theorem isSmall_cons {character : Char} {text : List Char} :
    IsSmall (character :: text) ↔ lowercase character = [character] ∧ IsSmall text :=
  List.forall_mem_cons

theorem isSmall_append {front back : List Char} :
    IsSmall (front ++ back) ↔ IsSmall front ∧ IsSmall back :=
  List.forall_mem_append

/-- Folding leaves a text in small letters alone. -/
theorem fold_eq_self {text : List Char} (small : IsSmall text) : fold text = text := by
  have after : ∀ before, foldAfter before text = text := by
    induction text with
    | nil => exact fun _ => rfl
    | cons character rest inductionHypothesis =>
      intro before
      obtain ⟨alone, smallRest⟩ := isSmall_cons.mp small
      have notSigma : character ≠ 'Σ' := by
        rintro rfl
        exact absurd alone (by decide)
      rw [foldAfter, foldCharacter, if_neg notSigma, alone, inductionHypothesis smallRest]
      rfl
  exact after []

theorem isSmall_writeValue {value : String} (small : IsSmall value.toList) :
    IsSmall (writeValue value) := by
  have quoted : ∀ quote ∈ ['"', '\''], IsSmall (quote :: (value.toList ++ [quote])) := by
    intro quote member
    have quoteSmall : lowercase quote = [quote] :=
      (show IsSmall ['"', '\''] from by decide) quote member
    exact isSmall_cons.mpr ⟨quoteSmall, isSmall_append.mpr
      ⟨small, isSmall_cons.mpr ⟨quoteSmall, fun _ impossible => nomatch impossible⟩⟩⟩
  unfold writeValue
  by_cases holds : '"' ∈ value.toList
  · rw [if_pos holds]
    exact quoted '\'' (by decide)
  · rw [if_neg holds]
    exact quoted '"' (by decide)

theorem isSmall_writeItems {values : List String}
    (small : ∀ value ∈ values, IsSmall value.toList) : IsSmall (writeItems values) := by
  cases values with
  | nil => exact fun _ impossible => nomatch impossible
  | cons value values =>
    refine isSmall_append.mpr ⟨isSmall_writeValue (small value List.mem_cons_self), ?_⟩
    intro character member
    obtain ⟨next, nextMember, member⟩ := List.mem_flatMap.mp member
    have nextSmall : IsSmall (',' :: writeValue next) := isSmall_cons.mpr
      ⟨by decide, isSmall_writeValue (small next (List.mem_cons_of_mem _ nextMember))⟩
    exact nextSmall character member

theorem isSmall_writeAtom {atom : Atom} (writable : IsWritableAtom atom) :
    IsSmall (writeAtom atom) := by
  have name : IsSmall atom.field.name.toList := by
    cases atom.field <;> decide
  have sign : IsSmall atom.operator.spelling.toList := by
    cases atom.operator with
    | comparison sign => cases sign <;> decide
    | membership sign => cases sign <;> decide
  have operand : IsSmall (writeOperand atom) := by
    cases atom with
    | single field sign value =>
      exact isSmall_writeValue (writable.2.2 value List.mem_cons_self).2
    | list field sign values =>
      exact isSmall_cons.mpr ⟨by decide, isSmall_append.mpr
        ⟨isSmall_writeItems fun value member => (writable.2.2 value member).2, by decide⟩⟩
  exact isSmall_append.mpr ⟨name, isSmall_cons.mpr ⟨by decide, isSmall_append.mpr
    ⟨sign, isSmall_cons.mpr ⟨by decide, operand⟩⟩⟩⟩

theorem isSmall_bracketAt (level : Level) (tree : Tree Leaf) {text : List Char}
    (small : IsSmall text) : IsSmall (bracketAt level tree text) := by
  unfold bracketAt
  split
  · exact isSmall_cons.mpr ⟨by decide, isSmall_append.mpr ⟨small, by decide⟩⟩
  · exact small

theorem isSmall_write {term : Term} (writable : IsWritable term) : IsSmall (write term) := by
  induction term with
  | join kind left right leftHypothesis rightHypothesis =>
    have leftSmall := isSmall_bracketAt (.chain kind) left <| leftHypothesis fun atom member =>
      writable atom (List.mem_append_left _ member)
    have rightSmall := isSmall_bracketAt (.operand kind) right <|
      rightHypothesis fun atom member => writable atom (List.mem_append_right _ member)
    have wordSmall : IsSmall kind.word.toList := by
      cases kind <;> decide
    exact isSmall_append.mpr ⟨leftSmall, isSmall_cons.mpr ⟨by decide, isSmall_append.mpr
      ⟨wordSmall, isSmall_cons.mpr ⟨by decide, rightSmall⟩⟩⟩⟩
  | negate operand inductionHypothesis =>
    have operandSmall := isSmall_bracketAt .primary operand (inductionHypothesis writable)
    have wordSmall : IsSmall negationWord.toList := by decide
    exact isSmall_append.mpr ⟨wordSmall, isSmall_cons.mpr ⟨by decide, operandSmall⟩⟩
  | leaf atom => exact isSmall_writeAtom (writable atom (by simp [Tree.leaves]))

/-! ### Writing and parsing -/

/-- A term that can be written within the limit on open groups is read back from its query. -/
theorem parse_write (term : Term) (writable : IsWritable term) (shallow : groups term ≤ 64) :
    parse (String.ofList (write term)) = .ok term := by
  rw [parse_eq_ok_iff, String.toList_ofList, fold_eq_self (isSmall_write writable)]
  have derives := (denotes_write writable shallow (spaces_refl [])).loosen (Level.looseness_le _)
  rw [List.append_nil] at derives
  exact readTerm_eq_ok_iff.mpr ⟨write term, spaces_refl _, derives⟩

/-- A term whose right operands need brackets, with both kinds of quotes, brackets and words of
the grammar in its values. -/
def bracketedTerm : Term :=
  let quotes := Term.single .title .contains "a \"b\" (ö)"
  let page := Term.single .type .equals "page"
  .and (.and (.negate (.or quotes (Term.single .parent .equals "")))
      (Term.list .label .notIn ["it's", "x y"]))
    (.and (.negate (.negate page)) (Term.single .title .notEquals "or 中"))

theorem parse_write_bracketedTerm :
    IsWritable bracketedTerm ∧ groups bracketedTerm ≤ 64 ∧
      parse (String.ofList (write bracketedTerm)) = .ok bracketedTerm :=
  have writable : IsWritable bracketedTerm := by decide +kernel
  have shallow : groups bracketedTerm ≤ 64 := by decide
  ⟨writable, shallow, parse_write bracketedTerm writable shallow⟩

example : String.ofList (write bracketedTerm) =
    "not (title ~ 'a \"b\" (ö)' or parent = \"\") and label not in (\"it's\",\"x y\") and " ++
      "(not (not type = \"page\") and title != \"or 中\")" := by decide +kernel

end ContentQuery.Query
