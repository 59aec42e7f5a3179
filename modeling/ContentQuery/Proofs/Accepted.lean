/-
This file proves what an accepted query promises of its term. Every atom keeps the restrictions
of its field, which are said here field by field and without the table that the parser goes by.
And every value is a piece of the folded query: from leaf to leaf and from item to item, the
values stand in the query one after another, and some text is left between any two of them.

The pieces are found along the derivation of the query. A field and its operator stand before
the first value of an atom, and a comma before every further one, so even two empty values
stand at two places.
-/

import ContentQuery.Proofs.Folding

namespace ContentQuery.Query

open Text

/-! ### Restrictions on atoms -/

/-- What is promised of an atom. -/
structure IsProper (atom : Atom) : Prop where
  /-- Only a title can be asked to contain a text. -/
  containment : atom.operator = .comparison .contains ∨
    atom.operator = .comparison .notContains → atom.field = .title
  /-- Parents and titles are not looked for in lists. -/
  membership : ∀ sign, atom.operator = .membership sign →
    atom.field ≠ .parent ∧ atom.field ≠ .title
  /-- Parents and ancestors are given by digits. -/
  digits : atom.field = .parent ∨ atom.field = .ancestor → ∀ value ∈ atom.values,
    ∀ character ∈ value.toList, '0' ≤ character ∧ character ≤ '9'
  /-- Spaces and creators are given by letters and digits, and by at least one. -/
  alphanumeric : atom.field = .space ∨ atom.field = .creator → ∀ value ∈ atom.values,
    value ≠ "" ∧ ∀ character ∈ value.toList,
      'a' ≤ character ∧ character ≤ 'z' ∨ '0' ≤ character ∧ character ≤ '9'
  /-- Labels are free of the characters with a meaning in text searches. -/
  label : atom.field = .label → ∀ value ∈ atom.values, ∀ character ∈ value.toList,
    character ∉ ['!', '#', '&', '(', ')', '*', ',', '.', ':', ';', '<', '>', '@', '[', ']', '^']
  /-- There are four types of content. -/
  type : atom.field = .type → ∀ value ∈ atom.values,
    value = "page" ∨ value = "attachment" ∨ value = "comment" ∨ value = "blogpost"
  /-- A list holds a value. -/
  list : ∀ field sign values, atom = .list field sign values → values ≠ []

theorem bounds_of_isDigit {character : Char} (digit : character.isDigit = true) :
    '0' ≤ character ∧ character ≤ '9' :=
  (Bool.and_eq_true_iff.mp digit).imp of_decide_eq_true of_decide_eq_true

theorem bounds_of_isLower {character : Char} (lower : character.isLower = true) :
    'a' ≤ character ∧ character ≤ 'z' :=
  (Bool.and_eq_true_iff.mp lower).imp of_decide_eq_true of_decide_eq_true

theorem forall_of_admits_digits {value : String} (suits : ValueShape.digits.admits value = true) :
    ∀ character ∈ value.toList, '0' ≤ character ∧ character ≤ '9' :=
  fun character member => bounds_of_isDigit (List.all_eq_true.mp suits character member)

theorem forall_of_admits_alphanumeric {value : String}
    (suits : ValueShape.alphanumeric.admits value = true) :
    value ≠ "" ∧ ∀ character ∈ value.toList,
      'a' ≤ character ∧ character ≤ 'z' ∨ '0' ≤ character ∧ character ≤ '9' := by
  obtain ⟨hasOne, all⟩ := Bool.and_eq_true_iff.mp suits
  refine ⟨fun empty => ?_, fun character member => ?_⟩
  · rw [empty] at hasOne
    cases hasOne
  · have either := Bool.or_eq_true_iff.mp (List.all_eq_true.mp all character member)
    exact either.imp bounds_of_isLower bounds_of_isDigit

theorem forall_of_admits_label {value : String} (suits : ValueShape.label.admits value = true) :
    ∀ character ∈ value.toList, character ∉
      ['!', '#', '&', '(', ')', '*', ',', '.', ':', ';', '<', '>', '@', '[', ']', '^'] := by
  intro character member
  have free := List.all_eq_true.mp suits character member
  have reserved : reservedInLabels =
      ['!', '#', '&', '(', ')', '*', ',', '.', ':', ';', '<', '>', '@', '[', ']', '^'] := by
    decide
  simpa [reserved] using free

theorem eq_of_admits_contentTypes {value : String}
    (suits : (ValueShape.oneOf contentTypes).admits value = true) :
    value = "page" ∨ value = "attachment" ∨ value = "comment" ∨ value = "blogpost" := by
  simpa [contentTypes] using List.contains_iff_mem.mp suits

/-- A valid atom with a value keeps all restrictions. -/
theorem isProper_of_isValid {atom : Atom} (valid : atom.isValid = true)
    (nonempty : atom.values ≠ []) : IsProper atom := by
  obtain ⟨allowed, admitted⟩ := Bool.and_eq_true_iff.mp valid
  have admits := List.all_eq_true.mp admitted
  constructor
  case containment =>
    intro asks
    have contains : atom.field.allowsContainment = true := by
      rcases asks with isOperator | isOperator
      · rwa [isOperator] at allowed
      · rwa [isOperator] at allowed
    revert contains
    cases atom.field <;> decide
  case membership =>
    intro sign isOperator
    have lists : atom.field.allowsMembership = true := by
      rwa [isOperator] at allowed
    revert lists
    cases atom.field <;> decide
  case digits =>
    intro isField value member
    have suits := admits value member
    rcases isField with isField | isField
    · rw [isField] at suits
      exact forall_of_admits_digits suits
    · rw [isField] at suits
      exact forall_of_admits_digits suits
  case alphanumeric =>
    intro isField value member
    have suits := admits value member
    rcases isField with isField | isField
    · rw [isField] at suits
      exact forall_of_admits_alphanumeric suits
    · rw [isField] at suits
      exact forall_of_admits_alphanumeric suits
  case label =>
    intro isField value member
    have suits := admits value member
    rw [isField] at suits
    exact forall_of_admits_label suits
  case type =>
    intro isField value member
    have suits := admits value member
    rw [isField] at suits
    exact eq_of_admits_contentTypes suits
  case list =>
    rintro field sign values rfl
    exact nonempty

/-! ### Pieces of a text -/

/-- The pieces stand in the text before the rest, one after another, with some text before
each of them. -/
inductive Strewn : List Char → List (List Char) → List Char → Prop where
  /-- There are no pieces. -/
  | none {text rest : List Char} (suffix : rest <:+ text) : Strewn text [] rest
  /-- A piece behind some text, and further pieces. -/
  | piece {skipped piece text rest : List Char} {pieces : List (List Char)}
      (nonempty : skipped ≠ []) (further : Strewn text pieces rest) :
    Strewn (skipped ++ (piece ++ text)) (piece :: pieces) rest

theorem Strewn.of_suffix {whole text rest : List Char} {pieces : List (List Char)}
    (suffix : text <:+ whole) (strewn : Strewn text pieces rest) : Strewn whole pieces rest := by
  obtain ⟨front, rfl⟩ := suffix
  cases strewn with
  | none inner => exact .none (inner.trans (List.suffix_append front text))
  | piece nonempty further =>
    rw [← List.append_assoc]
    exact .piece (List.append_ne_nil_of_right_ne_nil front nonempty) further

theorem Strewn.append {text middle rest : List Char} {front back : List (List Char)}
    (strewn : Strewn text front middle) (next : Strewn middle back rest) :
    Strewn text (front ++ back) rest := by
  induction strewn with
  | none suffix => exact next.of_suffix suffix
  | piece nonempty _ inductionHypothesis => exact .piece nonempty (inductionHypothesis next)

/-- Pieces that stand before the end of a text stand there whatever follows the text. -/
theorem Strewn.append_text {text rest : List Char} {pieces : List (List Char)}
    (strewn : Strewn text pieces rest) (behind : List Char) :
    Strewn (text ++ behind) pieces (rest ++ behind) := by
  induction strewn with
  | none suffix =>
    obtain ⟨front, rfl⟩ := suffix
    exact .none ⟨front, by rw [List.append_assoc]⟩
  | piece nonempty _ inductionHypothesis =>
    rw [List.append_assoc, List.append_assoc]
    exact .piece nonempty inductionHypothesis

/-- The piece stands in the text, at the given number of bytes from its start. -/
def StandsAt (text : List Char) (offset : Nat) (piece : List Char) : Prop :=
  ∃ before behind, text = before ++ (piece ++ behind) ∧ offset = utf8Length before

theorem utf8Length_pos {text : List Char} (nonempty : text ≠ []) : 0 < utf8Length text := by
  obtain ⟨character, rest, rfl⟩ := List.exists_cons_of_ne_nil nonempty
  exact Nat.add_pos_left character.utf8Size_pos _

/-- The places of pieces ascend, and every piece ends before the next one begins. -/
theorem Strewn.exists_places {text rest : List Char} {pieces : List (List Char)}
    (strewn : Strewn text pieces rest) (front : List Char) :
    ∃ places : List (Nat × List Char), places.map Prod.snd = pieces ∧
      (∀ place ∈ places, StandsAt (front ++ text) place.1 place.2 ∧ utf8Length front < place.1) ∧
      places.Pairwise fun earlier later => earlier.1 + utf8Length earlier.2 < later.1 := by
  induction strewn generalizing front with
  | none _ => exact ⟨[], rfl, nofun, .nil⟩
  | @piece skipped piece text rest pieces nonempty _ inductionHypothesis =>
    obtain ⟨places, rfl, stand, ascend⟩ := inductionHypothesis (front ++ skipped ++ piece)
    have positive := utf8Length_pos nonempty
    have textEq : front ++ skipped ++ piece ++ text = front ++ (skipped ++ (piece ++ text)) := by
      simp only [List.append_assoc]
    rw [textEq] at stand
    simp only [utf8Length_append] at stand
    refine ⟨(utf8Length (front ++ skipped), piece) :: places, rfl, ?_, ?_⟩
    · refine List.forall_mem_cons.mpr ⟨⟨⟨front ++ skipped, text, by simp, rfl⟩, ?_⟩, ?_⟩
      · rw [utf8Length_append]
        omega
      · intro place member
        obtain ⟨stands, behind⟩ := stand place member
        exact ⟨stands, by omega⟩
    · refine .cons (fun place member => ?_) ascend
      rw [utf8Length_append]
      exact (stand place member).2

/-! ### Where values come from -/

theorem Spaces.suffix {text rest : List Char} (spaces : Spaces text rest) : rest <:+ text := by
  obtain ⟨count, rfl⟩ := spaces
  exact List.suffix_append _ _

theorem DerivesWord.suffix {word : String} {text rest : List Char}
    (derives : DerivesWord word text rest) : rest <:+ text := by
  obtain ⟨behind, rfl, _, spaces⟩ := derives
  exact spaces.suffix.trans (List.suffix_append _ _)

theorem DerivesBracket.suffix {bracket : Char} {text rest : List Char}
    (derives : DerivesBracket bracket text rest) : rest <:+ text := by
  obtain ⟨behind, rfl, spaces⟩ := derives
  exact spaces.suffix.trans (List.suffix_cons _ _)

theorem DerivesOperator.suffix {operator : Operator} {text rest : List Char}
    (derives : DerivesOperator text operator rest) : rest <:+ text := by
  cases derives with
  | comparison sign rest => exact List.suffix_append _ _
  | isIn _ => exact List.suffix_append _ _
  | notIn spaces _ =>
    exact (List.suffix_append _ _).trans (spaces.suffix.trans (List.suffix_append _ _))

/-- Behind at least one character, a quoted value stands in the text as it is. -/
theorem DerivesQuoted.strewn {text value rest : List Char} (between : DerivesQuoted text value rest)
    (first : Char) : Strewn (first :: text) [value] rest := by
  cases between with
  | @between quote _ _ _ _ =>
    exact .piece (List.cons_ne_nil first [quote]) (.none (List.suffix_cons _ _))

/-- Behind at least one character, a value without quotes stands in the text as it is. -/
theorem DerivesRun.strewn {stops text value rest : List Char}
    (run : DerivesRun stops text value rest) (first : Char) :
    Strewn (first :: text) [value] rest := by
  rw [run.text_eq]
  exact .piece (List.cons_ne_nil first []) (.none (List.suffix_refl _))

theorem DerivesValue.strewn {text value rest : List Char} (derives : DerivesValue text value rest)
    (first : Char) : Strewn (first :: text) [value] rest := by
  cases derives with
  | quoted between => exact between.strewn first
  | bare run => exact run.strewn first

/-- Behind a text that is not empty, some character stands before every later place. -/
theorem exists_cons_suffix {front text rest : List Char} (nonempty : front ≠ [])
    (suffix : rest <:+ text) : ∃ first, first :: rest <:+ front ++ text := by
  obtain ⟨skipped, rfl⟩ := suffix
  have nonempty := List.append_ne_nil_of_left_ne_nil nonempty skipped
  refine ⟨(front ++ skipped).getLast nonempty, (front ++ skipped).dropLast, ?_⟩
  rw [List.append_cons, List.dropLast_concat_getLast, List.append_assoc]

theorem DerivesItem.strewn {text value rest : List Char} (derives : DerivesItem text value rest)
    (first : Char) : Strewn (first :: text) [value] rest := by
  cases derives with
  | quoted between => exact between.strewn first
  | bare _ run => exact run.strewn first

theorem DerivesSpacedItem.strewn {text value rest : List Char}
    (derives : DerivesSpacedItem text value rest) (first : Char) :
    Strewn (first :: text) [value] rest := by
  obtain ⟨front, back, spacesBefore, item, spacesBehind⟩ := derives
  obtain ⟨last, suffix⟩ := exists_cons_suffix (List.cons_ne_nil first []) spacesBefore.suffix
  exact ((item.strewn last).append (.none spacesBehind.suffix)).of_suffix suffix

theorem DerivesFurtherItems.strewn {text : List Char} {values : List (List Char)}
    (derives : DerivesFurtherItems text values) : Strewn text values [] := by
  induction derives with
  | none => exact .none (List.suffix_refl _)
  | comma next _ inductionHypothesis => exact (next.strewn ',').append inductionHypothesis

/-- The values of a list stand between its brackets. -/
theorem DerivesList.strewn {text rest : List Char} {values : List (List Char)}
    (derives : DerivesList text values rest) : Strewn text values rest := by
  obtain ⟨_, ⟨firstItem, further⟩⟩ := derives
  have inside := ((firstItem.strewn '(').append further.strewn).append_text (')' :: rest)
  have closed := inside.append (.none (List.suffix_cons ')' rest))
  rwa [List.append_nil] at closed

/-- Behind at least one character, the values that an operator takes stand in the text. -/
theorem DerivesOperand.strewn {field : Field} {operator : Operator} {text rest : List Char}
    {atom : Atom} (derives : DerivesOperand field operator text atom rest) (first : Char) :
    Strewn (first :: text) (atom.values.map String.toList) rest := by
  cases derives with
  | single derives =>
    simpa [Atom.values] using derives.strewn first
  | list derives =>
    simpa [Atom.values, Function.comp_def] using derives.strewn.of_suffix (List.suffix_cons first _)

/-- The values of an atom stand in its text, in their order. -/
theorem DerivesAtom.strewn {text rest : List Char} {atom : Atom}
    (derives : DerivesAtom text atom rest) :
    Strewn text (atom.values.map String.toList) rest := by
  obtain ⟨⟨spelling, isSpelling, rfl⟩, fieldSpaces, sign, operatorSpaces, operand, valueSpaces⟩ :=
    derives
  rename_i field _ _ _ _ _ _
  have nonempty : ∀ field ∈ Field.all, ∀ spelling ∈ field.spellings, spelling.toList ≠ [] := by
    decide
  obtain ⟨last, suffix⟩ := exists_cons_suffix (nonempty field field.mem_all spelling isSpelling)
    (operatorSpaces.suffix.trans (sign.suffix.trans fieldSpaces.suffix))
  have stands := (operand.strewn last).append (.none valueSpaces.suffix)
  rw [List.append_nil] at stands
  exact stands.of_suffix suffix

/-- The values of a term stand in its text, from leaf to leaf. -/
theorem Derives.strewn {level : Level} {room : Nat} {text rest : List Char} {term : Term}
    (derives : Derives DerivesValidAtom level room text term rest) :
    Strewn text ((term.leaves.flatMap Atom.values).map String.toList) rest := by
  induction derives with
  | leaf stands => simpa [Tree.leaves] using stands.1.strewn
  | group opens _ closes inductionHypothesis =>
    have stands := inductionHypothesis.append (.none closes.suffix)
    rw [List.append_nil] at stands
    exact stands.of_suffix opens.suffix
  | plain _ inductionHypothesis => exact inductionHypothesis
  | negate word _ inductionHypothesis => exact inductionHypothesis.of_suffix word.suffix
  | first _ inductionHypothesis => exact inductionHypothesis
  | join _ word _ chainHypothesis operandHypothesis =>
    rw [Tree.leaves, List.flatMap_append, List.map_append]
    exact chainHypothesis.append (operandHypothesis.of_suffix word.suffix)

/-! ### Atoms of a term -/

theorem DerivesItems.ne_nil {text : List Char} {values : List (List Char)}
    (derives : DerivesItems text values) : values ≠ [] := by
  obtain ⟨_, _⟩ := derives
  exact List.cons_ne_nil _ _

theorem DerivesAtom.values_ne_nil {text rest : List Char} {atom : Atom}
    (derives : DerivesAtom text atom rest) : atom.values ≠ [] := by
  obtain ⟨_, _, _, _, operand, _⟩ := derives
  cases operand with
  | single _ => exact List.cons_ne_nil _ _
  | list list =>
    obtain ⟨_, items⟩ := list
    exact fun empty => items.ne_nil (List.map_eq_nil_iff.mp empty)

/-- Every leaf of a term is derived as a leaf. -/
theorem Derives.forall_leaves {Leaf : Type} {relation : List Char → Leaf → List Char → Prop}
    {level : Level} {room : Nat} {text rest : List Char} {tree : Tree Leaf}
    (derives : Derives relation level room text tree rest) :
    ∀ content ∈ tree.leaves, ∃ start behind, relation start content behind := by
  induction derives with
  | leaf stands => exact fun content member => List.mem_singleton.mp member ▸ ⟨_, _, stands⟩
  | group _ _ _ inductionHypothesis => exact inductionHypothesis
  | plain _ inductionHypothesis => exact inductionHypothesis
  | negate _ _ inductionHypothesis => exact inductionHypothesis
  | first _ inductionHypothesis => exact inductionHypothesis
  | join _ _ _ chainHypothesis operandHypothesis =>
    exact List.forall_mem_append.mpr ⟨chainHypothesis, operandHypothesis⟩

/-! ### Accepted queries -/

/-- Every atom of an accepted query keeps the restrictions of its field. The values of the
query, from leaf to leaf and in the order of each list, are pieces of the folded query at places
that ascend, each behind the end of the one before, and folding leaves them alone. -/
theorem isProper_and_standsAt_of_parse (query : String) (term : Term)
    (accepted : parse query = .ok term) :
    (∀ atom ∈ term.leaves, IsProper atom) ∧
    (∃ places : List (Nat × List Char),
      places.map Prod.snd = (term.leaves.flatMap Atom.values).map String.toList ∧
      (∀ place ∈ places, StandsAt (fold query.toList) place.1 place.2) ∧
      places.Pairwise fun earlier later => earlier.1 + utf8Length earlier.2 < later.1) ∧
    ∀ value ∈ term.leaves.flatMap Atom.values, fold value.toList = value.toList := by
  obtain ⟨inside, spaces, derives⟩ := readTerm_eq_ok_iff.mp (parse_eq_ok_iff.mp accepted)
  obtain ⟨places, piecesEq, stand, ascend⟩ :=
    (derives.strewn.of_suffix spaces.suffix).exists_places []
  refine ⟨fun atom member => ?_, ⟨places, piecesEq, fun place member => (stand place member).1,
    ascend⟩, fun value member => ?_⟩
  · obtain ⟨_, _, standsAtom, valid⟩ := derives.forall_leaves atom member
    exact isProper_of_isValid valid standsAtom.values_ne_nil
  · have isPiece : value.toList ∈ places.map Prod.snd := by
      rw [piecesEq]
      exact List.mem_map_of_mem member
    obtain ⟨⟨_, _⟩, placeMember, rfl⟩ := List.mem_map.mp isPiece
    obtain ⟨⟨before, behind, textEq, _⟩, _⟩ := stand _ placeMember
    exact fold_of_infix ⟨before, behind, by simpa using textEq.symm⟩

/-- Whether a query is accepted as a term can be computed from what is read. -/
theorem parse_of_toOption {query : String} {term : Term}
    (reads : (readTerm (fold query.toList)).toOption = some term) : parse query = .ok term := by
  refine parse_eq_ok_iff.mpr ?_
  cases outcome : readTerm (fold query.toList) with
  | ok found =>
    rw [outcome] at reads
    exact congrArg Except.ok (Option.some.inj reads)
  | error failure =>
    rw [outcome] at reads
    cases reads

/-- A query with a group, a list, an empty value and capitals that fold to two characters. -/
theorem isProper_and_standsAt_of_parse_instance :
    parse "not (PARENT='' or Space IN (a, \"b\")) and title~İK" = .ok
        (.and (.negate (.or (Term.single .parent .equals "") (Term.list .space .isIn ["a", "b"])))
          (Term.single .title .contains "i̇k")) ∧
      ∃ places : List (Nat × List Char),
        places.map Prod.snd = [[], ['a'], ['b'], ['i', Char.ofNat 0x307, 'k']] ∧
        (∀ place ∈ places, StandsAt
          (fold "not (PARENT='' or Space IN (a, \"b\")) and title~İK".toList) place.1 place.2) ∧
        places.Pairwise fun earlier later => earlier.1 + utf8Length earlier.2 < later.1 := by
  have accepted : parse "not (PARENT='' or Space IN (a, \"b\")) and title~İK" = .ok
      (.and (.negate (.or (Term.single .parent .equals "") (Term.list .space .isIn ["a", "b"])))
        (Term.single .title .contains "i̇k")) :=
    parse_of_toOption (by decide +kernel)
  obtain ⟨_, ⟨places, piecesEq, stand, ascend⟩, _⟩ := isProper_and_standsAt_of_parse _ _ accepted
  refine ⟨accepted, places, piecesEq.trans ?_, stand, ascend⟩
  decide +kernel

end ContentQuery.Query
