/-
This file proves that decoding JSON is unambiguous and undoes encoding. A node does not name
its kind, and the kinds share the names of their fields, but no two kinds share the word of an
operator. Whether a node is written as an object or as an array, every kind looks for the
operator at one and the same component. That component alone settles which kind can fit, so
the order in which the kinds are tried does not matter.

An encoded node fits its own kind by construction, and by the same argument no other kind gets
in its way.
-/

import ContentQuery.Term.Decode
import ContentQuery.Term.Json

namespace ContentQuery

/-! ### The operator of a node -/

/-- The component of a node that holds its operator. -/
def Parts.operator? : Parts → Option Part
  | named members => List.lookup "operator" members
  | placed items => items.head?

/-- What is found by its name has that name. -/
theorem mem_map_of_find? {Item : Type} {items : List Item} {name : Item → String}
    {word : String} {item : Item} (found : items.find? (name · == word) = some item) :
    word ∈ items.map name := by
  have named := List.find?_some found
  exact List.mem_map.mpr ⟨item, List.mem_of_find?_eq_some found, eq_of_beq named⟩

namespace Kind

theorem mem_all (kind : Kind) : kind ∈ all := by
  cases kind <;> decide

/-- The words that the operators of a kind are written with. -/
def operatorWords : Kind → List String
  | join => Connective.all.map Connective.word
  | negate => [negationWord]
  | single => Comparison.all.map Comparison.symbol
  | list => Membership.all.map Membership.name

/-- A word is the operator of one kind at most. -/
theorem eq_of_mem_operatorWords {first second : Kind} {word : String}
    (inFirst : word ∈ first.operatorWords) (inSecond : word ∈ second.operatorWords) :
    first = second := by
  have disjoint : ∀ first ∈ all, ∀ second ∈ all, ∀ word ∈ first.operatorWords,
      word ∈ second.operatorWords → first = second := by decide
  exact disjoint first first.mem_all second second.mem_all word inFirst inSecond

/-- The fields of a node begin with an operator of its kind. -/
theorem exists_operator_of_assemble {kind : Kind} {fields : List Part} {term : Term}
    (assembles : kind.assemble fields = some term) :
    ∃ operator rest word, fields = operator :: rest ∧ operator.value.word? = some word ∧
      word ∈ kind.operatorWords := by
  unfold assemble at assembles
  split at assembles
  · rename_i operator left right
    obtain ⟨connective, names, _⟩ := Option.bind_eq_some_iff.mp assembles
    obtain ⟨word, isWord, found⟩ := Option.bind_eq_some_iff.mp names
    exact ⟨operator, [left, right], word, rfl, isWord, mem_map_of_find? found⟩
  · rename_i operator operand
    split at assembles
    · rename_i negates
      exact ⟨operator, [operand], negationWord, rfl, eq_of_beq negates, List.mem_singleton_self _⟩
    · cases assembles
  · rename_i operator field value
    obtain ⟨comparison, names, _⟩ := Option.bind_eq_some_iff.mp assembles
    obtain ⟨word, isWord, found⟩ := Option.bind_eq_some_iff.mp names
    exact ⟨operator, [field, value], word, rfl, isWord, mem_map_of_find? found⟩
  · rename_i operator field values
    obtain ⟨membership, names, _⟩ := Option.bind_eq_some_iff.mp assembles
    obtain ⟨word, isWord, found⟩ := Option.bind_eq_some_iff.mp names
    exact ⟨operator, [field, values], word, rfl, isWord, mem_map_of_find? found⟩
  · cases assembles

/-- In an object and in an array, the first field of every kind is the operator of the node. -/
theorem operator?_of_select {kind : Kind} {parts : Parts} {operator : Part} {rest : List Part}
    (selects : parts.select kind.fields = some (operator :: rest)) :
    parts.operator? = some operator := by
  obtain ⟨names, fieldsEq⟩ : ∃ names, kind.fields = "operator" :: names := by
    cases kind <;> exact ⟨_, rfl⟩
  rw [fieldsEq] at selects
  cases parts with
  | named members =>
    rw [Parts.select, List.mapM_cons] at selects
    obtain ⟨found, looksUp, selects⟩ := Option.bind_eq_some_iff.mp selects
    obtain ⟨_, _, same⟩ := Option.bind_eq_some_iff.mp selects
    cases same
    exact looksUp
  | placed items =>
    rw [Parts.select] at selects
    split at selects
    · cases selects
      rfl
    · cases selects

/-- A node that fits a kind has an operator of that kind. -/
theorem exists_operator_of_ofParts? {kind : Kind} {parts : Parts} {term : Term}
    (fits : kind.ofParts? parts = some term) :
    ∃ operator word, parts.operator? = some operator ∧ operator.value.word? = some word ∧
      word ∈ kind.operatorWords := by
  obtain ⟨fields, selects, assembles⟩ := Option.bind_eq_some_iff.mp fits
  obtain ⟨operator, rest, word, rfl, isWord, member⟩ := exists_operator_of_assemble assembles
  exact ⟨operator, word, operator?_of_select selects, isWord, member⟩

/-- A node fits one kind at most. -/
theorem eq_of_ofParts? {first second : Kind} {parts : Parts} {left right : Term}
    (fitsFirst : first.ofParts? parts = some left)
    (fitsSecond : second.ofParts? parts = some right) : first = second := by
  obtain ⟨operator, word, isOperator, isWord, inFirst⟩ := exists_operator_of_ofParts? fitsFirst
  obtain ⟨other, otherWord, isOther, isOtherWord, inSecond⟩ :=
    exists_operator_of_ofParts? fitsSecond
  obtain rfl : operator = other := Option.some.inj (isOperator.symm.trans isOther)
  obtain rfl : word = otherWord := Option.some.inj (isWord.symm.trans isOtherWord)
  exact eq_of_mem_operatorWords inFirst inSecond

/-! ### The order of the kinds -/

/-- The first kind that fits is the only one that fits, if no kind is left out. -/
theorem firstOfParts?_eq_some_iff {order : List Kind} (complete : ∀ kind, kind ∈ order)
    {parts : Parts} {term : Term} :
    firstOfParts? order parts = some term ↔ ∃ kind : Kind, kind.ofParts? parts = some term := by
  constructor
  · intro found
    obtain ⟨kind, _, fits⟩ := List.exists_of_findSome?_eq_some found
    exact ⟨kind, fits⟩
  · rintro ⟨kind, fits⟩
    cases found : firstOfParts? order parts with
    | none =>
      have misfits := List.findSome?_eq_none_iff.mp found kind (complete kind)
      rw [fits] at misfits
      cases misfits
    | some other =>
      obtain ⟨first, _, fitsFirst⟩ := List.exists_of_findSome?_eq_some found
      obtain rfl := eq_of_ofParts? fitsFirst fits
      exact fitsFirst.symm.trans fits

end Kind

namespace Term

variable {order : List Kind}

mutual

/-- A value decodes to the same term in every order that leaves out no kind. -/
theorem ofJsonIn?_of_complete (complete : ∀ kind, kind ∈ order) (value : Json) :
    ofJsonIn? order value = ofJson? value := by
  cases value with
  | array items =>
    rw [ofJson?, ofJsonIn?, ofJsonIn?, itemParts_of_complete complete items]
    exact Option.ext fun term => (Kind.firstOfParts?_eq_some_iff complete).trans
      (Kind.firstOfParts?_eq_some_iff Kind.mem_all).symm
  | object members =>
    rw [ofJson?, ofJsonIn?, ofJsonIn?, memberParts_of_complete complete members]
    exact Option.ext fun term => (Kind.firstOfParts?_eq_some_iff complete).trans
      (Kind.firstOfParts?_eq_some_iff Kind.mem_all).symm
  | null => rfl
  | bool _ => rfl
  | number _ => rfl
  | string _ => rfl

theorem itemParts_of_complete (complete : ∀ kind, kind ∈ order) (items : List Json) :
    itemParts order items = itemParts Kind.all items := by
  cases items with
  | nil => rfl
  | cons item rest =>
    rw [itemParts, itemParts, ofJsonIn?_of_complete complete item,
      itemParts_of_complete complete rest]
    rfl

theorem memberParts_of_complete (complete : ∀ kind, kind ∈ order)
    (members : List (String × Json)) :
    memberParts order members = memberParts Kind.all members := by
  cases members with
  | nil => rfl
  | cons member rest =>
    obtain ⟨name, value⟩ := member
    rw [memberParts, memberParts, ofJsonIn?_of_complete complete value,
      memberParts_of_complete complete rest]
    rfl

end

/-- A value decodes as one kind of node at most, whatever it is nested in. So the term that it
decodes to, if any, does not depend on the order in which the kinds are tried. -/
theorem ofJson?_unambiguous :
    (∀ (value : Json) (first second : Kind) (left right : Term),
      ofJsonAs? first value = some left → ofJsonAs? second value = some right →
        first = second) ∧
    ∀ order : List Kind, order.Perm Kind.all → ∀ value : Json,
      ofJsonIn? order value = ofJson? value := by
  refine ⟨fun value first second left right asFirst asSecond => ?_, fun order permutes => ?_⟩
  · obtain ⟨parts, isNode, fitsFirst⟩ := Option.bind_eq_some_iff.mp asFirst
    obtain ⟨others, isOther, fitsSecond⟩ := Option.bind_eq_some_iff.mp asSecond
    obtain rfl : parts = others := Option.some.inj (isNode.symm.trans isOther)
    exact Kind.eq_of_ofParts? fitsFirst fitsSecond
  · exact ofJsonIn?_of_complete fun kind => permutes.mem_iff.mpr kind.mem_all

/-- An object with the fields of every kind, an array and a word that is spelled out in it. -/
def crowdedValue : Json :=
  .object [("term", .string "x"), ("value", .array []), ("field", .string "label"),
    ("operator", .object [("or", .null)]),
    ("term1", .array [.string "=", .string "title", .string "x"]),
    ("term2", .array [.string "not", .array [.string "in", .string "label", .array []]])]

/-- The term that `crowdedValue` decodes to. -/
def crowdedTerm : Term :=
  .or (single .title .equals "x") (.negate (list .label .isIn []))

theorem ofJson?_crowdedValue :
    ofJsonAs? .join crowdedValue = some crowdedTerm ∧
      (∀ kind term, ofJsonAs? kind crowdedValue = some term → .join = kind) ∧
      [Kind.list, .single, .negate, .join].Perm Kind.all ∧
      ofJsonIn? [.list, .single, .negate, .join] crowdedValue = ofJson? crowdedValue := by
  have asJoin : ofJsonAs? .join crowdedValue = some crowdedTerm := by decide +kernel
  have permutes : [Kind.list, .single, .negate, .join].Perm Kind.all := by decide
  exact ⟨asJoin, fun kind term => ofJson?_unambiguous.1 crowdedValue .join kind crowdedTerm term
    asJoin, permutes, ofJson?_unambiguous.2 _ permutes crowdedValue⟩

/-! ### Encoding and decoding -/

/-- A value decodes to a term just where it decodes to that term as some kind of node. -/
theorem ofJson?_eq_some_iff {value : Json} {term : Term} :
    ofJson? value = some term ↔ ∃ kind, ofJsonAs? kind value = some term := by
  cases value with
  | array items => exact Kind.firstOfParts?_eq_some_iff Kind.mem_all
  | object members => exact Kind.firstOfParts?_eq_some_iff Kind.mem_all
  | null => exact ⟨nofun, nofun⟩
  | bool _ => exact ⟨nofun, nofun⟩
  | number _ => exact ⟨nofun, nofun⟩
  | string _ => exact ⟨nofun, nofun⟩

/-- The kind of a term's root. -/
def rootKind : Term → Kind
  | .join _ _ _ => .join
  | .negate _ => .negate
  | .leaf (.single _ _ _) => .single
  | .leaf (.list _ _ _) => .list

/-- A term is decoded from its JSON form as a node of its own kind. -/
theorem ofJsonAs?_toJson (term : Term) : ofJsonAs? term.rootKind (toJson term) = some term := by
  induction term with
  | join connective left right leftHypothesis rightHypothesis =>
    have leftDecodes := ofJson?_eq_some_iff.mpr ⟨_, leftHypothesis⟩
    have rightDecodes := ofJson?_eq_some_iff.mpr ⟨_, rightHypothesis⟩
    have named : Connective.ofJson? (.string connective.word) = some connective :=
      Connective.ofWord?_word connective
    show Kind.assemble .join [⟨.string connective.word, _⟩, ⟨toJson left, ofJson? (toJson left)⟩,
      ⟨toJson right, ofJson? (toJson right)⟩] = _
    rw [Kind.assemble, named, leftDecodes, rightDecodes]
    rfl
  | negate operand inductionHypothesis =>
    have decodes := ofJson?_eq_some_iff.mpr ⟨_, inductionHypothesis⟩
    show (ofJson? (toJson operand)).map Tree.negate = _
    rw [decodes]
    rfl
  | leaf atom =>
    cases atom with
    | single field comparison value =>
      have named : Comparison.ofJson? (.string comparison.symbol) = some comparison :=
        Comparison.ofSymbol?_symbol comparison
      have fieldNamed : Field.ofJson? (.string field.name) = some field := Field.ofName?_name field
      show Kind.assemble .single [⟨.string comparison.symbol, _⟩, ⟨.string field.name, _⟩,
        ⟨.string value, _⟩] = _
      rw [Kind.assemble, named, fieldNamed]
      rfl
    | list field membership values =>
      have named : Membership.ofJson? (.string membership.name) = some membership :=
        Membership.ofName?_name membership
      have fieldNamed : Field.ofJson? (.string field.name) = some field := Field.ofName?_name field
      show Kind.assemble .list [⟨.string membership.name, _⟩, ⟨.string field.name, _⟩,
        ⟨.ofTexts values, _⟩] = _
      rw [Kind.assemble, named, fieldNamed, Json.texts?_ofTexts]
      rfl

/-- Every term is decoded from its JSON form, whether or not its atoms are valid. -/
theorem ofJson?_toJson (term : Term) : ofJson? (toJson term) = some term :=
  ofJson?_eq_some_iff.mpr ⟨rootKind term, ofJsonAs?_toJson term⟩

end Term

end ContentQuery
