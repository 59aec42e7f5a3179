/-
This file proves when the quotes of a list item protect what stands between them. A list ends at
the next closing bracket, whatever quotes are open there, and only then are its items read. So an
item that begins with a quote is read as quoted just if the same quote comes again before that
bracket. If it does not, the quote becomes a part of an item without quotes, and the list ends
within what was meant to be protected.

A list of quoted texts is therefore read as these texts exactly when no closing bracket is among
them. The fields that take lists admit no value with such a bracket, but what is read instead can
be valid.
-/

import ContentQuery.Proofs.Breaks
import ContentQuery.Proofs.Occurrences
import ContentQuery.Proofs.Validation

namespace ContentQuery.Query

open Rule Text

variable {text rest : List Char}

/-! ### Items of an accepted query -/

/-- In the query, which is accepted as the term, an item of a list has the given value. The spot
is what is left of the folded query at the first character of the item. -/
inductive ReadsItem (query : String) : Term → List Char → List Char → Prop where
  /-- A term with a hole for a list, a list with a hole for the item, and the item. -/
  | item {field : Field} {sign : Membership} {build : Atom → Term}
      {inside start listStart spot value behind listEnd rest : List Char}
      {earlier : List (List Char × List Char)} {later : List (List Char)}
      (spaces : Spaces (fold query.toList) inside)
      (around : DerivesAround DerivesValidAtom start rest (.chain .or) depthLimit inside build [])
      (head : DerivesHead field (.membership sign) start listStart)
      (list : DerivesListAround spot behind listStart earlier later listEnd)
      (listSpaces : Spaces listEnd rest) (item : DerivesItem spot value behind)
      (valid : (Atom.list field sign
        ((earlier.map Prod.snd ++ value :: later).map String.ofList)).isValid = true) :
    ReadsItem query (build (.list field sign
      ((earlier.map Prod.snd ++ value :: later).map String.ofList))) (spot ++ ')' :: listEnd) value

/-- Every value of a list is that of an item, with the items for the other values around it. -/
theorem DerivesItems.exists_around {front back : List (List Char)} {value : List Char}
    (items : DerivesItems text (front ++ value :: back)) :
    ∃ earlier spot behind further, earlier.map Prod.snd = front ∧
      DerivesEarlierItems text earlier spot ∧ DerivesItem spot value behind ∧
        Spaces behind further ∧ DerivesFurtherItems further back := by
  induction front generalizing text with
  | nil =>
    cases items with
    | items first further =>
      obtain ⟨start, behind, spaces, item, itemSpaces⟩ := first
      exact ⟨[], start, behind, _, rfl, .none spaces, item, itemSpaces, further⟩
  | cons other front inductionHypothesis =>
    cases items with
    | items first further =>
      obtain ⟨start, behind, spaces, item, itemSpaces⟩ := first
      generalize valuesEq : front.append (value :: back) = values at further
      cases further with
      | none => exact absurd valuesEq (List.append_ne_nil_of_right_ne_nil front (by simp))
      | comma next further =>
        have items := DerivesItems.items next further
        rw [← valuesEq] at items
        obtain ⟨earlier, spot, last, rest, rfl, standsFront, stands⟩ := inductionHypothesis items
        exact ⟨(start, other) :: earlier, spot, last, rest, rfl,
          .item spaces item itemSpaces standsFront, stands⟩

theorem DerivesListAround.exists_of_list {values : List (List Char)}
    (list : DerivesList text values rest) {value : List Char} (member : value ∈ values) :
    ∃ earlier later spot behind, DerivesListAround spot behind text earlier later rest ∧
      DerivesItem spot value behind ∧ earlier.map Prod.snd ++ value :: later = values := by
  obtain ⟨free, items⟩ := list
  obtain ⟨front, back, rfl⟩ := List.append_of_mem member
  obtain ⟨earlier, spot, behind, further, rfl, standsFront, item, spaces, standsBack⟩ :=
    items.exists_around
  exact ⟨earlier, back, spot, behind, .brackets free standsFront spaces standsBack, item, rfl⟩

/-- Every value of a list of an accepted query is that of an item. -/
theorem exists_readsItem {query : String} {term : Term} (accepted : parse query = .ok term)
    {field : Field} {sign : Membership} {values : List String}
    (isLeaf : .list field sign values ∈ term.leaves) {value : String} (member : value ∈ values) :
    ∃ spot, ReadsItem query term spot value.toList := by
  rw [parse_eq_ok_iff, readTerm_eq_ok_iff] at accepted
  obtain ⟨inside, spaces, derives⟩ := accepted
  obtain ⟨start, rest, build, around, ⟨stands, valid⟩, rfl⟩ := derives.exists_around isLeaf
  obtain ⟨found, operator, listStart, listEnd, head, operand, listSpaces⟩ := stands.exists_head
  generalize atomEq : Atom.list field sign values = atom at operand
  cases operand with
  | single _ => cases atomEq
  | list list =>
    cases atomEq
    obtain ⟨value, isValue, rfl⟩ := List.mem_map.mp member
    obtain ⟨earlier, later, spot, behind, listAround, item, rfl⟩ :=
      DerivesListAround.exists_of_list list isValue
    rw [String.toList_ofList]
    exact ⟨_, .item spaces around head listAround listSpaces item valid⟩

theorem DerivesListAround.not_mem {spot behind : List Char}
    {earlier : List (List Char × List Char)} {later : List (List Char)}
    (list : DerivesListAround spot behind text earlier later rest) : ')' ∉ spot := by
  obtain ⟨free, front, _, _⟩ := list
  exact fun member => free (front.suffix.subset member)

theorem takeWhile_append_cons {front : List Char} (free : ')' ∉ front) (behind : List Char) :
    (front ++ ')' :: behind).takeWhile (· != ')') = front := by
  have all : ∀ character ∈ front, (character != ')') = true :=
    fun character member => bne_iff_ne.mpr fun same => free (same ▸ member)
  rw [List.takeWhile_append_of_pos all, List.takeWhile_cons_of_neg (by decide), List.append_nil]

/-- The value of an item that begins with a quote goes up to the next quote of its kind just if
there is one in the list. -/
theorem DerivesItem.between_quotes_iff {quote : Char} {inner value behind : List Char}
    (item : DerivesItem (quote :: inner) value behind) (isQuote : quote = '"' ∨ quote = '\'')
    (further : List Char) :
    (∃ between last, inner ++ further = between ++ quote :: last ∧ quote ∉ between ∧
      value = between) ↔ quote ∈ inner := by
  generalize textEq : quote :: inner = text at item
  cases item with
  | quoted between =>
    obtain ⟨found, _, free, foundEq⟩ := derivesQuoted_iff.mp between
    obtain ⟨rfl, rfl⟩ := List.cons.inj (textEq.trans foundEq)
    exact iff_of_true ⟨value, behind ++ further, by simp, free, rfl⟩ (by simp)
  | bare unquoted run =>
    refine iff_of_false ?_ fun member => ?_
    · rintro ⟨between, _, _, free, rfl⟩
      obtain ⟨first, tail, rfl⟩ := List.exists_cons_of_ne_nil run.nonempty
      obtain ⟨rfl, _⟩ := List.cons.inj (textEq.trans run.text_eq)
      exact free List.mem_cons_self
    · obtain ⟨content, last, between⟩ := exists_derivesQuoted isQuote member
      exact unquoted content last (textEq ▸ between)

/-- In a query, that quote must come before the next closing bracket. -/
theorem ReadsItem.between_quotes_iff {query : String} {term : Term} {value tail : List Char}
    {quote : Char} (reads : ReadsItem query term (quote :: tail) value)
    (isQuote : quote = '"' ∨ quote = '\'') :
    (∃ between last, tail = between ++ quote :: last ∧ quote ∉ between ∧ value = between) ↔
      quote ∈ tail.takeWhile (· != ')') := by
  generalize spotEq : quote :: tail = whole at reads
  cases reads with
  | item _ _ _ list _ item _ =>
    obtain ⟨lexeme, nonempty, itemEq⟩ := item.exists_lexeme
    obtain ⟨first, front, rfl⟩ := List.exists_cons_of_ne_nil nonempty
    rw [List.cons_append] at itemEq
    subst itemEq
    rw [List.cons_append] at spotEq
    obtain ⟨rfl, rfl⟩ := List.cons.inj spotEq
    rw [takeWhile_append_cons (List.not_mem_of_not_mem_cons list.not_mem)]
    exact item.between_quotes_iff isQuote _

/-! ### Lists of quoted texts -/

/-- Texts in double quotes, with a comma and a space between any two. -/
def quotedItems : List (List Char) → List Char
  | [] => []
  | [value] => '"' :: (value ++ ['"'])
  | value :: next :: values => '"' :: (value ++ '"' :: ',' :: ' ' :: quotedItems (next :: values))

/-- The query for a list of quoted texts. -/
def quotedList (spelling : String) (sign : Membership) (values : List String) : String :=
  String.ofList (spelling.toList ++ ' ' :: (sign.spelling.toList ++ ' ' :: '(' ::
    (quotedItems (values.map String.toList) ++ [')'])))

example : quotedList "label" .notIn ["a", "b)"] = "label not in (\"a\", \"b)\")" := by decide

/-- Quoted texts are folded each by itself. -/
theorem fold_quotedItems (values : List (List Char)) :
    fold (quotedItems values) = quotedItems (values.map fold) := by
  fun_induction quotedItems values with
  | case1 => rfl
  | case2 value =>
    rw [fold_cons (isBreak_of_mem (by decide)),
      fold_append_cons (isBreak_of_mem (by decide))]
    rfl
  | case3 value next values inductionHypothesis =>
    rw [fold_cons (isBreak_of_mem (by decide)),
      fold_append_cons (isBreak_of_mem (by decide)),
      fold_cons (isBreak_of_mem (by decide)), fold_cons (isBreak_of_mem (by decide)),
      inductionHypothesis]
    rfl

theorem fold_quotedList {field : Field} {spelling : String} (member : spelling ∈ field.spellings)
    (sign : Membership) (values : List String) :
    fold (quotedList spelling sign values).toList =
      spelling.toList ++ ' ' :: (sign.spelling.toList ++ ' ' :: '(' ::
        (quotedItems (values.map fun value => fold value.toList) ++ [')'])) := by
  have smallSpellings : ∀ field ∈ Field.all, ∀ spelling ∈ field.spellings,
      IsSmall spelling.toList := by decide
  have smallSign : IsSmall sign.spelling.toList := by
    cases sign <;> decide
  rw [quotedList, String.toList_ofList, fold_append_cons (isBreak_of_mem (by decide)),
    fold_eq_self (smallSpellings field field.mem_all spelling member),
    fold_append_cons (isBreak_of_mem (by decide)), fold_eq_self smallSign,
    fold_cons (isBreak_of_mem (by decide)),
    fold_append_cons (isBreak_of_mem (by decide)), fold_quotedItems,
    List.map_map]
  rfl

theorem DerivesItems.behind_spaces {start : List Char} {values : List (List Char)}
    (spaces : Spaces text start) (items : DerivesItems start values) :
    DerivesItems text values := by
  obtain ⟨⟨front, back, frontSpaces, item, backSpaces⟩, further⟩ := items
  exact .items ⟨front, back, spaces.trans frontSpaces, item, backSpaces⟩ further

/-- Quoted texts without double quotes are items with these values. -/
theorem derivesItems_quotedItems {values : List (List Char)} (nonempty : values ≠ [])
    (free : ∀ value ∈ values, '"' ∉ value) : DerivesItems (quotedItems values) values := by
  fun_induction quotedItems values with
  | case1 => exact absurd rfl nonempty
  | case2 value =>
    exact .items ⟨_, _, spaces_refl _, .quoted (.between (Or.inl rfl) (free value
      List.mem_cons_self)), spaces_refl _⟩ .none
  | case3 value next values inductionHypothesis =>
    obtain ⟨freeHere, freeFurther⟩ := List.forall_mem_cons.mp free
    have further := inductionHypothesis (List.cons_ne_nil _ _) freeFurther
    exact .items ⟨_, _, spaces_refl _, .quoted (.between (Or.inl rfl) freeHere), spaces_refl _⟩
      (further.behind_spaces (spaces_cons _)).comma

theorem not_mem_quotedItems {values : List (List Char)} (free : ∀ value ∈ values, ')' ∉ value) :
    ')' ∉ quotedItems values := by
  fun_induction quotedItems values with
  | case1 => exact List.not_mem_nil
  | case2 value => simp [free value List.mem_cons_self]
  | case3 value next values inductionHypothesis =>
    obtain ⟨freeHere, freeFurther⟩ := List.forall_mem_cons.mp free
    simp [freeHere, inductionHypothesis freeFurther]

/-! ### Only one atom -/

theorem isTidy_wellFormedAtom : wellFormedAtom.IsTidy :=
  fun start => (isTidy_placedAtom start).map PlacedAtom.atom

theorem accepts_wellFormedAtom :
    wellFormedAtom.Accepts fun text content rest =>
      DerivesAtom text content rest ∧ BeginsTight rest := by
  refine fun cursor content rest => Iff.trans ?_ placedAtom_eq_ok_iff_derives
  constructor
  · rintro ⟨after, reads, restEq⟩
    obtain ⟨placed, last, readsPlaced, same⟩ := bind_eq_ok_iff.mp reads
    cases same
    exact ⟨placed, after, readsPlaced, rfl, restEq⟩
  · rintro ⟨placed, after, reads, rfl, restEq⟩
    exact ⟨after, bind_eq_ok_iff.mpr ⟨placed, after, reads, rfl⟩, restEq⟩

/-- A term over some leaves is one over all leaves that allow for them. -/
theorem Derives.imp {Leaf : Type} {relation weaker : List Char → Leaf → List Char → Prop}
    (implies : ∀ ⦃text content rest⦄, relation text content rest → weaker text content rest)
    {level : Level} {room : Nat} {tree : Tree Leaf}
    (derives : Derives relation level room text tree rest) :
    Derives weaker level room text tree rest := by
  induction derives with
  | leaf stands => exact .leaf (implies stands)
  | group opens _ closes inductionHypothesis => exact .group opens inductionHypothesis closes
  | plain _ inductionHypothesis => exact .plain inductionHypothesis
  | negate word _ inductionHypothesis => exact .negate word inductionHypothesis
  | first _ inductionHypothesis => exact .first inductionHypothesis
  | join _ word _ chainHypothesis operandHypothesis =>
    exact .join chainHypothesis word operandHypothesis

/-- An accepted query that is a well-formed atom from its start to its end is no other term. -/
theorem eq_leaf_of_parse {query : String} {term : Term} {atom : Atom}
    (accepted : parse query = .ok term) (stands : DerivesAtom (fold query.toList) atom []) :
    term = .leaf atom := by
  rw [parse_eq_ok_iff, readTerm_eq_ok_iff] at accepted
  obtain ⟨inside, spaces, derives⟩ := accepted
  have leaf : Derives DerivesAtom (.chain .or) depthLimit _ _ [] :=
    (Derives.leaf stands).of_primary _
  obtain rfl := spaces.unique (derives.beginsTight beginsApart_atom) (spaces_refl _)
    (leaf.beginsTight beginsApart_wellFormedAtom)
  have settles : (Level.chain .or).Settles [] := Level.settles_of_head _ (by simp)
  exact (Derives.unique beginsApart_wellFormedAtom isTidy_wellFormedAtom accepts_wellFormedAtom
    (derives.imp fun _ _ _ => And.left) settles leaf settles).1

/-- The query for a list of quoted texts is a list of them if none holds a closing bracket. -/
theorem derivesAtom_quotedList {field : Field} {spelling : String}
    (member : spelling ∈ field.spellings) (sign : Membership) {values : List String}
    (nonempty : values ≠ []) (free : ∀ value ∈ values, '"' ∉ value.toList)
    (freeOfBrackets : ∀ value ∈ values, ')' ∉ value.toList) :
    DerivesAtom (fold (quotedList spelling sign values).toList)
      (.list field sign (values.map fun value => String.ofList (fold value.toList))) [] := by
  have foldFree : ∀ symbol : Char, IsSymbol symbol → (∀ value ∈ values, symbol ∉ value.toList) →
      ∀ folded ∈ values.map (fun value => fold value.toList), symbol ∉ folded := by
    intro symbol isSymbol free folded isFolded
    obtain ⟨value, isValue, rfl⟩ := List.mem_map.mp isFolded
    rw [isSymbol.mem_fold_iff]
    exact free value isValue
  have items := derivesItems_quotedItems (mt List.map_eq_nil_iff.mp nonempty)
    (foldFree '"' (by decide) free)
  have list : DerivesList _ _ [] := .brackets
    (not_mem_quotedItems (foldFree ')' (by decide) freeOfBrackets)) items
  have atom := (derivesHead_spelling member (.membership sign) _).atom (.list list)
    (spaces_refl [])
  rw [List.map_map] at atom
  rw [fold_quotedList member]
  exact atom

/-- The values of a list that is accepted hold no closing bracket. -/
theorem not_mem_of_parse_list {query : String} {field : Field} {sign : Membership}
    {values : List String} (accepted : parse query = .ok (Term.list field sign values)) :
    ∀ value ∈ values, ')' ∉ value.toList := by
  rw [parse_eq_ok_iff, readTerm_eq_ok_iff] at accepted
  obtain ⟨_, _, derives⟩ := accepted
  obtain ⟨_, _, _, valid⟩ := derives.forall_leaves _ (List.mem_singleton.mpr rfl)
  simp only [Atom.isValid, Bool.and_eq_true, List.all_eq_true] at valid
  exact fun value member => not_mem_of_admits valid.1 (valid.2 value member)

/-- In accepted queries, a list of quoted texts is read as these texts just if none of them holds
a closing bracket. -/
theorem parse_quotedList_iff {field : Field} {spelling : String}
    (member : spelling ∈ field.spellings) {sign : Membership} {values : List String}
    (nonempty : values ≠ []) (free : ∀ value ∈ values, '"' ∉ value.toList) {term : Term}
    (accepted : parse (quotedList spelling sign values) = .ok term) :
    term = Term.list field sign (values.map fun value => String.ofList (fold value.toList)) ↔
      ∀ value ∈ values, ')' ∉ value.toList := by
  constructor
  · rintro rfl value isValue inValue
    have symbol : IsSymbol ')' := by decide
    have notFolded := not_mem_of_parse_list accepted _ (List.mem_map_of_mem isValue)
    rw [String.toList_ofList, symbol.mem_fold_iff] at notFolded
    exact notFolded inValue
  · exact fun freeOfBrackets =>
      eq_leaf_of_parse accepted (derivesAtom_quotedList member sign nonempty free freeOfBrackets)

/-! ### When quotes protect -/

/-- In an accepted query every value of a list is that of an item. An item that begins with a
quote goes up to the next quote of its kind just if that comes before the next closing bracket.
And if the query is a list of texts in double quotes, it is read as these texts just if none of
them holds a closing bracket. -/
theorem quotes_protect_iff {query : String} {term : Term} (accepted : parse query = .ok term) :
    (∀ field sign values, .list field sign values ∈ term.leaves → ∀ value ∈ values,
      ∃ spot, ReadsItem query term spot value.toList) ∧
    (∀ quote tail value, quote = '"' ∨ quote = '\'' → ReadsItem query term (quote :: tail) value →
      ((∃ between behind, tail = between ++ quote :: behind ∧ quote ∉ between ∧
        value = between) ↔ quote ∈ tail.takeWhile (· != ')'))) ∧
    ∀ field, ∀ spelling ∈ Field.spellings field, ∀ sign values, values ≠ [] →
      (∀ value ∈ values, '"' ∉ String.toList value) → query = quotedList spelling sign values →
        (term = Term.list field sign (values.map fun value => String.ofList (fold value.toList)) ↔
          ∀ value ∈ values, ')' ∉ value.toList) := by
  refine ⟨fun _ _ _ isLeaf _ member => exists_readsItem accepted isLeaf member,
    fun _ _ _ isQuote reads => reads.between_quotes_iff isQuote, ?_⟩
  rintro field spelling member sign values nonempty free rfl
  exact parse_quotedList_iff member nonempty free accepted

/-- Quotes protect a space. They do not protect a closing bracket, although the query with one is
accepted. -/
theorem quotes_protect_iff_instances :
    parse (quotedList "label" .notIn ["a B", "c"]) =
        .ok (Term.list .label .notIn ["a b", "c"]) ∧
      ∃ term, parse (quotedList "label" .isIn ["a) or label in (b"]) = .ok term ∧
        term ≠ Term.list .label .isIn ["a) or label in (b"] := by
  have accepted : (parse (quotedList "label" .notIn ["a B", "c"])).toOption.isSome = true := by
    decide +kernel
  have splits : parse (quotedList "label" .isIn ["a) or label in (b"]) =
      .ok (.or (Term.list .label .isIn ["\"a"]) (Term.list .label .isIn ["b\""])) :=
    parse_of_toOption (by decide +kernel)
  have label : "label" ∈ Field.label.spellings := by decide
  refine ⟨?_, _, splits, fun same => ?_⟩
  · cases outcome : parse (quotedList "label" .notIn ["a B", "c"]) with
    | error error =>
      rw [outcome] at accepted
      cases accepted
    | ok term =>
      have values := ((quotes_protect_iff outcome).2.2 .label "label" label .notIn ["a B", "c"]
        (by decide) (by decide) rfl).mpr (by decide)
      rw [values]
      exact congrArg Except.ok (by decide +kernel)
  · have free := ((quotes_protect_iff splits).2.2 .label "label" label .isIn
      ["a) or label in (b"] (by decide) (by decide) rfl).mp (same.trans (by decide +kernel))
    exact absurd free (by decide)

/-- A text with a closing bracket leaves its quotes and becomes two lists, and a quote may never
be closed. -/
theorem parse_unprotected :
    parse "label in (\"a) or label in (b\")" =
        .ok (.or (Term.list .label .isIn ["\"a"]) (Term.list .label .isIn ["b\""])) ∧
      parse "label in (\"a)" = .ok (Term.list .label .isIn ["\"a"]) :=
  ⟨parse_of_toOption (by decide +kernel), parse_of_toOption (by decide +kernel)⟩

end ContentQuery.Query
