/-
This file compares the two kinds of quotes. Every value of an accepted query is read at some
spot of it, and a value that stands in double quotes there can be put in single quotes. The query
is accepted as the same term, but for one thing: the case of a query is folded before its quotes
are seen. A double quote ends a word there and a single quote does not, so a capital sigma at the
end of a value, which becomes a final sigma before a double quote, becomes another small sigma
before a single quote with a letter behind it.

Apart from the value nothing is folded otherwise, since a sign stands in front of every value,
and what comes behind it is a sign or the first letter of a connective. And the sigma is never a
matter of validity: the fields that admit the one admit the other.
-/

import ContentQuery.Proofs.ListItems

namespace ContentQuery.Text

/-! ### Folding before a single quote -/

/-- A text that is all case-ignorable hides nothing of what comes behind it. -/
theorem startsCased_append (text behind : List Char) :
    startsCased (text ++ behind) = startsCased text ∨
      (∀ character ∈ text, isCaseIgnorable character = true) ∧ startsCased text = false ∧
        startsCased (text ++ behind) = startsCased behind := by
  by_cases all : ∀ character ∈ text, isCaseIgnorable character = true
  · have alone := startsCased_append_of_all all []
    rw [List.append_nil] at alone
    exact Or.inr ⟨all, alone, startsCased_append_of_all all behind⟩
  · refine Or.inl (Classical.byContradiction fun differ => all fun character member => ?_)
    refine Bool.not_eq_false _ ▸ fun found => differ ?_
    exact startsCased_append_of_mem member found behind

/-- Apart from case-ignorable characters the text ends in a capital sigma, with a letter in front
of it. What comes before the text is given backwards. -/
def EndsInSigma (before text : List Char) : Prop :=
  ∃ start tail, text = start ++ 'Σ' :: tail ∧
    (∀ character ∈ tail, isCaseIgnorable character = true) ∧
      startsCased (start.reverse ++ before) = true

/-- What comes behind changes the folding of a character only if it is a last capital sigma. -/
theorem foldCharacter_append (before : List Char) (character : Char) (text behind : List Char) :
    foldCharacter before character (text ++ behind) = foldCharacter before character text ∨
      startsCased behind = true ∧ EndsInSigma before (character :: text) := by
  rcases startsCased_append text behind with same | ⟨all, ends, same⟩
  · exact Or.inl (foldCharacter_congr character rfl same)
  · unfold foldCharacter
    by_cases sigma : character = 'Σ'
    · rw [if_pos sigma, if_pos sigma, same, ends]
      cases startsCased behind with
      | false => exact Or.inl rfl
      | true =>
        cases letter : startsCased before with
        | false => exact Or.inl rfl
        | true => exact Or.inr ⟨rfl, [], text, by rw [sigma]; rfl, all, letter⟩
    · exact Or.inl (by rw [if_neg sigma, if_neg sigma])

/-- What comes behind a text changes its folding only if the text ends in a capital sigma, and
if a letter comes next. -/
theorem foldBetween_cases (before text behind : List Char) :
    foldBetween before text behind = foldBetween before text [] ∨
      startsCased behind = true ∧ EndsInSigma before text := by
  induction text generalizing before with
  | nil => exact Or.inl rfl
  | cons character text inductionHypothesis =>
    rw [foldBetween, foldBetween, List.append_nil]
    rcases inductionHypothesis (character :: before) with
      same | ⟨cased, start, tail, textEq, ignorable, letter⟩
    · rcases foldCharacter_append before character text behind with sameHere | sigma
      · exact Or.inl (by rw [same, sameHere])
      · exact Or.inr sigma
    · exact Or.inr ⟨cased, character :: start, tail, by rw [textEq]; rfl, ignorable,
        by simpa using letter⟩

/-- A text that is all case-ignorable is folded to itself. -/
theorem foldBetween_of_all {text : List Char}
    (all : ∀ character ∈ text, isCaseIgnorable character = true) (before behind : List Char) :
    foldBetween before text behind = text := by
  induction text generalizing before with
  | nil => rfl
  | cons character text inductionHypothesis =>
    rw [List.forall_mem_cons] at all
    have notSigma : character ≠ 'Σ' := by
      rintro rfl
      exact absurd all.1 (by decide +kernel)
    rw [foldBetween, foldCharacter, if_neg notSigma, lowercase_of_isCaseIgnorable all.1,
      inductionHypothesis all.2, List.singleton_append]

/-- And then the sigma is a final one just if no letter comes next. What comes behind the sigma
is case-ignorable, so it is the last one of the text. -/
theorem EndsInSigma.foldBetween_eq {before text behind : List Char} (ends : EndsInSigma before text)
    (cased : startsCased behind = true) :
    ∃ front tail, (∀ character ∈ tail, isCaseIgnorable character = true) ∧
      foldBetween before text [] = front ++ 'ς' :: tail ∧
        foldBetween before text behind = front ++ 'σ' :: tail := by
  obtain ⟨start, tail, rfl, ignorable, letter⟩ := ends
  have stops : isCaseIgnorable 'Σ' = false := by decide +kernel
  have sameStart : startsCased ('Σ' :: tail ++ behind) = startsCased ('Σ' :: tail ++ []) := by
    rw [List.cons_append, List.cons_append, startsCased_cons, startsCased_cons, stops]
    rfl
  have sameFront : foldBetween before start ('Σ' :: tail ++ behind) =
      foldBetween before start ('Σ' :: tail ++ []) := foldBetween_congr rfl sameStart start
  have final : startsCased (tail ++ []) = false := startsCased_append_of_all ignorable []
  have inner : startsCased (tail ++ behind) = true :=
    (startsCased_append_of_all ignorable behind).trans cased
  refine ⟨foldBetween before start ('Σ' :: tail ++ []), tail, ignorable, ?_, ?_⟩
  · rw [foldBetween_append, foldBetween, foldCharacter, if_pos rfl, letter, final,
      foldBetween_of_all ignorable]
    rfl
  · rw [foldBetween_append, foldBetween, foldCharacter, if_pos rfl, letter, inner, sameFront,
      foldBetween_of_all ignorable]
    rfl

/-- The first character, if there is one, ends the search for a letter and is no sigma. -/
def BeginsSettled (text : List Char) : Prop :=
  ∀ character ∈ text.head?, isCaseIgnorable character = false ∧ character ≠ 'Σ'

/-- What comes before such a text has no part in how it is folded. -/
theorem BeginsSettled.foldAfter_eq {text : List Char} (settled : BeginsSettled text)
    (before : List Char) : foldAfter before text = fold text := by
  cases text with
  | nil => rfl
  | cons character text =>
    obtain ⟨notIgnorable, notSigma⟩ := settled character rfl
    have sameNext : startsCased (character :: before) = startsCased [character] := by
      rw [startsCased_cons, startsCased_cons, notIgnorable]
      rfl
    rw [fold, foldAfter, foldAfter, foldCharacter, foldCharacter, if_neg notSigma,
      if_neg notSigma, foldAfter_congr sameNext]

/-- A text in single quotes behind a sign is folded as if what comes behind the quotes came
directly behind the text. -/
theorem fold_singleQuoted {sign : Char} (isBreak : IsBreak sign) (front text : List Char)
    {back : List Char} (settled : BeginsSettled back) :
    fold (front ++ [sign] ++ '\'' :: (text ++ '\'' :: back)) =
      fold (front ++ [sign]) ++ '\'' :: (foldBetween [] text back ++ '\'' :: fold back) := by
  have quote : IsSymbol '\'' := by decide
  have sameBefore : startsCased ['\''] = startsCased [] := by decide +kernel
  have sameBehind : startsCased ('\'' :: back) = startsCased back :=
    (startsCased_cons '\'' back).trans (if_pos (by decide +kernel))
  have inner : fold ('\'' :: (text ++ '\'' :: back)) =
      '\'' :: (foldBetween [] text back ++ '\'' :: fold back) := by
    rw [fold, foldAfter, quote.foldCharacter_eq, foldAfter_append,
      foldBetween_congr sameBefore sameBehind, foldAfter, quote.foldCharacter_eq,
      settled.foldAfter_eq]
    rfl
  have signEq : fold (front ++ [sign]) = fold front ++ [sign] := fold_append_cons isBreak front []
  rw [List.append_assoc, List.singleton_append, fold_append_cons isBreak, inner, signEq,
    List.append_assoc]
  rfl

theorem foldCharacter_ne_nil (before : List Char) (character : Char) (after : List Char) :
    foldCharacter before character after ≠ [] := by
  unfold foldCharacter
  split
  · split <;> exact List.cons_ne_nil _ _
  · unfold lowercase
    split
    · exact List.cons_ne_nil _ _
    · split <;> exact List.cons_ne_nil _ _

/-- The sign at the end of a folded text stands at the end of the text. -/
theorem IsSymbol.exists_append_of_fold {sign : Char} (isSymbol : IsSymbol sign)
    {text front : List Char} (foldEq : fold text = front ++ [sign]) :
    ∃ start, text = start ++ [sign] := by
  rcases List.eq_nil_or_concat text with rfl | ⟨start, character, rfl⟩
  · exact absurd foldEq.symm (List.append_ne_nil_of_right_ne_nil front (List.cons_ne_nil _ _))
  · refine ⟨start, ?_⟩
    obtain ⟨inner, last, innerEq⟩ : ∃ inner last,
        foldCharacter (start.reverse ++ []) character [] = inner ++ [last] :=
      ⟨_, _, (List.dropLast_concat_getLast (foldCharacter_ne_nil _ _ _)).symm⟩
    rw [List.concat_eq_append, fold, foldAfter_append, foldAfter, foldAfter, List.append_nil,
      innerEq, ← List.append_assoc] at foldEq
    obtain rfl : last = sign := (List.cons.inj (List.append_inj_right' foldEq rfl)).1
    have member : last ∈ foldCharacter (start.reverse ++ []) character [] := by
      rw [innerEq]
      simp
    rw [List.concat_eq_append, (isSymbol.mem_foldCharacter_iff _ _ _).mp member]

/-- A text whose folding begins with one of these characters begins settled. -/
theorem beginsSettled_of_fold {text : List Char}
    (begins : ∀ character ∈ (fold text).head?, character ∈ [' ', ',', ')', 'a', 'o']) :
    BeginsSettled text := by
  have ascii : ∀ sign ∈ [' ', ',', ')', 'a', 'o'],
      sign.toNat < 0x80 ∧ sign ≠ 'k' ∧ sign ≠ 'i' ∧ sign ≠ 'ς' ∧ sign ≠ 'σ' := by simp
  intro character head
  cases text with
  | nil => cases head
  | cons first after =>
    cases head
    obtain ⟨sign, further, foldEq⟩ :=
      List.exists_cons_of_ne_nil (foldCharacter_ne_nil [] character after)
    have member := begins sign (by rw [fold, foldAfter, foldEq]; rfl)
    obtain ⟨isAscii, notKelvin, notDotted, notFinal, notInner⟩ := ascii sign member
    have isFolded : sign ∈ foldCharacter [] character after := by
      rw [foldEq]
      exact List.mem_cons_self
    have isLowercase := mem_lowercase_of_mem_foldCharacter isFolded notFinal notInner
    -- The unfolded character is the same one, or the capital A or O.
    obtain ⟨before, small⟩ := ascii_of_mem_lowercase isLowercase isAscii notKelvin notDotted
    have settled : ∀ character : Char, character.toNat < 0x80 →
        character.toLower ∈ [' ', ',', ')', 'a', 'o'] →
          isCaseIgnorable character = false ∧ character ≠ 'Σ' := forall_ascii (by decide +kernel)
    exact settled character before (small ▸ member)

end ContentQuery.Text

namespace ContentQuery.Query

open Text

variable {spot behind text rest : List Char}

/-! ### Values of an accepted query -/

/-- In the query, which is accepted, a value is read at a spot: what is left of the folded query
at the first character of the value or of its quotes. The items are those in front of the value
in its list, each with the text from its first character on, and the frame is the term of the
query as a function of the value. -/
inductive ReadsValue (query : String) : List Char → List Char →
    List (List Char × List Char) → (List Char → Term) → Prop where
  /-- A term with a hole for an atom, and the value that its field is compared with. -/
  | value {field : Field} {sign : Comparison} {build : Atom → Term}
      {inside start spot value behind rest : List Char}
      (spaces : Spaces (fold query.toList) inside)
      (around : DerivesAround DerivesValidAtom start rest (.chain .or) depthLimit inside build [])
      (head : DerivesHead field (.comparison sign) start spot)
      (stands : DerivesValue spot value behind) (valueSpaces : Spaces behind rest)
      (valid : (Atom.single field sign (String.ofList value)).isValid = true) :
    ReadsValue query spot value [] fun found => build (.single field sign (String.ofList found))
  /-- A term with a hole for a list, a list with a hole for the item, and the item. -/
  | item {field : Field} {sign : Membership} {build : Atom → Term}
      {inside start listStart spot value behind listEnd rest : List Char}
      {earlier : List (List Char × List Char)} {later : List (List Char)}
      (spaces : Spaces (fold query.toList) inside)
      (around : DerivesAround DerivesValidAtom start rest (.chain .or) depthLimit inside build [])
      (head : DerivesHead field (.membership sign) start listStart)
      (list : DerivesListAround spot behind listStart earlier later listEnd)
      (listSpaces : Spaces listEnd rest) (stands : DerivesItem spot value behind)
      (valid : (Atom.list field sign
        ((earlier.map Prod.snd ++ value :: later).map String.ofList)).isValid = true) :
    ReadsValue query (spot ++ ')' :: listEnd) value earlier fun found => build (.list field sign
      ((earlier.map Prod.snd ++ found :: later).map String.ofList))

/-- The query is accepted as the frame with the value in it. -/
theorem ReadsValue.parse_eq {query : String} {value : List Char}
    {earlier : List (List Char × List Char)} {frame : List Char → Term}
    (reads : ReadsValue query spot value earlier frame) : parse query = .ok (frame value) := by
  rw [parse_eq_ok_iff, readTerm_eq_ok_iff]
  cases reads with
  | value spaces around head stands valueSpaces valid =>
    exact ⟨_, spaces, around.fill ⟨head.atom (.single stands) valueSpaces, valid⟩⟩
  | item spaces around head list listSpaces stands valid =>
    exact ⟨_, spaces, around.fill ⟨head.atom (.list (list.fill stands)) listSpaces, valid⟩⟩

/-- Every value of an accepted query is read at some spot. -/
theorem exists_readsValue {query : String} {term : Term} (accepted : parse query = .ok term)
    {atom : Atom} (isLeaf : atom ∈ term.leaves) {value : String} (member : value ∈ atom.values) :
    ∃ spot earlier frame, ReadsValue query spot value.toList earlier frame := by
  cases atom with
  | list field sign values =>
    obtain ⟨_, reads⟩ := exists_readsItem accepted isLeaf member
    cases reads with
    | item spaces around head list listSpaces item valid =>
      exact ⟨_, _, _, .item spaces around head list listSpaces item valid⟩
  | single field sign text =>
    obtain rfl := List.mem_singleton.mp member
    rw [parse_eq_ok_iff, readTerm_eq_ok_iff] at accepted
    obtain ⟨inside, spaces, derives⟩ := accepted
    obtain ⟨start, rest, build, around, ⟨isAtom, valid⟩, rfl⟩ := derives.exists_around isLeaf
    obtain ⟨found, operator, valueStart, behind, head, operand, valueSpaces⟩ := isAtom.exists_head
    generalize atomEq : Atom.single field sign value = atom at operand
    cases operand with
    | list _ => cases atomEq
    | single stands =>
      cases atomEq
      rw [String.toList_ofList]
      exact ⟨_, _, _, .value spaces around head stands valueSpaces valid⟩

/-! ### Literals -/

/-- An atom with a hole for a value. The value stands by itself, or it is an item of a list. -/
inductive DerivesLiteralAround : List Char → List Char → List Char →
    List (List Char × List Char) → (List Char → Atom) → List Char → Prop where
  /-- The value that a field is compared with. -/
  | value {field : Field} {sign : Comparison} {text spot behind rest : List Char}
      (head : DerivesHead field (.comparison sign) text spot) (spaces : Spaces behind rest) :
    DerivesLiteralAround spot behind text [] (fun value => .single field sign (String.ofList value))
      rest
  /-- An item of a list. -/
  | item {field : Field} {sign : Membership} {text start spot behind listEnd rest : List Char}
      {earlier : List (List Char × List Char)} {later : List (List Char)}
      (head : DerivesHead field (.membership sign) text start)
      (list : DerivesListAround spot behind start earlier later listEnd)
      (spaces : Spaces listEnd rest) :
    DerivesLiteralAround (spot ++ ')' :: listEnd) (behind ++ ')' :: listEnd) text earlier
      (fun value => .list field sign ((earlier.map Prod.snd ++ value :: later).map String.ofList))
      rest

/-- The folded text, in which a value in quotes has the given texts before and behind it, is a
term, and the value is read as one of its values. The items are those in front of the value in
its list, each with the text from its first character on, and the frame is the term as a function
of the value. -/
inductive ReadsLiteral (quote : Char) (front value back : List Char) :
    List (List Char × List Char) → (List Char → Term) → Prop where
  /-- A term with a hole for an atom, and an atom with a hole for the value. -/
  | literal {inside start rest : List Char} {build : Atom → Term}
      {earlier : List (List Char × List Char)} {atomOf : List Char → Atom}
      (spaces : Spaces (front ++ quote :: (value ++ quote :: back)) inside)
      (around : DerivesAround DerivesValidAtom start rest (.chain .or) depthLimit inside build [])
      (literal : DerivesLiteralAround (quote :: (value ++ quote :: back)) back start earlier atomOf
        rest)
      (valid : (atomOf value).isValid = true) :
    ReadsLiteral quote front value back earlier fun found => build (atomOf found)

/-- A value in quotes within a list, and what follows the list. -/
theorem spot_eq_of_append {quote : Char} {value listEnd : List Char}
    (spotEq : spot ++ ')' :: listEnd = quote :: (value ++ quote :: (behind ++ ')' :: listEnd))) :
    spot = quote :: (value ++ quote :: behind) := by
  refine List.append_cancel_right (spotEq.trans ?_)
  simp

theorem DerivesQuoted.back_eq {quote : Char} {value further back : List Char}
    (between : DerivesQuoted spot value behind)
    (spotEq : spot ++ further = quote :: (value ++ quote :: back)) : back = behind ++ further := by
  obtain ⟨other, _, _, rfl⟩ := derivesQuoted_iff.mp between
  rw [List.cons_append, List.append_assoc, List.cons_append] at spotEq
  obtain ⟨rfl, tailEq⟩ := List.cons.inj spotEq
  obtain ⟨_, backEq⟩ := List.cons.inj (List.append_cancel_left tailEq)
  exact backEq.symm

theorem DerivesRun.mem_of_append {stops value further tail : List Char} {first : Char}
    (run : DerivesRun stops spot value behind) (spotEq : spot ++ further = first :: tail) :
    first ∈ value := by
  obtain ⟨here, rest, rfl⟩ := List.exists_cons_of_ne_nil run.nonempty
  rw [run.text_eq] at spotEq
  obtain ⟨rfl, _⟩ := List.cons.inj spotEq
  exact List.mem_cons_self

theorem DerivesValue.back_eq {quote : Char} {value further back : List Char}
    (stands : DerivesValue spot value behind) (free : quote ∉ value)
    (spotEq : spot ++ further = quote :: (value ++ quote :: back)) : back = behind ++ further := by
  cases stands with
  | quoted between => exact between.back_eq spotEq
  | bare run => exact absurd (run.mem_of_append spotEq) free

theorem DerivesItem.back_eq {quote : Char} {value further back : List Char}
    (stands : DerivesItem spot value behind) (free : quote ∉ value)
    (spotEq : spot ++ further = quote :: (value ++ quote :: back)) : back = behind ++ further := by
  cases stands with
  | quoted between => exact between.back_eq spotEq
  | bare _ run => exact absurd (run.mem_of_append spotEq) free

/-- A value that is read where it stands in quotes is the one between the quotes. -/
theorem ReadsValue.readsLiteral {query : String} {quote : Char} {front value back : List Char}
    {earlier : List (List Char × List Char)} {frame : List Char → Term}
    (reads : ReadsValue query (quote :: (value ++ quote :: back)) value earlier frame)
    (free : quote ∉ value)
    (queryEq : fold query.toList = front ++ quote :: (value ++ quote :: back)) :
    ReadsLiteral quote front value back earlier frame := by
  generalize wholeEq : quote :: (value ++ quote :: back) = whole at reads
  cases reads with
  | value spaces around head stands valueSpaces valid =>
    have backEq := stands.back_eq free ((List.append_nil _).trans wholeEq.symm)
    rw [List.append_nil] at backEq
    subst backEq wholeEq
    rw [queryEq] at spaces
    exact .literal spaces around (.value head valueSpaces) valid
  | item spaces around head list listSpaces stands valid =>
    have backEq := stands.back_eq free wholeEq.symm
    have literal := DerivesLiteralAround.item head list listSpaces
    rw [← wholeEq, ← backEq] at literal
    rw [queryEq] at spaces
    exact .literal spaces around literal valid

/-- A value in quotes fills the hole. -/
theorem DerivesLiteralAround.fill {quote : Char} {value : List Char}
    {earlier : List (List Char × List Char)} {atomOf : List Char → Atom}
    (literal : DerivesLiteralAround (quote :: (value ++ quote :: behind)) behind text earlier atomOf
      rest) (isQuote : quote = '"' ∨ quote = '\'') (free : quote ∉ value) :
    DerivesAtom text (atomOf value) rest := by
  generalize spotEq : quote :: (value ++ quote :: behind) = spot at literal
  cases literal with
  | value head spaces =>
    subst spotEq
    exact head.atom (.single (.quoted (.between isQuote free))) spaces
  | item head list spaces =>
    obtain rfl := spot_eq_of_append spotEq.symm
    exact head.atom (.list (list.fill (.quoted (.between isQuote free)))) spaces

/-! ### What stands around a literal -/

/-- In front of the value that a field is compared with stands a space or the end of a symbol,
and any other value may stand there. -/
theorem DerivesHead.exists_sign {field : Field} {sign : Comparison}
    (head : DerivesHead field (.comparison sign) text spot) :
    ∃ front last, last ∈ [' ', '=', '~'] ∧ text = front ++ last :: spot ∧
      ∀ other, DerivesHead field (.comparison sign) (front ++ last :: other) other := by
  obtain ⟨_, _, _, ⟨spelling, member, rfl⟩, ⟨count, rfl⟩, operator, more, rfl⟩ := head
  cases operator
  have ends : ∃ front last, last ∈ [' ', '=', '~'] ∧
      sign.symbol.toList ++ List.replicate more ' ' = front ++ [last] := by
    cases more with
    | zero =>
      rw [List.replicate_zero, List.append_nil]
      cases sign with
      | equals => exact ⟨[], '=', by decide, rfl⟩
      | notEquals => exact ⟨['!'], '=', by decide, rfl⟩
      | contains => exact ⟨[], '~', by decide, rfl⟩
      | notContains => exact ⟨['!'], '~', by decide, rfl⟩
    | succ more =>
      rw [List.replicate_succ', ← List.append_assoc]
      exact ⟨_, ' ', by decide, rfl⟩
  obtain ⟨front, last, isSign, endsEq⟩ := ends
  have textEq : ∀ other, spelling.toList ++ (List.replicate count ' ' ++ front) ++ last :: other =
      spelling.toList ++ (List.replicate count ' ' ++
        (sign.symbol.toList ++ (List.replicate more ' ' ++ other))) := by
    intro other
    rw [← List.append_assoc sign.symbol.toList, endsEq]
    simp
  refine ⟨_, last, isSign, (textEq spot).symm, fun other => ?_⟩
  rw [textEq]
  exact ⟨_, _, _, ⟨spelling, member, rfl⟩, ⟨count, rfl⟩, .comparison sign _, more, rfl⟩

/-- In front of an item stands a space, a comma, or the given character that comes before all
items. -/
theorem DerivesEarlierItems.exists_sign {earlier : List (List Char × List Char)}
    (front : DerivesEarlierItems text earlier spot) (first : Char) :
    ∃ before last, last ∈ [first, ' ', ','] ∧ first :: text = before ++ last :: spot := by
  induction front generalizing first with
  | none spaces =>
    obtain ⟨count, rfl⟩ := spaces
    cases count with
    | zero => exact ⟨[], first, List.mem_cons_self, rfl⟩
    | succ count =>
      refine ⟨first :: List.replicate count ' ', ' ', by simp, ?_⟩
      rw [List.replicate_succ']
      simp
  | item spaces item itemSpaces _ inductionHypothesis =>
    obtain ⟨before, last, isSign, textEq⟩ := inductionHypothesis ','
    obtain ⟨skipped, whole⟩ := itemSpaces.suffix.trans (item.suffix.trans spaces.suffix)
    refine ⟨first :: (skipped ++ before), last, ?_, ?_⟩
    · rcases List.mem_cons.mp isSign with rfl | isSign
      · simp
      · exact List.mem_cons_of_mem _ isSign
    · rw [← whole, textEq]
      simp

/-- In front of an item of a list stands a space, a comma or the opening bracket. -/
theorem DerivesListAround.exists_sign {earlier : List (List Char × List Char)}
    {later : List (List Char)} (list : DerivesListAround spot behind text earlier later rest) :
    ∃ front last, last ∈ ['(', ' ', ','] ∧ text = front ++ last :: (spot ++ ')' :: rest) := by
  obtain ⟨_, items, _, _⟩ := list
  obtain ⟨front, last, isSign, textEq⟩ := items.exists_sign '('
  refine ⟨front, last, isSign, ?_⟩
  rw [← List.cons_append, textEq]
  simp

/-- Behind the hole of a term come its end, a closing bracket or the word of a connective. -/
theorem DerivesAround.head_behind {Leaf : Type} {relation : List Char → Leaf → List Char → Prop}
    {level : Level} {room : Nat} {build : Leaf → Tree Leaf}
    (around : DerivesAround relation spot behind level room text build rest) :
    ∀ character ∈ behind.head?, character ∈ rest.head? ∨ character ∈ [')', 'a', 'o'] := by
  induction around with
  | leaf => exact fun _ begins => Or.inl begins
  | group _ _ closes inductionHypothesis =>
    intro character begins
    rcases inductionHypothesis character begins with ends | member
    · obtain ⟨_, rfl, _⟩ := closes
      cases ends
      exact Or.inr (by decide)
    · exact Or.inr member
  | plain _ inductionHypothesis => exact inductionHypothesis
  | negate _ _ inductionHypothesis => exact inductionHypothesis
  | first _ inductionHypothesis => exact inductionHypothesis
  | @left kind _ _ _ _ _ _ _ _ word _ inductionHypothesis =>
    intro character begins
    rcases inductionHypothesis character begins with ends | member
    · rw [word.head_eq (head?_word kind)] at ends
      cases ends
      cases kind <;> exact Or.inr (by decide)
    · exact Or.inr member
  | right _ _ _ inductionHypothesis => exact inductionHypothesis

/-- Behind a literal come the end of its atom, a space, a comma or a closing bracket. -/
theorem DerivesLiteralAround.head_behind {earlier : List (List Char × List Char)}
    {atomOf : List Char → Atom}
    (literal : DerivesLiteralAround spot behind text earlier atomOf rest) :
    ∀ character ∈ behind.head?, character ∈ rest.head? ∨ character ∈ [' ', ',', ')'] := by
  intro character begins
  cases literal with
  | value _ spaces =>
    obtain ⟨count, rfl⟩ := spaces
    cases count with
    | zero => exact Or.inl begins
    | succ count =>
      cases begins
      exact Or.inr (by decide)
  | item _ list _ =>
    obtain ⟨_, _, ⟨count, rfl⟩, further⟩ := list
    cases count with
    | zero => cases further <;> (cases begins; exact Or.inr (by decide))
    | succ count =>
      cases begins
      exact Or.inr (by decide)

/-! ### Single quotes for double quotes -/

/-- Items in front of a double quote close their quotes if those in single quotes do. -/
theorem DerivesListAround.closesQuote {earlier : List (List Char × List Char)}
    {later : List (List Char)}
    (list : DerivesListAround ('"' :: spot) behind text earlier later rest)
    (closed : ∀ item ∈ earlier, ∀ tail, item.1 = '\'' :: tail → '\'' ∈ tail) :
    ∀ item ∈ earlier, ClosesQuote item.1 := by
  obtain ⟨_, items, _, _⟩ := list
  rintro item member quote tail (rfl | rfl) itemEq
  · obtain ⟨_, _, startEq, suffix⟩ := items.suffix_of_mem member
    obtain ⟨_, rfl⟩ := List.cons.inj (itemEq.symm.trans startEq)
    exact suffix.subset List.mem_cons_self
  · exact closed item member tail itemEq

/-- Another value in single quotes may take the place of a value in double quotes, if the items
in front in its list do not search for a single quote. -/
theorem DerivesLiteralAround.replace {value other : List Char}
    {earlier : List (List Char × List Char)} {atomOf : List Char → Atom}
    (literal : DerivesLiteralAround ('"' :: (value ++ '"' :: behind)) behind text earlier atomOf
      rest)
    (closed : ∀ item ∈ earlier, ∀ tail, item.1 = '\'' :: tail → '\'' ∈ tail)
    (bracketFree : ')' ∉ value → ')' ∉ other) :
    ∃ front last moved, last ∈ [' ', '(', ',', '=', '~'] ∧
      text = front ++ last :: '"' :: (value ++ '"' :: behind) ∧
        DerivesLiteralAround ('\'' :: (other ++ '\'' :: behind)) behind
          (front ++ last :: '\'' :: (other ++ '\'' :: behind)) moved atomOf rest := by
  generalize spotEq : '"' :: (value ++ '"' :: behind) = spot at literal
  cases literal with
  | value head spaces =>
    obtain ⟨front, last, isSign, textEq, stands⟩ := head.exists_sign
    have signs : [' ', '=', '~'] ⊆ [' ', '(', ',', '=', '~'] := by decide
    exact ⟨front, last, [], signs isSign, textEq, .value (stands _) spaces⟩
  | @item _ _ _ _ _ itemBehind listEnd _ _ _ head list spaces =>
    obtain rfl := spot_eq_of_append spotEq.symm
    have free : ')' ∉ '"' :: (value ++ '"' :: itemBehind) →
        ')' ∉ '\'' :: (other ++ '\'' :: itemBehind) := by
      simp only [List.mem_append, List.mem_cons, not_or]
      exact fun free => ⟨by decide, bracketFree free.2.1, by decide, free.2.2.2⟩
    obtain ⟨before, last, isSign, signEq⟩ := list.exists_sign
    obtain ⟨lexeme, rfl, moved, sameValues, movedList⟩ :=
      list.replace (list.closesQuote closed) free
    obtain ⟨headFront, rfl, stands⟩ := head.moves
    have textEq : ∀ spot, headFront ++ '(' :: (lexeme ++ spot ++ ')' :: listEnd) =
        headFront ++ before ++ last :: (spot ++ ')' :: listEnd) := by
      have lexemeEq : '(' :: lexeme = before ++ [last] := by
        rw [List.append_assoc, ← List.cons_append, List.append_cons before] at signEq
        exact List.append_cancel_right signEq
      intro spot
      rw [List.append_assoc lexeme, ← List.cons_append, lexemeEq]
      simp
    have literal := DerivesLiteralAround.item (stands _ (mayReplace_cons '(' _ _)) movedList spaces
    have signs : ['(', ' ', ','] ⊆ [' ', '(', ',', '=', '~'] := by decide
    rw [sameValues, textEq, List.cons_append, List.append_assoc] at literal
    exact ⟨headFront ++ before, last, moved, signs isSign, textEq _, literal⟩

/-! ### Validity -/

/-- A field that admits a value with a final sigma admits it with the other small sigma. -/
theorem admits_of_sigma {field : Field} {front back : List Char}
    (admits : field.admits (String.ofList (front ++ 'ς' :: back)) = true) :
    field.admits (String.ofList (front ++ 'σ' :: back)) = true := by
  have member : 'ς' ∈ (String.ofList (front ++ 'ς' :: back)).toList := by
    rw [String.toList_ofList]
    simp
  rcases eq_title_or_label_of_admits admits member (by decide) (by decide) with rfl | ⟨rfl, _⟩
  · rfl
  · have notReserved : reservedInLabels.contains 'σ' = false := by decide
    simp only [Field.admits, Field.valueShape, ValueShape.admits, String.toList_ofList,
      List.all_append, List.all_cons, Bool.and_eq_true] at admits ⊢
    exact ⟨admits.1, by rw [notReserved]; rfl, admits.2.2⟩

/-- Whether a literal suits its field decides whether its atom is valid. -/
theorem DerivesLiteralAround.isValid {earlier : List (List Char × List Char)}
    {atomOf : List Char → Atom}
    (literal : DerivesLiteralAround spot behind text earlier atomOf rest) {value other : List Char}
    (valid : (atomOf value).isValid = true)
    (admits : ∀ field : Field, field.admits (String.ofList value) = true →
      field.admits (String.ofList other) = true) : (atomOf other).isValid = true := by
  cases literal with
  | value _ _ =>
    simp only [Atom.isValid, Atom.values, List.all_cons, List.all_nil, Bool.and_true,
      Bool.and_eq_true] at valid ⊢
    exact ⟨valid.1, admits _ valid.2⟩
  | item _ _ _ =>
    simp only [Atom.isValid, Atom.values, List.map_append, List.map_cons, List.all_append,
      List.all_cons, Bool.and_eq_true] at valid ⊢
    exact ⟨valid.1, valid.2.1, admits _ valid.2.2.1, valid.2.2.2⟩

/-! ### Whole queries -/

section Whole

variable {front value back : List Char} {earlier : List (List Char × List Char)}
  {frame : List Char → Term}

/-- A query with another value in single quotes instead, which suits the field if the first one
does. In front of the value stands a sign. -/
theorem ReadsLiteral.replace (reads : ReadsLiteral '"' front value back earlier frame)
    (closed : ∀ item ∈ earlier, ∀ tail, item.1 = '\'' :: tail → '\'' ∈ tail) {other : List Char}
    (free : '\'' ∉ other) (bracketFree : ')' ∉ value → ')' ∉ other)
    (admits : ∀ field : Field, field.admits (String.ofList value) = true →
      field.admits (String.ofList other) = true) :
    DerivesQuery depthLimit (front ++ '\'' :: (other ++ '\'' :: back)) (frame other) ∧
      ∃ start sign, sign ∈ [' ', '(', ',', '=', '~'] ∧ front = start ++ [sign] := by
  obtain ⟨⟨count, textEq⟩, around, literal, valid⟩ := reads
  obtain ⟨middle, sign, moved, isSign, rfl, standsLiteral⟩ := literal.replace closed bracketFree
  obtain ⟨start, rfl, standsAround⟩ := around.replace isMovable_validAtom
  have frontEq : front = List.replicate count ' ' ++ (start ++ middle) ++ [sign] := by
    refine List.append_cancel_right (textEq.trans ?_)
    simp
  have may := (mayReplace_cons sign ('\'' :: (other ++ '\'' :: back))
    ('"' :: (value ++ '"' :: back))).append middle
  have atom := standsLiteral.fill (Or.inr rfl) free
  have query := (standsAround _ may).fill ⟨atom, literal.isValid valid admits⟩
  refine ⟨⟨_, ⟨count, ?_⟩, query⟩, _, sign, isSign, frontEq⟩
  rw [frontEq]
  simp

/-- Behind a value stands a space, a comma, a closing bracket or a connective. -/
theorem ReadsLiteral.head_behind {quote : Char}
    (reads : ReadsLiteral quote front value back earlier frame) :
    ∀ character ∈ back.head?, character ∈ [' ', ',', ')', 'a', 'o'] := by
  obtain ⟨_, around, literal, _⟩ := reads
  intro character begins
  rcases literal.head_behind character begins with ends | member
  · rcases around.head_behind character ends with impossible | member
    · cases impossible
    · have later : [')', 'a', 'o'] ⊆ [' ', ',', ')', 'a', 'o'] := by decide
      exact later member
  · have first : [' ', ',', ')'] ⊆ [' ', ',', ')', 'a', 'o'] := by decide
    exact first member

end Whole

section Quoted

variable {front content back : String} {earlier : List (List Char × List Char)}
  {frame : List Char → Term}

/-- A value in single quotes is folded as if what comes behind its quotes came directly behind
it. -/
theorem ReadsLiteral.fold_singleQuoted (reads : ReadsLiteral '"' (fold front.toList)
      (fold content.toList) (fold back.toList) earlier frame)
    (closed : ∀ item ∈ earlier, ∀ tail, item.1 = '\'' :: tail → '\'' ∈ tail)
    (free : '\'' ∉ content.toList) :
    fold (front ++ "'" ++ content ++ "'" ++ back).toList = fold front.toList ++
      '\'' :: (foldBetween [] content.toList back.toList ++ '\'' :: fold back.toList) := by
  have quoteSymbol : IsSymbol '\'' := by decide
  have signs : [' ', '(', ',', '=', '~'] ⊆ querySigns := by decide
  obtain ⟨_, start, sign, isSign, foldEq⟩ := reads.replace closed
    (mt (quoteSymbol.mem_fold_iff _).mp free) id fun _ => id
  obtain ⟨before, frontEq⟩ := (isSymbol_of_mem (signs isSign)).exists_append_of_fold foldEq
  have whole := Text.fold_singleQuoted (isBreak_of_mem (signs isSign)) before content.toList
    (beginsSettled_of_fold reads.head_behind)
  rw [← frontEq] at whole
  simpa [String.toList_append] using whole

/-- A value stays valid when its sigma is no final one. -/
theorem admits_foldBetween {text behind : List Char} {field : Field}
    (admits : field.admits (String.ofList (fold text)) = true) :
    field.admits (String.ofList (foldBetween [] text behind)) = true := by
  rw [fold, foldAfter_eq_foldBetween] at admits
  rcases foldBetween_cases [] text behind with same | ⟨cased, ends⟩
  · rwa [same]
  · obtain ⟨start, tail, _, finalEq, innerEq⟩ := ends.foldBetween_eq cased
    rw [finalEq] at admits
    rw [innerEq]
    exact admits_of_sigma admits

/-- The query with single quotes is accepted as the same term of that value. -/
theorem ReadsLiteral.parse_singleQuoted (reads : ReadsLiteral '"' (fold front.toList)
      (fold content.toList) (fold back.toList) earlier frame)
    (closed : ∀ item ∈ earlier, ∀ tail, item.1 = '\'' :: tail → '\'' ∈ tail)
    (free : '\'' ∉ content.toList) :
    parse (front ++ "'" ++ content ++ "'" ++ back) =
      .ok (frame (foldBetween [] content.toList back.toList)) := by
  have bracket : IsSymbol ')' := by decide
  have quote : IsSymbol '\'' := by decide
  rw [parse_eq_ok_iff, readTerm_eq_ok_iff, reads.fold_singleQuoted closed free]
  refine (reads.replace closed ?_ ?_ fun _ => admits_foldBetween).1
  · rwa [quote.mem_foldBetween_iff]
  · rw [bracket.mem_fold_iff, bracket.mem_foldBetween_iff]
    exact id

/-- Every value of an accepted query is read at some spot. Where a value is read in double quotes,
and no item in front of it in its list begins with a single quote that is not closed, the query
with single quotes is accepted. It is the same term unless the value ends in a capital sigma and a
letter follows the quotes. Then the sigma is a final one in double quotes, but not in single
quotes; what comes behind it in the value is case-ignorable. -/
theorem parse_singleQuoted_of_doubleQuoted {query : String} {term : Term}
    (queryEq : query = front ++ "\"" ++ content ++ "\"" ++ back)
    (accepted : parse query = .ok term) (noDouble : '"' ∉ content.toList)
    (noSingle : '\'' ∉ content.toList) :
    (∀ atom ∈ term.leaves, ∀ value ∈ atom.values,
      ∃ spot earlier frame, ReadsValue query spot value.toList earlier frame) ∧
    ∀ earlier frame,
      ReadsValue query ('"' :: (fold content.toList ++ '"' :: fold back.toList))
        (fold content.toList) earlier frame →
      (∀ item ∈ earlier, ∀ tail, item.1 = '\'' :: tail → '\'' ∈ tail) →
        term = frame (fold content.toList) ∧
        (¬ (EndsInSigma [] content.toList ∧ startsCased back.toList = true) →
          parse (front ++ "'" ++ content ++ "'" ++ back) = .ok term) ∧
        (EndsInSigma [] content.toList → startsCased back.toList = true →
          ∃ start tail, (∀ character ∈ tail, isCaseIgnorable character = true) ∧
            fold content.toList = start ++ 'ς' :: tail ∧
              parse (front ++ "'" ++ content ++ "'" ++ back) =
                .ok (frame (start ++ 'σ' :: tail))) := by
  refine ⟨fun atom isLeaf value member => exists_readsValue accepted isLeaf member,
    fun earlier frame reads closed => ?_⟩
  have quote : IsSymbol '"' := by decide
  have folded : fold query.toList =
      fold front.toList ++ '"' :: (fold content.toList ++ '"' :: fold back.toList) := by
    rw [← fold_append_cons (isBreak_of_mem (by decide)),
      ← fold_append_cons (isBreak_of_mem (by decide)), queryEq]
    simp [String.toList_append]
  have literal := reads.readsLiteral (mt (quote.mem_fold_iff _).mp noDouble) folded
  have single := literal.parse_singleQuoted closed noSingle
  obtain rfl : term = frame (fold content.toList) :=
    Except.ok.inj (accepted.symm.trans reads.parse_eq)
  have contentEq : fold content.toList = foldBetween [] content.toList [] :=
    foldAfter_eq_foldBetween [] content.toList
  refine ⟨rfl, fun apart => ?_, fun ends cased => ?_⟩
  · rcases foldBetween_cases [] content.toList back.toList with same | ⟨cased, ends⟩
    · rw [single, contentEq, same]
    · exact absurd ⟨ends, cased⟩ apart
  · obtain ⟨start, tail, ignorable, finalEq, innerEq⟩ := ends.foldBetween_eq cased
    exact ⟨start, tail, ignorable, contentEq.trans finalEq, by rw [single, innerEq]⟩

/-- An item in single quotes behind another one, and a value that loses the last of its final
sigmas. -/
theorem parse_singleQuoted_of_doubleQuoted_instances :
    parse "label in ('x', 'Y')" = .ok (Term.list .label .isIn ["x", "y"]) ∧
      parse "title = \"aΣ bΣ.\"and title = \"b\"" =
        .ok (.and (Term.single .title .equals "aς bς.") (Term.single .title .equals "b")) ∧
      ∃ start tail, (∀ character ∈ tail, isCaseIgnorable character = true) ∧
        "aς bς.".toList = start ++ 'ς' :: tail ∧
          parse "title = 'aΣ bΣ.'and title = \"b\"" =
            .ok (.and (Term.single .title .equals (String.ofList (start ++ 'σ' :: tail)))
              (Term.single .title .equals "b")) := by
  have smallItem : fold "Y".toList = "y".toList := by decide +kernel
  have smallTitle : fold "aΣ bΣ.".toList = "aς bς.".toList := by decide +kernel
  have readsItem : ReadsValue "label in ('x', \"Y\")"
      ('"' :: (fold "Y".toList ++ '"' :: fold ")".toList)) (fold "Y".toList)
      [("'x', \"y\"".toList, ['x'])] fun found =>
        Term.list .label .isIn ["x", String.ofList found] := by
    have foldEq : fold "label in ('x', \"Y\")".toList =
        "label".toList ++ ' ' :: ("in".toList ++ ' ' :: "('x', \"y\")".toList) := by decide +kernel
    have backEq : fold ")".toList = [')'] := by decide +kernel
    have label : "label" ∈ Field.label.spellings := by decide
    have first : DerivesItem ('\'' :: (['x'] ++ '\'' :: ", \"y\"".toList)) ['x'] ", \"y\"".toList :=
      .quoted (.between (Or.inr rfl) (by decide))
    have items : DerivesEarlierItems "'x', \"y\"".toList [("'x', \"y\"".toList, ['x'])]
        "\"y\"".toList := .item (spaces_refl _) first (spaces_refl _) (.none (spaces_cons _))
    have list : DerivesListAround "\"y\"".toList [] _ _ [] [] :=
      .brackets (by decide) items (spaces_refl []) .none
    have second : DerivesItem ('"' :: (['y'] ++ '"' :: [])) ['y'] [] :=
      .quoted (.between (Or.inl rfl) (by decide))
    rw [smallItem, backEq]
    exact .item (foldEq ▸ spaces_refl _) (.first (.first (.plain .leaf)))
      (derivesHead_spelling label (.membership .isIn) _) list (spaces_refl []) second (by decide)
  have readsTitle : ReadsValue "title = \"aΣ bΣ.\"and title = \"b\""
      ('"' :: (fold "aΣ bΣ.".toList ++ '"' :: fold "and title = \"b\"".toList))
      (fold "aΣ bΣ.".toList) [] fun found =>
        .and (Term.single .title .equals (String.ofList found))
          (Term.single .title .equals "b") := by
    have backEq : fold "and title = \"b\"".toList =
        "and".toList ++ ' ' :: (writeAtom (.single .title .equals "b") ++ []) := by decide +kernel
    have foldEq : fold "title = \"aΣ bΣ.\"and title = \"b\"".toList =
        "title".toList ++ ' ' :: ("=".toList ++ ' ' :: ('"' :: ("aς bς.".toList ++ '"' ::
          ("and".toList ++ ' ' :: (writeAtom (.single .title .equals "b") ++ []))))) := by
      decide +kernel
    have title : "title" ∈ Field.title.spellings := by decide
    rw [smallTitle, backEq]
    exact .value (foldEq ▸ spaces_refl _) (.first (.left (.first (.plain .leaf))
      (derivesWord_cons _) (.plain (.leaf (derivesValidAtom_write (by decide) (spaces_refl []))))))
        (derivesHead_spelling title (.comparison .equals) _)
        (.quoted (.between (Or.inl rfl) (by decide))) (spaces_refl _) (by decide)
  have closed : ∀ item ∈ [("'x', \"y\"".toList, ['x'])], ∀ tail,
      item.1 = '\'' :: tail → '\'' ∈ tail := by
    intro item member tail itemEq
    cases List.mem_singleton.mp member
    have tailEq : tail = "x', \"y\"".toList := (List.cons.inj itemEq).2.symm
    rw [tailEq]
    decide
  have itemEq : "label in ('x', \"Y\")" = "label in ('x', " ++ "\"" ++ "Y" ++ "\"" ++ ")" := by
    decide
  have titleEq : "title = \"aΣ bΣ.\"and title = \"b\"" =
      "title = " ++ "\"" ++ "aΣ bΣ." ++ "\"" ++ "and title = \"b\"" := by decide
  have items := parse_singleQuoted_of_doubleQuoted itemEq readsItem.parse_eq (by decide) (by decide)
  have titles := parse_singleQuoted_of_doubleQuoted titleEq readsTitle.parse_eq (by decide)
    (by decide)
  have item := items.2 _ _ readsItem closed
  have title := titles.2 _ _ readsTitle (by simp)
  have ends : EndsInSigma [] "aΣ bΣ.".toList :=
    ⟨"aΣ b".toList, ['.'], by decide, List.forall_mem_singleton.mpr (by decide +kernel),
      by decide +kernel⟩
  have accepted := readsTitle.parse_eq
  rw [smallItem] at item
  rw [smallTitle] at title accepted
  exact ⟨item.2.1 fun sigma => absurd sigma.2 (by decide +kernel), accepted,
    title.2.2 ends (by decide +kernel)⟩

/-- In double quotes the sigma is a final one, and in single quotes it is not. Where an item in
front begins with a single quote that is not closed, it ends in the quote of the other value. -/
theorem parse_requoted_ne :
    parse "title = \"aΣ\"and title = \"b\"" =
        .ok (.and (Term.single .title .equals "aς") (Term.single .title .equals "b")) ∧
      parse "title = 'aΣ'and title = \"b\"" =
        .ok (.and (Term.single .title .equals "aσ") (Term.single .title .equals "b")) ∧
      parse "label in ('a, \"b\")" = .ok (Term.list .label .isIn ["'a", "b"]) ∧
      ∀ term, parse "label in ('a, 'b')" ≠ .ok term := by
  have rejected : (parse "label in ('a, 'b')").toOption = none := by decide +kernel
  refine ⟨parse_of_toOption (by decide +kernel), parse_of_toOption (by decide +kernel),
    parse_of_toOption (by decide +kernel), fun term accepted => ?_⟩
  rw [accepted] at rejected
  cases rejected

end Quoted

end ContentQuery.Query
