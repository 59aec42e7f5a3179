/-
This file proves that double and single quotes play the same part in a query. If every quote of
a folded text is exchanged for one of the other kind, then the text is read as before, with the
quotes in its values exchanged, or it is rejected at the same place. No word of the grammar holds
a quote, both quotes end the same runs of characters, and no field tells them apart in its values.

Double quotes are tried before single ones, which shows only in what is said of a failure: a
double quote that is not closed lacks its closing quote, and of a single one it is said that a
quoted value was expected. Both failures blame the opening quote.
-/

import ContentQuery.Proofs.Correspondence
import ContentQuery.Proofs.Writing

namespace ContentQuery.Query

open Rule Text Correspondence

/-! ### Exchanged quotes -/

/-- The other quote for a quote, and any other character for itself. -/
def exchangeQuote (character : Char) : Char :=
  if character = '"' then '\'' else if character = '\'' then '"' else character

/-- The text with its quotes exchanged. -/
def exchangeQuotes (text : List Char) : List Char := text.map exchangeQuote

/-- A character is a quote or it is left alone. -/
theorem exchangeQuote_cases (character : Char) :
    (character = '"' ∧ exchangeQuote character = '\'') ∨
      (character = '\'' ∧ exchangeQuote character = '"') ∨
      (character ≠ '"' ∧ character ≠ '\'' ∧ exchangeQuote character = character) := by
  by_cases double : character = '"'
  · exact Or.inl ⟨double, by rw [double]; rfl⟩
  · by_cases single : character = '\''
    · exact Or.inr (Or.inl ⟨single, by rw [single]; rfl⟩)
    · exact Or.inr (Or.inr ⟨double, single, by rw [exchangeQuote, if_neg double, if_neg single]⟩)

theorem exchangeQuote_exchangeQuote (character : Char) :
    exchangeQuote (exchangeQuote character) = character := by
  rcases exchangeQuote_cases character with ⟨rfl, _⟩ | ⟨rfl, _⟩ | ⟨_, _, same⟩
  · rfl
  · rfl
  · rw [same, same]

theorem exchangeQuote_inj {first second : Char} :
    exchangeQuote first = exchangeQuote second ↔ first = second := by
  constructor
  · intro same
    rw [← exchangeQuote_exchangeQuote first, same, exchangeQuote_exchangeQuote]
  · exact congrArg exchangeQuote

theorem exchangeQuotes_exchangeQuotes (text : List Char) :
    exchangeQuotes (exchangeQuotes text) = text := by
  simp only [exchangeQuotes, List.map_map, Function.comp_def, exchangeQuote_exchangeQuote,
    List.map_id']

/-- A class that has both quotes or neither does not tell them apart. -/
theorem holds_exchangeQuote (holds : Char → Bool) (same : holds '"' = holds '\'')
    (character : Char) : holds (exchangeQuote character) = holds character := by
  rcases exchangeQuote_cases character with ⟨rfl, other⟩ | ⟨rfl, other⟩ | ⟨_, _, other⟩
  · rw [other, same]
  · rw [other, same]
  · rw [other]

theorem exchangeQuotes_eq_self {text : List Char}
    (plain : ∀ character ∈ text, character ∉ ['"', '\'']) : exchangeQuotes text = text := by
  refine (List.map_congr_left fun character member => ?_).trans (List.map_id text)
  have noQuote := plain character member
  rcases exchangeQuote_cases character with ⟨rfl, _⟩ | ⟨rfl, _⟩ | ⟨_, _, same⟩
  · exact absurd (List.mem_cons_self) noQuote
  · exact absurd (List.mem_cons_of_mem _ List.mem_cons_self) noQuote
  · exact same

theorem utf8Length_exchangeQuotes (text : List Char) :
    utf8Length (exchangeQuotes text) = utf8Length text := by
  induction text with
  | nil => rfl
  | cons character rest inductionHypothesis =>
    have sameSize : (exchangeQuote character).utf8Size = character.utf8Size := by
      rcases exchangeQuote_cases character with ⟨rfl, _⟩ | ⟨rfl, _⟩ | ⟨_, _, same⟩
      · rfl
      · rfl
      · rw [same]
    rw [exchangeQuotes, List.map_cons, utf8Length, utf8Length, sameSize, ← inductionHypothesis]
    rfl

theorem takeWhile_exchangeQuotes (holds imageHolds : Char → Bool)
    (same : ∀ character, imageHolds (exchangeQuote character) = holds character)
    (text : List Char) :
    (exchangeQuotes text).takeWhile imageHolds = exchangeQuotes (text.takeWhile holds) := by
  rw [exchangeQuotes, List.takeWhile_map]
  exact congrArg (List.map exchangeQuote ∘ (List.takeWhile · text)) (funext same)

/-! ### The correspondence -/

/-- The place in the text with exchanged quotes. -/
def Cursor.exchanged (cursor : Cursor) : Cursor :=
  ⟨cursor.offset, exchangeQuotes cursor.rest, cursor.depth⟩

theorem Cursor.exchanged_advance (cursor : Cursor) (lexeme : List Char) :
    (cursor.advance lexeme).exchanged = cursor.exchanged.advance (exchangeQuotes lexeme) := by
  have sameLength : (exchangeQuotes lexeme).length = lexeme.length := List.length_map _
  simp only [exchanged, advance, utf8Length_exchangeQuotes, sameLength]
  rw [exchangeQuotes, exchangeQuotes, List.map_drop]

theorem exchangeQuotes_of_isPlainWord {word : String} (plain : IsPlainWord word) :
    exchangeQuotes word.toList = word.toList :=
  exchangeQuotes_eq_self fun character member quote =>
    plain character member (List.mem_cons_of_mem _ quote)

theorem prefix_exchangeQuotes_iff (word text : List Char) :
    exchangeQuotes word <+: exchangeQuotes text ↔ word <+: text := by
  constructor
  · intro stands
    have back := stands.map exchangeQuote
    change exchangeQuotes (exchangeQuotes word) <+: exchangeQuotes (exchangeQuotes text) at back
    rwa [exchangeQuotes_exchangeQuotes, exchangeQuotes_exchangeQuotes] at back
  · exact fun stands => stands.map exchangeQuote

/-- Each place of a text and the same place with exchanged quotes; only the places of failures
count. -/
def quoteExchange : Correspondence where
  Meets cursor other := other = cursor.exchanged
  Nears cursor other := other = cursor.exchanged
  Blames failure image := image.position = failure.position
  nears := id
  meets := by
    rintro cursor _ rfl
    have symmetric := holds_exchangeQuote (· == ' ') rfl
    rw [Cursor.exchanged_advance, ← takeWhile_exchangeQuotes (· == ' ') (· == ' ') symmetric]
    rfl
  stands_iff := by
    rintro word cursor _ plain rfl
    have stands := prefix_exchangeQuotes_iff word.toList cursor.rest
    rw [exchangeQuotes_of_isPlainWord plain] at stands
    exact stands.symm
  advance := by
    rintro word cursor _ plain rfl _
    rw [Cursor.exchanged_advance, exchangeQuotes_of_isPlainWord plain]
  continues_eq := by
    rintro cursor _ rfl
    have symmetric := holds_exchangeQuote continuesWord (by decide)
    simp only [Cursor.exchanged, exchangeQuotes, List.head?_map, Option.any_map, symmetric]
  isEmpty_eq := by
    rintro cursor _ rfl
    simp only [Cursor.exchanged, exchangeQuotes, List.isEmpty_map]
  depth_eq := by
    rintro cursor _ rfl
    rfl
  atDepth := by
    rintro cursor _ rfl depth
    rfl
  missing := by
    rintro cursor _ rfl expected
    rfl
  furthest := by
    intro first second image imageSecond blames blamesSecond
    unfold Failure.furthest
    rw [blames, blamesSecond]
    split
    · exact blamesSecond
    · exact blames

namespace quoteExchange

/-! ### Values and lists -/

theorem joins_takeWhile (holds imageHolds : Char → Bool)
    (same : ∀ character, imageHolds (exchangeQuote character) = holds character) :
    quoteExchange.Joins exchangeQuotes (takeWhile holds) (takeWhile imageHolds) := by
  rintro cursor _ rfl
  unfold Rule.takeWhile
  simp only [Cursor.exchanged, takeWhile_exchangeQuotes holds imageHolds same]
  exact .yielded _ (Cursor.exchanged_advance cursor _).symm

/-- Where the one quote stands, the other one does after the exchange. -/
theorem joins_quote (quote : Char) (expected : Expectation) :
    quoteExchange.Joins id (literal quote.toString expected)
      (literal (exchangeQuote quote).toString expected) := by
  rintro cursor _ rfl
  have spelling : ∀ quote : Char, quote.toString.toList = [quote] := by simp
  have stands : [exchangeQuote quote] <+: exchangeQuotes cursor.rest ↔ [quote] <+: cursor.rest :=
    prefix_exchangeQuotes_iff [quote] cursor.rest
  unfold literal
  simp only [List.isPrefixOf_iff_prefix, spelling, Cursor.exchanged]
  by_cases here : [quote] <+: cursor.rest
  · rw [if_pos here, if_pos (stands.mpr here)]
    exact .yielded () (Cursor.exchanged_advance cursor [quote]).symm
  · rw [if_neg here, if_neg (mt stands.mp here)]
    exact .failed rfl

/-- A value in quotes of one kind becomes a value in quotes of the other kind. -/
theorem joins_quotedBy (quote : Char) :
    quoteExchange.Joins exchangeQuotes (quotedBy quote) (quotedBy (exchangeQuote quote)) := by
  have symmetric : ∀ character,
      (exchangeQuote character != exchangeQuote quote) = (character != quote) := by
    intro character
    rw [Bool.eq_iff_iff, bne_iff_ne, bne_iff_ne, ne_eq, exchangeQuote_inj]
  refine carries_here_bind fun start => (joins_quote quote _).bind fun _ =>
    (joins_takeWhile (· != quote) _ symmetric).bind fun content =>
      (joins_quote quote _).attempt_bind (fun _ => carries_pure content) ?_
  exact carries_reject start _

/-- Only one of the two quotes stands at a place. -/
theorem quotedBy_single_of_double {cursor after : Cursor} {content : List Char}
    (reads : quotedBy '"' cursor = .ok (content, after)) :
    ∃ failure, quotedBy '\'' cursor = .error failure := by
  cases outcome : quotedBy '\'' cursor with
  | error failure => exact ⟨failure, rfl⟩
  | ok found =>
    have double := (quotedBy_eq_ok_iff.mp reads).1.rest_eq
    have single := (quotedBy_eq_ok_iff.mp outcome).1.rest_eq
    rw [double] at single
    cases single

/-- The two kinds are tried in the same order on both sides, so it is the other one of them that
yields the value; and of two failures the place that is kept is the further one. -/
theorem joins_quotedValue : quoteExchange.Joins exchangeQuotes quotedValue quotedValue := by
  intro cursor other meets
  have double : quoteExchange.KeepsStep quoteExchange.Meets exchangeQuotes
      (quotedBy '"' cursor) (quotedBy '\'' other) := joins_quotedBy '"' meets
  have single : quoteExchange.KeepsStep quoteExchange.Meets exchangeQuotes
      (quotedBy '\'' cursor) (quotedBy '"' other) := joins_quotedBy '\'' meets
  have alone := @quotedBy_single_of_double cursor
  unfold quotedValue Rule.orElse
  generalize quotedBy '"' cursor = outcome at double alone ⊢
  generalize quotedBy '\'' other = outcome' at double ⊢
  generalize quotedBy '\'' cursor = singleOutcome at single alone ⊢
  generalize quotedBy '"' other = singleOutcome' at single ⊢
  cases double with
  | yielded value after =>
    obtain ⟨failure, rfl⟩ := alone rfl
    cases single with
    | failed _ => exact .yielded value after
  | failed blames =>
    cases single with
    | yielded value after => exact .yielded value after
    | failed singleBlames =>
      refine .failed ?_
      show (Failure.furthest _ _).position = (Failure.furthest _ _).position
      have positionEq : _ = _ := blames
      have singlePositionEq : _ = _ := singleBlames
      unfold Failure.furthest
      split <;> split <;> omega

theorem isEmpty_exchangeQuotes (text : List Char) :
    (exchangeQuotes text).isEmpty = text.isEmpty := List.isEmpty_map

theorem joins_value : quoteExchange.Joins exchangeQuotes value value :=
  joins_quotedValue.orElse <| carries_takeWhileSome
    (joins_takeWhile _ _ (holds_exchangeQuote (!endsBareValue ·) rfl)) isEmpty_exchangeQuotes _

theorem joins_items : quoteExchange.Joins (List.map exchangeQuotes) items items := by
  have symmetric := holds_exchangeQuote (fun character => character != ',' && character != ' ') rfl
  have bare : quoteExchange.Joins exchangeQuotes bareItem bareItem :=
    carries_takeWhileSome (joins_takeWhile _ _ symmetric) isEmpty_exchangeQuotes _
  refine carries_items (joins_quotedValue.orElse bare) ?_
  rintro cursor _ rfl
  exact (List.length_map _).symm

theorem joins_valueList :
    quoteExchange.Joins (List.map exchangeQuotes) valueList valueList := by
  refine (carries_literal (by decide) _).bind fun _ => carries_here_bind fun {start _} meets =>
    (joins_takeWhile _ _ (holds_exchangeQuote (· != ')') rfl)).bind fun content =>
      (carries_literal (by decide) _).bind fun _ => ?_
  cases meets
  exact Carries.inside joins_items rfl isTidy_items fun _ _ _ blames => blames

/-! ### What fields admit -/

theorem all_exchangeQuotes (holds : Char → Bool) (same : holds '"' = holds '\'')
    (text : List Char) : (exchangeQuotes text).all holds = text.all holds := by
  rw [exchangeQuotes, List.all_map]
  exact congrArg text.all (funext (holds_exchangeQuote holds same))

/-- Texts without quotes contain a value just where they contain it with exchanged quotes. -/
theorem contains_exchangeQuotes {choices : List String}
    (plain : ∀ choice ∈ choices, IsPlainWord choice) (value : String) :
    choices.contains (String.ofList (exchangeQuotes value.toList)) = choices.contains value := by
  rw [Bool.eq_iff_iff, List.contains_iff_mem, List.contains_iff_mem]
  constructor
  · intro member
    have alone := exchangeQuotes_of_isPlainWord (plain _ member)
    rw [String.toList_ofList, exchangeQuotes_exchangeQuotes] at alone
    rwa [← alone, String.ofList_toList] at member
  · intro member
    rwa [exchangeQuotes_of_isPlainWord (plain value member), String.ofList_toList]

theorem admits_exchangeQuotes (field : Field) (value : String) :
    field.admits (String.ofList (exchangeQuotes value.toList)) = field.admits value := by
  have digits : ValueShape.digits.admits (String.ofList (exchangeQuotes value.toList)) =
      ValueShape.digits.admits value := by
    rw [ValueShape.admits, ValueShape.admits, String.toList_ofList]
    exact all_exchangeQuotes Char.isDigit rfl _
  have alphanumeric : ValueShape.alphanumeric.admits (String.ofList (exchangeQuotes value.toList)) =
      ValueShape.alphanumeric.admits value := by
    rw [ValueShape.admits, ValueShape.admits, String.toList_ofList, isEmpty_exchangeQuotes]
    exact congrArg _ (all_exchangeQuotes (fun character => character.isLower || character.isDigit)
      rfl _)
  cases field with
  | ancestor => exact digits
  | creator => exact alphanumeric
  | label =>
    show ValueShape.label.admits _ = ValueShape.label.admits _
    rw [ValueShape.admits, ValueShape.admits, String.toList_ofList]
    exact all_exchangeQuotes (fun character => !reservedInLabels.contains character) (by decide) _
  | parent => exact digits
  | space => exact alphanumeric
  | title => rfl
  | type => exact contains_exchangeQuotes (by decide) value

end quoteExchange

/-! ### Queries -/

theorem isSmall_exchangeQuotes {text : List Char} (small : IsSmall text) :
    IsSmall (exchangeQuotes text) := by
  intro character member
  obtain ⟨before, isBefore, rfl⟩ := List.mem_map.mp member
  have quotes : IsSmall ['"', '\''] := by decide
  rcases exchangeQuote_cases before with ⟨rfl, other⟩ | ⟨rfl, other⟩ | ⟨_, _, other⟩
  · rw [other]
    exact quotes _ (by simp)
  · rw [other]
    exact quotes _ (by simp)
  · rw [other]
    exact small before isBefore

/-- The query with its quotes exchanged. -/
def requote (query : String) : String := String.ofList (exchangeQuotes query.toList)

/-- A folded text is read as before with exchanged quotes, or it is rejected at the same place. -/
theorem readTerm_exchangeQuotes (text : List Char) :
    (∃ term, readTerm text = .ok term ∧
      readTerm (exchangeQuotes text) = .ok (term.map (Atom.mapValues exchangeQuotes))) ∨
    ∃ failure image, readTerm text = .error failure ∧
      readTerm (exchangeQuotes text) = .error image ∧ image.position = failure.position := by
  have joins : quoteExchange.Joins (Atom.mapValues exchangeQuotes) atom atom :=
    joins_atom quoteExchange.joins_value quoteExchange.joins_valueList
      quoteExchange.admits_exchangeQuotes
  have starts : quoteExchange.Nears (.start text) (.start (exchangeQuotes text)) := rfl
  exact read_cases (some depthLimit) isTidy_atom isTidy_atom joins (quoteExchange.meets starts)

/-- A query in small letters is accepted just when it is accepted with its quotes exchanged. Then
its term is the same but for the quotes in the values, which are exchanged as well; and if both
are rejected, it is at the same place. -/
theorem parse_requote (query : String) (small : IsSmall query.toList) :
    (∀ term, parse query = .ok term →
      parse (requote query) = .ok (term.map (Atom.mapValues exchangeQuotes))) ∧
    ((∃ term, parse (requote query) = .ok term) ↔ ∃ term, parse query = .ok term) ∧
    ∀ error, parse query = .error error →
      ∃ other, parse (requote query) = .error other ∧ other.position = error.position := by
  have parseEq : parse query = resultOf query.toList (readTerm query.toList) := by
    rw [parse, fold_eq_self small]
  have requotedEq : parse (requote query) =
      resultOf (exchangeQuotes query.toList) (readTerm (exchangeQuotes query.toList)) := by
    rw [parse, requote, String.toList_ofList, fold_eq_self (isSmall_exchangeQuotes small)]
  rw [parseEq, requotedEq]
  rcases readTerm_exchangeQuotes query.toList with
    ⟨term, reads, image⟩ | ⟨failure, failureImage, fails, image, positionEq⟩
  · rw [reads, image]
    refine ⟨fun other accepted => ?_, ⟨fun _ => ⟨term, rfl⟩, fun _ => ⟨_, rfl⟩⟩,
      fun error rejected => ?_⟩
    · cases accepted
      rfl
    · cases rejected
  · rw [fails, image]
    refine ⟨fun term accepted => ?_, ⟨?_, ?_⟩, fun error rejected => ?_⟩
    · cases accepted
    · rintro ⟨_, accepted⟩
      cases accepted
    · rintro ⟨_, accepted⟩
      cases accepted
    · cases rejected
      exact ⟨_, rfl, positionEq⟩

/-- A query with each quote in values in the other one, and one whose quote is not closed. -/
theorem parse_requote_instances :
    IsSmall "title = \"it's\" or label in ('a b', c\"d)".toList ∧
    parse (requote "title = \"it's\" or label in ('a b', c\"d)") =
      .ok (.or (Term.single .title .equals "it\"s") (Term.list .label .isIn ["a b", "c'd"])) ∧
    IsSmall "not title = 'it".toList ∧
    ∃ other, parse (requote "not title = 'it") = .error other ∧ other.position = 12 := by
  have small : IsSmall "title = \"it's\" or label in ('a b', c\"d)".toList := by decide +kernel
  have accepted : parse "title = \"it's\" or label in ('a b', c\"d)" =
      .ok (.or (Term.single .title .equals "it's") (Term.list .label .isIn ["a b", "c\"d"])) := rfl
  have smallToo : IsSmall "not title = 'it".toList := by decide +kernel
  have rejected : parse "not title = 'it" =
      .error ⟨12, "quoted value", "not title = 'it"⟩ := rfl
  exact ⟨small, (parse_requote _ small).1 _ accepted, smallToo,
    (parse_requote _ smallToo).2.2 _ rejected⟩

end ContentQuery.Query
