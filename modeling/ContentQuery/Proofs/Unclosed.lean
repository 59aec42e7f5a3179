/-
This file proves what is said of a value whose opening quote has no other quote of its kind behind
it. Such a value can be reached anywhere in a query, and the query is then always rejected at the
quote. What is expected there depends on the kind of the quote. A double quote is said to lack its
closing quote. A single quote is not: double quotes are tried before single ones, both fail at
the same place, and of two failures at one place the first is kept, so that a quoted value is
said to be missing where one has begun.

The other way round, a closing quote is never said to be missing but where the run has reached a
value that begins with a double quote and has no other one behind it.
-/

import ContentQuery.Proofs.Heads

namespace ContentQuery.Query

open Rule Text

/-! ### Values with an open quote -/

/-- What a value is said to lack that begins with a quote and has no other one of the kind. -/
def missingWhenOpen (quote : Char) : Expectation :=
  if quote = '"' then .closingQuote else .quotedValue

theorem value_of_open {place : Cursor} {quote : Char} {tail : List Char}
    (isQuote : quote = '"' ∨ quote = '\'') (restEq : place.rest = quote :: tail)
    (isOpen : quote ∉ tail) : value place = .error (place.missing (missingWhenOpen quote)) := by
  have unclosed := quotedBy_of_unclosed restEq isOpen
  have headEq : place.rest.head? = some quote := by
    rw [restEq]
    rfl
  have others : ∀ other, other ≠ quote →
      quotedBy other place = .error (place.missing .quotedValue) := by
    intro other differs
    refine quotedBy_of_not_stands fun stands => differs ?_
    rw [restEq, List.cons_prefix_cons] at stands
    exact stands.1
  refine value_eq_error_iff.mpr ⟨?_, ?_, fun character member => ?_⟩
  · rcases isQuote with rfl | rfl
    · exact unclosed
    · exact others '"' (by decide)
  · rcases isQuote with rfl | rfl
    · exact ⟨_, others '\'' (by decide)⟩
    · exact ⟨_, unclosed⟩
  · rw [headEq, Option.mem_some] at member
    rcases isQuote with rfl | rfl
    · exact member ▸ rfl
    · exact member ▸ rfl

/-- A value is said to lack its closing quote only if it begins with a double quote. -/
theorem exists_of_value_closingQuote {place : Cursor} {failure : Failure}
    (fails : value place = .error failure) (closing : failure.expected = .closingQuote) :
    failure.position = place.offset ∧ ∃ tail, place.rest = '"' :: tail ∧ '"' ∉ tail := by
  rcases quotedBy_eq_error_iff.mp (value_eq_error_iff.mp fails).1 with
    ⟨_, rfl⟩ | ⟨tail, restEq, isOpen, rfl⟩
  · cases closing
  · exact ⟨rfl, tail, restEq, isOpen⟩

/-! ### Queries with an open quote -/

/-- Behind a field and an operator that takes a single value, the run reaches the place to read the
value there. -/
def ReachesValue (text : List Char) (place : Cursor) : Prop :=
  ∃ head comparison, (head, place) ∈ headsRead text ∧ head.operator = .comparison comparison

/-- Wherever an open quote is reached, it is what the query is rejected for. -/
theorem readTerm_of_open {text : List Char} {place : Cursor} {quote : Char} {tail : List Char}
    (reaches : ReachesValue text place) (isQuote : quote = '"' ∨ quote = '\'')
    (restEq : place.rest = quote :: tail) (isOpen : quote ∉ tail) :
    readTerm text = .error (place.missing (missingWhenOpen quote)) := by
  obtain ⟨head, comparison, member, operatorEq⟩ := reaches
  refine readTerm_of_atomBody member (atomBody_eq_error_iff.mpr (Or.inl ?_))
  rw [operatorEq, operand_comparison_eq_error_iff]
  exact value_of_open isQuote restEq isOpen

/-- A query is rejected for a closing quote just where a double quote is reached and is open. -/
theorem readTerm_closingQuote_iff {text : List Char} {position : Nat} :
    readTerm text = .error ⟨position, .closingQuote⟩ ↔
      ∃ place tail, ReachesValue text place ∧ place.offset = position ∧
        place.rest = '"' :: tail ∧ '"' ∉ tail := by
  have inBodies : Expectation.closingQuote ∉ outsideBodies := by decide
  have notOfList : Expectation.closingQuote ∉
      [.openingBracket, .closingBracket, .quotedValue, .endOfQuery] := by decide
  have notOfFault : Expectation.closingQuote ∉ [.allowedOperator, .allowedValue] := by decide
  constructor
  · intro rejected
    obtain ⟨⟨field, operatorPlace, operator⟩, place, member, fails⟩ :=
      exists_atomBody_of_readTerm rejected inBodies
    rcases atomBody_eq_error_iff.mp fails with operand | ⟨_, _, _, fault⟩
    · cases operator with
      | comparison comparison =>
        obtain ⟨positionEq, tail, restEq, isOpen⟩ :=
          exists_of_value_closingQuote (operand_comparison_eq_error_iff.mp operand) rfl
        exact ⟨place, tail, ⟨_, comparison, member, rfl⟩, positionEq.symm, restEq, isOpen⟩
      | membership membership =>
        exact absurd (failsAs_valueList (operand_membership_eq_error_iff.mp operand)) notOfList
    · exact absurd (expected_of_fault fault) notOfFault
  · rintro ⟨place, tail, reaches, rfl, restEq, isOpen⟩
    exact readTerm_of_open reaches (Or.inl rfl) restEq isOpen

/-! ### What is reported -/

/-- A place where a value is reached is in the text, behind a field and an operator. -/
theorem ReachesValue.exists_append {text : List Char} {place : Cursor}
    (reaches : ReachesValue text place) :
    ∃ before, text = before ++ place.rest ∧ place.offset = utf8Length before := by
  obtain ⟨_, _, member, _⟩ := reaches
  exact (standsIn_of_mem_headsRead member).ends

/-- Wherever a query reaches a value whose opening quote has no other one of the kind behind it,
the query is rejected at that quote. It is said to lack a closing quote if the quote is a double
one, and a quoted value if it is a single one. Nothing else is ever said to lack a closing
quote. -/
theorem open_quote_reported (query : String) :
    (∀ place quote tail, ReachesValue (fold query.toList) place → quote = '"' ∨ quote = '\'' →
      place.rest = quote :: tail → quote ∉ tail →
        (∃ before, fold query.toList = before ++ quote :: tail ∧
          place.offset = utf8Length before) ∧
        parse query = .error ⟨place.offset,
          if quote = '"' then "closing quote" else "quoted value",
          String.ofList (fold query.toList)⟩) ∧
    ∀ position,
      parse query = .error ⟨position, "closing quote", String.ofList (fold query.toList)⟩ ↔
        ∃ place tail, ReachesValue (fold query.toList) place ∧ place.offset = position ∧
          place.rest = '"' :: tail ∧ '"' ∉ tail := by
  have reported : ∀ {position expected},
      readTerm (fold query.toList) = .error ⟨position, expected⟩ →
        parse query = .error ⟨position, expected.text, String.ofList (fold query.toList)⟩ :=
    fun fails => (parse_eq_error_iff (expected_mem_reportable fails)).mpr fails
  refine ⟨fun place quote tail reaches isQuote restEq isOpen => ⟨?_, ?_⟩, fun position => ?_⟩
  · rw [← restEq]
    exact reaches.exists_append
  · have rejected := reported (readTerm_of_open reaches isQuote restEq isOpen)
    rcases isQuote with rfl | rfl
    · exact rejected
    · exact rejected
  · have closing : Expectation.closingQuote ∈ reportable := by decide
    rw [← readTerm_closingQuote_iff]
    exact parse_eq_error_iff closing

/-- Open quotes in the first atom of a query, behind a connective, and behind a negation in a
group. -/
theorem open_quote_reported_instances :
    parse "Title = \"it's" = .error ⟨8, "closing quote", "title = \"it's"⟩ ∧
    parse "label=a or title ~ 'É" = .error ⟨19, "quoted value", "label=a or title ~ 'é"⟩ ∧
    parse "not (not title!=\"a) or" = .error ⟨16, "closing quote", "not (not title!=\"a) or"⟩ := by
  have first : ReachesValue (fold "Title = \"it's".toList) ⟨8, "\"it's".toList, 0⟩ :=
    ⟨⟨.title, ⟨6, "= \"it's".toList, 0⟩, .comparison .equals⟩, _, List.Mem.head [], rfl⟩
  have behindWord : ReachesValue (fold "label=a or title ~ 'É".toList) ⟨19, "'é".toList, 0⟩ :=
    ⟨⟨.title, ⟨17, "~ 'é".toList, 0⟩, .comparison .contains⟩, _,
      List.Mem.tail _ (List.Mem.head []), rfl⟩
  have inGroup : ReachesValue (fold "not (not title!=\"a) or".toList)
      ⟨16, "\"a) or".toList, 1⟩ :=
    ⟨⟨.title, ⟨14, "!=\"a) or".toList, 1⟩, .comparison .notEquals⟩, _, List.Mem.head [], rfl⟩
  refine ⟨?_, ?_, ?_⟩
  · exact ((open_quote_reported _).1 _ _ _ first (Or.inl rfl) rfl (by decide)).2
  · exact ((open_quote_reported _).1 _ _ _ behindWord (Or.inr rfl) rfl (by decide)).2
  · exact ((open_quote_reported _).1 _ _ _ inGroup (Or.inl rfl) rfl (by decide)).2

/-- The same text in either kind of quotes, none of them closed. -/
theorem parse_open_singleQuote :
    parse "title ~ \"auto" = .error ⟨8, "closing quote", "title ~ \"auto"⟩ ∧
      parse "title ~ 'auto" = .error ⟨8, "quoted value", "title ~ 'auto"⟩ :=
  ⟨rfl, rfl⟩

end ContentQuery.Query
