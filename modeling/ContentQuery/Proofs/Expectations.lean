/-
This file proves what a rule can be looking for when it fails. For each of the smaller rules that
is a short list, which it inherits from the rules that it is made of. A rule that is only ever
tried adds nothing to the list, and neither does the second rule of a choice where both fail at
the place at which they are run: a tie goes to the first.

All three ways to write a value fail at the place where the value should begin, so what is said
of a value is what is said of one in double quotes. That a quote is not closed is therefore only
ever said of double quotes, and of an item in a list it is never said at all, for an item that is
not closed is read as one without quotes.
-/

import ContentQuery.Proofs.Progress

namespace ContentQuery.Query

open Rule

variable {Value Other : Type} {some all : List Expectation}

/-! ### Rules in general -/

namespace Rule

/-- Whenever the rule fails, what it was looking for is on the list. -/
def FailsAs (expected : List Expectation) (rule : Rule Value) : Prop :=
  ∀ ⦃cursor : Cursor⦄ ⦃failure : Failure⦄,
    rule cursor = .error failure → failure.expected ∈ expected

theorem FailsAs.of_subset {rule : Rule Value} (failsAs : rule.FailsAs some)
    (subset : some ⊆ all) : rule.FailsAs all :=
  fun _ _ fails => subset (failsAs fails)

theorem failsAs_pure (value : Value) : (pure value : Rule Value).FailsAs all := by
  intro _ _ impossible
  cases impossible

theorem failsAs_here : here.FailsAs all := by
  intro _ _ impossible
  cases impossible

theorem FailsAs.bind {rule : Rule Value} {next : Value → Rule Other} (failsAs : rule.FailsAs all)
    (nextFailsAs : ∀ value, (next value).FailsAs all) : (rule >>= next).FailsAs all := by
  intro cursor failure fails
  rcases bind_eq_error_iff.mp fails with first | ⟨value, after, _, second⟩
  · exact failsAs first
  · exact nextFailsAs value second

theorem FailsAs.map {rule : Rule Value} (change : Value → Other) (failsAs : rule.FailsAs all) :
    (change <$> rule).FailsAs all :=
  failsAs.bind fun value => failsAs_pure (change value)

theorem FailsAs.orElse {first second : Rule Value} (failsAs : first.FailsAs all)
    (secondFailsAs : second.FailsAs all) : (first.orElse second).FailsAs all := by
  intro cursor failure fails
  obtain ⟨_, _, firstFails, secondFails, rfl⟩ := orElse_eq_error_iff.mp fails
  unfold Failure.furthest
  split
  · exact secondFailsAs secondFails
  · exact failsAs firstFails

theorem failsAs_attempt (rule : Rule Value) : (attempt rule).FailsAs all :=
  fun _ _ impossible => absurd impossible (attempt_ne_error rule _ _)

theorem failsAs_literal (word : String) (expected : Expectation) :
    (literal word expected).FailsAs [expected] := by
  intro _ _ fails
  rw [(literal_eq_error_iff.mp fails).2]
  exact List.mem_singleton_self expected

theorem failsAs_spelled (table : List (String × Value)) (expected : Expectation) :
    (spelled table expected).FailsAs [expected] := by
  intro _ _ fails
  rw [(spelled_eq_error_iff.mp fails).2]
  exact List.mem_singleton_self expected

theorem failsAs_takeWhile (holds : Char → Bool) : (takeWhile holds).FailsAs all :=
  fun _ _ impossible => absurd impossible (takeWhile_ne_error holds _ _)

theorem failsAs_endOfText : endOfText.FailsAs [.endOfQuery] := by
  intro _ _ fails
  unfold endOfText at fails
  split at fails
  · cases fails
  · cases fails
    exact List.mem_singleton_self _

theorem FailsAs.inside {rule : Rule Value} (failsAs : rule.FailsAs all)
    (ends : endOfText.FailsAs all) (start : Cursor) (content : List Char) :
    (inside start content rule).FailsAs all := by
  intro _ _ fails
  unfold Rule.inside at fails
  split at fails
  · cases fails
  · rename_i runs
    cases fails
    exact (failsAs.bind fun value => ends.bind fun _ => failsAs_pure value) runs

/-! ### Choices in place -/

/-- Whenever the rule fails, it does so at the place at which it is run. -/
def FailsInPlace (rule : Rule Value) : Prop :=
  ∀ ⦃cursor : Cursor⦄ ⦃failure : Failure⦄,
    rule cursor = .error failure → failure.position = cursor.offset

/-- A choice between rules that fail in place fails as the first one does. -/
theorem orElse_eq_error_iff_of_inPlace {first second : Rule Value}
    (firstInPlace : first.FailsInPlace) (secondInPlace : second.FailsInPlace) {cursor : Cursor}
    {failure : Failure} :
    first.orElse second cursor = .error failure ↔
      first cursor = .error failure ∧ ∃ other, second cursor = .error other := by
  have tie : ∀ {blamed other}, first cursor = .error blamed → second cursor = .error other →
      blamed.furthest other = blamed := fun firstFails secondFails =>
    Failure.furthest_of_le
      (Nat.le_of_eq ((secondInPlace secondFails).trans (firstInPlace firstFails).symm))
  rw [orElse_eq_error_iff]
  constructor
  · rintro ⟨blamed, other, firstFails, secondFails, rfl⟩
    rw [tie firstFails secondFails]
    exact ⟨firstFails, other, secondFails⟩
  · rintro ⟨firstFails, other, secondFails⟩
    exact ⟨failure, other, firstFails, secondFails, (tie firstFails secondFails).symm⟩

theorem FailsInPlace.orElse {first second : Rule Value} (firstInPlace : first.FailsInPlace)
    (secondInPlace : second.FailsInPlace) : (first.orElse second).FailsInPlace := fun _ _ fails =>
  firstInPlace ((orElse_eq_error_iff_of_inPlace firstInPlace secondInPlace).mp fails).1

theorem failsInPlace_takeWhileSome (holds : Char → Bool) (expected : Expectation) :
    (takeWhileSome holds expected).FailsInPlace := by
  intro cursor failure fails
  rw [(takeWhileSome_eq_error_iff.mp fails).2]
  rfl

end Rule

/-! ### Words and operators -/

theorem failsAs_spaces : spaces.FailsAs all :=
  (failsAs_takeWhile _).bind fun _ => failsAs_pure ()

theorem Rule.FailsAs.token {rule : Rule Value} (failsAs : rule.FailsAs all) :
    (token rule).FailsAs all :=
  fun _ _ fails => failsAs (token_eq_error_iff.mp fails)

theorem failsAs_keyword (word : String) (expected : Expectation) :
    (keyword word expected).FailsAs [expected] := by
  intro cursor failure fails
  unfold keyword at fails
  rw [here_bind] at fails
  rcases bind_eq_error_iff.mp fails with first | ⟨_, after, _, second⟩
  · exact failsAs_literal word expected first
  · rw [here_bind] at second
    split at second
    · cases second
      exact List.mem_singleton_self expected
    · cases second

theorem failsAs_operator : operator.FailsAs [.comparisonOperator, .listOperator] := by
  have comparison : (Operator.comparison <$> comparison).FailsAs [.comparisonOperator] :=
    (failsAs_spelled _ _).map _
  have isIn : (do keyword "in" .listOperator; pure .isIn : Rule Membership).FailsAs
      [.listOperator] :=
    (failsAs_keyword _ _).bind fun _ => failsAs_pure _
  have notIn : notIn.FailsAs [.listOperator] :=
    (failsAs_literal _ _).token.bind fun _ =>
      (failsAs_keyword _ _).bind fun _ => failsAs_pure _
  exact (comparison.of_subset (by simp)).orElse
    (((isIn.orElse notIn).map Operator.membership).of_subset (by simp))

/-! ### Values -/

theorem failsInPlace_quotedBy (quote : Char) : (quotedBy quote).FailsInPlace := by
  intro cursor failure fails
  rcases quotedBy_eq_error_iff.mp fails with ⟨_, rfl⟩ | ⟨_, _, _, rfl⟩
  · rfl
  · rfl

theorem failsInPlace_quotedValue : quotedValue.FailsInPlace :=
  (failsInPlace_quotedBy '"').orElse (failsInPlace_quotedBy '\'')

/-- Where neither kind of quotes holds a value, what is said is what is said of the double
ones. -/
theorem quotedValue_eq_error_iff {cursor : Cursor} {failure : Failure} :
    quotedValue cursor = .error failure ↔
      quotedBy '"' cursor = .error failure ∧ ∃ other, quotedBy '\'' cursor = .error other :=
  orElse_eq_error_iff_of_inPlace (failsInPlace_quotedBy '"') (failsInPlace_quotedBy '\'')

/-- Where no value stands, what is said is what is said of the double quotes. -/
theorem value_eq_error_iff {cursor : Cursor} {failure : Failure} :
    value cursor = .error failure ↔
      quotedBy '"' cursor = .error failure ∧ (∃ other, quotedBy '\'' cursor = .error other) ∧
        ∀ character ∈ cursor.rest.head?, endsBareValue character = true := by
  unfold value bareValue
  rw [orElse_eq_error_iff_of_inPlace failsInPlace_quotedValue (failsInPlace_takeWhileSome _ _),
    quotedValue_eq_error_iff, and_assoc]
  simp only [takeWhileSome_eq_error_iff, exists_and_left, exists_eq, and_true, Bool.not_eq_false']

theorem failsAs_value : value.FailsAs [.quotedValue, .closingQuote] := by
  intro cursor failure fails
  rcases quotedBy_eq_error_iff.mp (value_eq_error_iff.mp fails).1 with ⟨_, rfl⟩ | ⟨_, _, _, rfl⟩
  · exact List.mem_cons_self
  · exact List.mem_cons_of_mem _ List.mem_cons_self

/-! ### Lists of values -/

/-- An item is missing only where no quote stands, since a quote could begin an item without
quotes. -/
theorem failsAs_item : item.FailsAs [.quotedValue] := by
  have reader : (quotedValue.orElse bareItem).FailsAs [.quotedValue] := by
    intro cursor failure fails
    unfold bareItem at fails
    rw [orElse_eq_error_iff_of_inPlace failsInPlace_quotedValue (failsInPlace_takeWhileSome _ _),
      quotedValue_eq_error_iff] at fails
    obtain ⟨⟨quoted, _⟩, _, bare⟩ := fails
    rcases quotedBy_eq_error_iff.mp quoted with ⟨_, rfl⟩ | ⟨_, restEq, _, _⟩
    · exact List.mem_cons_self
    · have stops := (takeWhileSome_eq_error_iff.mp bare).1 '"' (by rw [restEq]; rfl)
      exact absurd stops (by decide)
  exact failsAs_spaces.bind fun _ => reader.token

theorem failsAs_moreItems (bound : Nat) : (moreItems bound).FailsAs [.quotedValue] := by
  induction bound with
  | zero => exact failsAs_pure []
  | succ bound inductionHypothesis =>
    unfold moreItems
    refine (failsAs_attempt _).bind fun comma => ?_
    cases comma with
    | none => exact failsAs_pure []
    | some _ =>
      exact failsAs_item.bind fun next =>
        inductionHypothesis.bind fun further => failsAs_pure (next :: further)

theorem failsAs_items : items.FailsAs [.quotedValue] :=
  failsAs_here.bind fun _ => failsAs_item.bind fun first =>
    (failsAs_moreItems _).bind fun further => failsAs_pure (first :: further)

theorem failsAs_valueList :
    valueList.FailsAs [.openingBracket, .closingBracket, .quotedValue, .endOfQuery] := by
  refine ((failsAs_literal _ _).of_subset (by simp)).bind fun _ => failsAs_here.bind fun start =>
    (failsAs_takeWhile _).bind fun content =>
      ((failsAs_literal _ _).of_subset (by simp)).bind fun _ => ?_
  exact (failsAs_items.of_subset (by simp)).inside (failsAs_endOfText.of_subset (by simp))
    start content

end ContentQuery.Query
