/-
This file proves that every rule of the language stops where it should: what it reads stands
at its place, the depth comes back unchanged, and a failure lies ahead. Every rule but the
spaces also takes something off the text, and that is what ends the loops over operands and
items and the recursion through groups.
-/

import ContentQuery.Proofs.Places

namespace ContentQuery.Query

open Rule Text

variable {Value Leaf : Type}

/-! ### Spaces and words -/

theorem isTidy_spaces : spaces.IsTidy := fun _ =>
  (isTidyFrom_takeWhile _).bind fun _ => isTidyFrom_pure ()

theorem Rule.IsTidy.token {rule : Rule Value} (tidy : rule.IsTidy) : (token rule).IsTidy :=
  fun start => (tidy start).bind fun value =>
    (isTidy_spaces start).bind fun _ => isTidyFrom_pure value

theorem Rule.Progresses.token {rule : Rule Value} (progresses : rule.Progresses) :
    (token rule).Progresses :=
  progresses.bind fun value start => (isTidy_spaces start).bind fun _ => isTidyFrom_pure value

/-- A word or sign and the spaces after it. -/
theorem isTidy_sign (spelling : String) (expected : Expectation) :
    (token (literal spelling expected)).IsTidy :=
  Rule.IsTidy.token fun _ => isTidyFrom_literal spelling expected

theorem token_eq_ok_iff {rule : Rule Value} {cursor after : Cursor} {value : Value} :
    token rule cursor = .ok (value, after) ↔
      ∃ middle, rule cursor = .ok (value, middle) ∧ spaces middle = .ok ((), after) := by
  unfold token
  simp only [bind_eq_ok_iff, pure_apply]
  constructor
  · rintro ⟨found, middle, reads, ⟨⟩, place, skips, same⟩
    cases same
    exact ⟨middle, reads, skips⟩
  · rintro ⟨middle, reads, skips⟩
    exact ⟨value, middle, reads, (), after, skips, rfl⟩

theorem token_eq_error_iff {rule : Rule Value} {cursor : Cursor} {failure : Failure} :
    token rule cursor = .error failure ↔ rule cursor = .error failure := by
  unfold token
  rw [bind_eq_error_iff]
  constructor
  · rintro (fails | ⟨_, middle, _, impossible⟩)
    · exact fails
    · cases impossible
  · exact Or.inl

theorem isTidy_keyword (word : String) (expected : Expectation) :
    (keyword word expected).IsTidy := by
  intro start
  refine isTidyFrom_here_bind fun place => (isTidyFrom_literal word expected).bind fun _ =>
    isTidyFrom_here.bind fun after => ?_
  split
  · exact isTidyFrom_reject (missing_isAhead place expected)
  · exact isTidyFrom_pure ()

/-- A word is read where it stands and no longer word does. -/
theorem keyword_eq_ok_iff {word : String} {expected : Expectation} {cursor after : Cursor}
    {found : Unit} :
    keyword word expected cursor = .ok (found, after) ↔
      cursor.Reads word.toList after ∧
        ∀ character ∈ after.rest.head?, continuesWord character = false := by
  have ends : after.rest.head?.any continuesWord = false ↔
      ∀ character ∈ after.rest.head?, continuesWord character = false := by
    cases after.rest.head? <;> simp
  unfold keyword
  rw [here_bind, bind_eq_ok_iff, ← ends]
  constructor
  · rintro ⟨_, place, reads, checks⟩
    rw [here_bind] at checks
    split at checks
    · cases checks
    · rename_i ends'
      cases checks
      exact ⟨literal_eq_ok_iff.mp reads, Bool.not_eq_true _ ▸ ends'⟩
  · rintro ⟨reads, ends'⟩
    refine ⟨(), after, literal_eq_ok_iff.mpr reads, ?_⟩
    rw [here_bind, ends']
    rfl

theorem progresses_keyword {word : String} {expected : Expectation}
    (nonempty : word.toList ≠ []) : (keyword word expected).Progresses := by
  intro cursor after found succeeds
  have split := (keyword_eq_ok_iff.mp succeeds).1.length_eq
  have positive := List.length_pos_iff.mpr nonempty
  omega

/-! ### Values -/

theorem isTidy_quotedBy (quote : Char) : (quotedBy quote).IsTidy := by
  intro start
  refine isTidyFrom_here_bind fun place => (isTidyFrom_literal _ _).bind fun _ =>
    (isTidyFrom_takeWhile _).bind fun content =>
      (isTidyFrom_literal _ _).attempt.bind fun closed => ?_
  cases closed with
  | some _ => exact isTidyFrom_pure content
  | none => exact isTidyFrom_reject (missing_isAhead place _)

/-- A quoted value is the text up to the next quote of its kind. -/
theorem quotedBy_eq_ok_iff {quote : Char} {cursor after : Cursor} {content : List Char} :
    quotedBy quote cursor = .ok (content, after) ↔
      cursor.Reads (quote :: (content ++ [quote])) after ∧ quote ∉ content := by
  have spelling : quote.toString.toList = [quote] := by simp
  unfold quotedBy
  rw [here_bind]
  simp only [bind_eq_ok_iff, literal_eq_ok_iff, takeWhile_eq_ok_iff, attempt_eq_ok_iff,
    spelling]
  constructor
  · rintro ⟨_, inside, opens, found, atEnd, ⟨takes, free, _⟩, closed, place, closes, rest⟩
    rcases closes with ⟨_, rfl, closes⟩ | ⟨_, rfl, rfl⟩
    · cases rest
      refine ⟨(opens.trans (takes.trans closes)), fun member => ?_⟩
      have differs := free quote member
      simp at differs
    · cases rest
  · rintro ⟨reads, free⟩
    have reads : cursor.Reads ([quote] ++ (content ++ [quote])) after := reads
    obtain ⟨inside, opens, reads⟩ := reads.split
    obtain ⟨atEnd, takes, closes⟩ := reads.split
    refine ⟨(), inside, opens, content, atEnd, ⟨takes, ?_, ?_⟩, some (), after,
      Or.inl ⟨(), rfl, closes⟩, rfl⟩
    · intro character member
      simpa using fun same : character = quote => free (same ▸ member)
    · rw [closes.rest_eq]
      simp

/-- Where no quote of the kind stands, there is no value in such quotes. -/
theorem quotedBy_of_not_stands {quote : Char} {cursor : Cursor}
    (stands : ¬ [quote] <+: cursor.rest) :
    quotedBy quote cursor = .error (cursor.missing .quotedValue) := by
  have spelling : quote.toString.toList = [quote] := by simp
  have fails : literal quote.toString .quotedValue cursor =
      .error (cursor.missing .quotedValue) :=
    literal_eq_error_iff.mpr ⟨spelling ▸ stands, rfl⟩
  rw [quotedBy, here_bind, bind_error fails]

/-- A quote without another one behind it is blamed for not being closed. -/
theorem quotedBy_of_unclosed {quote : Char} {cursor : Cursor} {inner : List Char}
    (restEq : cursor.rest = quote :: inner) (free : quote ∉ inner) :
    quotedBy quote cursor = .error (cursor.missing .closingQuote) := by
  have spelling : quote.toString.toList = [quote] := by simp
  have stands : [quote] <+: cursor.rest := ⟨inner, restEq.symm⟩
  have opens : literal quote.toString .quotedValue cursor = .ok ((), cursor.advance [quote]) :=
    literal_eq_ok_iff.mpr (by rw [spelling]; exact Cursor.reads_advance stands)
  rw [quotedBy, here_bind, bind_ok opens]
  cases takes : takeWhile (· != quote) (cursor.advance [quote]) with
  | error failure => exact absurd takes (takeWhile_ne_error _ _ _)
  | ok found =>
    obtain ⟨content, atEnd⟩ := found
    have remains : atEnd.rest <:+ inner := by
      have reads := (takeWhile_eq_ok_iff.mp takes).1.rest_eq
      simp only [Cursor.advance, restEq] at reads
      exact ⟨content, reads.symm⟩
    have unclosed : literal quote.toString .closingQuote atEnd =
        .error (atEnd.missing .closingQuote) := by
      refine literal_eq_error_iff.mpr ⟨fun closes => ?_, rfl⟩
      rw [spelling] at closes
      exact free (remains.subset (closes.subset (List.mem_singleton_self quote)))
    rw [bind_ok takes, bind_ok (attempt_of_error unclosed)]
    rfl

/-- A value in quotes is missing where its quote does not stand, or it is not closed. -/
theorem quotedBy_eq_error_iff {quote : Char} {cursor : Cursor} {failure : Failure} :
    quotedBy quote cursor = .error failure ↔
      ¬ [quote] <+: cursor.rest ∧ failure = cursor.missing .quotedValue ∨
        ∃ inner, cursor.rest = quote :: inner ∧ quote ∉ inner ∧
          failure = cursor.missing .closingQuote := by
  constructor
  · intro fails
    by_cases stands : [quote] <+: cursor.rest
    · obtain ⟨inner, restEq⟩ := stands
      by_cases closes : quote ∈ inner
      · obtain ⟨content, tail, rfl, first⟩ := List.eq_append_cons_of_mem closes
        have found : quote :: (content ++ [quote]) <+: cursor.rest :=
          ⟨tail, by rw [← restEq]; simp⟩
        rw [quotedBy_eq_ok_iff.mpr ⟨Cursor.reads_advance found, first⟩] at fails
        cases fails
      · rw [quotedBy_of_unclosed restEq.symm closes] at fails
        cases fails
        exact Or.inr ⟨inner, restEq.symm, closes, rfl⟩
    · rw [quotedBy_of_not_stands stands] at fails
      cases fails
      exact Or.inl ⟨stands, rfl⟩
  · rintro (⟨stands, rfl⟩ | ⟨inner, restEq, free, rfl⟩)
    · exact quotedBy_of_not_stands stands
    · exact quotedBy_of_unclosed restEq free

theorem progresses_quotedBy (quote : Char) : (quotedBy quote).Progresses := by
  intro cursor after content succeeds
  have split := (quotedBy_eq_ok_iff.mp succeeds).1.length_eq
  simp only [List.length_cons] at split
  omega

theorem isTidy_quotedValue : quotedValue.IsTidy := fun start =>
  (isTidy_quotedBy '"' start).orElse (isTidy_quotedBy '\'' start)

theorem progresses_quotedValue : quotedValue.Progresses :=
  (progresses_quotedBy '"').orElse (progresses_quotedBy '\'')

theorem isTidy_value : value.IsTidy := fun start =>
  (isTidy_quotedValue start).orElse (isTidyFrom_takeWhileSome _ _)

theorem progresses_value : value.Progresses :=
  progresses_quotedValue.orElse (progresses_takeWhileSome _ _)

/-! ### Lists of values -/

theorem isTidy_item : item.IsTidy := fun start =>
  (isTidy_spaces start).bind fun _ =>
    Rule.IsTidy.token (fun _ => (isTidy_quotedValue _).orElse (isTidyFrom_takeWhileSome _ _)) _

theorem progresses_item : item.Progresses :=
  isTidy_spaces.bind_progresses fun _ =>
    (progresses_quotedValue.orElse (progresses_takeWhileSome _ _)).token

theorem isTidy_moreItems (bound : Nat) : (moreItems bound).IsTidy := by
  induction bound with
  | zero => exact fun _ => isTidyFrom_pure []
  | succ bound inductionHypothesis =>
    intro start
    unfold moreItems
    refine (isTidyFrom_literal _ _).attempt.bind fun comma => ?_
    cases comma with
    | none => exact isTidyFrom_pure []
    | some _ =>
      exact (isTidy_item start).bind fun next =>
        (inductionHypothesis start).bind fun further => isTidyFrom_pure (next :: further)

theorem isTidy_items : items.IsTidy := fun _ =>
  isTidyFrom_here.bind fun _ => (isTidy_item _).bind fun first =>
    (isTidy_moreItems _ _).bind fun further => isTidyFrom_pure (first :: further)

theorem inside_eq_ok_iff {start cursor after : Cursor} {content : List Char}
    {rule : Rule Value} {value : Value} :
    inside start content rule cursor = .ok (value, after) ↔
      (∃ last, rule ⟨start.offset, content, start.depth⟩ = .ok (value, last) ∧
        last.rest = []) ∧ after = cursor := by
  have runs : ∀ {place last : Cursor} {found : Value},
      (do let value ← rule; endOfText; pure value : Rule Value) place = .ok (found, last) ↔
        rule place = .ok (found, last) ∧ last.rest = [] := by
    intro place last found
    simp only [bind_eq_ok_iff, endOfText_eq_ok_iff, pure_apply]
    constructor
    · rintro ⟨_, _, reads, _, _, ⟨ends, rfl⟩, same⟩
      cases same
      exact ⟨reads, ends⟩
    · rintro ⟨reads, ends⟩
      exact ⟨found, last, reads, (), last, ⟨ends, rfl⟩, rfl⟩
  unfold inside
  split
  · rename_i found last outcome
    constructor
    · intro same
      cases same
      exact ⟨⟨last, runs.mp outcome⟩, rfl⟩
    · rintro ⟨⟨last', reads⟩, rfl⟩
      rw [runs.mpr reads] at outcome
      cases outcome
      rfl
  · rename_i failure outcome
    constructor
    · intro impossible
      cases impossible
    · rintro ⟨⟨last', reads⟩, rfl⟩
      rw [runs.mpr reads] at outcome
      cases outcome

theorem isAhead_of_inside {start cursor : Cursor} {content : List Char} {rule : Rule Value}
    {failure : Failure} (tidy : rule.IsTidy) (stands : content <+: start.rest)
    (fails : inside start content rule cursor = .error failure) : failure.IsAhead start := by
  have whole : (do let value ← rule; endOfText; pure value : Rule Value).IsTidy := fun _ =>
    (tidy _).bind fun value => isTidyFrom_endOfText.bind fun _ => isTidyFrom_pure value
  unfold inside at fails
  split at fails
  · cases fails
  · rename_i outcome
    cases fails
    obtain ⟨lexeme, found, positionEq⟩ := whole.isAhead outcome
    exact ⟨lexeme, found.trans stands, positionEq⟩

/-- A list is the text between its brackets, none of which closes before the last. -/
theorem valueList_eq_ok_iff {cursor after : Cursor} {texts : List (List Char)} :
    valueList cursor = .ok (texts, after) ↔
      ∃ start content, cursor.Reads ['('] start ∧ start.Reads (content ++ [')']) after ∧
        ')' ∉ content ∧
        ∃ last, items ⟨start.offset, content, start.depth⟩ = .ok (texts, last) ∧
          last.rest = [] := by
  unfold valueList
  simp only [bind_eq_ok_iff, literal_eq_ok_iff, takeWhile_eq_ok_iff, inside_eq_ok_iff]
  constructor
  · rintro ⟨_, start, opens, _, _, ⟨⟩, content, atEnd, ⟨takes, free, _⟩, _, _, closes,
      contentRead, rfl⟩
    refine ⟨start, content, opens, takes.trans closes, fun member => ?_, contentRead⟩
    have differs := free ')' member
    simp at differs
  · rintro ⟨start, content, opens, reads, free, contentRead⟩
    obtain ⟨atEnd, takes, closes⟩ := reads.split
    refine ⟨(), start, opens, start, start, rfl, content, atEnd, ⟨takes, ?_, ?_⟩, (), after,
      closes, contentRead, rfl⟩
    · intro character member
      simpa using fun same : character = ')' => free (same ▸ member)
    · rw [closes.rest_eq]
      simp

theorem isTidy_valueList : valueList.IsTidy := by
  refine isTidy_of_here (fun succeeds => ?_) (fun {cursor failure} fails => ?_)
  · obtain ⟨start, content, opens, reads, _⟩ := valueList_eq_ok_iff.mp succeeds
    exact ⟨_, opens.trans reads⟩
  · unfold valueList at fails
    rcases bind_eq_error_iff.mp fails with opens | ⟨_, start, opens, fails⟩
    · exact (literal_eq_error_iff.mp opens).2 ▸ missing_isAhead cursor _
    rw [here_bind] at fails
    have opens := literal_eq_ok_iff.mp opens
    refine Failure.IsAhead.of_reads opens ?_
    rcases bind_eq_error_iff.mp fails with takes | ⟨content, atEnd, takes, fails⟩
    · exact absurd takes (takeWhile_ne_error _ _ _)
    have takes := (takeWhile_eq_ok_iff.mp takes).1
    rcases bind_eq_error_iff.mp fails with closes | ⟨_, behind, closes, fails⟩
    · exact (literal_eq_error_iff.mp closes).2 ▸ (missing_isAhead atEnd _).of_reads takes
    · exact isAhead_of_inside isTidy_items ⟨_, takes.rest_eq.symm⟩ fails

theorem progresses_valueList : valueList.Progresses := by
  intro cursor after texts succeeds
  obtain ⟨start, content, opens, reads, _⟩ := valueList_eq_ok_iff.mp succeeds
  have split := (opens.trans reads).length_eq
  simp only [List.length_append, List.length_cons] at split
  omega

/-! ### Atoms -/

theorem fieldSpellings_ne_nil : ∀ entry ∈ fieldSpellings, entry.1.toList ≠ [] := by decide

theorem isTidy_operator : operator.IsTidy := by
  have comparison : (Operator.comparison <$> comparison).IsTidy := fun _ =>
    (isTidyFrom_spelled _ _).map _
  have isIn : (do keyword "in" .listOperator; pure .isIn : Rule Membership).IsTidy := fun start =>
    (isTidy_keyword _ _ start).bind fun _ => isTidyFrom_pure _
  have notIn : notIn.IsTidy := fun start =>
    (isTidy_sign _ _ start).bind fun _ =>
      (isTidy_keyword _ _ start).bind fun _ => isTidyFrom_pure _
  exact fun start => (comparison start).orElse (((isIn start).orElse (notIn start)).map _)

theorem isTidy_operand (field : Field) (operator : Operator) :
    (operand field operator).IsTidy := by
  intro start
  cases operator with
  | comparison operator =>
    exact (isTidy_value.token start).bind fun _ => isTidyFrom_pure _
  | membership operator =>
    exact (isTidy_valueList.token start).bind fun _ => isTidyFrom_pure _

theorem isTidy_fieldName : fieldName.IsTidy := fun _ => isTidyFrom_spelled _ _

theorem isTidy_placedAtom : placedAtom.IsTidy := fun start =>
  (isTidy_fieldName.token start).bind fun field => isTidyFrom_here.bind fun _ =>
    (isTidy_operator.token start).bind fun operator => isTidyFrom_here.bind fun _ =>
      (isTidy_operand field operator start).bind fun _ => isTidyFrom_pure _

theorem progresses_placedAtom : placedAtom.Progresses :=
  (progresses_spelled fieldSpellings_ne_nil).token.bind fun field start =>
    isTidyFrom_here.bind fun _ =>
      (isTidy_operator.token start).bind fun operator => isTidyFrom_here.bind fun _ =>
        (isTidy_operand field operator start).bind fun _ => isTidyFrom_pure _

/-- A well-formed atom is a field, an operator at the noted place, and what the operator takes
at the place noted for it. -/
theorem placedAtom_eq_ok_iff {cursor after : Cursor} {placed : PlacedAtom} :
    placedAtom cursor = .ok (placed, after) ↔
      ∃ field operator', token fieldName cursor = .ok (field, placed.operatorPlace) ∧
        token operator placed.operatorPlace = .ok (operator', placed.valuePlace) ∧
        operand field operator' placed.valuePlace = .ok (placed.atom, after) := by
  unfold placedAtom
  simp only [bind_eq_ok_iff, pure_apply]
  constructor
  · rintro ⟨field, place, name, _, _, ⟨⟩, operator', place', sign, _, _, ⟨⟩, content, _, taken,
      same⟩
    cases same
    exact ⟨field, operator', name, sign, taken⟩
  · rintro ⟨field, operator', name, sign, taken⟩
    exact ⟨field, _, name, _, _, rfl, operator', _, sign, _, _, rfl, _, _, taken, rfl⟩

/-- A valid atom is a well-formed one without a fault. -/
theorem atom_eq_ok_iff {cursor after : Cursor} {content : Atom} :
    atom cursor = .ok (content, after) ↔
      ∃ placed, placedAtom cursor = .ok (placed, after) ∧ placed.fault? = none ∧
        placed.atom = content := by
  unfold atom
  rw [bind_eq_ok_iff]
  constructor
  · rintro ⟨placed, place, reads, checks⟩
    cases fault : placed.fault? with
    | none =>
      rw [fault] at checks
      cases checks
      exact ⟨placed, reads, fault, rfl⟩
    | some failure =>
      rw [fault] at checks
      cases checks
  · rintro ⟨placed, reads, fault, rfl⟩
    refine ⟨placed, after, reads, ?_⟩
    rw [fault]
    rfl

/-- An atom that is well formed and has a fault fails with it. -/
theorem atom_eq_error_iff {cursor : Cursor} {failure : Failure} :
    atom cursor = .error failure ↔
      placedAtom cursor = .error failure ∨
        ∃ placed after, placedAtom cursor = .ok (placed, after) ∧
          placed.fault? = some failure := by
  unfold atom
  rw [bind_eq_error_iff]
  refine or_congr Iff.rfl ⟨?_, ?_⟩
  · rintro ⟨placed, after, reads, checks⟩
    refine ⟨placed, after, reads, ?_⟩
    cases fault : placed.fault? with
    | none =>
      rw [fault] at checks
      cases checks
    | some found =>
      rw [fault] at checks
      cases checks
      rfl
  · rintro ⟨placed, after, reads, fault⟩
    refine ⟨placed, after, reads, ?_⟩
    rw [fault]
    rfl

/-- The fault of an atom that was read lies between its operator and its end. -/
theorem isAhead_of_fault {cursor after : Cursor} {placed : PlacedAtom} {failure : Failure}
    (reads : placedAtom cursor = .ok (placed, after)) (fault : placed.fault? = some failure) :
    failure.IsAhead cursor := by
  obtain ⟨field, operator', name, sign, _⟩ := placedAtom_eq_ok_iff.mp reads
  obtain ⟨_, toOperator⟩ := isTidy_fieldName.token.reads name
  obtain ⟨_, toValue⟩ := isTidy_operator.token.reads sign
  unfold PlacedAtom.fault? at fault
  split at fault
  · cases fault
  · split at fault
    · cases fault
      exact (missing_isAhead _ _).of_reads (toOperator.trans toValue)
    · cases fault
      exact (missing_isAhead _ _).of_reads toOperator

theorem isTidy_atom : atom.IsTidy := by
  refine isTidy_of_here (fun succeeds => ?_) (fun fails => ?_)
  · obtain ⟨placed, reads, _⟩ := atom_eq_ok_iff.mp succeeds
    exact isTidy_placedAtom.reads reads
  · rcases atom_eq_error_iff.mp fails with fails | ⟨placed, after, reads, fault⟩
    · exact isTidy_placedAtom.isAhead fails
    · exact isAhead_of_fault reads fault

theorem progresses_atom : atom.Progresses := by
  intro cursor after content succeeds
  obtain ⟨placed, reads, _⟩ := atom_eq_ok_iff.mp succeeds
  exact progresses_placedAtom reads

/-! ### Terms -/

theorem isTidy_connective (word : String) : (connective word).IsTidy :=
  (isTidy_keyword word _).token

theorem isTidy_attempt_connective (word : String) : (attempt (connective word)).IsTidy :=
  fun start => (isTidy_connective word start).attempt

theorem progresses_connective {word : String} (nonempty : word.toList ≠ []) :
    (connective word).Progresses :=
  (progresses_keyword nonempty).token

theorem word_ne_nil (kind : Connective) : kind.word.toList ≠ [] := by
  cases kind <;> decide

/-- The loop over operands goes on behind a connective. -/
theorem chainAfter_of_ok {kind : Connective} {operand : Rule (Tree Leaf)} {bound : Nat}
    {left : Tree Leaf} {cursor place : Cursor}
    (word : connective kind.word cursor = .ok ((), place)) :
    chainAfter kind operand (bound + 1) left cursor =
      (operand >>= fun right => chainAfter kind operand bound (.join kind left right)) place := by
  rw [chainAfter, bind_ok (attempt_of_ok word)]

/-- The loop over operands ends where no connective stands. -/
theorem chainAfter_of_error {kind : Connective} {operand : Rule (Tree Leaf)} {bound : Nat}
    {left : Tree Leaf} {cursor : Cursor} {failure : Failure}
    (noWord : connective kind.word cursor = .error failure) :
    chainAfter kind operand bound left cursor = .ok (left, cursor) := by
  cases bound with
  | zero => rfl
  | succ bound =>
    rw [chainAfter, bind_ok (attempt_of_error noWord)]
    rfl

theorem isTidy_chainAfter (kind : Connective) {operand : Rule (Tree Leaf)}
    (tidy : operand.IsTidy) (bound : Nat) (left : Tree Leaf) :
    (chainAfter kind operand bound left).IsTidy := by
  induction bound generalizing left with
  | zero => exact fun _ => isTidyFrom_pure left
  | succ bound inductionHypothesis =>
    intro start
    unfold chainAfter
    refine (isTidy_connective kind.word start).attempt.bind fun word => ?_
    cases word with
    | none => exact isTidyFrom_pure left
    | some _ => exact (tidy start).bind fun right => inductionHypothesis _ start

theorem isTidy_chain (kind : Connective) {operand : Rule (Tree Leaf)} (tidy : operand.IsTidy)
    (bound : Nat) : (chain kind bound operand).IsTidy := fun start =>
  (tidy start).bind fun first => isTidy_chainAfter kind tidy bound first start

theorem progresses_chain (kind : Connective) {operand : Rule (Tree Leaf)}
    (tidy : operand.IsTidy) (progresses : operand.Progresses) (bound : Nat) :
    (chain kind bound operand).Progresses :=
  progresses.bind fun first => isTidy_chainAfter kind tidy bound first

theorem isTidy_unaryOf {primary : Rule (Tree Leaf)} (tidy : primary.IsTidy) :
    (unaryOf primary).IsTidy := by
  intro start
  refine (isTidy_connective negationWord start).attempt.bind fun word => ?_
  cases word with
  | none => exact tidy start
  | some _ => exact (tidy start).bind fun _ => isTidyFrom_pure _

theorem unaryOf_of_ok {primary : Rule (Tree Leaf)} {cursor place : Cursor}
    (word : connective negationWord cursor = .ok ((), place)) :
    unaryOf primary cursor = (primary >>= fun operand => pure (.negate operand)) place := by
  rw [unaryOf, bind_ok (attempt_of_ok word)]

theorem unaryOf_of_error {primary : Rule (Tree Leaf)} {cursor : Cursor} {failure : Failure}
    (noWord : connective negationWord cursor = .error failure) :
    unaryOf primary cursor = primary cursor := by
  rw [unaryOf, bind_ok (attempt_of_error noWord)]

theorem progresses_unaryOf {primary : Rule (Tree Leaf)} (progresses : primary.Progresses) :
    (unaryOf primary).Progresses := by
  refine (isTidy_attempt_connective negationWord).bind_progresses fun word => ?_
  cases word with
  | none => exact progresses
  | some _ => exact progresses.bind fun _ _ => isTidyFrom_pure _

/-- The term in a group and the bracket behind it. -/
theorem isTidy_groupRest {term : Rule (Tree Leaf)} (tidy : term.IsTidy) :
    (do
      let inner ← term
      token (literal ")" .closingBracket)
      pure inner : Rule (Tree Leaf)).IsTidy := fun start =>
  (tidy start).bind fun inner => (isTidy_sign _ _ start).bind fun _ => isTidyFrom_pure inner

theorem isTidy_groupOf (limit : Option Nat) {term : Rule (Tree Leaf)} (tidy : term.IsTidy) :
    (groupOf limit term).IsTidy := fun start =>
  (isTidy_sign _ _ start).bind fun _ => Rule.IsTidy.nested (isTidy_groupRest tidy) start

theorem progresses_groupOf (limit : Option Nat) {term : Rule (Tree Leaf)}
    (tidy : term.IsTidy) : (groupOf limit term).Progresses :=
  (progresses_literal (by decide)).token.bind fun _ => (isTidy_groupRest tidy).nested

theorem isTidy_primaryOf (limit : Option Nat) {leaf : Rule Leaf} {term : Rule (Tree Leaf)}
    (leafTidy : leaf.IsTidy) (termTidy : term.IsTidy) :
    (primaryOf limit leaf term).IsTidy := fun start =>
  ((leafTidy start).map _).orElse (isTidy_groupOf limit termTidy start)

theorem progresses_primaryOf (limit : Option Nat) {leaf : Rule Leaf}
    {term : Rule (Tree Leaf)} (leafProgresses : leaf.Progresses) (termTidy : term.IsTidy) :
    (primaryOf limit leaf term).Progresses :=
  (leafProgresses.map _).orElse (progresses_groupOf limit termTidy)

theorem isTidy_termWithin (limit : Option Nat) {leaf : Rule Leaf} (tidy : leaf.IsTidy)
    (bound : Nat) : (termWithin limit leaf bound).IsTidy := by
  induction bound with
  | zero =>
    refine isTidy_of_here (fun impossible => ?_) (fun fails => ?_)
    · cases impossible
    · cases fails
      exact missing_isAhead _ _
  | succ bound inductionHypothesis =>
    exact isTidy_chain .or (isTidy_chain .and
      (isTidy_unaryOf (isTidy_primaryOf limit tidy inductionHypothesis)) bound) bound

theorem isTidy_term (limit : Option Nat) {leaf : Rule Leaf} (tidy : leaf.IsTidy) :
    (term limit leaf).IsTidy :=
  isTidy_of_here (fun succeeds => (isTidy_termWithin limit tidy _).reads succeeds)
    (fun fails => (isTidy_termWithin limit tidy _).isAhead fails)

end ContentQuery.Query
