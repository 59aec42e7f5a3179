/-
This file proves that reading by byte offsets never cuts a text where it cannot be cut. A mark
shows a cursor when its text can be cut at its offset and what is left of it there is what the
cursor has left. From there a rule on offsets and the rule of the grammar do the same: they
yield one value at a mark and a cursor that belong together again, or they fail for one reason
at one place. In particular no run ends in a miscut.

The property is inherited by every rule from the rules it is made of. In the content of a list
offsets begin anew, so the rules are followed at every shift between the two offsets. The error
of a rejected query then has a place in the query, and its column counts the characters before
this place.
-/

import ContentQuery.Proofs.Cutting
import ContentQuery.Proofs.Progress

namespace ContentQuery

namespace Text

/-! ### Cutting texts -/

/-- Widths are those of the strings of the standard library. -/
theorem utf8Length_eq_utf8ByteSize (text : List Char) :
    utf8Length text = (String.ofList text).utf8ByteSize := by
  induction text with
  | nil => rfl
  | cons character rest inductionHypothesis =>
    rw [utf8Length, inductionHypothesis, String.ofList_cons, String.utf8ByteSize_append,
      String.utf8ByteSize_singleton]

/-- Some characters are counted before an offset just where the offset is behind them. -/
theorem charactersBefore?_eq_some_iff {text : List Char} {offset count : Nat} :
    charactersBefore? text offset = some count ↔
      count ≤ text.length ∧ offset = utf8Length (text.take count) := by
  constructor
  · intro counts
    induction text generalizing offset count with
    | nil =>
      cases offset with
      | zero =>
        cases counts
        exact ⟨Nat.le_refl 0, rfl⟩
      | succ offset => cases counts
    | cons character rest inductionHypothesis =>
      cases offset with
      | zero =>
        cases counts
        exact ⟨Nat.zero_le _, rfl⟩
      | succ offset =>
        unfold charactersBefore? at counts
        split at counts
        · cases counts
        · rename_i fits
          obtain ⟨further, countsRest, rfl⟩ := Option.map_eq_some_iff.mp counts
          obtain ⟨bound, offsetEq⟩ := inductionHypothesis countsRest
          refine ⟨Nat.succ_le_succ bound, ?_⟩
          rw [List.take_succ_cons, utf8Length, ← offsetEq]
          omega
  · rintro ⟨bound, rfl⟩
    have counts := charactersBefore?_utf8Length (text.take count) (text.drop count)
    rwa [List.take_append_drop, List.length_take_of_le bound] at counts

/-- A text is cut just between a beginning and the rest, at the width of the beginning. -/
theorem cut?_eq_some_iff {text front back : List Char} {offset : Nat} :
    cut? text offset = some (front, back) ↔
      text = front ++ back ∧ offset = utf8Length front := by
  unfold cut?
  rw [Option.map_eq_some_iff]
  constructor
  · rintro ⟨count, counts, same⟩
    obtain ⟨bound, rfl⟩ := charactersBefore?_eq_some_iff.mp counts
    rw [List.splitAt_eq, Prod.mk.injEq] at same
    obtain ⟨rfl, rfl⟩ := same
    exact ⟨(List.take_append_drop count text).symm, rfl⟩
  · rintro ⟨rfl, rfl⟩
    refine ⟨front.length, charactersBefore?_utf8Length front back, ?_⟩
    rw [List.splitAt_eq, List.take_left, List.drop_left]

/-- A text can be cut just at the valid positions of its string. -/
theorem isSome_cut?_iff {text : List Char} {offset : Nat} :
    (cut? text offset).isSome ↔ String.Pos.Raw.IsValid (String.ofList text) ⟨offset⟩ := by
  rw [Option.isSome_iff_exists, String.Pos.Raw.isValid_iff_exists_append]
  constructor
  · rintro ⟨⟨front, back⟩, cuts⟩
    obtain ⟨rfl, rfl⟩ := cut?_eq_some_iff.mp cuts
    refine ⟨String.ofList front, String.ofList back, String.ofList_append, ?_⟩
    rw [utf8Length_eq_utf8ByteSize]
    rfl
  · rintro ⟨front, back, split, offsetEq⟩
    refine ⟨(front.toList, back.toList), cut?_eq_some_iff.mpr ⟨?_, ?_⟩⟩
    · rw [← String.toList_append, ← split, String.toList_ofList]
    · rw [utf8Length_eq_utf8ByteSize, String.ofList_toList]
      exact congrArg String.Pos.Raw.byteIdx offsetEq

end Text

namespace Query

open Text

variable {Value Other : Type} {shift : Nat}

/-! ### Marks and cursors -/

/-- The mark is a place at which its text can be cut, the cursor is at the same place, and its
offset is further by the shift. -/
structure Mark.Shows (shift : Nat) (mark : Mark) (cursor : Cursor) : Prop where
  /-- The offset of the mark is the width of what is before the place. -/
  split : ∃ before, mark.text = before ++ cursor.rest ∧ mark.offset = utf8Length before
  /-- The text of the mark begins at the shift. -/
  offset_eq : cursor.offset = mark.offset + shift
  /-- The same number of groups is open. -/
  depth_eq : cursor.depth = mark.depth

namespace Mark

theorem shows_start (text : List Char) : (Mark.mk text 0 0).Shows 0 (.start text) :=
  ⟨⟨[], rfl, rfl⟩, rfl, rfl⟩

variable {mark : Mark} {cursor : Cursor}

theorem Shows.cut?_eq (shows : mark.Shows shift cursor) :
    ∃ before, cut? mark.text mark.offset = some (before, cursor.rest) := by
  obtain ⟨before, textEq, offsetEq⟩ := shows.split
  exact ⟨before, cut?_eq_some_iff.mpr ⟨textEq, offsetEq⟩⟩

/-- Behind a text that stands at the place, the mark is at a place again. -/
theorem Shows.advance (shows : mark.Shows shift cursor) {lexeme : List Char}
    (found : lexeme <+: cursor.rest) :
    (mark.advance (utf8Length lexeme)).Shows shift (cursor.advance lexeme) where
  split := by
    obtain ⟨before, textEq, offsetEq⟩ := shows.split
    have reads := Cursor.reads_advance found
    refine ⟨before ++ lexeme, ?_, ?_⟩
    · rw [Mark.advance, textEq, reads.rest_eq, List.append_assoc]
    · rw [Mark.advance, offsetEq, utf8Length_append]
  offset_eq := by
    simp only [Cursor.advance, Mark.advance, shows.offset_eq]
    omega
  depth_eq := shows.depth_eq

/-- Opening a group moves neither the mark nor the cursor. -/
theorem Shows.atDepth (shows : mark.Shows shift cursor) (depth : Nat) :
    (mark.atDepth depth).Shows shift (cursor.atDepth depth) :=
  ⟨shows.split, shows.offset_eq, rfl⟩

/-- The end of the text is reached by the offset just where nothing is left. -/
theorem Shows.utf8Length_le_iff (shows : mark.Shows shift cursor) :
    utf8Length mark.text ≤ mark.offset ↔ cursor.rest.isEmpty = true := by
  obtain ⟨before, textEq, offsetEq⟩ := shows.split
  rw [textEq, offsetEq, utf8Length_append]
  cases cursor.rest with
  | nil => simp [utf8Length]
  | cons character rest =>
    have positive := character.utf8Size_pos
    simp only [utf8Length, List.isEmpty_cons, Bool.false_eq_true, iff_false]
    omega

end Mark

/-! ### Outcomes that agree -/

/-- Two outcomes agree when both are the same value at a mark and a cursor that belong together,
or the same failure. A miscut agrees with nothing. -/
inductive Agrees (shift : Nat) :
    Except Stop (Value × Mark) → Except Failure (Value × Cursor) → Prop where
  /-- Both runs yield the value. -/
  | yielded (value : Value) {mark : Mark} {cursor : Cursor} (shows : mark.Shows shift cursor) :
    Agrees shift (.ok (value, mark)) (.ok (value, cursor))
  /-- Both runs fail, the second one at the shifted place. -/
  | failed (failure : Failure) :
    Agrees shift (.error (.failed failure)) (.error (failure.movedBy shift))

/-- From a mark and a cursor that belong together, the two rules have outcomes that agree. -/
def Cutter.Follows (shift : Nat) (cutter : Cutter Value) (rule : Rule Value) : Prop :=
  ∀ ⦃mark : Mark⦄ ⦃cursor : Cursor⦄, mark.Shows shift cursor →
    Agrees shift (cutter mark) (rule cursor)

theorem Mark.Shows.missing {mark : Mark} {cursor : Cursor} (shows : mark.Shows shift cursor)
    (expected : Expectation) :
    @Agrees Value shift (.error (.failed (mark.missing expected)))
      (.error (cursor.missing expected)) := by
  rw [Cursor.missing, shows.offset_eq]
  exact .failed (mark.missing expected)

/-- Two runs in sequence agree when the first ones do and the second ones do from where the
first ones lead. -/
theorem Agrees.bind {cutter : Cutter Value} {rule : Rule Value} {nextCutter : Value → Cutter Other}
    {nextRule : Value → Rule Other} {mark : Mark} {cursor : Cursor}
    (agrees : Agrees shift (cutter mark) (rule cursor))
    (next : ∀ {value after place}, rule cursor = .ok (value, place) → after.Shows shift place →
      Agrees shift (nextCutter value after) (nextRule value place)) :
    Agrees shift ((cutter >>= nextCutter) mark) ((rule >>= nextRule) cursor) := by
  simp only [Bind.bind]
  generalize cutter mark = outcome at agrees ⊢
  generalize ruleOutcome : rule cursor = outcome' at agrees ⊢
  cases agrees with
  | yielded value shows => exact next ruleOutcome shows
  | failed failure => exact .failed failure

/-! ### Rules in sequence -/

namespace Cutter

theorem follows_pure (value : Value) : Follows shift (pure value) (pure value) :=
  fun _ _ shows => .yielded value shows

theorem Follows.bind {cutter : Cutter Value} {rule : Rule Value}
    {nextCutter : Value → Cutter Other} {nextRule : Value → Rule Other}
    (follows : Follows shift cutter rule)
    (next : ∀ value, Follows shift (nextCutter value) (nextRule value)) :
    Follows shift (cutter >>= nextCutter) (rule >>= nextRule) :=
  fun _ _ shows => (follows shows).bind fun _ shows => next _ shows

theorem Follows.map {cutter : Cutter Value} {rule : Rule Value} (change : Value → Other)
    (follows : Follows shift cutter rule) : Follows shift (change <$> cutter) (change <$> rule) :=
  follows.bind fun value => follows_pure (change value)

/-- Rules that begin by noting where they are may go on with what they noted. -/
theorem follows_here_bind {nextCutter : Mark → Cutter Value} {nextRule : Cursor → Rule Value}
    (next : ∀ {mark cursor}, mark.Shows shift cursor →
      Follows shift (nextCutter mark) (nextRule cursor)) :
    Follows shift (here >>= nextCutter) (Rule.here >>= nextRule) :=
  fun _ _ shows => next shows shows

theorem follows_missing {mark : Mark} {cursor : Cursor} (shows : mark.Shows shift cursor)
    (expected : Expectation) :
    @Follows Value shift (reject (mark.missing expected))
      (Rule.reject (cursor.missing expected)) :=
  fun _ _ _ => shows.missing expected

/-! ### Choice -/

theorem furthest_movedBy (first second : Failure) (shift : Nat) :
    (first.movedBy shift).furthest (second.movedBy shift) =
      (first.furthest second).movedBy shift := by
  unfold Failure.furthest Failure.movedBy
  simp only [Nat.add_lt_add_iff_right]
  split <;> rfl

theorem Follows.orElse {first second : Cutter Value} {firstRule secondRule : Rule Value}
    (follows : Follows shift first firstRule) (followsSecond : Follows shift second secondRule) :
    Follows shift (first.orElse second) (firstRule.orElse secondRule) := by
  intro mark cursor shows
  have agrees := follows shows
  have agreesSecond := followsSecond shows
  unfold Cutter.orElse Rule.orElse
  generalize first mark = outcome at agrees ⊢
  generalize firstRule cursor = outcome' at agrees ⊢
  generalize second mark = secondOutcome at agreesSecond ⊢
  generalize secondRule cursor = secondOutcome' at agreesSecond ⊢
  cases agrees with
  | yielded value reached => exact .yielded value reached
  | failed failure =>
    cases agreesSecond with
    | yielded value reached => exact .yielded value reached
    | failed secondFailure =>
      simp only [furthest_movedBy]
      exact .failed (failure.furthest secondFailure)

theorem Follows.attempt {cutter : Cutter Value} {rule : Rule Value}
    (follows : Follows shift cutter rule) :
    Follows shift (attempt cutter) (Rule.attempt rule) := by
  intro mark cursor shows
  have agrees := follows shows
  unfold Cutter.attempt Rule.attempt
  generalize cutter mark = outcome at agrees ⊢
  generalize rule cursor = outcome' at agrees ⊢
  cases agrees with
  | yielded value reached => exact .yielded (some value) reached
  | failed failure => exact .yielded none shows

/-! ### Reading text -/

section Marked

variable {mark : Mark} {cursor : Cursor}

/-- What is left at a mark is what the cursor has left. -/
theorem rest_of_shows (shows : mark.Shows shift cursor) : rest mark = .ok (cursor.rest, mark) := by
  obtain ⟨before, cuts⟩ := shows.cut?_eq
  simp only [rest, here, cut, Bind.bind, cuts]
  rfl

theorem here_bind (next : Mark → Cutter Value) (mark : Mark) :
    (here >>= next) mark = next mark mark := rfl

theorem rest_bind (shows : mark.Shows shift cursor) (next : List Char → Cutter Value) :
    (rest >>= next) mark = next cursor.rest mark := by
  simp only [Bind.bind, rest_of_shows shows]

/-- What stands at the place is taken by its width. -/
theorem take_of_shows (shows : mark.Shows shift cursor) {lexeme : List Char}
    (found : lexeme <+: cursor.rest) :
    take (utf8Length lexeme) mark = .ok (lexeme, mark.advance (utf8Length lexeme)) := by
  obtain ⟨remaining, restEq⟩ := found
  have cuts : cut? cursor.rest (utf8Length lexeme) = some (lexeme, remaining) :=
    cut?_eq_some_iff.mpr ⟨restEq.symm, rfl⟩
  rw [take, rest_bind shows]
  simp only [cut, advance, Bind.bind, cuts]
  rfl

theorem take_bind (shows : mark.Shows shift cursor) {lexeme : List Char}
    (found : lexeme <+: cursor.rest) (next : List Char → Cutter Value) :
    (take (utf8Length lexeme) >>= next) mark = next lexeme (mark.advance (utf8Length lexeme)) := by
  simp only [Bind.bind, take_of_shows shows found]

end Marked

/-- A rule may look at the text that is left where the other rule notes its place. -/
theorem follows_rest_bind {nextCutter : List Char → Cutter Value}
    {nextRule : Cursor → Rule Value}
    (next : ∀ cursor, Follows shift (nextCutter cursor.rest) (nextRule cursor)) :
    Follows shift (rest >>= nextCutter) (Rule.here >>= nextRule) := by
  intro mark cursor shows
  rw [rest_bind shows]
  exact next cursor shows

theorem follows_takeWhile (holds : Char → Bool) :
    Follows shift (takeWhile holds) (Rule.takeWhile holds) := by
  intro mark cursor shows
  have found : cursor.rest.takeWhile holds <+: cursor.rest := List.takeWhile_prefix holds
  rw [takeWhile, rest_bind shows, take_of_shows shows found]
  exact .yielded _ (shows.advance found)

theorem follows_takeWhileSome (holds : Char → Bool) (expected : Expectation) :
    Follows shift (takeWhileSome holds expected) (Rule.takeWhileSome holds expected) := by
  refine follows_here_bind fun shows => (follows_takeWhile holds).bind fun found => ?_
  split
  · exact follows_missing shows expected
  · exact follows_pure found

theorem follows_literal (word : String) (expected : Expectation) :
    Follows shift (literal word expected) (Rule.literal word expected) := by
  intro mark cursor shows
  rw [literal, here_bind, rest_bind shows, Rule.literal]
  by_cases stands : word.toList.isPrefixOf cursor.rest = true
  · rw [if_pos stands, if_pos stands]
    have found := List.isPrefixOf_iff_prefix.mp stands
    rw [take_bind shows found]
    exact .yielded () (shows.advance found)
  · rw [if_neg stands, if_neg stands]
    exact shows.missing expected

theorem follows_spelled (table : List (String × Value)) (expected : Expectation) :
    Follows shift (spelled table expected) (Rule.spelled table expected) := by
  intro mark cursor shows
  rw [spelled, here_bind, rest_bind shows, Rule.spelled]
  cases first : table.find? fun entry => entry.1.toList.isPrefixOf cursor.rest with
  | some entry =>
    obtain ⟨spelling, value⟩ := entry
    have stands := List.find?_some first
    have found : spelling.toList <+: cursor.rest := List.isPrefixOf_iff_prefix.mp stands
    dsimp only
    rw [take_bind shows found]
    exact .yielded value (shows.advance found)
  | none => exact shows.missing expected

theorem follows_endOfText : Follows shift endOfText Rule.endOfText := by
  intro mark cursor shows
  unfold endOfText Rule.endOfText
  simp only [shows.utf8Length_le_iff]
  split
  · exact .yielded () shows
  · exact shows.missing .endOfQuery

/-! ### Parts of a text -/

/-- A rule that is followed at every shift is followed in a text of its own, whose offsets are
those of the query less the offset at which it begins. -/
theorem agrees_inside {cutter : Cutter Value} {rule : Rule Value} {mark : Mark}
    {cursor start : Cursor} {offset : Nat} {content : List Char}
    (follows : ∀ shift, Follows shift cutter rule) (shows : mark.Shows shift cursor)
    (offsetEq : start.offset = offset + shift) (depthEq : start.depth = mark.depth) :
    Agrees shift (inside offset content cutter mark) (Rule.inside start content rule cursor) := by
  -- Inside, the two offsets are further apart, by the offset at which the content begins.
  have atStart : (Mark.mk content 0 mark.depth).Shows (offset + shift)
      ⟨start.offset, content, start.depth⟩ :=
    ⟨⟨[], rfl, rfl⟩, by rw [offsetEq, Nat.zero_add], depthEq⟩
  have agrees := ((follows _).bind fun value =>
    follows_endOfText.bind fun _ => follows_pure value) atStart
  unfold inside Rule.inside
  generalize (cutter >>= _ : Cutter Value) _ = outcome at agrees ⊢
  generalize (rule >>= _ : Rule Value) _ = outcome' at agrees ⊢
  cases agrees with
  | yielded value _ => exact .yielded value shows
  | failed failure =>
    have moved : failure.movedBy (offset + shift) = (failure.movedBy offset).movedBy shift := by
      simp only [Failure.movedBy, Nat.add_assoc]
    rw [moved]
    exact .failed (failure.movedBy offset)

theorem Follows.nested {cutter : Cutter Value} {rule : Rule Value} (limit : Option Nat)
    (follows : Follows shift cutter rule) :
    Follows shift (nested limit cutter) (Rule.nested limit rule) := by
  intro mark cursor shows
  unfold Cutter.nested Rule.nested
  rw [shows.depth_eq]
  split
  · exact shows.missing .shallowerNesting
  · have agrees := follows (shows.atDepth (mark.depth + 1))
    generalize cutter _ = outcome at agrees ⊢
    generalize rule _ = outcome' at agrees ⊢
    cases agrees with
    | yielded value reached => exact .yielded value (reached.atDepth mark.depth)
    | failed failure => exact .failed failure

/-! ### Words and values -/

theorem follows_spaces : Follows shift spaces Query.spaces :=
  (follows_takeWhile _).bind fun _ => follows_pure ()

theorem Follows.token {cutter : Cutter Value} {rule : Rule Value}
    (follows : Follows shift cutter rule) : Follows shift (token cutter) (Query.token rule) :=
  follows.bind fun value => follows_spaces.bind fun _ => follows_pure value

theorem follows_keyword (word : String) (expected : Expectation) :
    Follows shift (keyword word expected) (Query.keyword word expected) := by
  refine follows_here_bind fun shows => (follows_literal word expected).bind fun _ =>
    follows_rest_bind fun behind => ?_
  split
  · exact follows_missing shows expected
  · exact follows_pure ()

/-- A quote stands behind the text that is free of it just where there is one at all. -/
theorem prefix_drop_takeWhile_iff (quote : Char) (text : List Char) :
    [quote] <+: text.drop (text.takeWhile (· != quote)).length ↔ quote ∈ text := by
  induction text with
  | nil => simp
  | cons character rest inductionHypothesis =>
    by_cases same : character = quote
    · simp [same]
    · simp [same, inductionHypothesis, Ne.symm same]

/-- Searching for the second quote finds it where reading up to it ends. -/
theorem follows_quotedBy (quote : Char) :
    Follows shift (quotedBy quote) (Query.quotedBy quote) := by
  refine follows_here_bind fun shows => (follows_literal _ _).bind fun _ => ?_
  intro mark cursor reached
  let content := cursor.rest.takeWhile (· != quote)
  have found : content <+: cursor.rest := List.takeWhile_prefix _
  have takes : Rule.takeWhile (· != quote) cursor = .ok (content, cursor.advance content) := rfl
  have spelling : quote.toString.toList = [quote] := by simp
  have closing : [quote] <+: (cursor.advance content).rest ↔ quote ∈ cursor.rest :=
    prefix_drop_takeWhile_iff quote cursor.rest
  rw [rest_bind reached, Rule.bind_ok takes]
  by_cases closes : quote ∈ cursor.rest
  · have closed : Rule.literal quote.toString .closingQuote (cursor.advance content) =
        .ok ((), (cursor.advance content).advance [quote]) := by
      rw [Rule.literal_eq_ok_iff, spelling]
      exact Cursor.reads_advance (closing.mpr closes)
    rw [if_pos closes, take_bind reached found, Rule.bind_ok (Rule.attempt_of_ok closed)]
    exact .yielded content ((reached.advance found).advance (closing.mpr closes))
  · have unclosed : Rule.literal quote.toString .closingQuote (cursor.advance content) =
        .error ((cursor.advance content).missing .closingQuote) := by
      rw [Rule.literal_eq_error_iff, spelling]
      exact ⟨fun stands => closes (closing.mp stands), rfl⟩
    rw [if_neg closes, Rule.bind_ok (Rule.attempt_of_error unclosed)]
    exact shows.missing .closingQuote

theorem follows_quotedValue : Follows shift quotedValue Query.quotedValue :=
  (follows_quotedBy '"').orElse (follows_quotedBy '\'')

theorem follows_value : Follows shift value Query.value :=
  follows_quotedValue.orElse (follows_takeWhileSome _ _)

theorem follows_item : Follows shift item Query.item :=
  follows_spaces.bind fun _ => (follows_quotedValue.orElse (follows_takeWhileSome _ _)).token

theorem follows_moreItems (bound : Nat) :
    Follows shift (moreItems bound) (Query.moreItems bound) := by
  induction bound with
  | zero => exact follows_pure []
  | succ bound inductionHypothesis =>
    refine (follows_literal "," .comma).attempt.bind fun comma => ?_
    cases comma with
    | none => exact follows_pure []
    | some _ =>
      exact follows_item.bind fun next => inductionHypothesis.bind fun further =>
        follows_pure (next :: further)

theorem follows_items : Follows shift items Query.items :=
  follows_rest_bind fun cursor => follows_item.bind fun first =>
    (follows_moreItems cursor.rest.length).bind fun further => follows_pure (first :: further)

theorem follows_valueList : Follows shift valueList Query.valueList := by
  intro mark cursor shows
  rw [valueList, here_bind, Query.valueList]
  refine (follows_literal "(" .openingBracket shows).bind fun {_ inner start} opens reached => ?_
  have opens := Rule.literal_eq_ok_iff.mp opens
  have offsetEq : start.offset = mark.offset + 1 + shift := by
    rw [opens.offset_eq, shows.offset_eq]
    change _ + 1 = _
    omega
  rw [Rule.here_bind]
  refine (follows_takeWhile _ reached).bind fun {content _ atEnd} takes reached =>
    (follows_literal ")" .closingBracket reached).bind fun {_ _ behind} closes reached => ?_
  have takes := (Rule.takeWhile_eq_ok_iff.mp takes).1
  have closes := Rule.literal_eq_ok_iff.mp closes
  have depthEq : start.depth = behind.depth := (closes.depth_eq.trans takes.depth_eq).symm
  exact agrees_inside (fun _ => follows_items) reached offsetEq (depthEq.trans reached.depth_eq)

/-! ### Atoms -/

theorem follows_notIn : Follows shift notIn Query.notIn :=
  (follows_literal _ _).token.bind fun _ => (follows_keyword _ _).bind fun _ =>
    follows_pure Membership.notIn

theorem follows_operator : Follows shift operator Query.operator :=
  ((follows_spelled _ _).map _).orElse
    ((((follows_keyword _ _).bind fun _ => follows_pure Membership.isIn).orElse
      follows_notIn).map _)

theorem follows_operand (field : Field) (operator : Operator) :
    Follows shift (operand field operator) (Query.operand field operator) := by
  cases operator with
  | comparison comparison => exact follows_value.token.bind fun text => follows_pure _
  | membership membership => exact follows_valueList.token.bind fun texts => follows_pure _

/-- Both rules judge an atom when it is read, the one by its fault and the other in place. -/
theorem follows_atom : Follows shift atom Query.atom := by
  unfold Query.atom placedAtom
  simp only [Rule.bind_assoc]
  refine (follows_spelled _ _).token.bind fun field => follows_here_bind fun operatorShows =>
    follows_operator.token.bind fun operator => follows_here_bind fun valueShows =>
      (follows_operand field operator).bind fun atom => ?_
  intro mark cursor shows
  rw [Rule.bind_ok (Rule.pure_apply _ cursor)]
  unfold PlacedAtom.fault?
  by_cases valid : atom.isValid = true
  · simp only [if_pos valid]
    exact .yielded atom shows
  · by_cases allowed : atom.field.allows atom.operator = true
    · simp only [if_neg valid, if_pos allowed]
      exact valueShows.missing .allowedValue
    · simp only [if_neg valid, if_neg allowed]
      exact operatorShows.missing .allowedOperator

/-! ### Terms -/

theorem follows_connective (word : String) :
    Follows shift (connective word) (Query.connective word) :=
  (follows_keyword word _).token

theorem follows_chainAfter (kind : Connective) {operand : Cutter Term} {operandRule : Rule Term}
    (follows : Follows shift operand operandRule) (bound : Nat) (left : Term) :
    Follows shift (chainAfter kind operand bound left)
      (Query.chainAfter kind operandRule bound left) := by
  induction bound generalizing left with
  | zero => exact follows_pure left
  | succ bound inductionHypothesis =>
    refine (follows_connective kind.word).attempt.bind fun word => ?_
    cases word with
    | none => exact follows_pure left
    | some _ => exact follows.bind fun right => inductionHypothesis (.join kind left right)

theorem follows_chain (kind : Connective) {operand : Cutter Term} {operandRule : Rule Term}
    (bound : Nat) (follows : Follows shift operand operandRule) :
    Follows shift (chain kind bound operand) (Query.chain kind bound operandRule) :=
  follows.bind fun first => follows_chainAfter kind follows bound first

theorem follows_unaryOf {primary : Cutter Term} {primaryRule : Rule Term}
    (follows : Follows shift primary primaryRule) :
    Follows shift (unaryOf primary) (Query.unaryOf primaryRule) := by
  refine (follows_connective negationWord).attempt.bind fun word => ?_
  cases word with
  | none => exact follows
  | some _ => exact follows.bind fun operand => follows_pure (Tree.negate operand)

theorem follows_groupOf (limit : Option Nat) {term : Cutter Term} {termRule : Rule Term}
    (follows : Follows shift term termRule) :
    Follows shift (groupOf limit term) (Query.groupOf limit termRule) :=
  (follows_literal _ _).token.bind fun _ => Follows.nested limit <|
    follows.bind fun inner => (follows_literal _ _).token.bind fun _ => follows_pure inner

theorem follows_primaryOf (limit : Option Nat) {term : Cutter Term} {termRule : Rule Term}
    (follows : Follows shift term termRule) :
    Follows shift (primaryOf limit term) (Query.primaryOf limit Query.atom termRule) :=
  (follows_atom.map Tree.leaf).orElse (follows_groupOf limit follows)

theorem follows_termWithin (limit : Option Nat) (bound : Nat) :
    Follows shift (termWithin limit bound) (Query.termWithin limit Query.atom bound) := by
  induction bound with
  | zero => exact fun _ _ shows => shows.missing .fieldName
  | succ bound inductionHypothesis =>
    exact follows_chain .or bound <| follows_chain .and bound <| follows_unaryOf <|
      follows_primaryOf limit inductionHypothesis

theorem follows_whole (limit : Option Nat) :
    Follows shift (whole limit) (Query.whole limit Query.atom) := by
  -- The rule for terms looks at what is left to bound its recursion, as the other rule does.
  have restated : Query.whole limit Query.atom = (do
      Query.spaces
      let start ← Rule.here
      let tree ← Query.termWithin limit Query.atom (start.rest.length + 1)
      Rule.endOfText
      pure tree : Rule Term) := rfl
  rw [restated]
  exact follows_spaces.bind fun _ => follows_rest_bind fun cursor =>
    (follows_termWithin limit _).bind fun term => follows_endOfText.bind fun _ =>
      follows_pure term

/-- Reading by offsets gives what the grammar gives; a run that ends without a value has failed
as the grammar does. -/
theorem readTerm_eq (text : List Char) :
    readTerm text = (Query.readTerm text).mapError Stop.failed := by
  have agrees := follows_whole (some depthLimit) (Mark.shows_start text)
  unfold readTerm Query.readTerm Query.read
  generalize whole (some depthLimit) _ = outcome at agrees ⊢
  generalize Query.whole (some depthLimit) Query.atom _ = outcome' at agrees ⊢
  cases agrees with
  | yielded term _ => rfl
  | failed failure => rfl

end Cutter

/-! ### Errors -/

theorem isTidy_whole (limit : Option Nat) : (whole limit atom).IsTidy := fun start =>
  (isTidy_spaces start).bind fun _ => (isTidy_term limit isTidy_atom start).bind fun term =>
    Rule.isTidyFrom_endOfText.bind fun _ => Rule.isTidyFrom_pure term

/-- A text that denotes no term is blamed at a place behind a beginning of it. -/
theorem exists_append_of_readTerm {text : List Char} {failure : Failure}
    (fails : readTerm text = .error failure) :
    ∃ before behind, text = before ++ behind ∧ failure.position = utf8Length before := by
  have runs : whole (some depthLimit) atom (.start text) = .error failure := by
    unfold readTerm read at fails
    split at fails
    · cases fails
    · rename_i runs
      cases fails
      exact runs
  obtain ⟨before, ⟨behind, stands⟩, positionEq⟩ := (isTidy_whole _).isAhead runs
  exact ⟨before, behind, stands.symm, positionEq.trans (Nat.zero_add _)⟩

/-- The position of the error is a place in its query, so its column counts characters. -/
structure IsPlaced (error : QueryError) : Prop where
  /-- The position lies neither inside a character nor past the end of the query. -/
  isValid : String.Pos.Raw.IsValid error.query ⟨error.position⟩
  /-- The position is at most the width of the query. -/
  position_le : error.position ≤ error.query.utf8ByteSize
  /-- The column is the number of characters before the position. -/
  column_eq : ∃ before behind : String, error.query = before ++ behind ∧
    error.position = before.utf8ByteSize ∧ error.column = before.length
  /-- The characters before the position can be counted, so the column is no mere offset. -/
  counted : charactersBefore? error.query.toList
    (min error.position (utf8Length error.query.toList)) = some error.column

theorem charactersBefore?_of_append {position : Nat} {before : List Char}
    (positionEq : position = utf8Length before) (behind : List Char) :
    charactersBefore? (before ++ behind) (min position (utf8Length (before ++ behind))) =
      some before.length := by
  have inside : min position (utf8Length (before ++ behind)) = utf8Length before := by
    rw [utf8Length_append]
    omega
  rw [inside, charactersBefore?_utf8Length]

/-- The column of a place in the query is the number of characters before it. -/
theorem column_of_append {position : Nat} {before : List Char} (expected : String)
    (positionEq : position = utf8Length before) (behind : List Char) :
    QueryError.column ⟨position, expected, String.ofList (before ++ behind)⟩ =
      before.length := by
  simp only [QueryError.column, String.toList_ofList,
    charactersBefore?_of_append positionEq behind, Option.getD_some]

theorem isPlaced_of_append {position : Nat} {before behind : List Char} (expected : String)
    (positionEq : position = utf8Length before) :
    IsPlaced ⟨position, expected, String.ofList (before ++ behind)⟩ := by
  have sizeEq : position = (String.ofList before).utf8ByteSize :=
    positionEq.trans (utf8Length_eq_utf8ByteSize before)
  have split : String.ofList (before ++ behind) = String.ofList before ++ String.ofList behind :=
    String.ofList_append
  have counted := charactersBefore?_of_append positionEq behind
  have columnEq := column_of_append expected positionEq behind
  refine ⟨?_, ?_, ⟨String.ofList before, String.ofList behind, split, sizeEq, ?_⟩, ?_⟩
  · refine isSome_cut?_iff.mp ?_
    rw [cut?_eq_some_iff.mpr ⟨rfl, positionEq⟩, Option.isSome_some]
  · rw [split, String.utf8ByteSize_append, sizeEq]
    exact Nat.le_add_right _ _
  · rw [columnEq, String.length_ofList]
  · rw [columnEq, String.toList_ofList, counted]

/-- Read by offsets, a query gives what it gives by the grammar, and no text is ever cut inside
a character or past its end. A query that is rejected is shown with its case folded, and blamed
at a place in it, so the column is the number of characters before that place. -/
theorem parse_within_boundaries (query : String) :
    Cutter.readTerm (fold query.toList) =
      (readTerm (fold query.toList)).mapError Stop.failed ∧
    (∀ text offset, Cutter.readTerm (fold query.toList) ≠ .error (.miscut text offset)) ∧
    ∀ error, parse query = .error error →
      error.query = String.ofList (fold query.toList) ∧ IsPlaced error := by
  refine ⟨Cutter.readTerm_eq _, fun text offset => ?_, fun error rejected => ?_⟩
  · rw [Cutter.readTerm_eq]
    cases readTerm (fold query.toList) with
    | ok term => exact nofun
    | error failure => exact nofun
  · cases outcome : readTerm (fold query.toList) with
    | ok term =>
      rw [parse, outcome] at rejected
      cases rejected
    | error failure =>
      rw [parse, outcome] at rejected
      cases rejected
      refine ⟨rfl, ?_⟩
      obtain ⟨before, behind, split, positionEq⟩ := exists_append_of_readTerm outcome
      rw [split]
      exact isPlaced_of_append _ positionEq

/-- A query whose list fails behind a character of two bytes. -/
theorem parse_within_boundaries_instance :
    parse "LABEL in (\"É\" x)" = .error ⟨15, "end of query", "label in (\"é\" x)"⟩ ∧
    IsPlaced ⟨15, "end of query", "label in (\"é\" x)"⟩ := by
  have rejected : parse "LABEL in (\"É\" x)" =
      .error ⟨15, "end of query", "label in (\"é\" x)"⟩ := rfl
  exact ⟨rejected, ((parse_within_boundaries _).2.2 _ rejected).2⟩

end Query

end ContentQuery
