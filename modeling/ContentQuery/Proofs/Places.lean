/-
This file proves where rules stop. A rule that succeeds has read some text off the front of
what was left, and the depth is what it was; a rule that fails blames a place behind some text
that stands where the rule began. Both properties are inherited by every rule from the rules
it is made of, so they are shown once for each way of making rules.

A rule may blame a place that it has left, such as an opening quote that is never closed. The
properties are therefore stated from a start at or before the place where the rule runs.
-/

import ContentQuery.Query.Parse

namespace ContentQuery.Query

open Text

variable {Value Other Leaf : Type}

/-! ### Reading from one place to another -/

/-- The second place is reached by reading the lexeme at the first one. -/
structure Cursor.Reads (cursor : Cursor) (lexeme : List Char) (after : Cursor) : Prop where
  /-- The lexeme stands at the first place, and the second place is behind it. -/
  rest_eq : cursor.rest = lexeme ++ after.rest
  /-- The lexeme lies between the two offsets. -/
  offset_eq : after.offset = cursor.offset + utf8Length lexeme
  /-- No group is opened or closed. -/
  depth_eq : after.depth = cursor.depth

namespace Cursor

theorem reads_nil (cursor : Cursor) : cursor.Reads [] cursor := ⟨rfl, rfl, rfl⟩

theorem Reads.trans {first second third : Cursor} {front back : List Char}
    (toSecond : first.Reads front second) (toThird : second.Reads back third) :
    first.Reads (front ++ back) third where
  rest_eq := by rw [toSecond.rest_eq, toThird.rest_eq, List.append_assoc]
  offset_eq := by
    rw [toThird.offset_eq, toSecond.offset_eq, utf8Length_append, Nat.add_assoc]
  depth_eq := toThird.depth_eq.trans toSecond.depth_eq

/-- Reading a text in two parts passes a place between them. -/
theorem Reads.split {cursor after : Cursor} {front back : List Char}
    (reads : cursor.Reads (front ++ back) after) :
    ∃ middle, cursor.Reads front middle ∧ middle.Reads back after := by
  refine ⟨⟨cursor.offset + utf8Length front, back ++ after.rest, cursor.depth⟩,
    ⟨?_, rfl, rfl⟩, ⟨rfl, ?_, reads.depth_eq⟩⟩
  · rw [reads.rest_eq, List.append_assoc]
  · rw [reads.offset_eq, utf8Length_append, Nat.add_assoc]

theorem reads_advance {cursor : Cursor} {lexeme : List Char} (found : lexeme <+: cursor.rest) :
    cursor.Reads lexeme (cursor.advance lexeme) := by
  obtain ⟨remaining, restEq⟩ := found
  exact ⟨by simp [advance, ← restEq], rfl, rfl⟩

theorem Reads.length_eq {cursor after : Cursor} {lexeme : List Char}
    (reads : cursor.Reads lexeme after) :
    cursor.rest.length = lexeme.length + after.rest.length := by
  rw [reads.rest_eq, List.length_append]

theorem Reads.offset_le {cursor after : Cursor} {lexeme : List Char}
    (reads : cursor.Reads lexeme after) : cursor.offset ≤ after.offset := by
  rw [reads.offset_eq]
  exact Nat.le_add_right _ _

theorem Reads.isIn {cursor after : Cursor} {lexeme text : List Char}
    (reads : cursor.Reads lexeme after) (place : cursor.IsIn text) : after.IsIn text := by
  obtain ⟨before, textEq, offsetEq⟩ := place
  refine ⟨before ++ lexeme, ?_, ?_⟩
  · rw [textEq, reads.rest_eq, List.append_assoc]
  · rw [reads.offset_eq, offsetEq, utf8Length_append]

end Cursor

/-- The failure blames a place behind some text that stands at the cursor. -/
def Failure.IsAhead (failure : Failure) (cursor : Cursor) : Prop :=
  ∃ lexeme, lexeme <+: cursor.rest ∧ failure.position = cursor.offset + utf8Length lexeme

theorem missing_isAhead (cursor : Cursor) (expected : Expectation) :
    (cursor.missing expected).IsAhead cursor :=
  ⟨[], List.nil_prefix, rfl⟩

theorem Failure.IsAhead.of_reads {failure : Failure} {start cursor : Cursor}
    {before : List Char} (reads : start.Reads before cursor) (ahead : failure.IsAhead cursor) :
    failure.IsAhead start := by
  obtain ⟨lexeme, found, positionEq⟩ := ahead
  refine ⟨before ++ lexeme, ?_, ?_⟩
  · rw [reads.rest_eq]
    exact (List.prefix_append_right_inj before).mpr found
  · rw [positionEq, reads.offset_eq, utf8Length_append, Nat.add_assoc]

theorem Failure.IsAhead.offset_le {failure : Failure} {cursor : Cursor}
    (ahead : failure.IsAhead cursor) : cursor.offset ≤ failure.position := by
  obtain ⟨lexeme, _, positionEq⟩ := ahead
  rw [positionEq]
  exact Nat.le_add_right _ _

theorem Failure.IsAhead.furthest {first second : Failure} {cursor : Cursor}
    (firstAhead : first.IsAhead cursor) (secondAhead : second.IsAhead cursor) :
    (first.furthest second).IsAhead cursor := by
  unfold Failure.furthest
  split
  · exact secondAhead
  · exact firstAhead

/-! ### Rules that stop where they should -/

namespace Rule

/-- Run at or behind the start, the rule reads what stands there, and fails only at places
ahead of the start. -/
structure IsTidyFrom (start : Cursor) (rule : Rule Value) : Prop where
  /-- A success reads some text. -/
  success : ∀ {before : List Char} {cursor after : Cursor} {value : Value},
    start.Reads before cursor → rule cursor = .ok (value, after) →
      ∃ lexeme, cursor.Reads lexeme after
  /-- A failure blames a place ahead. -/
  failure : ∀ {before : List Char} {cursor : Cursor} {failure : Failure},
    start.Reads before cursor → rule cursor = .error failure → failure.IsAhead start

/-- Wherever it is run, the rule reads what stands there and fails at places ahead. -/
def IsTidy (rule : Rule Value) : Prop := ∀ start, rule.IsTidyFrom start

theorem IsTidy.reads {rule : Rule Value} (tidy : rule.IsTidy) {cursor after : Cursor}
    {value : Value} (succeeds : rule cursor = .ok (value, after)) :
    ∃ lexeme, cursor.Reads lexeme after :=
  (tidy cursor).success cursor.reads_nil succeeds

theorem IsTidy.length_le {rule : Rule Value} (tidy : rule.IsTidy) {cursor after : Cursor}
    {value : Value} (succeeds : rule cursor = .ok (value, after)) :
    after.rest.length ≤ cursor.rest.length := by
  obtain ⟨lexeme, reads⟩ := tidy.reads succeeds
  exact reads.length_eq ▸ Nat.le_add_left _ lexeme.length

theorem IsTidy.isAhead {rule : Rule Value} (tidy : rule.IsTidy) {cursor : Cursor}
    {failure : Failure} (fails : rule cursor = .error failure) : failure.IsAhead cursor :=
  (tidy cursor).failure cursor.reads_nil fails

/-- A rule is tidy if it is so where it is run. -/
theorem isTidy_of_here {rule : Rule Value}
    (reads : ∀ {cursor after : Cursor} {value : Value},
      rule cursor = .ok (value, after) → ∃ lexeme, cursor.Reads lexeme after)
    (isAhead : ∀ {cursor : Cursor} {failure : Failure},
      rule cursor = .error failure → failure.IsAhead cursor) : rule.IsTidy := fun _ =>
  ⟨fun _ succeeds => reads succeeds, fun behind fails => (isAhead fails).of_reads behind⟩

/-- The rule takes something off the text when it succeeds. -/
def Progresses (rule : Rule Value) : Prop :=
  ∀ ⦃cursor after : Cursor⦄ ⦃value : Value⦄,
    rule cursor = .ok (value, after) → after.rest.length < cursor.rest.length

/-! ### Rules in sequence -/

variable {start : Cursor}

theorem isTidyFrom_pure (value : Value) : (pure value : Rule Value).IsTidyFrom start where
  success := by
    intro _ cursor after _ _ succeeds
    cases succeeds
    exact ⟨[], cursor.reads_nil⟩
  failure := by
    intro _ _ _ _ impossible
    cases impossible

theorem isTidyFrom_reject {failure : Failure} (ahead : failure.IsAhead start) :
    (reject failure : Rule Value).IsTidyFrom start where
  success := by
    intro _ _ _ _ _ impossible
    cases impossible
  failure := by
    intro _ _ _ _ fails
    cases fails
    exact ahead

theorem IsTidyFrom.bind {rule : Rule Value} {next : Value → Rule Other}
    (tidy : rule.IsTidyFrom start) (nextTidy : ∀ value, (next value).IsTidyFrom start) :
    (rule >>= next).IsTidyFrom start where
  success := by
    intro before cursor last other behind succeeds
    obtain ⟨value, after, first, second⟩ := bind_eq_ok_iff.mp succeeds
    obtain ⟨front, readsFront⟩ := tidy.success behind first
    obtain ⟨back, readsBack⟩ := (nextTidy value).success (behind.trans readsFront) second
    exact ⟨front ++ back, readsFront.trans readsBack⟩
  failure := by
    intro before cursor failure behind fails
    rcases bind_eq_error_iff.mp fails with first | ⟨value, after, first, second⟩
    · exact tidy.failure behind first
    · obtain ⟨front, readsFront⟩ := tidy.success behind first
      exact (nextTidy value).failure (behind.trans readsFront) second

theorem bind_assoc {Last : Type} (rule : Rule Value) (next : Value → Rule Other)
    (last : Other → Rule Last) :
    (rule >>= next) >>= last = rule >>= fun value => next value >>= last := by
  funext cursor
  simp only [Bind.bind]
  cases rule cursor <;> rfl

/-- Two rules go on alike behind a rule if they do wherever it can end. -/
theorem bind_congr_of_ok {rule : Rule Value} {next other : Value → Rule Other}
    {cursor : Cursor} (alike : ∀ {value : Value} {after : Cursor},
      rule cursor = .ok (value, after) → next value after = other value after) :
    (rule >>= next) cursor = (rule >>= other) cursor := by
  cases reads : rule cursor with
  | ok found =>
    obtain ⟨value, after⟩ := found
    rw [bind_ok reads, bind_ok reads, alike reads]
  | error failure => rw [bind_error reads, bind_error reads]

theorem bind_congr_of_eq {rule other : Rule Value} (next : Value → Rule Other)
    {cursor place : Cursor} (same : rule cursor = other place) :
    (rule >>= next) cursor = (other >>= next) place := by
  simp only [Bind.bind, same]

theorem isTidyFrom_here : here.IsTidyFrom start where
  success := by
    intro _ cursor _ _ _ succeeds
    cases succeeds
    exact ⟨[], cursor.reads_nil⟩
  failure := by
    intro _ _ _ _ impossible
    cases impossible

theorem here_bind (next : Cursor → Rule Value) (cursor : Cursor) :
    (here >>= next) cursor = next cursor cursor := rfl

/-- A rule that begins by noting its place may blame that place later. -/
theorem isTidyFrom_here_bind {next : Cursor → Rule Value}
    (tidy : ∀ place, (next place).IsTidyFrom place) : (here >>= next).IsTidyFrom start where
  success := by
    intro _ cursor _ _ _ succeeds
    exact (tidy cursor).success cursor.reads_nil succeeds
  failure := by
    intro _ cursor _ behind fails
    exact ((tidy cursor).failure cursor.reads_nil fails).of_reads behind

theorem IsTidyFrom.map {rule : Rule Value} (change : Value → Other)
    (tidy : rule.IsTidyFrom start) : (change <$> rule).IsTidyFrom start :=
  tidy.bind fun value => isTidyFrom_pure (change value)

theorem Progresses.bind {rule : Rule Value} {next : Value → Rule Other}
    (progresses : rule.Progresses) (nextTidy : ∀ value, (next value).IsTidy) :
    (rule >>= next).Progresses := by
  intro cursor last other succeeds
  obtain ⟨value, after, first, second⟩ := bind_eq_ok_iff.mp succeeds
  exact Nat.lt_of_le_of_lt ((nextTidy value).length_le second) (progresses first)

theorem IsTidy.bind_progresses {rule : Rule Value} {next : Value → Rule Other}
    (tidy : rule.IsTidy) (nextProgresses : ∀ value, (next value).Progresses) :
    (rule >>= next).Progresses := by
  intro cursor last other succeeds
  obtain ⟨value, after, first, second⟩ := bind_eq_ok_iff.mp succeeds
  exact Nat.lt_of_lt_of_le (nextProgresses value second) (tidy.length_le first)

theorem Progresses.map {rule : Rule Value} (change : Value → Other)
    (progresses : rule.Progresses) : (change <$> rule).Progresses :=
  progresses.bind fun value _ => isTidyFrom_pure (change value)

/-! ### Choice -/

theorem orElse_eq_ok_iff {first second : Rule Value} {cursor after : Cursor} {value : Value} :
    first.orElse second cursor = .ok (value, after) ↔
      first cursor = .ok (value, after) ∨
        (∃ failure, first cursor = .error failure) ∧ second cursor = .ok (value, after) := by
  unfold orElse
  cases firstOutcome : first cursor with
  | ok found => simp
  | error failure => cases secondOutcome : second cursor <;> simp

theorem orElse_eq_error_iff {first second : Rule Value} {cursor : Cursor} {failure : Failure} :
    first.orElse second cursor = .error failure ↔
      ∃ firstFailure secondFailure, first cursor = .error firstFailure ∧
        second cursor = .error secondFailure ∧
        failure = firstFailure.furthest secondFailure := by
  unfold orElse
  cases firstOutcome : first cursor with
  | ok found => simp
  | error firstFailure =>
    cases secondOutcome : second cursor with
    | ok found => simp
    | error secondFailure => simp [eq_comm]

theorem attempt_eq_ok_iff {rule : Rule Value} {cursor after : Cursor} {found : Option Value} :
    attempt rule cursor = .ok (found, after) ↔
      (∃ value, found = some value ∧ rule cursor = .ok (value, after)) ∨
        (∃ failure, rule cursor = .error failure) ∧ found = none ∧ after = cursor := by
  unfold attempt
  cases outcome : rule cursor with
  | ok result =>
    obtain ⟨value, place⟩ := result
    constructor
    · intro same
      cases same
      exact Or.inl ⟨value, rfl, rfl⟩
    · rintro (⟨_, rfl, same⟩ | ⟨⟨_, impossible⟩, _⟩)
      · cases same
        rfl
      · cases impossible
  | error failure => simp [eq_comm]

theorem attempt_of_ok {rule : Rule Value} {cursor after : Cursor} {value : Value}
    (succeeds : rule cursor = .ok (value, after)) :
    attempt rule cursor = .ok (some value, after) := by
  rw [attempt, succeeds]

theorem attempt_of_error {rule : Rule Value} {cursor : Cursor} {failure : Failure}
    (fails : rule cursor = .error failure) : attempt rule cursor = .ok (none, cursor) := by
  rw [attempt, fails]

theorem attempt_ne_error (rule : Rule Value) (cursor : Cursor) (failure : Failure) :
    attempt rule cursor ≠ .error failure := by
  unfold attempt
  cases rule cursor <;> simp

theorem IsTidyFrom.orElse {first second : Rule Value} (firstTidy : first.IsTidyFrom start)
    (secondTidy : second.IsTidyFrom start) : (first.orElse second).IsTidyFrom start where
  success := by
    intro _ cursor _ _ behind succeeds
    rcases orElse_eq_ok_iff.mp succeeds with firstly | ⟨_, secondly⟩
    · exact firstTidy.success behind firstly
    · exact secondTidy.success behind secondly
  failure := by
    intro _ cursor _ behind fails
    obtain ⟨firstFailure, secondFailure, firstly, secondly, rfl⟩ :=
      orElse_eq_error_iff.mp fails
    exact (firstTidy.failure behind firstly).furthest (secondTidy.failure behind secondly)

theorem IsTidyFrom.attempt {rule : Rule Value} (tidy : rule.IsTidyFrom start) :
    (attempt rule).IsTidyFrom start where
  success := by
    intro _ cursor _ _ behind succeeds
    rcases attempt_eq_ok_iff.mp succeeds with ⟨value, _, found⟩ | ⟨_, _, rfl⟩
    · exact tidy.success behind found
    · exact ⟨[], Cursor.reads_nil _⟩
  failure := fun _ impossible => absurd impossible (attempt_ne_error rule _ _)

theorem Progresses.orElse {first second : Rule Value} (firstProgresses : first.Progresses)
    (secondProgresses : second.Progresses) : (first.orElse second).Progresses := by
  intro cursor after value succeeds
  rcases orElse_eq_ok_iff.mp succeeds with firstly | ⟨_, secondly⟩
  · exact firstProgresses firstly
  · exact secondProgresses secondly

/-! ### Reading text -/

theorem literal_eq_ok_iff {word : String} {expected : Expectation} {cursor after : Cursor}
    {found : Unit} :
    literal word expected cursor = .ok (found, after) ↔ cursor.Reads word.toList after := by
  unfold literal
  constructor
  · intro succeeds
    split at succeeds
    · rename_i stands
      cases succeeds
      exact Cursor.reads_advance (List.isPrefixOf_iff_prefix.mp stands)
    · cases succeeds
  · intro reads
    have stands : word.toList.isPrefixOf cursor.rest = true := by
      rw [List.isPrefixOf_iff_prefix, reads.rest_eq]
      exact List.prefix_append _ _
    rw [if_pos stands, Cursor.advance, reads.rest_eq, List.drop_left, ← reads.offset_eq,
      ← reads.depth_eq]

theorem literal_eq_error_iff {word : String} {expected : Expectation} {cursor : Cursor}
    {failure : Failure} :
    literal word expected cursor = .error failure ↔
      ¬ word.toList <+: cursor.rest ∧ failure = cursor.missing expected := by
  unfold literal
  by_cases stands : word.toList.isPrefixOf cursor.rest = true
  · rw [if_pos stands]
    simp [List.isPrefixOf_iff_prefix.mp stands]
  · rw [if_neg stands]
    rw [List.isPrefixOf_iff_prefix] at stands
    simp [stands, eq_comm]

theorem isTidyFrom_literal (word : String) (expected : Expectation) :
    (literal word expected).IsTidyFrom start :=
  isTidy_of_here (fun succeeds => ⟨_, literal_eq_ok_iff.mp succeeds⟩)
    (fun fails => (literal_eq_error_iff.mp fails).2 ▸ missing_isAhead _ _) start

theorem progresses_literal {word : String} {expected : Expectation}
    (nonempty : word.toList ≠ []) : (literal word expected).Progresses := by
  intro cursor after _ succeeds
  have split := (literal_eq_ok_iff.mp succeeds).length_eq
  have positive := List.length_pos_iff.mpr nonempty
  omega

/-- A table yields the entry whose spelling is the first to stand at the place. -/
theorem spelled_eq_ok_iff {table : List (String × Value)} {expected : Expectation}
    {cursor after : Cursor} {value : Value} :
    spelled table expected cursor = .ok (value, after) ↔
      ∃ spelling, table.find? (fun entry => entry.1.toList.isPrefixOf cursor.rest) =
        some (spelling, value) ∧ after = cursor.advance spelling.toList := by
  unfold spelled
  cases outcome : table.find? fun entry => entry.1.toList.isPrefixOf cursor.rest with
  | none => simp
  | some entry =>
    obtain ⟨spelling, found⟩ := entry
    simp only [Except.ok.injEq, Prod.mk.injEq, Option.some.injEq]
    constructor
    · rintro ⟨rfl, rfl⟩
      exact ⟨spelling, ⟨rfl, rfl⟩, rfl⟩
    · rintro ⟨_, ⟨rfl, rfl⟩, rfl⟩
      exact ⟨rfl, rfl⟩

theorem reads_of_spelled {table : List (String × Value)} {expected : Expectation}
    {cursor after : Cursor} {value : Value}
    (succeeds : spelled table expected cursor = .ok (value, after)) :
    ∃ spelling, (spelling, value) ∈ table ∧ cursor.Reads spelling.toList after := by
  obtain ⟨spelling, found, rfl⟩ := spelled_eq_ok_iff.mp succeeds
  have stands := List.find?_some found
  exact ⟨spelling, List.mem_of_find?_eq_some found,
    Cursor.reads_advance (List.isPrefixOf_iff_prefix.mp stands)⟩

theorem spelled_eq_error_iff {table : List (String × Value)} {expected : Expectation}
    {cursor : Cursor} {failure : Failure} :
    spelled table expected cursor = .error failure ↔
      (∀ entry ∈ table, ¬ entry.1.toList <+: cursor.rest) ∧
        failure = cursor.missing expected := by
  unfold spelled
  cases outcome : table.find? fun entry => entry.1.toList.isPrefixOf cursor.rest with
  | none =>
    rw [List.find?_eq_none] at outcome
    simp only [List.isPrefixOf_iff_prefix] at outcome
    constructor
    · intro fails
      cases fails
      exact ⟨outcome, rfl⟩
    · rintro ⟨_, rfl⟩
      rfl
  | some entry =>
    have stands := List.find?_some outcome
    rw [List.isPrefixOf_iff_prefix] at stands
    constructor
    · intro impossible
      cases impossible
    · rintro ⟨noneStands, _⟩
      exact absurd stands (noneStands entry (List.mem_of_find?_eq_some outcome))

theorem isTidyFrom_spelled (table : List (String × Value)) (expected : Expectation) :
    (spelled table expected).IsTidyFrom start :=
  isTidy_of_here
    (fun succeeds => by
      obtain ⟨spelling, _, reads⟩ := reads_of_spelled succeeds
      exact ⟨spelling.toList, reads⟩)
    (fun fails => (spelled_eq_error_iff.mp fails).2 ▸ missing_isAhead _ _) start

theorem progresses_spelled {table : List (String × Value)} {expected : Expectation}
    (nonempty : ∀ entry ∈ table, entry.1.toList ≠ []) :
    (spelled table expected).Progresses := by
  intro cursor after value succeeds
  obtain ⟨spelling, member, reads⟩ := reads_of_spelled succeeds
  have split := reads.length_eq
  have positive := List.length_pos_iff.mpr (nonempty _ member)
  simp only at positive
  omega

/-- The text that is taken is all of the class, and the next character is not. -/
theorem takeWhile_eq_ok_iff {holds : Char → Bool} {cursor after : Cursor}
    {found : List Char} :
    takeWhile holds cursor = .ok (found, after) ↔
      cursor.Reads found after ∧ (∀ character ∈ found, holds character = true) ∧
        ∀ character ∈ after.rest.head?, holds character = false := by
  unfold takeWhile
  constructor
  · intro succeeds
    cases succeeds
    refine ⟨Cursor.reads_advance (List.takeWhile_prefix holds),
      List.all_eq_true.mp List.all_takeWhile, ?_⟩
    intro character next
    have reads := Cursor.reads_advance (List.takeWhile_prefix holds (l := cursor.rest))
    have restEq := List.append_cancel_left
      (List.takeWhile_append_dropWhile.trans reads.rest_eq)
    rw [← restEq] at next
    have stops := List.head?_dropWhile_not holds cursor.rest
    rw [next] at stops
    simpa using stops
  · rintro ⟨reads, all, stops⟩
    have taken : cursor.rest.takeWhile holds = found := by
      rw [reads.rest_eq, List.takeWhile_append_of_pos all]
      cases remaining : after.rest with
      | nil => simp
      | cons character rest =>
        have stop := stops character (by rw [remaining]; rfl)
        simp [stop]
    simp only [taken]
    rw [Cursor.advance, reads.rest_eq, List.drop_left, ← reads.offset_eq, ← reads.depth_eq]

theorem takeWhile_ne_error (holds : Char → Bool) (cursor : Cursor) (failure : Failure) :
    takeWhile holds cursor ≠ .error failure := by
  intro impossible
  cases impossible

theorem isTidyFrom_takeWhile (holds : Char → Bool) : (takeWhile holds).IsTidyFrom start :=
  isTidy_of_here (fun succeeds => ⟨_, (takeWhile_eq_ok_iff.mp succeeds).1⟩)
    (fun impossible => absurd impossible (takeWhile_ne_error holds _ _)) start

theorem takeWhileSome_eq_ok_iff {holds : Char → Bool} {expected : Expectation}
    {cursor after : Cursor} {found : List Char} :
    takeWhileSome holds expected cursor = .ok (found, after) ↔
      takeWhile holds cursor = .ok (found, after) ∧ found ≠ [] := by
  unfold takeWhileSome
  rw [here_bind, bind_eq_ok_iff]
  constructor
  · rintro ⟨taken, place, takes, checks⟩
    by_cases empty : taken.isEmpty = true
    · rw [if_pos empty] at checks
      cases checks
    · rw [if_neg empty] at checks
      cases checks
      exact ⟨takes, fun nothing => empty (List.isEmpty_iff.mpr nothing)⟩
  · rintro ⟨takes, nonempty⟩
    refine ⟨found, after, takes, ?_⟩
    rw [if_neg (fun empty => nonempty (List.isEmpty_iff.mp empty))]
    rfl

/-- Some text of a class is missing where the next character is not of the class. -/
theorem takeWhileSome_eq_error_iff {holds : Char → Bool} {expected : Expectation}
    {cursor : Cursor} {failure : Failure} :
    takeWhileSome holds expected cursor = .error failure ↔
      (∀ character ∈ cursor.rest.head?, holds character = false) ∧
        failure = cursor.missing expected := by
  have empty_iff : (cursor.rest.takeWhile holds).isEmpty = true ↔
      ∀ character ∈ cursor.rest.head?, holds character = false := by
    cases cursor.rest with
    | nil => simp
    | cons character rest => cases here : holds character <;> simp [here]
  unfold takeWhileSome
  rw [here_bind, bind_ok (show takeWhile holds cursor = .ok _ from rfl), ← empty_iff]
  split
  · rename_i empty
    simp only [reject, Except.error.injEq, empty, true_and, eq_comm]
  · rename_i nonempty
    simp only [pure_apply, nonempty, false_and, reduceCtorEq]

theorem isTidyFrom_takeWhileSome (holds : Char → Bool) (expected : Expectation) :
    (takeWhileSome holds expected).IsTidyFrom start := by
  refine isTidyFrom_here_bind fun place => (isTidyFrom_takeWhile holds).bind fun found => ?_
  split
  · exact isTidyFrom_reject (missing_isAhead place expected)
  · exact isTidyFrom_pure found

theorem progresses_takeWhileSome (holds : Char → Bool) (expected : Expectation) :
    (takeWhileSome holds expected).Progresses := by
  intro cursor after found succeeds
  obtain ⟨takes, nonempty⟩ := takeWhileSome_eq_ok_iff.mp succeeds
  have split := (takeWhile_eq_ok_iff.mp takes).1.length_eq
  have positive := List.length_pos_iff.mpr nonempty
  omega

theorem endOfText_eq_ok_iff {cursor after : Cursor} {found : Unit} :
    endOfText cursor = .ok (found, after) ↔ cursor.rest = [] ∧ after = cursor := by
  unfold endOfText
  by_cases empty : cursor.rest.isEmpty = true
  · rw [if_pos empty]
    simp [List.isEmpty_iff.mp empty, eq_comm]
  · rw [if_neg empty]
    rw [List.isEmpty_iff] at empty
    simp [empty]

theorem isTidyFrom_endOfText : endOfText.IsTidyFrom start := by
  refine isTidy_of_here (fun succeeds => ?_) (fun fails => ?_) start
  · obtain ⟨_, rfl⟩ := endOfText_eq_ok_iff.mp succeeds
    exact ⟨[], Cursor.reads_nil _⟩
  · unfold endOfText at fails
    split at fails
    · cases fails
    · cases fails
      exact missing_isAhead _ _

/-! ### Parts of a text -/

theorem nested_eq_ok_iff {limit : Option Nat} {rule : Rule Value} {cursor after : Cursor}
    {value : Value} :
    nested limit rule cursor = .ok (value, after) ↔
      limit.any (· ≤ cursor.depth) = false ∧
        ∃ inner, rule (cursor.atDepth (cursor.depth + 1)) = .ok (value, inner) ∧
          after = inner.atDepth cursor.depth := by
  unfold nested
  by_cases deep : limit.any (· ≤ cursor.depth) = true
  · simp [deep]
  · rw [if_neg deep]
    rw [Bool.not_eq_true] at deep
    cases outcome : rule (cursor.atDepth (cursor.depth + 1)) with
    | ok found =>
      obtain ⟨content, inner⟩ := found
      constructor
      · intro same
        cases same
        exact ⟨deep, inner, rfl, rfl⟩
      · rintro ⟨_, _, same, rfl⟩
        cases same
        rfl
    | error failure => simp

/-- A group gives back the depth that it found. -/
theorem IsTidy.nested {limit : Option Nat} {rule : Rule Value} (tidy : rule.IsTidy) :
    (nested limit rule).IsTidy := by
  refine isTidy_of_here (fun {cursor after value} succeeds => ?_)
    (fun {cursor failure} fails => ?_)
  · obtain ⟨_, inner, runs, rfl⟩ := nested_eq_ok_iff.mp succeeds
    obtain ⟨lexeme, reads⟩ := tidy.reads runs
    exact ⟨lexeme, reads.rest_eq, reads.offset_eq, rfl⟩
  · unfold Rule.nested at fails
    split at fails
    · cases fails
      exact missing_isAhead _ _
    · split at fails
      · cases fails
      · rename_i runs
        cases fails
        -- The depth of a cursor has no part in what lies ahead of it.
        have ahead := tidy.isAhead runs
        exact ahead

end Rule

end ContentQuery.Query
