/-
This file holds rules, the pieces that the grammar of queries is written in. A rule reads
some text at a place and gives a value and the place after it, or fails. Rules run one after
another; a choice between two rules starts both at the same place, so what a failed rule read
is forgotten.
-/

import ContentQuery.Query.Cursor

namespace ContentQuery.Query

/-- A rule of the grammar that yields a value when it succeeds. -/
def Rule (Value : Type) : Type := Cursor → Except Failure (Value × Cursor)

/-- Rules run one after another, and the first failure ends the run. -/
instance : Monad Rule where
  pure value := fun cursor => .ok (value, cursor)
  bind rule next := fun cursor =>
    match rule cursor with
    | .ok (value, after) => next value after
    | .error failure => .error failure

namespace Rule

variable {Value Other : Type}

theorem pure_apply (value : Value) (cursor : Cursor) :
    (pure value : Rule Value) cursor = .ok (value, cursor) := rfl

theorem bind_ok {rule : Rule Value} {next : Value → Rule Other} {value : Value}
    {cursor after : Cursor} (succeeds : rule cursor = .ok (value, after)) :
    (rule >>= next) cursor = next value after := by
  simp only [Bind.bind, succeeds]

theorem bind_error {rule : Rule Value} {next : Value → Rule Other} {failure : Failure}
    {cursor : Cursor} (fails : rule cursor = .error failure) :
    (rule >>= next) cursor = .error failure := by
  simp only [Bind.bind, fails]

/-- Two rules in sequence succeed just where both do, each from where it stands. -/
theorem bind_eq_ok_iff {rule : Rule Value} {next : Value → Rule Other} {other : Other}
    {cursor last : Cursor} :
    (rule >>= next) cursor = .ok (other, last) ↔
      ∃ value after, rule cursor = .ok (value, after) ∧ next value after = .ok (other, last) := by
  cases outcome : rule cursor with
  | ok found =>
    obtain ⟨value, after⟩ := found
    rw [bind_ok outcome]
    constructor
    · intro succeeds
      exact ⟨value, after, rfl, succeeds⟩
    · rintro ⟨value', after', same, succeeds⟩
      cases same
      exact succeeds
  | error failure =>
    rw [bind_error outcome]
    constructor
    · intro impossible
      cases impossible
    · rintro ⟨value, after, impossible, _⟩
      cases impossible

/-- Two rules in sequence fail as the first one that fails. -/
theorem bind_eq_error_iff {rule : Rule Value} {next : Value → Rule Other} {failure : Failure}
    {cursor : Cursor} :
    (rule >>= next) cursor = .error failure ↔
      rule cursor = .error failure ∨
        ∃ value after, rule cursor = .ok (value, after) ∧ next value after = .error failure := by
  cases outcome : rule cursor with
  | ok found =>
    obtain ⟨value, after⟩ := found
    rw [bind_ok outcome]
    constructor
    · intro fails
      exact Or.inr ⟨value, after, rfl, fails⟩
    · rintro (impossible | ⟨value', after', same, fails⟩)
      · cases impossible
      · cases same
        exact fails
  | error other =>
    rw [bind_error outcome]
    constructor
    · intro same
      cases same
      exact Or.inl rfl
    · rintro (same | ⟨value, after, impossible, _⟩)
      · cases same
        rfl
      · cases impossible

/-! ### Places and failures -/

/-- Yields the place itself and reads nothing. -/
def here : Rule Cursor := fun cursor => .ok (cursor, cursor)

/-- Fails as given, wherever it stands. -/
def reject (failure : Failure) : Rule Value := fun _ => .error failure

/-! ### Choice -/

/-- The first rule, or the second one from the same place if the first fails. -/
def orElse (first second : Rule Value) : Rule Value := fun cursor =>
  match first cursor with
  | .ok found => .ok found
  | .error firstFailure =>
    match second cursor with
    | .ok found => .ok found
    | .error secondFailure => .error (firstFailure.furthest secondFailure)

/-- Yields `none` and reads nothing where the rule fails. -/
def attempt (rule : Rule Value) : Rule (Option Value) := fun cursor =>
  match rule cursor with
  | .ok (value, after) => .ok (some value, after)
  | .error _ => .ok (none, cursor)

/-! ### Reading text -/

/-- Reads the given word. -/
def literal (word : String) (expected : Expectation) : Rule Unit := fun cursor =>
  if word.toList.isPrefixOf cursor.rest then .ok ((), cursor.advance word.toList)
  else .error (cursor.missing expected)

/-- Reads the first spelling of the table that stands at the place, and yields what the table
gives for it. -/
def spelled (table : List (String × Value)) (expected : Expectation) : Rule Value :=
  fun cursor =>
    match table.find? fun entry => entry.1.toList.isPrefixOf cursor.rest with
    | some (spelling, value) => .ok (value, cursor.advance spelling.toList)
    | none => .error (cursor.missing expected)

/-- Reads characters of a class for as long as there are any. -/
def takeWhile (holds : Char → Bool) : Rule (List Char) := fun cursor =>
  let found := cursor.rest.takeWhile holds
  .ok (found, cursor.advance found)

/-- Reads characters of a class for as long as there are any, and at least one. -/
def takeWhileSome (holds : Char → Bool) (expected : Expectation) : Rule (List Char) := do
  let start ← here
  let found ← takeWhile holds
  if found.isEmpty then reject (start.missing expected) else pure found

/-- Succeeds only at the end of the text. -/
def endOfText : Rule Unit := fun cursor =>
  if cursor.rest.isEmpty then .ok ((), cursor) else .error (cursor.missing .endOfQuery)

/-! ### Parts of a text -/

/-- Runs a rule on a piece of text that begins at the given place and must be read to its
end. The place of the whole rule does not move. -/
def inside (start : Cursor) (content : List Char) (rule : Rule Value) : Rule Value :=
  fun cursor =>
    match (do let value ← rule; endOfText; pure value : Rule Value)
        ⟨start.offset, content, start.depth⟩ with
    | .ok (value, _) => .ok (value, cursor)
    | .error failure => .error failure

/-- Runs a rule with one more group open, unless the limit on open groups is reached. -/
def nested (limit : Option Nat) (rule : Rule Value) : Rule Value := fun cursor =>
  if limit.any (· ≤ cursor.depth) then .error (cursor.missing .shallowerNesting)
  else
    match rule (cursor.atDepth (cursor.depth + 1)) with
    | .ok (value, after) => .ok (value, after.atDepth cursor.depth)
    | .error failure => .error failure

end Rule

end ContentQuery.Query
