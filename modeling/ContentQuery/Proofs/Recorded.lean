/-
This file runs the rules for terms with a record of what happens: which groups are opened and
closed, and which leaves are read. A record also survives where a rule fails, which is the
point of it, since a failure says nothing of what was read before. The rules are those for
terms, with their parts put together in the same way; that they succeed and fail alike is
shown where records are judged.
-/

import ContentQuery.Proofs.Progress

namespace ContentQuery.Query

open Rule Text

variable {Content Value Other Leaf : Type}

/-! ### Recorded rules -/

/-- Something that happens while a text is read. -/
inductive Event (Content : Type) where
  /-- A group is opened. The place is behind its bracket and the spaces there, and the group
  does not count in the depth yet. -/
  | opened (place : Cursor)
  /-- A group is closed. The place is behind its bracket and the spaces there, and the group
  does not count in the depth any more. -/
  | closed (place : Cursor)
  /-- A leaf is read, up to the given place. -/
  | read (content : Content) (after : Cursor)

/-- A rule that also yields a record of what happened, whether it succeeds or fails. -/
def Recorded (Content Value : Type) : Type :=
  Cursor → Except Failure (Value × Cursor) × List (Event Content)

namespace Recorded

/-- Recorded rules run one after another, and so do their records. -/
instance : Monad (Recorded Content) where
  pure value := fun cursor => (.ok (value, cursor), [])
  bind rule next := fun cursor =>
    match rule cursor with
    | (.ok (value, after), events) =>
      ((next value after).1, events ++ (next value after).2)
    | (.error failure, events) => (.error failure, events)

/-- Runs a rule in which nothing happens that is recorded. -/
def lift (rule : Rule Value) : Recorded Content Value := fun cursor => (rule cursor, [])

/-- Records an event. -/
def note (event : Event Content) : Recorded Content Unit := fun cursor =>
  (.ok ((), cursor), [event])

/-- The first rule, or the second one from the same place if the first fails. -/
def orElse (first second : Recorded Content Value) : Recorded Content Value := fun cursor =>
  match first cursor with
  | (.ok found, events) => (.ok found, events)
  | (.error firstFailure, events) =>
    match second cursor with
    | (.ok found, further) => (.ok found, events ++ further)
    | (.error secondFailure, further) =>
      (.error (firstFailure.furthest secondFailure), events ++ further)

/-- Runs a rule with one more group open, unless the limit on open groups is reached. -/
def nested (limit : Option Nat) (rule : Recorded Content Value) : Recorded Content Value :=
  fun cursor =>
    if limit.any (· ≤ cursor.depth) then (.error (cursor.missing .shallowerNesting), [])
    else
      match rule (cursor.atDepth (cursor.depth + 1)) with
      | (.ok (value, after), events) => (.ok (value, after.atDepth cursor.depth), events)
      | (.error failure, events) => (.error failure, events)

/-! ### Recorded rules for terms -/

/-- Reads a leaf and records it. -/
def leaf (rule : Rule Content) (change : Content → Leaf) : Recorded Content Leaf := do
  let content ← lift rule
  let after ← lift here
  note (.read content after)
  pure (change content)

/-- Reads further operands of a connective. -/
def chainAfter (kind : Connective) (operand : Recorded Content (Tree Leaf)) :
    (bound : Nat) → Tree Leaf → Recorded Content (Tree Leaf)
  | 0, left => pure left
  | bound + 1, left => do
    match ← lift (attempt (connective kind.word)) with
    | none => pure left
    | some () =>
      let right ← operand
      chainAfter kind operand bound (.join kind left right)

/-- Reads at most `bound + 1` operands of a connective. -/
def chain (kind : Connective) (bound : Nat) (operand : Recorded Content (Tree Leaf)) :
    Recorded Content (Tree Leaf) := do
  let first ← operand
  chainAfter kind operand bound first

/-- Reads an operand that may stand behind one negation. -/
def unaryOf (primary : Recorded Content (Tree Leaf)) : Recorded Content (Tree Leaf) := do
  match ← lift (attempt (connective negationWord)) with
  | none => primary
  | some () =>
    let operand ← primary
    pure (.negate operand)

/-- Runs a rule in a group whose bracket has been read, and records its opening. -/
def opening (limit : Option Nat) (rule : Recorded Content Value) : Recorded Content Value := do
  let place ← lift here
  note (.opened place)
  nested limit rule

/-- Reads a term in brackets, and records where the group is opened and closed. -/
def groupOf (limit : Option Nat) (term : Recorded Content (Tree Leaf)) :
    Recorded Content (Tree Leaf) := do
  lift (token (literal "(" .openingBracket))
  let tree ← opening limit do
    let inner ← term
    lift (token (literal ")" .closingBracket))
    pure inner
  let place ← lift here
  note (.closed place)
  pure tree

/-- Reads a leaf or a group. -/
def primaryOf (limit : Option Nat) (leaf : Recorded Content Leaf)
    (term : Recorded Content (Tree Leaf)) : Recorded Content (Tree Leaf) :=
  orElse (do let content ← leaf; pure (.leaf content)) (groupOf limit term)

/-- Reads a term where fewer than `bound` characters are left. -/
def termWithin (limit : Option Nat) (leaf : Recorded Content Leaf) :
    (bound : Nat) → Recorded Content (Tree Leaf)
  | 0 => fun cursor => (.error (cursor.missing .fieldName), [])
  | bound + 1 =>
    let primary := primaryOf limit leaf (termWithin limit leaf bound)
    chain .or bound (chain .and bound (unaryOf primary))

/-- Reads a term. -/
def term (limit : Option Nat) (leaf : Recorded Content Leaf) : Recorded Content (Tree Leaf) :=
  fun cursor => termWithin limit leaf (cursor.rest.length + 1) cursor

/-- Reads a whole text as spaces and a term. -/
def whole (limit : Option Nat) (leaf : Recorded Content Leaf) :
    Recorded Content (Tree Leaf) := do
  lift spaces
  let tree ← term limit leaf
  lift endOfText
  pure tree

/-- What happens while a whole text is read. -/
def events (limit : Option Nat) (leaf : Recorded Content Leaf) (text : List Char) :
    List (Event Content) :=
  (whole limit leaf (.start text)).2

/-! ### Records in sequence -/

variable {cursor after last : Cursor} {value : Value} {other : Other} {failure : Failure}
  {record : List (Event Content)}

theorem bind_ok {rule : Recorded Content Value} {next : Value → Recorded Content Other}
    (succeeds : rule cursor = (.ok (value, after), record)) :
    (rule >>= next) cursor = ((next value after).1, record ++ (next value after).2) := by
  simp only [Bind.bind, succeeds]

theorem bind_error {rule : Recorded Content Value} {next : Value → Recorded Content Other}
    (fails : rule cursor = (.error failure, record)) :
    (rule >>= next) cursor = (.error failure, record) := by
  simp only [Bind.bind, fails]

/-- Two rules in sequence succeed only where both do, and the record is that of the first and
then that of the second. -/
theorem exists_of_bind_ok {rule : Recorded Content Value}
    {next : Value → Recorded Content Other}
    (succeeds : (rule >>= next) cursor = (.ok (other, last), record)) :
    ∃ value after front back, rule cursor = (.ok (value, after), front) ∧
      next value after = (.ok (other, last), back) ∧ record = front ++ back := by
  rcases runs : rule cursor with ⟨⟨failure⟩ | ⟨value, after⟩, front⟩
  · rw [bind_error runs] at succeeds
    cases succeeds
  · rw [bind_ok runs] at succeeds
    rcases runsNext : next value after with ⟨outcome, back⟩
    rw [runsNext] at succeeds
    cases succeeds
    exact ⟨value, after, front, back, rfl, runsNext, rfl⟩

theorem exists_of_bind_error {rule : Recorded Content Value}
    {next : Value → Recorded Content Other}
    (fails : (rule >>= next) cursor = (.error failure, record)) :
    rule cursor = (.error failure, record) ∨
      ∃ value after front back, rule cursor = (.ok (value, after), front) ∧
        next value after = (.error failure, back) ∧ record = front ++ back := by
  rcases runs : rule cursor with ⟨⟨other⟩ | ⟨value, after⟩, front⟩
  · rw [bind_error runs] at fails
    cases fails
    exact Or.inl rfl
  · rw [bind_ok runs] at fails
    rcases runsNext : next value after with ⟨outcome, back⟩
    rw [runsNext] at fails
    cases fails
    exact Or.inr ⟨value, after, front, back, rfl, runsNext, rfl⟩

/-! ### Leaves and groups -/

theorem leaf_of_ok {rule : Rule Content} {content : Content} (change : Content → Leaf)
    (succeeds : rule cursor = .ok (content, after)) :
    leaf rule change cursor = (.ok (change content, after), [.read content after]) := by
  rw [leaf, bind_ok (show lift rule cursor = (.ok (content, after), []) by rw [lift, succeeds])]
  rfl

theorem leaf_of_error {rule : Rule Content} (change : Content → Leaf)
    (fails : rule cursor = .error failure) :
    leaf rule change cursor = (.error failure, []) :=
  bind_error (show lift rule cursor = (.error failure, []) by rw [lift, fails])

theorem opening_apply (limit : Option Nat) (rule : Recorded Content Value) (cursor : Cursor) :
    opening limit rule cursor =
      ((nested limit rule cursor).1, .opened cursor :: (nested limit rule cursor).2) := rfl

theorem exists_of_opening_ok {limit : Option Nat} {rule : Recorded Content Value}
    (succeeds : opening limit rule cursor = (.ok (value, after), record)) :
    ∃ inner events, rule (cursor.atDepth (cursor.depth + 1)) = (.ok (value, inner), events) ∧
      after = inner.atDepth cursor.depth ∧ record = .opened cursor :: events := by
  rw [opening_apply, nested] at succeeds
  split at succeeds
  · cases succeeds
  · rcases runs : rule (cursor.atDepth (cursor.depth + 1)) with ⟨other | ⟨found, inner⟩, events⟩
    · rw [runs] at succeeds
      cases succeeds
    · rw [runs] at succeeds
      cases succeeds
      exact ⟨inner, events, rfl, rfl, rfl⟩

theorem exists_of_opening_error {limit : Option Nat} {rule : Recorded Content Value}
    (fails : opening limit rule cursor = (.error failure, record)) :
    ∃ events, record = .opened cursor :: events ∧
      (failure = cursor.missing .shallowerNesting ∧ events = [] ∨
        rule (cursor.atDepth (cursor.depth + 1)) = (.error failure, events)) := by
  rw [opening_apply, nested] at fails
  split at fails
  · cases fails
    exact ⟨[], rfl, Or.inl ⟨rfl, rfl⟩⟩
  · rcases runs : rule (cursor.atDepth (cursor.depth + 1)) with ⟨other | ⟨found, inner⟩, events⟩
    · rw [runs] at fails
      cases fails
      exact ⟨events, rfl, Or.inr rfl⟩
    · rw [runs] at fails
      cases fails

end Recorded

end ContentQuery.Query
