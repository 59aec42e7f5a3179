/-
This file judges runs by their records. A judge blames some of the events, and the first event
that is blamed decides the run: it fails as the judge says. To judge the record of a run when
it is over comes to the same as to fail at once where the blame falls, and that is how a rule
with a check inside is told from the same rule without the check.

In sequences this holds for any rules. In the choice between a leaf and a group it needs that
no leaf begins with a bracket. Then one of the two fails at its start with nothing recorded,
and the other one, being blamed further on, is the one whose failure is kept.
-/

import ContentQuery.Proofs.Recorded

namespace ContentQuery.Query

open Rule Text

variable {Content Value Other Leaf : Type} {blame : Event Content → Option Failure}

/-- The rule fails at its own place where a bracket stands. -/
def Rule.FailsAtBracket (rule : Rule Value) : Prop :=
  ∀ cursor : Cursor, cursor.rest.head? = some '(' →
    ∃ failure, rule cursor = .error failure ∧ failure.position = cursor.offset

namespace Recorded

/-- The rule that fails as the first event that is blamed, and runs as recorded if none is. -/
def judge (blame : Event Content → Option Failure) (rule : Recorded Content Value) :
    Rule Value := fun cursor =>
  match (rule cursor).2.findSome? blame with
  | none => (rule cursor).1
  | some failure => .error failure

theorem judge_of_blamed {rule : Recorded Content Value} {cursor : Cursor} {failure : Failure}
    (blamed : (rule cursor).2.findSome? blame = some failure) :
    judge blame rule cursor = .error failure := by
  rw [judge, blamed]

theorem judge_of_none {rule : Recorded Content Value} {cursor : Cursor}
    (free : (rule cursor).2.findSome? blame = none) :
    judge blame rule cursor = (rule cursor).1 := by
  rw [judge, free]

/-! ### Judging in sequence -/

theorem judge_lift (rule : Rule Value) :
    judge blame (lift rule : Recorded Content Value) = rule := rfl

theorem judge_note (event : Event Content) :
    judge blame (note event) =
      match blame event with
      | none => pure ()
      | some failure => reject failure := by
  funext cursor
  unfold judge note
  rw [List.findSome?_singleton]
  cases blame event <;> rfl

/-- Judging a sequence is judging its parts one after another. -/
theorem judge_bind (rule : Recorded Content Value) (next : Value → Recorded Content Other) :
    judge blame (rule >>= next) = judge blame rule >>= fun value => judge blame (next value) := by
  funext cursor
  rcases runs : rule cursor with ⟨outcome, front⟩
  have recordEq : (rule cursor).2.findSome? blame = front.findSome? blame := by
    rw [runs]
  cases blamed : front.findSome? blame with
  | some failure =>
    have blamedAtOnce := judge_of_blamed (recordEq.trans blamed)
    rw [Rule.bind_error blamedAtOnce]
    refine judge_of_blamed ?_
    cases outcome with
    | error other => rw [bind_error runs, blamed]
    | ok found => rw [bind_ok runs, List.findSome?_append, blamed, Option.some_or]
  | none =>
    have judged := judge_of_none (recordEq.trans blamed)
    rw [runs] at judged
    cases outcome with
    | error other =>
      rw [Rule.bind_error judged, judge_of_none (by rw [bind_error runs, blamed]), bind_error runs]
    | ok found =>
      rw [Rule.bind_ok judged]
      unfold judge
      rw [bind_ok runs, List.findSome?_append, blamed, Option.none_or]

theorem judge_nested (limit : Option Nat) (rule : Recorded Content Value) :
    judge blame (nested limit rule) = Rule.nested limit (judge blame rule) := by
  funext cursor
  by_cases deep : limit.any (· ≤ cursor.depth) = true
  · simp only [judge, nested, Rule.nested, if_pos deep, List.findSome?_nil]
  · simp only [judge, nested, Rule.nested, if_neg deep]
    rcases rule (cursor.atDepth (cursor.depth + 1)) with ⟨outcome, events⟩
    cases outcome <;> cases events.findSome? blame <;> rfl

/-! ### Judging a choice -/

/-- A first rule that fails with nothing recorded does not hide the second one if that is
blamed further on. -/
theorem judge_orElse_of_first {first second : Recorded Content Value} {cursor : Cursor}
    {failure : Failure} (fails : first cursor = (.error failure, []))
    (further : ∀ blamed, (second cursor).2.findSome? blame = some blamed →
      failure.position < blamed.position) :
    judge blame (first.orElse second) cursor =
      (judge blame first).orElse (judge blame second) cursor := by
  have firstFails : judge blame first cursor = .error failure := by
    rw [judge, fails]
    rfl
  have recordEq : (first.orElse second cursor).2 = (second cursor).2 := by
    rw [orElse, fails]
    rcases second cursor with ⟨_ | _, _⟩ <;> rfl
  rw [Rule.orElse, firstFails]
  cases blamed : (second cursor).2.findSome? blame with
  | some other =>
    rw [judge_of_blamed (recordEq ▸ blamed), judge_of_blamed blamed]
    simp only
    rw [Failure.furthest_of_lt (further other blamed)]
  | none =>
    rw [judge_of_none (recordEq ▸ blamed), judge_of_none blamed, orElse, fails]
    rcases second cursor with ⟨_ | _, _⟩ <;> rfl

/-- A second rule that fails at the start with nothing recorded does not hide the first one. -/
theorem judge_orElse_of_second {first second : Recorded Content Value} {cursor : Cursor}
    {failure : Failure} (fails : second cursor = (.error failure, []))
    (further : ∀ blamed, (first cursor).2.findSome? blame = some blamed →
      failure.position ≤ blamed.position) :
    judge blame (first.orElse second) cursor =
      (judge blame first).orElse (judge blame second) cursor := by
  have secondFails : judge blame second cursor = .error failure := by
    rw [judge, fails]
    rfl
  have recordEq : (first.orElse second cursor).2 = (first cursor).2 := by
    unfold orElse
    rcases first cursor with ⟨_ | _, _⟩
    · rw [fails]
      exact List.append_nil _
    · rfl
  rw [Rule.orElse, secondFails]
  cases blamed : (first cursor).2.findSome? blame with
  | some other =>
    rw [judge_of_blamed (recordEq ▸ blamed), judge_of_blamed blamed]
    simp only
    rw [Failure.furthest_of_le (further other blamed)]
  | none =>
    rw [judge_of_none (recordEq ▸ blamed), judge_of_none blamed, orElse]
    rcases first cursor with ⟨_ | _, _⟩
    · rw [fails]
    · rfl

/-! ### Judging terms -/

theorem bind_pure (rule : Rule Value) : (rule >>= pure) = rule := by
  funext cursor
  cases runs : rule cursor with
  | ok found => exact Rule.bind_ok runs
  | error failure => exact Rule.bind_error runs

/-- The judge turns the recorded leaf and the outer limit into the leaf and the inner limit.
Where a bracket stands, the leaf fails at once with nothing recorded. -/
structure Judges (blame : Event Content → Option Failure) (outer inner : Option Nat)
    (recorded : Recorded Content Leaf) (leaf : Rule Leaf) : Prop where
  /-- To judge the recorded leaf is to run the leaf. -/
  leaf_eq : judge blame recorded = leaf
  /-- The leaf stops where it should. -/
  tidy : leaf.IsTidy
  /-- No leaf begins with a bracket. -/
  apart : ∀ cursor : Cursor, cursor.rest.head? = some '(' →
    ∃ failure, recorded cursor = (.error failure, []) ∧ failure.position = cursor.offset
  /-- To judge a group in the outer limit is to run it in the inner one. -/
  opening_eq : ∀ rule : Recorded Content (Tree Leaf),
    judge blame (opening outer rule) = Rule.nested inner (judge blame rule)
  /-- Nobody is blamed for closing a group. -/
  closed_eq : ∀ place, blame (.closed place) = none

variable {outer inner : Option Nat} {recorded : Recorded Content Leaf} {leaf : Rule Leaf}

theorem judge_chainAfter (kind : Connective) (operand : Recorded Content (Tree Leaf))
    (bound : Nat) (left : Tree Leaf) :
    judge blame (chainAfter kind operand bound left) =
      Query.chainAfter kind (judge blame operand) bound left := by
  induction bound generalizing left with
  | zero => rfl
  | succ bound inductionHypothesis =>
    rw [chainAfter, Query.chainAfter, judge_bind, judge_lift]
    refine congrArg _ (funext fun found => ?_)
    cases found with
    | none => rfl
    | some _ =>
      rw [judge_bind]
      exact congrArg _ (funext fun right => inductionHypothesis (.join kind left right))

theorem judge_chain (kind : Connective) (bound : Nat)
    (operand : Recorded Content (Tree Leaf)) :
    judge blame (chain kind bound operand) = Query.chain kind bound (judge blame operand) := by
  rw [chain, Query.chain, judge_bind]
  exact congrArg _ (funext fun first => judge_chainAfter kind operand bound first)

theorem judge_unaryOf (primary : Recorded Content (Tree Leaf)) :
    judge blame (unaryOf primary) = Query.unaryOf (judge blame primary) := by
  rw [unaryOf, Query.unaryOf, judge_bind, judge_lift]
  refine congrArg _ (funext fun found => ?_)
  cases found with
  | none => rfl
  | some _ =>
    rw [judge_bind]
    rfl

theorem judge_groupOf (judges : Judges blame outer inner recorded leaf)
    (term : Recorded Content (Tree Leaf)) :
    judge blame (groupOf outer term) = Query.groupOf inner (judge blame term) := by
  have closing : (fun tree : Tree Leaf => judge blame (do
      let place ← lift here
      note (.closed place)
      pure tree : Recorded Content (Tree Leaf))) = pure := by
    funext tree
    rw [judge_bind, judge_lift]
    funext cursor
    rw [here_bind, judge_bind, judge_note, judges.closed_eq]
    rfl
  rw [groupOf, Query.groupOf, judge_bind, judge_lift]
  refine congrArg _ (funext fun _ => ?_)
  rw [judge_bind, judges.opening_eq, closing, bind_pure, judge_bind]
  refine congrArg _ (congrArg _ (funext fun inner => ?_))
  rw [judge_bind, judge_lift]
  rfl

theorem bracket_stands_iff {text : List Char} :
    "(".toList <+: text ↔ text.head? = some '(' := by
  have spelling : "(".toList = ['('] := by decide
  rw [spelling]
  cases text with
  | nil => simp
  | cons character rest => simp [eq_comm]

/-- A group whose bracket stands at the place fails only behind the bracket. -/
theorem offset_lt_of_groupOf {limit : Option Nat} {term : Rule (Tree Leaf)}
    (tidy : term.IsTidy) {cursor : Cursor} {failure : Failure}
    (stands : cursor.rest.head? = some '(')
    (fails : Query.groupOf limit term cursor = .error failure) :
    cursor.offset < failure.position := by
  rcases Rule.bind_eq_error_iff.mp fails with opening | ⟨_, inside, opening, fails⟩
  · exact absurd (bracket_stands_iff.mpr stands)
      (literal_eq_error_iff.mp (token_eq_error_iff.mp opening)).1
  · obtain ⟨middle, reads, skips⟩ := token_eq_ok_iff.mp opening
    have bracket := (literal_eq_ok_iff.mp reads).offset_eq
    obtain ⟨_, readsSpaces⟩ := isTidy_spaces.reads skips
    calc cursor.offset < middle.offset := by
          rw [bracket]
          exact Nat.lt_add_of_pos_right (by decide)
      _ ≤ inside.offset := readsSpaces.offset_le
      _ ≤ failure.position := ((isTidy_groupRest tidy).nested.isAhead fails).offset_le

theorem token_bracket_of_head_ne {cursor : Cursor} (absent : cursor.rest.head? ≠ some '(') :
    token (literal "(" .openingBracket) cursor = .error (cursor.missing .openingBracket) :=
  token_eq_error_iff.mpr (literal_eq_error_iff.mpr
    ⟨fun stands => absent (bracket_stands_iff.mp stands), rfl⟩)

/-- A group fails at once where no bracket stands. -/
theorem groupOf_of_head_ne (limit : Option Nat) (term : Recorded Content (Tree Leaf))
    {cursor : Cursor} (absent : cursor.rest.head? ≠ some '(') :
    groupOf limit term cursor = (.error (cursor.missing .openingBracket), []) := by
  refine bind_error ?_
  rw [lift, token_bracket_of_head_ne absent]

theorem judge_primaryOf (judges : Judges blame outer inner recorded leaf)
    {term : Recorded Content (Tree Leaf)} (tidy : (judge blame term).IsTidy) :
    judge blame (primaryOf outer recorded term) =
      Query.primaryOf inner leaf (judge blame term) := by
  have leafEq : judge blame (do let content ← recorded; pure (.leaf content) :
      Recorded Content (Tree Leaf)) = Tree.leaf <$> leaf := by
    rw [judge_bind, judges.leaf_eq]
    rfl
  rw [Query.primaryOf, ← leafEq, ← judge_groupOf judges]
  funext cursor
  by_cases stands : cursor.rest.head? = some '('
  · obtain ⟨failure, fails, atStart⟩ := judges.apart cursor stands
    refine judge_orElse_of_first (bind_error fails) fun blamed isBlamed => ?_
    rw [atStart]
    have fails := judge_of_blamed isBlamed
    rw [judge_groupOf judges] at fails
    exact offset_lt_of_groupOf tidy stands fails
  · refine judge_orElse_of_second (groupOf_of_head_ne outer term stands) fun blamed isBlamed => ?_
    have fails := judge_of_blamed isBlamed
    rw [leafEq] at fails
    exact (IsTidy.isAhead (fun start => (judges.tidy start).map Tree.leaf) fails).offset_le

theorem judge_termWithin (judges : Judges blame outer inner recorded leaf) (bound : Nat) :
    judge blame (termWithin outer recorded bound) = Query.termWithin inner leaf bound := by
  induction bound with
  | zero => rfl
  | succ bound inductionHypothesis =>
    have tidy : (judge blame (termWithin outer recorded bound)).IsTidy := by
      rw [inductionHypothesis]
      exact isTidy_termWithin inner judges.tidy bound
    rw [termWithin, Query.termWithin, judge_chain, judge_chain, judge_unaryOf,
      judge_primaryOf judges tidy, inductionHypothesis]

theorem judge_whole (judges : Judges blame outer inner recorded leaf) :
    judge blame (whole outer recorded) = Query.whole inner leaf := by
  have termEq : judge blame (term outer recorded) = Query.term inner leaf :=
    funext fun cursor => congrFun (judge_termWithin judges _) cursor
  rw [whole, Query.whole, judge_bind, judge_lift]
  refine congrArg _ (funext fun _ => ?_)
  rw [judge_bind, termEq]
  refine congrArg _ (funext fun tree => ?_)
  rw [judge_bind, judge_lift]
  rfl

/-- Reading a whole text is running it with a record and judging the record. -/
theorem read_eq_of_events (judges : Judges blame outer inner recorded leaf) (text : List Char) :
    read inner leaf text =
      match (events outer recorded text).findSome? blame with
      | none => (whole outer recorded (.start text)).1.map Prod.fst
      | some failure => .error failure := by
  rw [read, ← judge_whole judges, judge, events]
  cases (whole outer recorded (.start text)).2.findSome? blame with
  | none => cases (whole outer recorded (.start text)).1 <;> rfl
  | some failure => rfl

/-! ### Judging leaves and openings -/

variable {rule : Rule Content}

/-- A judge of leaves is the same as a check behind the rule for leaves. -/
theorem judge_leaf {fault : Content → Option Failure} (change : Content → Leaf)
    (blames : ∀ content after, blame (.read content after) = fault content) :
    judge blame (Recorded.leaf rule change) = (do
      let content ← rule
      match fault content with
      | none => pure (change content)
      | some failure => reject failure) := by
  rw [Recorded.leaf, judge_bind, judge_lift]
  refine congrArg _ (funext fun content => ?_)
  rw [judge_bind, judge_lift]
  funext cursor
  rw [here_bind, judge_bind, judge_note, blames]
  cases fault content <;> rfl

/-- A judge that accepts all leaves runs the rule for leaves. -/
theorem judge_leaf_of_none (change : Content → Leaf)
    (blames : ∀ content after, blame (.read content after) = none) :
    judge blame (Recorded.leaf rule change) = change <$> rule :=
  @judge_leaf Content Leaf blame rule (fun _ => none) change blames

/-- A judge that lets groups open runs them in the same limit. -/
theorem judge_opening (blames : ∀ place, blame (.opened place) = none) (limit : Option Nat)
    (term : Recorded Content (Tree Leaf)) :
    judge blame (opening limit term) = Rule.nested limit (judge blame term) := by
  rw [opening, judge_bind, judge_lift]
  funext cursor
  rw [here_bind, judge_bind, judge_note, blames, judge_nested]
  rfl

theorem apart_leaf (change : Content → Leaf) (fails : rule.FailsAtBracket) (cursor : Cursor)
    (stands : cursor.rest.head? = some '(') :
    ∃ failure, Recorded.leaf rule change cursor = (.error failure, []) ∧
      failure.position = cursor.offset := by
  obtain ⟨failure, failsHere, atStart⟩ := fails cursor stands
  exact ⟨failure, leaf_of_error change failsHere, atStart⟩

/-- Nobody is blamed, and the recorded rules run as the rules do. -/
theorem judges_nobody (limit : Option Nat) (change : Content → Leaf) (tidy : rule.IsTidy)
    (fails : rule.FailsAtBracket) :
    Judges (fun _ => none) limit limit (Recorded.leaf rule change) (change <$> rule) where
  leaf_eq := judge_leaf_of_none change fun _ _ => rfl
  tidy := fun start => (tidy start).map change
  apart := apart_leaf change fails
  opening_eq := judge_opening (fun _ => rfl) limit
  closed_eq := fun _ => rfl

/-- A record is kept of the very run that reads a text. -/
theorem read_eq_of_whole (limit : Option Nat) (change : Content → Leaf) (tidy : rule.IsTidy)
    (fails : rule.FailsAtBracket) (text : List Char) :
    read limit (change <$> rule) text =
      (whole limit (Recorded.leaf rule change) (.start text)).1.map Prod.fst := by
  rw [read_eq_of_events (judges_nobody limit change tidy fails), List.findSome?_eq_none_iff.mpr]
  exact fun _ _ => rfl

end Recorded

/-! ### Atoms -/

/-- No name of a field begins with a bracket. -/
theorem token_fieldName_of_bracket {cursor : Cursor} (stands : cursor.rest.head? = some '(') :
    token fieldName cursor = .error (cursor.missing .fieldName) := by
  have others : ∀ entry ∈ fieldSpellings, entry.1.toList ≠ [] ∧
      entry.1.toList.head? ≠ some '(' := by decide
  have absent : ∀ entry ∈ fieldSpellings, ¬ entry.1.toList <+: cursor.rest := by
    rintro entry member ⟨rest, restEq⟩
    obtain ⟨nonempty, other⟩ := others entry member
    obtain ⟨initial, letters, spelling⟩ := List.exists_cons_of_ne_nil nonempty
    rw [spelling] at restEq other
    rw [← restEq] at stands
    exact other stands
  exact token_eq_error_iff.mpr (spelled_eq_error_iff.mpr ⟨absent, rfl⟩)

theorem failsAtBracket_placedAtom : placedAtom.FailsAtBracket := fun _ stands =>
  ⟨_, Rule.bind_error (token_fieldName_of_bracket stands), rfl⟩

theorem failsAtBracket_atom : atom.FailsAtBracket := by
  intro cursor stands
  obtain ⟨failure, fails, atStart⟩ := failsAtBracket_placedAtom cursor stands
  exact ⟨failure, Rule.bind_error fails, atStart⟩

end ContentQuery.Query
