/-
This file proves that the limit on open groups only cuts off queries that go deeper. Without
the limit, a query is read to its end, and the record of that run shows how many groups are
open wherever one more is opened. If that number never reaches the limit, the limit changes
nothing. Where it first does, the limit ends the run behind the bracket, and none of the
groups around it puts another failure in its place.

The depth that rules carry along is the number of open groups: whatever is opened inside a
group and closed again does not count at the end of it. Nor does the bound on the recursion
stand in for the limit, since by `term_eq` it is never used up.
-/

import ContentQuery.Proofs.Bounds
import ContentQuery.Proofs.Trails

namespace ContentQuery.Query

open Rule Text

variable {Content : Type} {leaf : Rule Content} {cursor after : Cursor}
  {record : List (Event Content)}

/-! ### Open groups -/

/-- The number of open groups after an event, from the number before it. -/
def Event.groupsAfter (count : Nat) : Event Content → Nat
  | .opened _ => count + 1
  | .closed _ => count - 1
  | .read _ _ => count

/-- The number of groups that are open at the end of a record. -/
def openGroups (record : List (Event Content)) : Nat := record.foldl Event.groupsAfter 0

/-- No group is opened while the given number of groups is open. -/
def StaysShallow (limit : Nat) (record : List (Event Content)) : Prop :=
  ∀ before place behind, record = before ++ .opened place :: behind → openGroups before < limit

/-- The place where a group is first opened while the given number of groups is open. -/
def IsFirstTooDeep (limit : Nat) (record : List (Event Content)) (place : Cursor) : Prop :=
  ∃ before behind, record = before ++ .opened place :: behind ∧ limit ≤ openGroups before ∧
    StaysShallow limit before

/-- Along a trail, the depth goes up and down with the groups. -/
theorem Trail.depth_eq (trail : Trail leaf cursor record after) :
    after.depth = record.foldl Event.groupsAfter cursor.depth := by
  induction trail with
  | still reads => exact reads.depth_eq
  | opened reads _ _ inductionHypothesis =>
    rw [inductionHypothesis, List.foldl_cons, ← reads.depth_eq]
    rfl
  | closed reads _ inductionHypothesis =>
    rw [inductionHypothesis, List.foldl_cons, ← reads.depth_eq]
    rfl
  | read reads _ readsLeaf _ inductionHypothesis =>
    rw [inductionHypothesis, List.foldl_cons, readsLeaf.depth_eq, reads.depth_eq]
    rfl

/-- Where a group is opened on a trail from the start of a text, the depth is the number of
open groups. -/
theorem Trail.depth_eq_openGroups {text : List Char} {before behind : List (Event Content)}
    {place : Cursor}
    (trail : Trail leaf (.start text) (before ++ .opened place :: behind) after) :
    place.depth = openGroups before := by
  obtain ⟨middle, toMiddle, fromMiddle⟩ := trail.exists_between
  cases fromMiddle with
  | opened reads _ _ => exact reads.depth_eq.trans toMiddle.depth_eq

/-- Where a group is opened on a trail from the start of a text, its bracket and some spaces
stand before the place, and no space behind it. -/
theorem Trail.stands_before_opened {text : List Char} {before behind : List (Event Content)}
    {place : Cursor}
    (trail : Trail leaf (.start text) (before ++ .opened place :: behind) after) :
    ∃ front count, text = (front ++ '(' :: List.replicate count ' ') ++ place.rest ∧
      place.offset = utf8Length (front ++ '(' :: List.replicate count ' ') ∧
      BeginsTight place.rest := by
  obtain ⟨middle, toMiddle, fromMiddle⟩ := trail.exists_between
  obtain ⟨start, textEq, offsetEq⟩ := toMiddle.isIn (Cursor.start_isIn text)
  cases fromMiddle with
  | @opened _ _ _ lexeme count _ reads tight _ =>
    refine ⟨start ++ lexeme, count, ?_, ?_, tight⟩
    · rw [textEq, reads.rest_eq]
      simp only [List.append_assoc]
    · rw [reads.offset_eq, offsetEq, ← utf8Length_append, List.append_assoc]

/-! ### Reading without a limit -/

/-- The term that a folded text denotes if any number of groups may be open. -/
def readUncapped (text : List Char) : Except Failure Term := read none atom text

/-- What happens while a folded text is read without a limit on open groups. -/
def uncappedEvents (text : List Char) : List (Event Atom) :=
  Recorded.events none (Recorded.leaf atom id) text

/-- The judge that blames a group for being opened while the given number of groups is open. -/
def blameBeyond (limit : Nat) : Event Atom → Option Failure
  | .opened place =>
    if limit ≤ place.depth then some (place.missing .shallowerNesting) else none
  | .closed _ => none
  | .read _ _ => none

/-- The judge that blames a group for being opened while the limit is reached. -/
def blameDepth : Event Atom → Option Failure := blameBeyond depthLimit

theorem map_id_atom : id <$> atom = atom := Recorded.bind_pure atom

theorem readUncapped_eq_of_whole (text : List Char) :
    readUncapped text =
      (Recorded.whole none (Recorded.leaf atom id) (.start text)).1.map Prod.fst := by
  rw [readUncapped, ← Recorded.read_eq_of_whole none id isTidy_atom failsAtBracket_atom text,
    map_id_atom]

theorem judges_beyond (limit : Nat) :
    Recorded.Judges (blameBeyond limit) none (some limit) (Recorded.leaf atom id) atom where
  leaf_eq := (Recorded.judge_leaf_of_none id fun _ _ => rfl).trans map_id_atom
  tidy := isTidy_atom
  apart := Recorded.apart_leaf id failsAtBracket_atom
  opening_eq := by
    intro term
    funext cursor
    rw [Recorded.opening, Recorded.judge_bind, Recorded.judge_lift, here_bind,
      Recorded.judge_bind, Recorded.judge_note, Recorded.judge_nested]
    by_cases deep : limit ≤ cursor.depth
    · simp [blameBeyond, deep, Rule.nested, Bind.bind, reject]
    · simp [blameBeyond, deep, Rule.nested, Bind.bind, pure]
  closed_eq := fun _ => rfl

/-- Reading within a limit is judging the record of reading without one. -/
theorem read_eq_of_uncappedEvents (limit : Nat) (text : List Char) :
    read (some limit) atom text =
      match (uncappedEvents text).findSome? (blameBeyond limit) with
      | none => readUncapped text
      | some failure => .error failure := by
  rw [readUncapped_eq_of_whole]
  exact Recorded.read_eq_of_events (judges_beyond limit) text

theorem readTerm_eq_of_uncappedEvents (text : List Char) :
    readTerm text =
      match (uncappedEvents text).findSome? blameDepth with
      | none => readUncapped text
      | some failure => .error failure :=
  read_eq_of_uncappedEvents depthLimit text

theorem exists_trail_uncappedEvents (text : List Char) :
    ∃ last, Trail atom (.start text) (uncappedEvents text) last := by
  obtain ⟨last, trail, _⟩ := Recorded.exists_trail_events none isTidy_atom id text
  exact ⟨last, trail⟩

/-! ### The limit -/

/-- The judge blames nothing in a record just when the record stays below the limit. -/
theorem blamelessBeyond_iff_staysShallow (limit : Nat) (text : List Char) :
    (uncappedEvents text).findSome? (blameBeyond limit) = none ↔
      StaysShallow limit (uncappedEvents text) := by
  obtain ⟨last, trail⟩ := exists_trail_uncappedEvents text
  rw [List.findSome?_eq_none_iff]
  constructor
  · intro blameless before place behind split
    rw [split] at trail
    have blames := blameless (.opened place) (by rw [split]; simp)
    rw [← trail.depth_eq_openGroups]
    refine Nat.lt_of_not_le fun deep => ?_
    rw [blameBeyond, if_pos deep] at blames
    cases blames
  · intro shallow event member
    cases event with
    | closed _ => rfl
    | read _ _ => rfl
    | opened place =>
      obtain ⟨before, behind, split⟩ := List.append_of_mem member
      rw [split] at trail
      have fits := shallow before place behind split
      rw [← trail.depth_eq_openGroups] at fits
      exact if_neg (Nat.not_le_of_lt fits)

theorem blameless_iff_staysShallow (text : List Char) :
    (uncappedEvents text).findSome? blameDepth = none ↔
      StaysShallow depthLimit (uncappedEvents text) :=
  blamelessBeyond_iff_staysShallow depthLimit text

/-- A text is read within a limit when its groups stay below the limit and it is read without
one. -/
theorem read_eq_ok_iff_staysShallow {limit : Nat} {text : List Char} {term : Term} :
    read (some limit) atom text = .ok term ↔
      StaysShallow limit (uncappedEvents text) ∧ readUncapped text = .ok term := by
  rw [read_eq_of_uncappedEvents, ← blamelessBeyond_iff_staysShallow]
  cases (uncappedEvents text).findSome? (blameBeyond limit) with
  | none => simp
  | some failure => simp

/-- What is blamed first is the first group that is opened too deep, and the failure is where
the group was opened. -/
theorem isFirstTooDeep_of_blamed {text : List Char} {failure : Failure}
    (blamed : (uncappedEvents text).findSome? blameDepth = some failure) :
    ∃ place, IsFirstTooDeep depthLimit (uncappedEvents text) place ∧
      failure = place.missing .shallowerNesting := by
  obtain ⟨last, trail⟩ := exists_trail_uncappedEvents text
  obtain ⟨before, event, behind, split, blames, blameless⟩ := List.findSome?_eq_some_iff.mp blamed
  cases event with
  | closed _ => cases blames
  | read _ _ => cases blames
  | opened place =>
    rw [split] at trail
    rw [blameDepth, blameBeyond] at blames
    split at blames
    · rename_i deep
      cases blames
      refine ⟨place, ⟨before, behind, split, trail.depth_eq_openGroups ▸ deep, ?_⟩, rfl⟩
      intro front other back inner
      have otherBlameless := blameless (.opened other) (by rw [inner]; simp)
      rw [inner, List.append_assoc, List.cons_append] at trail
      rw [← trail.depth_eq_openGroups]
      refine Nat.lt_of_not_le fun otherDeep => ?_
      rw [blameDepth, blameBeyond, if_pos otherDeep] at otherBlameless
      cases otherBlameless
    · cases blames

/-- A query that never opens a group while 64 groups are open is parsed as it is without the
limit, and any other query is rejected behind the bracket that first opens a group too deep. -/
theorem parse_eq_of_readUncapped (query : String) :
    (StaysShallow 64 (uncappedEvents (fold query.toList)) →
      parse query = resultOf (fold query.toList) (readUncapped (fold query.toList))) ∧
    (¬ StaysShallow 64 (uncappedEvents (fold query.toList)) →
      ∃ place, IsFirstTooDeep 64 (uncappedEvents (fold query.toList)) place ∧
        (∃ front count,
          fold query.toList = (front ++ '(' :: List.replicate count ' ') ++ place.rest ∧
            place.offset = utf8Length (front ++ '(' :: List.replicate count ' ') ∧
            BeginsTight place.rest) ∧
        parse query =
          .error ⟨place.offset, "shallower nesting", String.ofList (fold query.toList)⟩) := by
  have parseEq : parse query =
      resultOf (fold query.toList) (readTerm (fold query.toList)) := rfl
  rw [parseEq, readTerm_eq_of_uncappedEvents]
  constructor
  · intro shallow
    rw [(blameless_iff_staysShallow _).mpr shallow]
  · intro deep
    cases blamed : (uncappedEvents (fold query.toList)).findSome? blameDepth with
    | none => exact absurd ((blameless_iff_staysShallow _).mp blamed) deep
    | some failure =>
      obtain ⟨place, first, rfl⟩ := isFirstTooDeep_of_blamed blamed
      obtain ⟨last, trail⟩ := exists_trail_uncappedEvents (fold query.toList)
      refine ⟨place, first, ?_, rfl⟩
      obtain ⟨before, behind, split, _⟩ := first
      rw [split] at trail
      exact trail.stands_before_opened

/-- A query with two groups side by side, and one that opens 65 groups inside each other. -/
theorem parse_eq_of_readUncapped_instances :
    parse "(label=a)or (parent=1)" = resultOf (fold "(label=a)or (parent=1)".toList)
      (readUncapped (fold "(label=a)or (parent=1)".toList)) ∧
    ∃ place, IsFirstTooDeep 64
        (uncappedEvents (fold (String.ofList (List.replicate 65 '(')).toList)) place ∧
      parse (String.ofList (List.replicate 65 '(')) = .error ⟨place.offset, "shallower nesting",
        String.ofList (fold (String.ofList (List.replicate 65 '(')).toList)⟩ := by
  have shallow := (blameless_iff_staysShallow (fold "(label=a)or (parent=1)".toList)).mp
    (by decide +kernel)
  have deep := mt (blameless_iff_staysShallow
    (fold (String.ofList (List.replicate 65 '(')).toList)).mpr (by decide +kernel)
  obtain ⟨place, first, _, rejected⟩ :=
    (parse_eq_of_readUncapped (String.ofList (List.replicate 65 '('))).2 deep
  exact ⟨(parse_eq_of_readUncapped "(label=a)or (parent=1)").1 shallow, place, first, rejected⟩

end ContentQuery.Query
