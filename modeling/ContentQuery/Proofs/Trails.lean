/-
This file proves that a record is a trail through the text. From event to event some text is
read, a leaf stands where it is recorded, and the depth goes up by one where a group is opened
and down by one where it is closed. A run that fails leaves a trail up to some place at or
before the failure.

What is blamed in a record can therefore be found in the text, in the order of the record.
-/

import ContentQuery.Proofs.Judged
import ContentQuery.Proofs.Recognition

namespace ContentQuery.Query

open Rule Text

variable {Content Value Other Leaf : Type} {leaf : Rule Content} {change : Content → Leaf}
  {cursor after : Cursor} {record : List (Event Content)}

/-! ### Trails -/

/-- The events happen one after another on the way from the first place to the second. -/
inductive Trail (leaf : Rule Content) : Cursor → List (Event Content) → Cursor → Prop where
  /-- Nothing happens while some text is read. -/
  | still {cursor after : Cursor} {lexeme : List Char} (reads : cursor.Reads lexeme after) :
    Trail leaf cursor [] after
  /-- Behind some text, a bracket and spaces, a group is opened. -/
  | opened {cursor place after : Cursor} {lexeme : List Char} {count : Nat}
      {record : List (Event Content)}
      (reads : cursor.Reads (lexeme ++ '(' :: List.replicate count ' ') place)
      (tight : BeginsTight place.rest)
      (trail : Trail leaf (place.atDepth (place.depth + 1)) record after) :
    Trail leaf cursor (.opened place :: record) after
  /-- Behind some text in a group, the group is closed. -/
  | closed {cursor place after : Cursor} {lexeme : List Char} {record : List (Event Content)}
      (reads : cursor.Reads lexeme (place.atDepth (place.depth + 1)))
      (trail : Trail leaf place record after) : Trail leaf cursor (.closed place :: record) after
  /-- Behind some text, a leaf is read. -/
  | read {cursor place behind after : Cursor} {before lexeme : List Char} {content : Content}
      {record : List (Event Content)} (reads : cursor.Reads before place)
      (stands : leaf place = .ok (content, behind)) (readsLeaf : place.Reads lexeme behind)
      (trail : Trail leaf behind record after) :
    Trail leaf cursor (.read content behind :: record) after

theorem Trail.of_reads {start : Cursor} {front : List Char} (readsFront : start.Reads front cursor)
    (trail : Trail leaf cursor record after) : Trail leaf start record after := by
  cases trail with
  | still reads => exact .still (readsFront.trans reads)
  | opened reads tight trail =>
    have reads := readsFront.trans reads
    rw [← List.append_assoc] at reads
    exact .opened reads tight trail
  | closed reads trail => exact .closed (readsFront.trans reads) trail
  | read reads stands readsLeaf trail =>
    exact .read (readsFront.trans reads) stands readsLeaf trail

theorem Trail.append {last : Cursor} {further : List (Event Content)}
    (trail : Trail leaf cursor record after) (next : Trail leaf after further last) :
    Trail leaf cursor (record ++ further) last := by
  induction trail with
  | still reads => exact next.of_reads reads
  | opened reads tight _ inductionHypothesis => exact .opened reads tight (inductionHypothesis next)
  | closed reads _ inductionHypothesis => exact .closed reads (inductionHypothesis next)
  | read reads stands readsLeaf _ inductionHypothesis =>
    exact .read reads stands readsLeaf (inductionHypothesis next)

/-- A trail passes a place between any two of its events. -/
theorem Trail.exists_between {front back : List (Event Content)}
    (trail : Trail leaf cursor (front ++ back) after) :
    ∃ middle, Trail leaf cursor front middle ∧ Trail leaf middle back after := by
  induction front generalizing cursor with
  | nil => exact ⟨cursor, .still cursor.reads_nil, trail⟩
  | cons event front inductionHypothesis =>
    cases trail with
    | opened reads tight trail =>
      obtain ⟨middle, first, second⟩ := inductionHypothesis trail
      exact ⟨middle, .opened reads tight first, second⟩
    | closed reads trail =>
      obtain ⟨middle, first, second⟩ := inductionHypothesis trail
      exact ⟨middle, .closed reads first, second⟩
    | read reads stands readsLeaf trail =>
      obtain ⟨middle, first, second⟩ := inductionHypothesis trail
      exact ⟨middle, .read reads stands readsLeaf first, second⟩

theorem Trail.offset_le (trail : Trail leaf cursor record after) :
    cursor.offset ≤ after.offset := by
  induction trail with
  | still reads => exact reads.offset_le
  | opened reads _ _ inductionHypothesis => exact Nat.le_trans reads.offset_le inductionHypothesis
  | closed reads _ inductionHypothesis => exact Nat.le_trans reads.offset_le inductionHypothesis
  | read reads _ readsLeaf _ inductionHypothesis =>
    exact Nat.le_trans (reads.trans readsLeaf).offset_le inductionHypothesis

theorem Trail.isIn {text : List Char} (trail : Trail leaf cursor record after)
    (place : cursor.IsIn text) : after.IsIn text := by
  induction trail with
  | still reads => exact reads.isIn place
  | opened reads _ _ inductionHypothesis => exact inductionHypothesis (reads.isIn place)
  | closed reads _ inductionHypothesis =>
    have closes := reads.isIn place
    exact inductionHypothesis closes
  | read reads _ readsLeaf _ inductionHypothesis =>
    exact inductionHypothesis ((reads.trans readsLeaf).isIn place)

/-! ### Rules that leave trails -/

theorem Failure.le_furthest (first second : Failure) :
    second.position ≤ (first.furthest second).position := by
  unfold Failure.furthest
  split
  · exact Nat.le_refl _
  · rename_i notFurther
    exact Nat.not_lt.mp notFurther

namespace Recorded

/-- The rule records a trail: up to where it ends when it succeeds, with no group left open,
and up to some place that is not behind the failure when it fails. -/
structure LeavesTrail (leaf : Rule Content) (rule : Recorded Content Value) : Prop where
  /-- A success leaves a trail to its end. -/
  success : ∀ ⦃cursor after : Cursor⦄ ⦃value : Value⦄ ⦃record : List (Event Content)⦄,
    rule cursor = (.ok (value, after), record) →
      Trail leaf cursor record after ∧ after.depth = cursor.depth
  /-- A failure lies at or behind the end of a trail. -/
  failure : ∀ ⦃cursor : Cursor⦄ ⦃failure : Failure⦄ ⦃record : List (Event Content)⦄,
    rule cursor = (.error failure, record) →
      ∃ last, Trail leaf cursor record last ∧ last.offset ≤ failure.position

theorem leavesTrail_pure (value : Value) :
    LeavesTrail leaf (pure value : Recorded Content Value) where
  success := by
    intro cursor _ _ _ succeeds
    cases succeeds
    exact ⟨.still cursor.reads_nil, rfl⟩
  failure := by
    intro _ _ _ impossible
    cases impossible

theorem leavesTrail_lift {rule : Rule Value} (tidy : rule.IsTidy) :
    LeavesTrail leaf (lift rule : Recorded Content Value) where
  success := by
    intro cursor after value record succeeds
    obtain ⟨runs, rfl⟩ := Prod.mk.inj succeeds
    obtain ⟨_, reads⟩ := tidy.reads runs
    exact ⟨.still reads, reads.depth_eq⟩
  failure := by
    intro cursor failure record fails
    obtain ⟨runs, rfl⟩ := Prod.mk.inj fails
    exact ⟨cursor, .still cursor.reads_nil, (tidy.isAhead runs).offset_le⟩

theorem LeavesTrail.bind {rule : Recorded Content Value}
    {next : Value → Recorded Content Other} (leaves : LeavesTrail leaf rule)
    (nextLeaves : ∀ value, LeavesTrail leaf (next value)) : LeavesTrail leaf (rule >>= next) where
  success := by
    intro cursor last other record succeeds
    obtain ⟨value, after, front, back, first, second, rfl⟩ := exists_of_bind_ok succeeds
    obtain ⟨toAfter, depthAfter⟩ := leaves.success first
    obtain ⟨toLast, depthLast⟩ := (nextLeaves value).success second
    exact ⟨toAfter.append toLast, depthLast.trans depthAfter⟩
  failure := by
    intro cursor failure record fails
    rcases exists_of_bind_error fails with first | ⟨value, after, front, back, first, second, rfl⟩
    · exact leaves.failure first
    · obtain ⟨toAfter, _⟩ := leaves.success first
      obtain ⟨last, toLast, ends⟩ := (nextLeaves value).failure second
      exact ⟨last, toAfter.append toLast, ends⟩

/-- A choice leaves a trail if nothing is recorded where the first rule fails. -/
theorem LeavesTrail.orElse {first second : Recorded Content Value}
    (firstLeaves : LeavesTrail leaf first) (secondLeaves : LeavesTrail leaf second)
    (quiet : ∀ ⦃cursor failure record⦄, first cursor = (.error failure, record) → record = []) :
    LeavesTrail leaf (first.orElse second) where
  success := by
    intro cursor after value record succeeds
    unfold Recorded.orElse at succeeds
    rcases runsFirst : first cursor with ⟨failure | found, front⟩
    · obtain rfl := quiet runsFirst
      rcases runsSecond : second cursor with ⟨other | found, back⟩
      · rw [runsFirst, runsSecond] at succeeds
        cases succeeds
      · rw [runsFirst, runsSecond] at succeeds
        cases succeeds
        exact secondLeaves.success runsSecond
    · rw [runsFirst] at succeeds
      cases succeeds
      exact firstLeaves.success runsFirst
  failure := by
    intro cursor failure record fails
    unfold Recorded.orElse at fails
    rcases runsFirst : first cursor with ⟨other | found, front⟩
    · obtain rfl := quiet runsFirst
      rcases runsSecond : second cursor with ⟨further | found, back⟩
      · rw [runsFirst, runsSecond] at fails
        cases fails
        obtain ⟨last, trail, ends⟩ := secondLeaves.failure runsSecond
        exact ⟨last, trail, Nat.le_trans ends (other.le_furthest further)⟩
      · rw [runsFirst, runsSecond] at fails
        cases fails
    · rw [runsFirst] at fails
      cases fails

/-! ### Leaves and groups -/

theorem leavesTrail_leaf (tidy : leaf.IsTidy) (change : Content → Leaf) :
    LeavesTrail leaf (Recorded.leaf leaf change) where
  success := by
    intro cursor after value record succeeds
    cases runs : leaf cursor with
    | error failure =>
      rw [leaf_of_error change runs] at succeeds
      cases succeeds
    | ok found =>
      obtain ⟨content, behind⟩ := found
      obtain ⟨_, reads⟩ := tidy.reads runs
      rw [leaf_of_ok change runs] at succeeds
      cases succeeds
      exact ⟨.read cursor.reads_nil runs reads (.still (Cursor.reads_nil _)), reads.depth_eq⟩
  failure := by
    intro cursor failure record fails
    cases runs : leaf cursor with
    | error other =>
      rw [leaf_of_error change runs] at fails
      cases fails
      exact ⟨cursor, .still cursor.reads_nil, (tidy.isAhead runs).offset_le⟩
    | ok found =>
      rw [leaf_of_ok change runs] at fails
      cases fails

theorem record_eq_nil_of_leaf {failure : Failure}
    (fails : Recorded.leaf leaf change cursor = (.error failure, record)) : record = [] := by
  cases runs : leaf cursor with
  | error other =>
    rw [leaf_of_error change runs] at fails
    cases fails
    rfl
  | ok found =>
    rw [leaf_of_ok change runs] at fails
    cases fails

/-- Where a group opens, a bracket and all spaces behind it have been read. -/
theorem reads_of_opening {place : Cursor} {found : Unit}
    (opens : (lift (token (literal "(" .openingBracket)) : Recorded Content Unit) cursor =
      (.ok (found, place), record)) :
    record = [] ∧ ∃ count, cursor.Reads ([] ++ '(' :: List.replicate count ' ') place ∧
      BeginsTight place.rest := by
  obtain ⟨runs, nothing⟩ := Prod.mk.inj opens
  obtain ⟨middle, readsBracket, skips⟩ := token_eq_ok_iff.mp runs
  have bracket := literal_eq_ok_iff.mp readsBracket
  have spelling : "(".toList = ['('] := by decide
  rw [spelling] at bracket
  obtain ⟨lexeme, readsSpaces⟩ := isTidy_spaces.reads skips
  obtain ⟨⟨count, restEq⟩, tight⟩ := accepts_spaces.sound skips
  rw [readsSpaces.rest_eq] at restEq
  obtain rfl := List.append_cancel_right restEq
  exact ⟨nothing.symm, count, bracket.trans readsSpaces, tight⟩

/-- Where a group has been read up to its end and the depth is set back, it is closed. -/
theorem trail_closed {last : Cursor} {depth : Nat} (depthEq : last.depth = depth + 1) :
    Trail leaf last [.closed (last.atDepth depth)] (last.atDepth depth) := by
  have readsNothing : last.Reads [] ((last.atDepth depth).atDepth (depth + 1)) :=
    ⟨rfl, rfl, depthEq.symm⟩
  exact .closed readsNothing (.still (Cursor.reads_nil _))

theorem leavesTrail_groupOf (limit : Option Nat) {term : Recorded Content (Tree Leaf)}
    (leaves : LeavesTrail leaf term) : LeavesTrail leaf (groupOf limit term) := by
  have inside : LeavesTrail leaf (do
      let inner ← term
      lift (token (literal ")" .closingBracket))
      pure inner : Recorded Content (Tree Leaf)) :=
    leaves.bind fun inner => (leavesTrail_lift (isTidy_sign _ _)).bind fun _ =>
      leavesTrail_pure inner
  refine ⟨fun cursor after tree record succeeds => ?_, fun cursor failure record fails => ?_⟩
  · obtain ⟨_, place, _, _, opens, runs, rfl⟩ := exists_of_bind_ok succeeds
    obtain ⟨rfl, count, opening, tight⟩ := reads_of_opening opens
    obtain ⟨_, behind, _, _, runsGroup, closes, rfl⟩ := exists_of_bind_ok runs
    cases closes
    obtain ⟨last, _, runsInside, rfl, rfl⟩ := exists_of_opening_ok runsGroup
    obtain ⟨toLast, depthLast⟩ := inside.success runsInside
    exact ⟨.opened opening tight (toLast.append (trail_closed depthLast)), opening.depth_eq⟩
  · rcases exists_of_bind_error fails with opens | ⟨_, place, _, _, opens, failsBehind, rfl⟩
    · exact (leavesTrail_lift (isTidy_sign _ _)).failure opens
    obtain ⟨rfl, count, opening, tight⟩ := reads_of_opening opens
    rcases exists_of_bind_error failsBehind with failsGroup | ⟨_, _, _, _, _, impossible, _⟩
    · obtain ⟨_, rfl, ⟨rfl, rfl⟩ | failsInside⟩ := exists_of_opening_error failsGroup
      · exact ⟨_, .opened opening tight (.still (Cursor.reads_nil _)), Nat.le_refl _⟩
      · obtain ⟨last, toLast, ends⟩ := inside.failure failsInside
        exact ⟨last, .opened opening tight toLast, ends⟩
    · cases impossible

/-! ### Terms -/

theorem leavesTrail_primaryOf (limit : Option Nat) (tidy : leaf.IsTidy)
    (change : Content → Leaf) {term : Recorded Content (Tree Leaf)}
    (leaves : LeavesTrail leaf term) :
    LeavesTrail leaf (primaryOf limit (Recorded.leaf leaf change) term) := by
  refine LeavesTrail.orElse ?_ (leavesTrail_groupOf limit leaves) ?_
  · exact (leavesTrail_leaf tidy change).bind fun content => leavesTrail_pure _
  · intro cursor failure record fails
    rcases exists_of_bind_error fails with fails | ⟨_, _, _, _, _, impossible, _⟩
    · exact record_eq_nil_of_leaf fails
    · cases impossible

theorem leavesTrail_unaryOf {primary : Recorded Content (Tree Leaf)}
    (leaves : LeavesTrail leaf primary) : LeavesTrail leaf (unaryOf primary) := by
  refine (leavesTrail_lift (isTidy_attempt_connective _)).bind fun found => ?_
  cases found with
  | none => exact leaves
  | some _ => exact leaves.bind fun operand => leavesTrail_pure _

theorem leavesTrail_chainAfter (kind : Connective) {operand : Recorded Content (Tree Leaf)}
    (leaves : LeavesTrail leaf operand) (bound : Nat) (left : Tree Leaf) :
    LeavesTrail leaf (chainAfter kind operand bound left) := by
  induction bound generalizing left with
  | zero => exact leavesTrail_pure left
  | succ bound inductionHypothesis =>
    refine (leavesTrail_lift (isTidy_attempt_connective _)).bind fun found => ?_
    cases found with
    | none => exact leavesTrail_pure left
    | some _ => exact leaves.bind fun right => inductionHypothesis (.join kind left right)

theorem leavesTrail_chain (kind : Connective) (bound : Nat)
    {operand : Recorded Content (Tree Leaf)} (leaves : LeavesTrail leaf operand) :
    LeavesTrail leaf (chain kind bound operand) :=
  leaves.bind fun first => leavesTrail_chainAfter kind leaves bound first

theorem leavesTrail_termWithin (limit : Option Nat) (tidy : leaf.IsTidy)
    (change : Content → Leaf) (bound : Nat) :
    LeavesTrail leaf (termWithin limit (Recorded.leaf leaf change) bound) := by
  induction bound with
  | zero =>
    refine ⟨fun _ _ _ _ impossible => ?_, fun cursor _ _ fails => ?_⟩
    · cases impossible
    · cases fails
      exact ⟨cursor, .still cursor.reads_nil, Nat.le_refl _⟩
  | succ bound inductionHypothesis =>
    exact leavesTrail_chain .or bound (leavesTrail_chain .and bound
      (leavesTrail_unaryOf (leavesTrail_primaryOf limit tidy change inductionHypothesis)))

/-- Whatever becomes of reading a text, what is recorded is a trail from its start, up to some
place that is not behind the failure if there is one. -/
theorem exists_trail_events (limit : Option Nat) (tidy : leaf.IsTidy) (change : Content → Leaf)
    (text : List Char) :
    ∃ last, Trail leaf (.start text) (events limit (Recorded.leaf leaf change) text) last ∧
      ∀ failure, (whole limit (Recorded.leaf leaf change) (.start text)).1 = .error failure →
        last.offset ≤ failure.position := by
  have termLeaves : LeavesTrail leaf (term limit (Recorded.leaf leaf change)) :=
    ⟨fun _ _ _ _ succeeds => (leavesTrail_termWithin limit tidy change _).success succeeds,
      fun _ _ _ fails => (leavesTrail_termWithin limit tidy change _).failure fails⟩
  have leaves : LeavesTrail leaf (whole limit (Recorded.leaf leaf change)) :=
    (leavesTrail_lift isTidy_spaces).bind fun _ => termLeaves.bind fun tree =>
      (leavesTrail_lift fun _ => isTidyFrom_endOfText).bind fun _ => leavesTrail_pure tree
  unfold events
  rcases runs : whole limit (Recorded.leaf leaf change) (.start text) with
    ⟨failure | ⟨tree, after⟩, record⟩
  · obtain ⟨last, trail, ends⟩ := leaves.failure runs
    refine ⟨last, trail, fun other same => ?_⟩
    cases same
    exact ends
  · exact ⟨after, (leaves.success runs).1, fun _ impossible => nomatch impossible⟩

end Recorded

/-! ### The leaves of a record -/

/-- The leaf that is read in an event, with the place behind it. -/
def Event.reading? : Event Content → Option (Content × Cursor)
  | .read content after => some (content, after)
  | .opened _ => none
  | .closed _ => none

/-- The leaves that are read in a record, one after another. -/
def readings (record : List (Event Content)) : List (Content × Cursor) :=
  record.filterMap Event.reading?

/-- A leaf is among those that are read just if its event is in the record. -/
theorem mem_readings_iff {content : Content} :
    (content, after) ∈ readings record ↔ .read content after ∈ record := by
  have reads : ∀ event : Event Content,
      event.reading? = some (content, after) ↔ event = .read content after := by
    intro event
    cases event <;> simp [Event.reading?]
  simp only [readings, List.mem_filterMap, reads, exists_eq_right]

theorem readings_append (front back : List (Event Content)) :
    readings (front ++ back) = readings front ++ readings back :=
  List.filterMap_append

/-- The trees that leaves become. -/
def leavesOf (change : Content → Leaf) (record : List (Event Content)) : List Leaf :=
  (readings record).map fun reading => change reading.1

theorem leavesOf_append (change : Content → Leaf) (front back : List (Event Content)) :
    leavesOf change (front ++ back) = leavesOf change front ++ leavesOf change back := by
  rw [leavesOf, readings_append, List.map_append]
  rfl

namespace Recorded

/-- The tree of a success has the given leaves and then those of the record. -/
def ListsLeaves (change : Content → Leaf) (front : List Leaf)
    (rule : Recorded Content (Tree Leaf)) : Prop :=
  ∀ ⦃cursor after : Cursor⦄ ⦃tree : Tree Leaf⦄ ⦃record : List (Event Content)⦄,
    rule cursor = (.ok (tree, after), record) → tree.leaves = front ++ leavesOf change record

theorem listsLeaves_chainAfter (kind : Connective) {operand : Recorded Content (Tree Leaf)}
    (lists : ListsLeaves change [] operand) (bound : Nat) (left : Tree Leaf) :
    ListsLeaves change left.leaves (chainAfter kind operand bound left) := by
  induction bound generalizing left with
  | zero =>
    intro cursor after tree record succeeds
    cases succeeds
    exact (List.append_nil _).symm
  | succ bound inductionHypothesis =>
    intro cursor after tree record succeeds
    obtain ⟨found, behind, _, events, attempts, runs, rfl⟩ := exists_of_bind_ok succeeds
    obtain ⟨_, rfl⟩ := Prod.mk.inj attempts
    cases found with
    | none =>
      cases runs
      exact (List.append_nil _).symm
    | some _ =>
      obtain ⟨right, middle, front, back, runsRight, runsMore, rfl⟩ := exists_of_bind_ok runs
      rw [inductionHypothesis (.join kind left right) runsMore, Tree.leaves, lists runsRight,
        List.nil_append, List.nil_append, leavesOf_append, List.append_assoc]

theorem listsLeaves_chain (kind : Connective) (bound : Nat)
    {operand : Recorded Content (Tree Leaf)} (lists : ListsLeaves change [] operand) :
    ListsLeaves change [] (chain kind bound operand) := by
  intro cursor after tree record succeeds
  obtain ⟨first, middle, front, back, runsFirst, runsMore, rfl⟩ := exists_of_bind_ok succeeds
  rw [listsLeaves_chainAfter kind lists bound first runsMore, lists runsFirst, leavesOf_append]
  rfl

theorem listsLeaves_unaryOf {primary : Recorded Content (Tree Leaf)}
    (lists : ListsLeaves change [] primary) : ListsLeaves change [] (unaryOf primary) := by
  intro cursor after tree record succeeds
  obtain ⟨found, behind, _, events, attempts, runs, rfl⟩ := exists_of_bind_ok succeeds
  obtain ⟨_, rfl⟩ := Prod.mk.inj attempts
  cases found with
  | none => exact lists runs
  | some _ =>
    obtain ⟨operand, last, front, back, runsOperand, same, rfl⟩ := exists_of_bind_ok runs
    cases same
    rw [Tree.leaves, lists runsOperand, List.append_nil]
    rfl

theorem listsLeaves_groupOf (limit : Option Nat) {term : Recorded Content (Tree Leaf)}
    (lists : ListsLeaves change [] term) : ListsLeaves change [] (groupOf limit term) := by
  intro cursor after tree record succeeds
  obtain ⟨_, place, _, _, opens, runs, rfl⟩ := exists_of_bind_ok succeeds
  obtain ⟨_, rfl⟩ := Prod.mk.inj opens
  obtain ⟨_, behind, _, _, runsGroup, closes, rfl⟩ := exists_of_bind_ok runs
  cases closes
  obtain ⟨last, _, runsInside, _, rfl⟩ := exists_of_opening_ok runsGroup
  obtain ⟨inner, middle, front, _, runsTerm, closesInside, rfl⟩ := exists_of_bind_ok runsInside
  obtain ⟨_, _, _, _, bracket, same, rfl⟩ := exists_of_bind_ok closesInside
  obtain ⟨_, rfl⟩ := Prod.mk.inj bracket
  cases same
  have unchanged : leavesOf change (.opened place :: (front ++ ([] ++ [])) ++ [.closed after]) =
      leavesOf change front := by
    rw [leavesOf_append, List.append_nil, List.append_nil]
    exact List.append_nil _
  exact (lists runsTerm).trans unchanged.symm

theorem listsLeaves_primaryOf (limit : Option Nat) (rule : Rule Content)
    (change : Content → Leaf) {term : Recorded Content (Tree Leaf)}
    (lists : ListsLeaves change [] term) :
    ListsLeaves change [] (primaryOf limit (Recorded.leaf rule change) term) := by
  intro cursor after tree record succeeds
  unfold primaryOf Recorded.orElse at succeeds
  cases runs : rule cursor with
  | ok found =>
    obtain ⟨content, behind⟩ := found
    rw [bind_ok (leaf_of_ok change runs)] at succeeds
    cases succeeds
    rfl
  | error failure =>
    rw [bind_error (leaf_of_error change runs)] at succeeds
    rcases runsGroup : groupOf limit term cursor with ⟨other | found, events⟩
    · rw [runsGroup] at succeeds
      cases succeeds
    · rw [runsGroup] at succeeds
      cases succeeds
      exact listsLeaves_groupOf limit lists runsGroup

theorem listsLeaves_termWithin (limit : Option Nat) (rule : Rule Content)
    (change : Content → Leaf) (bound : Nat) :
    ListsLeaves change [] (termWithin limit (Recorded.leaf rule change) bound) := by
  induction bound with
  | zero =>
    intro _ _ _ _ impossible
    cases impossible
  | succ bound inductionHypothesis =>
    exact listsLeaves_chain .or bound (listsLeaves_chain .and bound
      (listsLeaves_unaryOf (listsLeaves_primaryOf limit rule change inductionHypothesis)))

/-- The leaves of the tree that is read from a text are those of the record, in its order. -/
theorem leaves_eq_leavesOf_events (limit : Option Nat) (rule : Rule Content)
    (change : Content → Leaf) {text : List Char} {tree : Tree Leaf} {after : Cursor}
    (succeeds : (whole limit (Recorded.leaf rule change) (.start text)).1 = .ok (tree, after)) :
    tree.leaves = leavesOf change (events limit (Recorded.leaf rule change) text) := by
  rcases runsWhole : whole limit (Recorded.leaf rule change) (.start text) with ⟨outcome, record⟩
  rw [events, runsWhole]
  rw [runsWhole] at succeeds
  obtain rfl : outcome = .ok (tree, after) := succeeds
  obtain ⟨_, inside, _, _, skips, runs, rfl⟩ := exists_of_bind_ok runsWhole
  obtain ⟨_, rfl⟩ := Prod.mk.inj skips
  obtain ⟨found, last, front, _, runsTerm, ends, rfl⟩ := exists_of_bind_ok runs
  obtain ⟨_, _, _, _, atEnd, same, rfl⟩ := exists_of_bind_ok ends
  obtain ⟨_, rfl⟩ := Prod.mk.inj atEnd
  cases same
  show tree.leaves = leavesOf change (front ++ [])
  rw [List.append_nil]
  exact listsLeaves_termWithin limit rule change _ runsTerm

end Recorded

end ContentQuery.Query
