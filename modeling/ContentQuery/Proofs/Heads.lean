/-
This file proves that what a query is rejected for is decided at the place where it goes wrong.
An atom is cut behind its operator into a head and a body, and the run is recorded head by head.
If the body behind some head fails, the query fails just so: the atom may stand behind any
connectives and negations and in any groups, and no choice or loop around it puts another failure
in its place. And if a query fails with something that bodies alone look for, it is the body
behind one of its heads that fails.

Both together say when a query is rejected for a value. They also tell which things a query can
be rejected for at all, and that leaves out some that single rules look for.
-/

import ContentQuery.Proofs.Expectations
import ContentQuery.Proofs.Occurrences
import ContentQuery.Proofs.Trails

namespace ContentQuery.Query

open Rule Text

variable {Value Other : Type} {text : List Char}

/-! ### Atoms in two parts -/

/-- The head of an atom: its field and its operator, and the place of the operator. -/
structure AtomHead where
  /-- The field. -/
  field : Field
  /-- The place of the operator. -/
  operatorPlace : Cursor
  /-- The operator. -/
  operator : Operator

/-- Reads the head of an atom, up to where its value or its list of values begins. -/
def atomHead : Rule AtomHead := do
  let field ← token fieldName
  let operatorPlace ← here
  let operator ← token operator
  pure ⟨field, operatorPlace, operator⟩

/-- Reads what belongs to the head of an atom, and checks the atom. -/
def atomBody (head : AtomHead) : Rule Atom := do
  let valuePlace ← here
  let atom ← operand head.field head.operator
  match PlacedAtom.fault? ⟨atom, head.operatorPlace, valuePlace⟩ with
  | none => pure atom
  | some failure => reject failure

theorem atom_eq_head_body : atom = atomHead >>= atomBody := by
  unfold atom placedAtom atomHead
  simp only [Rule.bind_assoc]
  rfl

theorem isTidy_atomHead : atomHead.IsTidy := fun start =>
  (isTidy_fieldName.token start).bind fun _ => isTidyFrom_here.bind fun _ =>
    (isTidy_operator.token start).bind fun _ => isTidyFrom_pure _

theorem failsAs_atomHead :
    atomHead.FailsAs [.fieldName, .comparisonOperator, .listOperator] :=
  ((failsAs_spelled _ _).token.of_subset (by simp)).bind fun _ => failsAs_here.bind fun _ =>
    (failsAs_operator.token.of_subset (by simp)).bind fun _ => failsAs_pure _

theorem operand_comparison_eq_error_iff {field : Field} {comparison : Comparison}
    {place : Cursor} {failure : Failure} :
    operand field (.comparison comparison) place = .error failure ↔
      value place = .error failure := by
  unfold operand
  rw [bind_eq_error_iff, token_eq_error_iff]
  refine or_iff_left ?_
  rintro ⟨_, _, _, impossible⟩
  cases impossible

theorem operand_membership_eq_error_iff {field : Field} {membership : Membership}
    {place : Cursor} {failure : Failure} :
    operand field (.membership membership) place = .error failure ↔
      valueList place = .error failure := by
  unfold operand
  rw [bind_eq_error_iff, token_eq_error_iff]
  refine or_iff_left ?_
  rintro ⟨_, _, _, impossible⟩
  cases impossible

/-- The body of an atom fails where its value is missing or does not suit the head. -/
theorem atomBody_eq_error_iff {head : AtomHead} {place : Cursor} {failure : Failure} :
    atomBody head place = .error failure ↔
      operand head.field head.operator place = .error failure ∨
        ∃ atom after, operand head.field head.operator place = .ok (atom, after) ∧
          PlacedAtom.fault? ⟨atom, head.operatorPlace, place⟩ = some failure := by
  unfold atomBody
  rw [here_bind, bind_eq_error_iff]
  refine or_congr Iff.rfl (exists_congr fun atom => exists_congr fun after =>
    and_congr Iff.rfl ?_)
  cases PlacedAtom.fault? ⟨atom, head.operatorPlace, place⟩ with
  | none => simp [pure_apply]
  | some other => simp [reject]

/-- The head is written in the text, up to the given place. -/
structure AtomHead.StandsIn (head : AtomHead) (text : List Char) (place : Cursor) : Prop where
  /-- The head is written somewhere in the text, and the place is behind it. -/
  derives : ∃ start : Cursor, start.IsIn text ∧
    DerivesHead head.field head.operator start.rest place.rest
  /-- The head ends at a place in the text. -/
  ends : place.IsIn text

theorem standsIn_of_atomHead {start place : Cursor} {head : AtomHead} (isIn : start.IsIn text)
    (reads : atomHead start = .ok (head, place)) : head.StandsIn text place := by
  obtain ⟨_, readsHead⟩ := isTidy_atomHead.reads reads
  obtain ⟨field, operatorPlace, name, second⟩ := bind_eq_ok_iff.mp reads
  rw [here_bind] at second
  obtain ⟨operator, behind, sign, same⟩ := bind_eq_ok_iff.mp second
  cases same
  obtain ⟨fieldEnd, readsName, skips⟩ := token_eq_ok_iff.mp name
  obtain ⟨operatorEnd, derivesSign, operatorSpaces, _⟩ := accepts_operator.token.sound sign
  exact ⟨⟨start, isIn, fieldEnd.rest, operatorPlace.rest, operatorEnd,
    derivesField_of_fieldName readsName, (accepts_spaces.sound skips).1, derivesSign,
    operatorSpaces⟩, readsHead.isIn isIn⟩

/-! ### Runs that are recorded head by head -/

/-- Reads an atom, and records its head before it reads the body. -/
def recordedHead : Recorded AtomHead Atom := do
  let head ← Recorded.leaf atomHead id
  Recorded.lift (atomBody head)

/-- The heads that are read in a folded text, one after another, each with the place behind it
where its value begins. -/
def headsRead (text : List Char) : List (AtomHead × Cursor) :=
  readings (Recorded.events (some depthLimit) recordedHead text)

theorem recordedHead_of_ok {cursor place : Cursor} {head : AtomHead}
    (reads : atomHead cursor = .ok (head, place)) :
    recordedHead cursor = (atomBody head place, [.read head place]) :=
  Recorded.bind_ok (Recorded.leaf_of_ok id reads)

theorem recordedHead_of_error {cursor : Cursor} {failure : Failure}
    (fails : atomHead cursor = .error failure) : recordedHead cursor = (.error failure, []) :=
  Recorded.bind_error (Recorded.leaf_of_error id fails)

/-- A judge that blames a head only for what the body behind it fails with makes no
difference. -/
theorem judges_bodies {blame : Event AtomHead → Option Failure}
    (sound : ∀ head place failure, blame (.read head place) = some failure →
      atomBody head place = .error failure)
    (opened : ∀ place, blame (.opened place) = none)
    (closed : ∀ place, blame (.closed place) = none) :
    Recorded.Judges blame (some depthLimit) (some depthLimit) recordedHead atom where
  leaf_eq := by
    rw [atom_eq_head_body]
    funext cursor
    cases reads : atomHead cursor with
    | error failure =>
      rw [Rule.bind_error reads, Recorded.judge, recordedHead_of_error reads]
      rfl
    | ok found =>
      obtain ⟨head, place⟩ := found
      rw [Rule.bind_ok reads, Recorded.judge, recordedHead_of_ok reads, List.findSome?_singleton]
      cases blames : blame (.read head place) with
      | none => rfl
      | some failure => exact (sound head place failure blames).symm
  tidy := isTidy_atom
  apart := fun cursor stands => ⟨_, recordedHead_of_error
    (Rule.bind_error (token_fieldName_of_bracket stands)), rfl⟩
  opening_eq := Recorded.judge_opening opened (some depthLimit)
  closed_eq := closed

/-- The judge that blames a head if the body behind it fails in the given way. -/
def blameBody (failure : Failure) : Event AtomHead → Option Failure
  | .read head place =>
    match atomBody head place with
    | .ok _ => none
    | .error other => if other = failure then some failure else none
  | .opened _ => none
  | .closed _ => none

theorem blameBody_eq_some_iff {failure other : Failure} {head : AtomHead} {place : Cursor} :
    blameBody failure (.read head place) = some other ↔
      atomBody head place = .error failure ∧ other = failure := by
  simp only [blameBody]
  cases atomBody head place with
  | ok found => simp
  | error found =>
    simp only [Except.error.injEq]
    split
    · rename_i same
      simp [same, eq_comm]
    · rename_i differs
      simp [differs]

/-- Whatever is blamed in a record is blamed for the failure that is given. -/
theorem eq_of_blameBody {failure other : Failure} {event : Event AtomHead}
    (blames : blameBody failure event = some other) : other = failure := by
  cases event with
  | opened _ => cases blames
  | closed _ => cases blames
  | read head place => exact (blameBody_eq_some_iff.mp blames).2

/-- What the body behind one of the heads fails with is what the query is rejected for. -/
theorem readTerm_of_atomBody {head : AtomHead} {place : Cursor} {failure : Failure}
    (member : (head, place) ∈ headsRead text) (fails : atomBody head place = .error failure) :
    readTerm text = .error failure := by
  have judges : Recorded.Judges (blameBody failure) (some depthLimit) (some depthLimit)
      recordedHead atom := by
    refine judges_bodies (fun head place other blames => ?_) (fun _ => rfl) (fun _ => rfl)
    obtain ⟨fails, rfl⟩ := blameBody_eq_some_iff.mp blames
    exact fails
  have blamed : ((Recorded.events (some depthLimit) recordedHead text).findSome?
      (blameBody failure)).isSome := by
    refine List.findSome?_isSome_iff.mpr ⟨_, mem_readings_iff.mp member, ?_⟩
    rw [blameBody_eq_some_iff.mpr ⟨fails, rfl⟩]
    rfl
  obtain ⟨other, blames⟩ := Option.isSome_iff_exists.mp blamed
  obtain ⟨_, _, blamesEvent⟩ := List.exists_of_findSome?_eq_some blames
  rw [readTerm, Recorded.read_eq_of_events judges, blames, eq_of_blameBody blamesEvent]

/-! ### What a query can be rejected for -/

/-- What is looked for outside the bodies of atoms. -/
def outsideBodies : List Expectation :=
  [.fieldName, .comparisonOperator, .listOperator, .openingBracket, .closingBracket,
    .shallowerNesting, .endOfQuery]

/-- The failure is looked for outside of bodies, or the body behind one of the recorded heads
fails with it. -/
def Explains (record : List (Event AtomHead)) (failure : Failure) : Prop :=
  failure.expected ∈ outsideBodies ∨
    ∃ reading ∈ readings record, atomBody reading.1 reading.2 = .error failure

/-- The heads of the record stand in the text. -/
def HeadsStandIn (text : List Char) (record : List (Event AtomHead)) : Prop :=
  ∀ reading ∈ readings record, reading.1.StandsIn text reading.2

variable {front back record : List (Event AtomHead)} {failure : Failure}

theorem Explains.append_left (explains : Explains back failure) :
    Explains (front ++ back) failure :=
  explains.imp_right fun ⟨reading, member, fails⟩ =>
    ⟨reading, readings_append front back ▸ List.mem_append_right _ member, fails⟩

theorem Explains.append_right (explains : Explains front failure) :
    Explains (front ++ back) failure :=
  explains.imp_right fun ⟨reading, member, fails⟩ =>
    ⟨reading, readings_append front back ▸ List.mem_append_left _ member, fails⟩

theorem Explains.furthest {other : Failure} (explains : Explains record failure)
    (explainsOther : Explains record other) : Explains record (failure.furthest other) := by
  unfold Failure.furthest
  split
  · exact explainsOther
  · exact explains

theorem headsStandIn_nil : HeadsStandIn text [] := by
  intro _ impossible
  cases impossible

theorem HeadsStandIn.append (standIn : HeadsStandIn text front)
    (furtherStandIn : HeadsStandIn text back) : HeadsStandIn text (front ++ back) := by
  intro reading member
  rw [readings_append] at member
  exact (List.mem_append.mp member).elim (standIn reading) (furtherStandIn reading)

namespace Recorded

/-- At a place of the text, the rule stays in the text, the heads that it records stand there, and
its record explains its failure. -/
structure ReadsHeads (text : List Char) (rule : Recorded AtomHead Value) : Prop where
  /-- A success ends at a place of the text. -/
  success : ∀ ⦃cursor after : Cursor⦄ ⦃value : Value⦄ ⦃record : List (Event AtomHead)⦄,
    cursor.IsIn text → rule cursor = (.ok (value, after), record) →
      after.IsIn text ∧ HeadsStandIn text record
  /-- A failure is explained. -/
  failure : ∀ ⦃cursor : Cursor⦄ ⦃failure : Failure⦄ ⦃record : List (Event AtomHead)⦄,
    cursor.IsIn text → rule cursor = (.error failure, record) →
      HeadsStandIn text record ∧ Explains record failure

theorem readsHeads_lift {rule : Rule Value} (tidy : rule.IsTidy)
    (failsAs : rule.FailsAs outsideBodies) :
    ReadsHeads text (lift rule : Recorded AtomHead Value) where
  success := by
    intro cursor after value record isIn succeeds
    obtain ⟨runs, rfl⟩ := Prod.mk.inj succeeds
    obtain ⟨_, reads⟩ := tidy.reads runs
    exact ⟨reads.isIn isIn, headsStandIn_nil⟩
  failure := by
    intro cursor failure record _ fails
    obtain ⟨runs, rfl⟩ := Prod.mk.inj fails
    exact ⟨headsStandIn_nil, Or.inl (failsAs runs)⟩

theorem readsHeads_pure (value : Value) :
    ReadsHeads text (pure value : Recorded AtomHead Value) :=
  readsHeads_lift (fun _ => isTidyFrom_pure value) (failsAs_pure value)

theorem ReadsHeads.bind {rule : Recorded AtomHead Value} {next : Value → Recorded AtomHead Other}
    (reads : ReadsHeads text rule) (nextReads : ∀ value, ReadsHeads text (next value)) :
    ReadsHeads text (rule >>= next) where
  success := by
    intro cursor last other record isIn succeeds
    obtain ⟨value, after, front, back, first, second, rfl⟩ := exists_of_bind_ok succeeds
    obtain ⟨afterIsIn, standIn⟩ := reads.success isIn first
    obtain ⟨lastIsIn, furtherStandIn⟩ := (nextReads value).success afterIsIn second
    exact ⟨lastIsIn, standIn.append furtherStandIn⟩
  failure := by
    intro cursor failure record isIn fails
    rcases exists_of_bind_error fails with first | ⟨value, after, front, back, first, second, rfl⟩
    · exact reads.failure isIn first
    · obtain ⟨afterIsIn, standIn⟩ := reads.success isIn first
      obtain ⟨furtherStandIn, explains⟩ := (nextReads value).failure afterIsIn second
      exact ⟨standIn.append furtherStandIn, explains.append_left⟩

theorem ReadsHeads.orElse {first second : Recorded AtomHead Value}
    (reads : ReadsHeads text first) (secondReads : ReadsHeads text second) :
    ReadsHeads text (first.orElse second) where
  success := by
    intro cursor after value record isIn succeeds
    unfold Recorded.orElse at succeeds
    rcases runsFirst : first cursor with ⟨failure | found, front⟩
    · rcases runsSecond : second cursor with ⟨other | found, back⟩
      · rw [runsFirst, runsSecond] at succeeds
        cases succeeds
      · rw [runsFirst, runsSecond] at succeeds
        cases succeeds
        obtain ⟨afterIsIn, furtherStandIn⟩ := secondReads.success isIn runsSecond
        exact ⟨afterIsIn, (reads.failure isIn runsFirst).1.append furtherStandIn⟩
    · rw [runsFirst] at succeeds
      cases succeeds
      exact reads.success isIn runsFirst
  failure := by
    intro cursor failure record isIn fails
    unfold Recorded.orElse at fails
    rcases runsFirst : first cursor with ⟨other | found, front⟩
    · rcases runsSecond : second cursor with ⟨further | found, back⟩
      · rw [runsFirst, runsSecond] at fails
        cases fails
        obtain ⟨standIn, explains⟩ := reads.failure isIn runsFirst
        obtain ⟨furtherStandIn, explainsFurther⟩ := secondReads.failure isIn runsSecond
        exact ⟨standIn.append furtherStandIn,
          explains.append_right.furthest explainsFurther.append_left⟩
      · rw [runsFirst, runsSecond] at fails
        cases fails
    · rw [runsFirst] at fails
      cases fails

theorem readsHeads_recordedHead : ReadsHeads text recordedHead := by
  have recorded : ∀ {cursor place : Cursor} {head : AtomHead}, cursor.IsIn text →
      atomHead cursor = .ok (head, place) → HeadsStandIn text [.read head place] := by
    intro cursor place head isIn reads reading member
    rw [List.mem_singleton.mp member]
    exact standsIn_of_atomHead isIn reads
  refine ⟨fun cursor after value record isIn succeeds => ?_,
    fun cursor failure record isIn fails => ?_⟩
  · cases reads : atomHead cursor with
    | error other =>
      rw [recordedHead_of_error reads] at succeeds
      cases succeeds
    | ok found =>
      obtain ⟨head, place⟩ := found
      rw [recordedHead_of_ok reads] at succeeds
      obtain ⟨runs, rfl⟩ := Prod.mk.inj succeeds
      have whole : atom cursor = .ok (value, after) := by
        rw [atom_eq_head_body, Rule.bind_ok reads, runs]
      obtain ⟨_, readsWhole⟩ := isTidy_atom.reads whole
      exact ⟨readsWhole.isIn isIn, recorded isIn reads⟩
  · cases reads : atomHead cursor with
    | error other =>
      rw [recordedHead_of_error reads] at fails
      cases fails
      exact ⟨headsStandIn_nil, Or.inl (failsAs_atomHead.of_subset (by decide) reads)⟩
    | ok found =>
      obtain ⟨head, place⟩ := found
      rw [recordedHead_of_ok reads] at fails
      obtain ⟨runs, rfl⟩ := Prod.mk.inj fails
      exact ⟨recorded isIn reads, Or.inr ⟨_, List.mem_cons_self, runs⟩⟩

/-! ### Terms -/

theorem readsHeads_connective (word : String) :
    ReadsHeads text (lift (attempt (connective word)) : Recorded AtomHead (Option Unit)) :=
  readsHeads_lift (isTidy_attempt_connective word) (failsAs_attempt _)

theorem readsHeads_bracket (spelling : String) {expected : Expectation}
    (member : [expected] ⊆ outsideBodies) :
    ReadsHeads text (lift (token (literal spelling expected)) : Recorded AtomHead Unit) :=
  readsHeads_lift (isTidy_sign _ _) ((failsAs_literal _ _).token.of_subset member)

theorem readsHeads_chainAfter (kind : Connective) {operand : Recorded AtomHead Term}
    (reads : ReadsHeads text operand) (bound : Nat) (left : Term) :
    ReadsHeads text (chainAfter kind operand bound left) := by
  induction bound generalizing left with
  | zero => exact readsHeads_pure left
  | succ bound inductionHypothesis =>
    refine (readsHeads_connective kind.word).bind fun found => ?_
    cases found with
    | none => exact readsHeads_pure left
    | some _ => exact reads.bind fun right => inductionHypothesis (.join kind left right)

theorem readsHeads_chain (kind : Connective) (bound : Nat) {operand : Recorded AtomHead Term}
    (reads : ReadsHeads text operand) : ReadsHeads text (chain kind bound operand) :=
  reads.bind fun first => readsHeads_chainAfter kind reads bound first

theorem readsHeads_unaryOf {primary : Recorded AtomHead Term} (reads : ReadsHeads text primary) :
    ReadsHeads text (unaryOf primary) := by
  refine (readsHeads_connective negationWord).bind fun found => ?_
  cases found with
  | none => exact reads
  | some _ => exact reads.bind fun operand => readsHeads_pure _

theorem ReadsHeads.opening {rule : Recorded AtomHead Value} (reads : ReadsHeads text rule)
    (limit : Option Nat) : ReadsHeads text (opening limit rule) where
  success := by
    intro cursor after value record isIn succeeds
    obtain ⟨inner, events, runs, rfl, rfl⟩ := exists_of_opening_ok succeeds
    -- The depth of a cursor has no part in whether it is in a text, and no head is recorded
    -- where a group opens.
    have inside := reads.success (Cursor.atDepth_isIn (cursor.depth + 1) isIn) runs
    exact inside
  failure := by
    intro cursor failure record isIn fails
    obtain ⟨events, rfl, ⟨rfl, rfl⟩ | runs⟩ := exists_of_opening_error fails
    · exact ⟨headsStandIn_nil, Or.inl (show .shallowerNesting ∈ outsideBodies by decide)⟩
    · have inside := reads.failure (Cursor.atDepth_isIn (cursor.depth + 1) isIn) runs
      exact inside

theorem readsHeads_groupOf (limit : Option Nat) {term : Recorded AtomHead Term}
    (reads : ReadsHeads text term) : ReadsHeads text (groupOf limit term) := by
  have inside : ReadsHeads text (do
      let inner ← term
      lift (token (literal ")" .closingBracket))
      pure inner : Recorded AtomHead Term) :=
    reads.bind fun inner => (readsHeads_bracket ")" (by decide)).bind fun _ =>
      readsHeads_pure inner
  have closing : ∀ place, ReadsHeads text (note (.closed place) : Recorded AtomHead Unit) := by
    refine fun place => ⟨fun cursor _ _ _ isIn same => ?_, fun _ _ _ _ impossible => ?_⟩
    · cases same
      exact ⟨isIn, headsStandIn_nil⟩
    · cases impossible
  exact (readsHeads_bracket "(" (by decide)).bind fun _ => (inside.opening limit).bind fun tree =>
    (readsHeads_lift (fun _ => isTidyFrom_here) failsAs_here).bind fun place =>
      (closing place).bind fun _ => readsHeads_pure tree

theorem readsHeads_termWithin (limit : Option Nat) (bound : Nat) :
    ReadsHeads text (termWithin limit recordedHead bound) := by
  induction bound with
  | zero =>
    refine ⟨fun _ _ _ _ _ impossible => ?_, fun _ _ _ _ fails => ?_⟩
    · cases impossible
    · cases fails
      exact ⟨headsStandIn_nil, Or.inl (show .fieldName ∈ outsideBodies by decide)⟩
  | succ bound inductionHypothesis =>
    have atoms : ReadsHeads text (do
        let content ← recordedHead
        pure (.leaf content) : Recorded AtomHead Term) :=
      readsHeads_recordedHead.bind fun content => readsHeads_pure (Tree.leaf content)
    exact readsHeads_chain .or bound (readsHeads_chain .and bound (readsHeads_unaryOf
      (atoms.orElse (readsHeads_groupOf limit inductionHypothesis))))

theorem readsHeads_whole (limit : Option Nat) : ReadsHeads text (whole limit recordedHead) := by
  have terms : ReadsHeads text (term limit recordedHead) :=
    ⟨fun _ _ _ _ isIn runs => (readsHeads_termWithin limit _).success isIn runs,
      fun _ _ _ isIn runs => (readsHeads_termWithin limit _).failure isIn runs⟩
  exact (readsHeads_lift isTidy_spaces failsAs_spaces).bind fun _ => terms.bind fun tree =>
    (readsHeads_lift (fun _ => isTidyFrom_endOfText)
      (failsAs_endOfText.of_subset (by decide))).bind fun _ => readsHeads_pure tree

end Recorded

/-! ### Rejected queries -/

theorem standIn_and_explains_events (text : List Char) :
    HeadsStandIn text (Recorded.events (some depthLimit) recordedHead text) ∧
      ∀ failure, readTerm text = .error failure →
        Explains (Recorded.events (some depthLimit) recordedHead text) failure := by
  have judges : Recorded.Judges (fun _ => none) (some depthLimit) (some depthLimit)
      recordedHead atom :=
    judges_bodies (fun _ _ _ impossible => by cases impossible) (fun _ => rfl) (fun _ => rfl)
  have blameless : (Recorded.events (some depthLimit) recordedHead text).findSome?
      (fun _ => (none : Option Failure)) = none :=
    List.findSome?_eq_none_iff.mpr fun _ _ => rfl
  have readsEq := Recorded.read_eq_of_events judges text
  rw [blameless] at readsEq
  have reads : Recorded.ReadsHeads text (Recorded.whole (some depthLimit) recordedHead) :=
    Recorded.readsHeads_whole (some depthLimit)
  have isIn := Cursor.start_isIn text
  rcases runs : Recorded.whole (some depthLimit) recordedHead (.start text) with
    ⟨failure | ⟨term, after⟩, record⟩
  · obtain ⟨standIn, explains⟩ := reads.failure isIn runs
    rw [Recorded.events, runs, readTerm, readsEq, runs]
    refine ⟨standIn, fun other same => ?_⟩
    cases same
    exact explains
  · rw [Recorded.events, runs, readTerm, readsEq, runs]
    refine ⟨(reads.success isIn runs).2, fun _ impossible => ?_⟩
    cases impossible

/-- A head that is read stands in the text. -/
theorem standsIn_of_mem_headsRead {head : AtomHead} {place : Cursor}
    (member : (head, place) ∈ headsRead text) : head.StandsIn text place :=
  (standIn_and_explains_events text).1 _ member

/-- A query that is rejected for something that is looked for in bodies alone is rejected for what
the body behind one of its heads fails with. -/
theorem exists_atomBody_of_readTerm (rejected : readTerm text = .error failure)
    (inBodies : failure.expected ∉ outsideBodies) :
    ∃ head place, (head, place) ∈ headsRead text ∧ atomBody head place = .error failure := by
  rcases (standIn_and_explains_events text).2 failure rejected with
    outside | ⟨reading, member, fails⟩
  · exact absurd outside inBodies
  · exact ⟨reading.1, reading.2, member, fails⟩

theorem expected_of_fault {placed : PlacedAtom} (fault : placed.fault? = some failure) :
    failure.expected ∈ [.allowedOperator, .allowedValue] := by
  unfold PlacedAtom.fault? at fault
  split at fault
  · cases fault
  · split at fault
    · cases fault
      exact List.mem_cons_of_mem _ List.mem_cons_self
    · cases fault
      exact List.mem_cons_self

/-- What a query can be rejected for. -/
def reportable : List Expectation :=
  outsideBodies ++ [.quotedValue, .closingQuote, .allowedOperator, .allowedValue]

/-- No query is rejected for lacking a value without quotes, an item, a comma or a word. -/
theorem expected_mem_reportable (rejected : readTerm text = .error failure) :
    failure.expected ∈ reportable := by
  rcases (standIn_and_explains_events text).2 failure rejected with
    outside | ⟨⟨⟨field, operatorPlace, operator⟩, place⟩, _, fails⟩
  · exact List.mem_append_left _ outside
  rcases atomBody_eq_error_iff.mp fails with operand | ⟨_, _, _, fault⟩
  · cases operator with
    | comparison =>
      exact failsAs_value.of_subset (by decide) (operand_comparison_eq_error_iff.mp operand)
    | membership =>
      exact failsAs_valueList.of_subset (by decide) (operand_membership_eq_error_iff.mp operand)
  · have subset : [.allowedOperator, .allowedValue] ⊆ reportable := by decide
    exact subset (expected_of_fault fault)

/-- The wording tells apart what a query can be rejected for. -/
theorem eq_of_text_eq {first second : Expectation} (member : first ∈ reportable)
    (secondMember : second ∈ reportable) (same : first.text = second.text) : first = second := by
  have apart : ∀ first ∈ reportable, ∀ second ∈ reportable,
      first.text = second.text → first = second := by decide
  exact apart first member second secondMember same

/-- The error of a rejected query shows what its folded text fails with. -/
theorem exists_readTerm_of_parse {query : String} {error : QueryError}
    (rejected : parse query = .error error) :
    ∃ failure, readTerm (fold query.toList) = .error failure ∧
      error = .ofFailure failure (String.ofList (fold query.toList)) := by
  cases outcome : readTerm (fold query.toList) with
  | ok term =>
    rw [parse, outcome] at rejected
    cases rejected
  | error failure =>
    rw [parse, outcome] at rejected
    cases rejected
    exact ⟨failure, rfl, rfl⟩

/-- A query is rejected with the wording of something just if it is rejected for that. -/
theorem parse_eq_error_iff {query : String} {position : Nat} {expected : Expectation}
    (member : expected ∈ reportable) :
    parse query = .error ⟨position, expected.text, String.ofList (fold query.toList)⟩ ↔
      readTerm (fold query.toList) = .error ⟨position, expected⟩ := by
  constructor
  · intro rejected
    obtain ⟨failure, fails, same⟩ := exists_readTerm_of_parse rejected
    obtain ⟨rfl, sameText, _⟩ := QueryError.mk.inj same
    rw [fails, eq_of_text_eq member (expected_mem_reportable fails) sameText]
  · intro fails
    rw [parse, fails]
    rfl

end ContentQuery.Query
