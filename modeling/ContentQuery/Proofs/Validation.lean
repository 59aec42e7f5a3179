/-
This file proves that checking each atom as it is read comes to the same as reading the whole
query first and checking its atoms afterwards, from left to right. An atom that does not suit
its field is rejected in the middle of a choice, of loops over operands and of groups inside
each other, and none of them hides the rejection or puts another failure in its place.

A query that is not well formed has no term to check. The atoms that were read before the
failure are then still checked, and the first of them that is invalid is reported instead.
-/

import ContentQuery.Proofs.Trails

namespace ContentQuery.Query

open Rule Text

/-! ### Reading without checking -/

/-- Reads a well-formed atom, and accepts it as it is. -/
def wellFormedAtom : Rule Atom := PlacedAtom.atom <$> placedAtom

/-- The term that a folded text denotes if its atoms need not be valid. -/
def readSyntax (text : List Char) : Except Failure Term :=
  read (some depthLimit) wellFormedAtom text

/-- Reads a well-formed atom and records it. -/
def recordedAtom : Recorded PlacedAtom Atom := Recorded.leaf placedAtom PlacedAtom.atom

/-- What happens while a folded text is read without checking its atoms. -/
def syntaxEvents (text : List Char) : List (Event PlacedAtom) :=
  Recorded.events (some depthLimit) recordedAtom text

/-- The atoms that are read without checking them, one after another, each with the place
behind it. -/
def atomsRead (text : List Char) : List (PlacedAtom × Cursor) := readings (syntaxEvents text)

theorem readSyntax_eq_of_whole (text : List Char) :
    readSyntax text =
      (Recorded.whole (some depthLimit) recordedAtom (.start text)).1.map Prod.fst :=
  Recorded.read_eq_of_whole (some depthLimit) PlacedAtom.atom isTidy_placedAtom
    failsAtBracket_placedAtom text

/-- The atoms of the term that is read are the atoms that were read for it. -/
theorem leaves_eq_of_readSyntax {text : List Char} {term : Term}
    (reads : readSyntax text = .ok term) :
    term.leaves = (atomsRead text).map fun reading => reading.1.atom := by
  rw [readSyntax_eq_of_whole] at reads
  cases outcome : (Recorded.whole (some depthLimit) recordedAtom (.start text)).1 with
  | error failure =>
    rw [outcome] at reads
    cases reads
  | ok found =>
    obtain ⟨tree, after⟩ := found
    rw [outcome] at reads
    cases reads
    exact Recorded.leaves_eq_leavesOf_events _ _ _ outcome

/-! ### The atoms in the text -/

/-- The atom is written in the text, with its operator and what the operator takes at the
places noted for them, up to the given place. -/
structure PlacedAtom.StandsIn (placed : PlacedAtom) (text : List Char) (after : Cursor) :
    Prop where
  /-- The whole atom is written somewhere in the text. -/
  derives : ∃ place : Cursor, place.IsIn text ∧ DerivesAtom place.rest placed.atom after.rest
  /-- The operator stands at its place. -/
  operator : placed.operatorPlace.IsIn text ∧ ∃ behind,
    DerivesOperator placed.operatorPlace.rest placed.atom.operator behind ∧
      Spaces behind placed.valuePlace.rest
  /-- What the operator takes stands at its place. -/
  operand : placed.valuePlace.IsIn text ∧ ∃ behind,
    DerivesOperand placed.atom.field placed.atom.operator placed.valuePlace.rest placed.atom
        behind ∧ Spaces behind after.rest
  /-- The atom ends at a place in the text. -/
  ends : after.IsIn text

theorem DerivesOperand.field_eq {field : Field} {operator : Operator}
    {text rest : List Char} {atom : Atom}
    (derives : DerivesOperand field operator text atom rest) :
    atom.field = field ∧ atom.operator = operator := by
  cases derives with
  | single _ => exact ⟨rfl, rfl⟩
  | list _ => exact ⟨rfl, rfl⟩

theorem standsIn_of_placedAtom {text : List Char} {place after : Cursor} {placed : PlacedAtom}
    (isIn : place.IsIn text) (reads : placedAtom place = .ok (placed, after)) :
    placed.StandsIn text after := by
  obtain ⟨field, operator', name, sign, taken⟩ := placedAtom_eq_ok_iff.mp reads
  obtain ⟨_, toOperator⟩ := isTidy_fieldName.token.reads name
  obtain ⟨_, toValue⟩ := isTidy_operator.token.reads sign
  obtain ⟨_, toEnd⟩ := (isTidy_operand field operator').reads taken
  obtain ⟨operatorEnd, derivesSign, operatorSpaces, _⟩ := accepts_operator.token.sound sign
  obtain ⟨valueEnd, derivesValue, valueSpaces, _⟩ := (accepts_operand field operator').sound taken
  obtain ⟨rfl, rfl⟩ := derivesValue.field_eq
  have operatorIsIn := toOperator.isIn isIn
  have valueIsIn := toValue.isIn operatorIsIn
  exact ⟨⟨place, isIn, (placedAtom_eq_ok_iff_derives.mp ⟨placed, after, reads, rfl, rfl⟩).1⟩,
    ⟨operatorIsIn, operatorEnd, derivesSign, operatorSpaces⟩,
    ⟨valueIsIn, valueEnd, derivesValue, valueSpaces⟩, toEnd.isIn valueIsIn⟩

/-- Every atom of a trail stands in the text. -/
theorem Trail.standsIn {text : List Char} {cursor after : Cursor}
    {record : List (Event PlacedAtom)} (trail : Trail placedAtom cursor record after)
    (isIn : cursor.IsIn text) : ∀ reading ∈ readings record, reading.1.StandsIn text reading.2 := by
  induction trail with
  | still _ =>
    intro _ impossible
    cases impossible
  | opened reads _ _ inductionHypothesis => exact inductionHypothesis (reads.isIn isIn)
  | closed reads _ inductionHypothesis =>
    have closes := reads.isIn isIn
    exact inductionHypothesis closes
  | read reads stands readsLeaf _ inductionHypothesis =>
    have placeIsIn := reads.isIn isIn
    exact List.forall_mem_cons.mpr ⟨standsIn_of_placedAtom placeIsIn stands,
      inductionHypothesis (readsLeaf.isIn placeIsIn)⟩

/-- Every atom of a trail has its operator and its end at or behind the start. -/
theorem Trail.offset_le_reading {cursor after : Cursor} {record : List (Event PlacedAtom)}
    (trail : Trail placedAtom cursor record after) :
    ∀ reading ∈ readings record, cursor.offset ≤ reading.1.operatorPlace.offset := by
  induction trail with
  | still _ =>
    intro _ impossible
    cases impossible
  | opened reads _ _ inductionHypothesis =>
    exact fun reading member => Nat.le_trans reads.offset_le (inductionHypothesis reading member)
  | closed reads _ inductionHypothesis =>
    exact fun reading member => Nat.le_trans reads.offset_le (inductionHypothesis reading member)
  | read reads stands readsLeaf _ inductionHypothesis =>
    obtain ⟨_, _, name, _⟩ := placedAtom_eq_ok_iff.mp stands
    obtain ⟨_, toOperator⟩ := isTidy_fieldName.token.reads name
    exact List.forall_mem_cons.mpr ⟨(reads.trans toOperator).offset_le, fun reading member =>
      Nat.le_trans (reads.trans readsLeaf).offset_le (inductionHypothesis reading member)⟩

/-- The atoms of a trail follow each other from left to right. -/
theorem Trail.pairwise_readings {cursor after : Cursor} {record : List (Event PlacedAtom)}
    (trail : Trail placedAtom cursor record after) :
    (readings record).Pairwise fun earlier later =>
      earlier.2.offset ≤ later.1.operatorPlace.offset := by
  induction trail with
  | still _ => exact .nil
  | opened _ _ _ inductionHypothesis => exact inductionHypothesis
  | closed _ _ inductionHypothesis => exact inductionHypothesis
  | read _ _ _ trail inductionHypothesis =>
    exact .cons (fun reading member => trail.offset_le_reading reading member) inductionHypothesis

/-- Every atom of a trail ends at or before its end. -/
theorem Trail.reading_offset_le {cursor after : Cursor} {record : List (Event PlacedAtom)}
    (trail : Trail placedAtom cursor record after) :
    ∀ reading ∈ readings record, reading.2.offset ≤ after.offset := by
  induction trail with
  | still _ =>
    intro _ impossible
    cases impossible
  | opened _ _ _ inductionHypothesis => exact inductionHypothesis
  | closed _ _ inductionHypothesis => exact inductionHypothesis
  | read _ _ _ trail inductionHypothesis =>
    exact List.forall_mem_cons.mpr ⟨trail.offset_le, inductionHypothesis⟩

/-! ### Checking what was read -/

/-- The judge that blames an atom for its fault. -/
def blameFault : Event PlacedAtom → Option Failure
  | .read placed _ => placed.fault?
  | .opened _ => none
  | .closed _ => none

theorem judges_fault :
    Recorded.Judges blameFault (some depthLimit) (some depthLimit) recordedAtom atom where
  leaf_eq := Recorded.judge_leaf PlacedAtom.atom fun _ _ => rfl
  tidy := isTidy_atom
  apart := Recorded.apart_leaf PlacedAtom.atom failsAtBracket_placedAtom
  opening_eq := Recorded.judge_opening (fun _ => rfl) (some depthLimit)
  closed_eq := fun _ => rfl

/-- Checking atoms as they are read is checking the record of reading them unchecked. -/
theorem readTerm_eq_of_syntaxEvents (text : List Char) :
    readTerm text =
      match (syntaxEvents text).findSome? blameFault with
      | none => readSyntax text
      | some failure => .error failure := by
  rw [readSyntax_eq_of_whole]
  exact Recorded.read_eq_of_events judges_fault text

/-- What is reported of an atom that does not suit its field. -/
def validationError (text : List Char) (placed : PlacedAtom) : QueryError :=
  if placed.atom.field.allows placed.atom.operator then
    ⟨placed.valuePlace.offset, "value allowed for this field", String.ofList text⟩
  else ⟨placed.operatorPlace.offset, "operator allowed for this field", String.ofList text⟩

theorem ofFailure_of_fault {text : List Char} {placed : PlacedAtom} {failure : Failure}
    (fault : placed.fault? = some failure) :
    QueryError.ofFailure failure (String.ofList text) = validationError text placed := by
  unfold PlacedAtom.fault? at fault
  unfold validationError
  split at fault
  · cases fault
  · split at fault
    · rename_i allows
      cases fault
      rw [if_pos allows]
      rfl
    · rename_i allows
      cases fault
      rw [if_neg allows]
      rfl

/-- Of the atoms that are read in the text, the first invalid one from the left. -/
structure IsLeftmostInvalid (text : List Char) (placed : PlacedAtom) (after : Cursor) : Prop where
  /-- The atom stands in the text. -/
  standsIn : placed.StandsIn text after
  /-- The atom is invalid. -/
  invalid : placed.atom.isValid = false
  /-- The atoms before it are valid and lie to its left, and those after it to its right. -/
  leftmost : ∃ before behind, atomsRead text = before ++ (placed, after) :: behind ∧
    (∀ earlier ∈ before, earlier.1.atom.isValid = true ∧
      earlier.2.offset ≤ placed.operatorPlace.offset) ∧
    ∀ later ∈ behind, after.offset ≤ later.1.operatorPlace.offset

theorem isValid_of_blameless {record : List (Event PlacedAtom)}
    (blameless : ∀ event ∈ record, blameFault event = none) :
    ∀ reading ∈ readings record, reading.1.atom.isValid = true := by
  rintro ⟨placed, after⟩ member
  exact PlacedAtom.fault?_eq_none_iff.mp (blameless _ (mem_readings_iff.mp member))

theorem exists_trail_syntaxEvents (text : List Char) :
    ∃ last, Trail placedAtom (.start text) (syntaxEvents text) last ∧
      ∀ failure, readSyntax text = .error failure → last.offset ≤ failure.position := by
  obtain ⟨last, trail, ends⟩ := Recorded.exists_trail_events (some depthLimit)
    isTidy_placedAtom PlacedAtom.atom text
  refine ⟨last, trail, fun failure fails => ends failure ?_⟩
  rw [readSyntax_eq_of_whole] at fails
  cases outcome : (Recorded.whole (some depthLimit) recordedAtom (.start text)).1 with
  | ok found =>
    rw [outcome] at fails
    cases fails
  | error other =>
    rw [outcome] at fails
    cases fails
    exact outcome

/-- The first atom that is blamed in the record is the leftmost invalid one in the text. -/
theorem isLeftmostInvalid_of_blamed {text : List Char} {failure : Failure}
    (blamed : (syntaxEvents text).findSome? blameFault = some failure) :
    ∃ placed after, IsLeftmostInvalid text placed after ∧ placed.fault? = some failure := by
  obtain ⟨before, event, behind, split, blames, blameless⟩ := List.findSome?_eq_some_iff.mp blamed
  obtain ⟨last, trail, _⟩ := exists_trail_syntaxEvents text
  have inOrder := trail.pairwise_readings
  have standsIn := trail.standsIn (Cursor.start_isIn text)
  cases event with
  | opened _ => cases blames
  | closed _ => cases blames
  | read placed after =>
    have atomsEq : readings (syntaxEvents text) =
        readings before ++ (placed, after) :: readings behind := by
      rw [split, readings_append]
      rfl
    rw [atomsEq] at inOrder standsIn
    obtain ⟨_, fromHere, toHere⟩ := List.pairwise_append.mp inOrder
    have invalid : placed.atom.isValid = false := by
      rw [← Bool.not_eq_true, ← PlacedAtom.fault?_eq_none_iff, show placed.fault? = _ from blames]
      exact nofun
    have valid := isValid_of_blameless blameless
    refine ⟨placed, after, ⟨standsIn (placed, after) (by simp), invalid, readings before,
      readings behind, atomsEq, ?_, (List.pairwise_cons.mp fromHere).1⟩, blames⟩
    exact fun earlier member =>
      ⟨valid earlier member, toHere earlier member _ List.mem_cons_self⟩

/-- Either no atom that is read is invalid, and checking changes nothing, or the leftmost
invalid atom decides. -/
theorem readTerm_cases (text : List Char) :
    (∀ reading ∈ atomsRead text, reading.1.atom.isValid = true) ∧
        readTerm text = readSyntax text ∨
      ∃ placed after failure, IsLeftmostInvalid text placed after ∧
        placed.fault? = some failure ∧ readTerm text = .error failure := by
  rw [readTerm_eq_of_syntaxEvents]
  cases blamed : (syntaxEvents text).findSome? blameFault with
  | none =>
    exact Or.inl ⟨isValid_of_blameless (List.findSome?_eq_none_iff.mp blamed), rfl⟩
  | some failure =>
    obtain ⟨placed, after, leftmost, fault⟩ := isLeftmostInvalid_of_blamed blamed
    exact Or.inr ⟨placed, after, failure, leftmost, fault, rfl⟩

theorem IsLeftmostInvalid.mem {text : List Char} {placed : PlacedAtom} {after : Cursor}
    (leftmost : IsLeftmostInvalid text placed after) : (placed, after) ∈ atomsRead text := by
  obtain ⟨before, behind, split, _⟩ := leftmost.leftmost
  rw [split]
  exact List.mem_append_right _ List.mem_cons_self

theorem parse_of_readTerm_error {query : String} {placed : PlacedAtom} {failure : Failure}
    (fault : placed.fault? = some failure)
    (fails : readTerm (fold query.toList) = .error failure) :
    parse query = .error (validationError (fold query.toList) placed) := by
  rw [parse, fails, ← ofFailure_of_fault fault]
  rfl

/-- Checking atoms while a query is read is checking them afterwards from left to right. If the
query is well formed, it denotes its term if all atoms are valid, and the leftmost invalid one
is reported if not. If it fails without checks, it fails in the same way, unless some atom
that ends before the failure is invalid; then the leftmost such atom is reported. -/
theorem parse_eq_of_readSyntax (query : String) :
    (∀ term, readSyntax (fold query.toList) = .ok term →
      (∀ atom ∈ term.leaves, atom.isValid = true) → parse query = .ok term) ∧
    (∀ term, readSyntax (fold query.toList) = .ok term →
      (∃ atom ∈ term.leaves, atom.isValid = false) →
        term.leaves = (atomsRead (fold query.toList)).map (fun reading => reading.1.atom) ∧
          ∃ placed after, IsLeftmostInvalid (fold query.toList) placed after ∧
            parse query = .error (validationError (fold query.toList) placed)) ∧
    (∀ failure, readSyntax (fold query.toList) = .error failure →
      (∀ reading ∈ atomsRead (fold query.toList), reading.1.atom.isValid = true) ∧
          parse query = .error (.ofFailure failure (String.ofList (fold query.toList))) ∨
        ∃ placed after, IsLeftmostInvalid (fold query.toList) placed after ∧
          after.offset ≤ failure.position ∧
          parse query = .error (validationError (fold query.toList) placed)) := by
  refine ⟨fun term reads valid => ?_, fun term reads invalid => ?_, fun failure fails => ?_⟩
  · have leavesEq := leaves_eq_of_readSyntax reads
    rcases readTerm_cases (fold query.toList) with ⟨_, same⟩ | ⟨placed, after, _, leftmost, _⟩
    · rw [parse, same, reads]
      rfl
    · have member : placed.atom ∈ term.leaves := by
        rw [leavesEq]
        exact List.mem_map.mpr ⟨_, leftmost.mem, rfl⟩
      exact absurd (valid _ member) (by rw [leftmost.invalid]; exact nofun)
  · have leavesEq := leaves_eq_of_readSyntax reads
    refine ⟨leavesEq, ?_⟩
    rcases readTerm_cases (fold query.toList) with
      ⟨valid, _⟩ | ⟨placed, after, _, leftmost, fault, fails⟩
    · obtain ⟨atom, member, isInvalid⟩ := invalid
      rw [leavesEq] at member
      obtain ⟨reading, readingMember, rfl⟩ := List.mem_map.mp member
      exact absurd (valid reading readingMember) (by rw [isInvalid]; exact nofun)
    · exact ⟨placed, after, leftmost, parse_of_readTerm_error fault fails⟩
  · rcases readTerm_cases (fold query.toList) with
      ⟨valid, same⟩ | ⟨placed, after, _, leftmost, fault, failsChecked⟩
    · refine Or.inl ⟨valid, ?_⟩
      rw [parse, same, fails]
      rfl
    · obtain ⟨last, trail, ends⟩ := exists_trail_syntaxEvents (fold query.toList)
      refine Or.inr ⟨placed, after, leftmost, ?_, parse_of_readTerm_error fault failsChecked⟩
      exact Nat.le_trans (trail.reading_offset_le _ leftmost.mem) (ends failure fails)

/-- A valid query, a well-formed one with an invalid atom in a group, and one that is not well
formed behind an invalid atom. -/
theorem parse_eq_of_readSyntax_instances :
    parse "Label=a" = .ok (Term.single .label .equals "a") ∧
    (∃ placed after, IsLeftmostInvalid (fold "type=page or (parent~1)".toList) placed after ∧
      parse "type=page or (parent~1)" =
        .error (validationError (fold "type=page or (parent~1)".toList) placed)) ∧
    ((∀ reading ∈ atomsRead (fold "parent~1 or".toList), reading.1.atom.isValid = true) ∧
        parse "parent~1 or" =
          .error (.ofFailure ⟨11, .fieldName⟩ (String.ofList (fold "parent~1 or".toList))) ∨
      ∃ placed after, IsLeftmostInvalid (fold "parent~1 or".toList) placed after ∧
        after.offset ≤ 11 ∧
        parse "parent~1 or" = .error (validationError (fold "parent~1 or".toList) placed)) := by
  refine ⟨(parse_eq_of_readSyntax "Label=a").1 _ rfl (by decide), ?_, ?_⟩
  · have grouped : readSyntax (fold "type=page or (parent~1)".toList) =
        .ok (.or (Term.single .type .equals "page") (Term.single .parent .contains "1")) := rfl
    exact ((parse_eq_of_readSyntax "type=page or (parent~1)").2.1 _ grouped (by decide)).2
  · exact (parse_eq_of_readSyntax "parent~1 or").2.2 ⟨11, .fieldName⟩ rfl

end ContentQuery.Query
