/-
This file proves that spaces around a query do not matter. What a rule does depends on the text
that is left and not on what was read before, so spaces in front move every place by their number
and change nothing else. Spaces behind the query are reached only where the query itself ends, and
there a rule either fails or has skipped them: every rule that can end the text skips the spaces
behind what it reads, and every rule that fails at the end begins where spaces have been skipped.
So a failure before the end stays where it is, and one at the end moves to the end of the spaces.

A list is read from the text between its brackets. That text is the same on both sides if there is
a closing bracket at all. Its places are followed as those of a text of its own, with spaces in
front of it and none behind.
-/

import ContentQuery.Proofs.Correspondence
import ContentQuery.Proofs.Breaks
import Mathlib.Data.List.TakeWhile

namespace ContentQuery.Query

open Rule Text Correspondence

variable {Value : Type} {before behind total : Nat} {cursor other : Cursor}

/-! ### Places ahead -/

theorem Failure.IsAhead.position_le {failure : Failure} (ahead : failure.IsAhead cursor) :
    failure.position ≤ cursor.offset + utf8Length cursor.rest := by
  obtain ⟨lexeme, ⟨tail, restEq⟩, positionEq⟩ := ahead
  rw [positionEq, ← restEq, utf8Length_append]
  omega

theorem Cursor.advance_append (cursor : Cursor) (front back : List Char) :
    cursor.advance (front ++ back) = (cursor.advance front).advance back := by
  simp only [advance, utf8Length_append, List.length_append, List.drop_drop, Nat.add_assoc]

/-! ### Brackets that are closed or not -/

/-- What stands before a closing bracket is taken up to the first one. -/
theorem bracketed_of_closed {content tail : List Char} (next : List Char → Rule Value)
    (restEq : cursor.rest = content ++ ')' :: tail) (free : ')' ∉ content) :
    (do
      let content ← takeWhile (· != ')')
      literal ")" .closingBracket
      next content : Rule Value) cursor = next content (cursor.advance (content ++ [')'])) := by
  have stands : content ++ [')'] <+: cursor.rest := ⟨tail, by rw [restEq]; simp⟩
  obtain ⟨atEnd, takes, closes⟩ := (Cursor.reads_advance stands).split
  have taken : takeWhile (· != ')') cursor = .ok (content, atEnd) := by
    refine takeWhile_eq_ok_iff.mpr ⟨takes, fun character member => ?_, ?_⟩
    · simpa using fun same : character = ')' => free (same ▸ member)
    · rw [closes.rest_eq]
      simp
  have closed : literal ")" .closingBracket atEnd = .ok ((), cursor.advance (content ++ [')'])) :=
    literal_eq_ok_iff.mpr closes
  rw [bind_ok taken, bind_ok closed]

/-- Without a closing bracket the whole text is taken, and its end is blamed. -/
theorem bracketed_of_unclosed (next : List Char → Rule Value) (free : ')' ∉ cursor.rest) :
    (do
      let content ← takeWhile (· != ')')
      literal ")" .closingBracket
      next content : Rule Value) cursor =
        .error ((cursor.advance cursor.rest).missing .closingBracket) := by
  have all : cursor.rest.takeWhile (· != ')') = cursor.rest :=
    List.takeWhile_eq_self_iff.mpr fun character member => by
      simpa using fun same : character = ')' => free (same ▸ member)
  have taken : takeWhile (· != ')') cursor = .ok (cursor.rest, cursor.advance cursor.rest) := by
    rw [Rule.takeWhile, all]
  have unclosed : literal ")" .closingBracket (cursor.advance cursor.rest) =
      .error ((cursor.advance cursor.rest).missing .closingBracket) :=
    literal_eq_error_iff.mpr ⟨by simp [Cursor.advance], rfl⟩
  rw [bind_ok taken, bind_error unclosed]

/-! ### Places in a padded text -/

/-- Every space is one byte wide. -/
theorem utf8Length_replicate_space (count : Nat) :
    utf8Length (List.replicate count ' ') = count := by
  induction count with
  | zero => rfl
  | succ count inductionHypothesis =>
    have oneByte : ' '.utf8Size = 1 := rfl
    rw [List.replicate_succ, utf8Length, inductionHypothesis, oneByte, Nat.add_comm]

/-- A text without spaces stands before spaces just where it stands without them. -/
theorem prefix_append_spaces_iff {text rest : List Char} (free : ' ' ∉ text) (count : Nat) :
    text <+: rest ++ List.replicate count ' ' ↔ text <+: rest := by
  induction count with
  | zero => rw [List.replicate_zero, List.append_nil]
  | succ count inductionHypothesis =>
    rw [List.replicate_succ', ← List.append_assoc, List.prefix_concat_iff, inductionHypothesis]
    refine or_iff_right fun whole => free ?_
    rw [whole]
    exact List.mem_append_right _ (List.mem_singleton_self ' ')

/-- A class without spaces stops in front of the spaces behind a text. -/
theorem takeWhile_append_spaces {holds : Char → Bool} (stops : holds ' ' = false)
    (text : List Char) (count : Nat) :
    (text ++ List.replicate count ' ').takeWhile holds = text.takeWhile holds := by
  have noSpaces : (List.replicate count ' ').takeWhile holds = [] := by
    rw [List.takeWhile_replicate, if_neg (by rw [stops]; exact Bool.false_ne_true)]
  rw [List.takeWhile_append, noSpaces, List.append_nil]
  split
  · rename_i all
    exact ((List.takeWhile_prefix holds).eq_of_length all).symm
  · rfl

/-- What is left at the second place is what is left at the first one and the spaces behind. -/
structure IsWithin (before behind total : Nat) (cursor other : Cursor) : Prop where
  /-- The spaces behind the text are left. -/
  rest_eq : other.rest = cursor.rest ++ List.replicate behind ' '
  /-- The spaces in front were read. -/
  offset_eq : other.offset = before + cursor.offset
  /-- The same number of groups is open. -/
  depth_eq : other.depth = cursor.depth
  /-- The text ends where it does. -/
  total_eq : cursor.offset + utf8Length cursor.rest = total

/-- Nothing is left at either place. -/
structure IsAtEnd (before behind total : Nat) (cursor other : Cursor) : Prop where
  /-- The first text is read. -/
  rest_eq : cursor.rest = []
  /-- The second text is read. -/
  otherRest_eq : other.rest = []
  /-- The spaces on both sides were read. -/
  offset_eq : other.offset = before + cursor.offset + behind
  /-- The same number of groups is open. -/
  depth_eq : other.depth = cursor.depth
  /-- The text ends where it does. -/
  total_eq : cursor.offset = total

/-- A place before the end of a text of the given width moves by the spaces in front, and its end
by all spaces. -/
def paddedPosition (before behind total position : Nat) : Nat :=
  if position < total then before + position else before + position + behind

theorem paddedPosition_cases {position : Nat} (inside : position ≤ total) :
    position < total ∧ paddedPosition before behind total position = before + position ∨
      position = total ∧
        paddedPosition before behind total position = before + total + behind := by
  unfold paddedPosition
  split <;> omega

/-- The failure at the place that it moves to. -/
def Failure.padded (before behind total : Nat) (failure : Failure) : Failure :=
  ⟨paddedPosition before behind total failure.position, failure.expected⟩

theorem IsWithin.advance (within : IsWithin before behind total cursor other)
    {lexeme : List Char} (found : lexeme <+: cursor.rest) :
    IsWithin before behind total (cursor.advance lexeme) (other.advance lexeme) where
  rest_eq := by
    rw [Cursor.advance, Cursor.advance, within.rest_eq,
      List.drop_append_of_le_length found.length_le]
  offset_eq := by
    rw [Cursor.advance, Cursor.advance, within.offset_eq, Nat.add_assoc]
  depth_eq := within.depth_eq
  total_eq := by
    have reads := Cursor.reads_advance found
    rw [reads.offset_eq, Nat.add_assoc, ← utf8Length_append, ← reads.rest_eq]
    exact within.total_eq

/-- To look for something at a place with text left, or at the end of both texts, is to fail
alike. -/
theorem IsWithin.missing (within : IsWithin before behind total cursor other)
    (left : cursor.rest ≠ []) (expected : Expectation) :
    other.missing expected = (cursor.missing expected).padded before behind total := by
  obtain ⟨character, rest, restEq⟩ := List.exists_cons_of_ne_nil left
  have positive := character.utf8Size_pos
  have totalEq := within.total_eq
  rw [restEq, utf8Length] at totalEq
  have ahead : cursor.offset < total := by omega
  rw [Cursor.missing, Cursor.missing, Failure.padded, paddedPosition, if_pos ahead,
    within.offset_eq]

theorem IsAtEnd.missing (atEnd : IsAtEnd before behind total cursor other)
    (expected : Expectation) :
    other.missing expected = (cursor.missing expected).padded before behind total := by
  have notAhead : ¬ cursor.offset < total := Nat.not_lt.mpr (Nat.le_of_eq atEnd.total_eq.symm)
  rw [Cursor.missing, Cursor.missing, Failure.padded, paddedPosition, if_neg notAhead,
    atEnd.offset_eq]

/-- The whole rest of the text and the spaces behind it lead to the end of both texts. -/
theorem IsWithin.advance_all (within : IsWithin before behind total cursor other) :
    IsAtEnd before behind total (cursor.advance cursor.rest) (other.advance other.rest) where
  rest_eq := by simp [Cursor.advance]
  otherRest_eq := by simp [Cursor.advance]
  offset_eq := by
    simp only [Cursor.advance, within.offset_eq, within.rest_eq, utf8Length_append,
      utf8Length_replicate_space, Nat.add_assoc]
  depth_eq := within.depth_eq
  total_eq := within.total_eq

/-- The furthest of two failures moves as they do, since their order stays the same. -/
theorem furthest_padded (first second : Failure) :
    (first.padded before behind total).furthest (second.padded before behind total) =
      (first.furthest second).padded before behind total := by
  have sameOrder : paddedPosition before behind total first.position <
      paddedPosition before behind total second.position ↔ first.position < second.position := by
    unfold paddedPosition
    split <;> split <;> omega
  unfold Failure.furthest
  simp only [Failure.padded, sameOrder]
  split <;> rfl

/-! ### The correspondence -/

/-- The places in a text of the given width and those in the text with spaces on both sides. -/
def padding (before behind total : Nat) : Correspondence where
  Meets cursor other :=
    (IsWithin before behind total cursor other ∧ cursor.rest ≠ []) ∨
      IsAtEnd before behind total cursor other
  Nears cursor other :=
    IsWithin before behind total cursor other ∨ IsAtEnd before behind total cursor other
  Blames failure image := image = failure.padded before behind total
  nears meets := meets.imp_left And.left
  meets := by
    rintro cursor other (within | atEnd)
    · by_cases all : (cursor.rest.takeWhile (· == ' ')).length = cursor.rest.length
      · have taken := (List.takeWhile_prefix (· == ' ')).eq_of_length all
        have takenToo : other.rest.takeWhile (· == ' ') = other.rest := by
          rw [within.rest_eq, List.takeWhile_append, if_pos all, List.takeWhile_replicate]
          rfl
        rw [taken, takenToo]
        exact Or.inr within.advance_all
      · have sameTaken : other.rest.takeWhile (· == ' ') = cursor.rest.takeWhile (· == ' ') := by
          rw [within.rest_eq, List.takeWhile_append, if_neg all]
        rw [sameTaken]
        refine Or.inl ⟨within.advance (List.takeWhile_prefix _), fun noRest => all ?_⟩
        have taken : cursor.rest.takeWhile (· == ' ') <+: cursor.rest := List.takeWhile_prefix _
        have whole := (Cursor.reads_advance taken).rest_eq
        rw [noRest, List.append_nil] at whole
        rw [← whole]
    · rw [atEnd.rest_eq, atEnd.otherRest_eq]
      exact Or.inr atEnd
  stands_iff := by
    rintro word cursor other plain (⟨within, -⟩ | atEnd)
    · have free : ' ' ∉ word.toList := fun member => plain ' ' member List.mem_cons_self
      rw [within.rest_eq, prefix_append_spaces_iff free]
    · rw [atEnd.rest_eq, atEnd.otherRest_eq]
  advance := by
    rintro word cursor other - (⟨within, -⟩ | atEnd) stands
    · exact Or.inl (within.advance stands)
    · rw [atEnd.rest_eq] at stands
      rw [List.prefix_nil.mp stands]
      exact Or.inr atEnd
  continues_eq := by
    rintro cursor other (within | atEnd)
    · rw [within.rest_eq]
      cases cursor.rest with
      | nil =>
        cases behind with
        | zero => rfl
        | succ count => rfl
      | cons character rest => rfl
    · rw [atEnd.rest_eq, atEnd.otherRest_eq]
  isEmpty_eq := by
    rintro cursor other (⟨within, left⟩ | atEnd)
    · obtain ⟨character, rest, restEq⟩ := List.exists_cons_of_ne_nil left
      rw [within.rest_eq, restEq]
      rfl
    · rw [atEnd.rest_eq, atEnd.otherRest_eq]
  depth_eq := by
    rintro cursor other (⟨within, -⟩ | atEnd)
    · exact within.depth_eq.symm
    · exact atEnd.depth_eq.symm
  atDepth := by
    rintro cursor other (⟨within, left⟩ | atEnd) depth
    · exact Or.inl ⟨⟨within.rest_eq, within.offset_eq, rfl, within.total_eq⟩, left⟩
    · exact Or.inr ⟨atEnd.rest_eq, atEnd.otherRest_eq, atEnd.offset_eq, rfl, atEnd.total_eq⟩
  missing := by
    rintro cursor other (⟨within, left⟩ | atEnd) expected
    · exact within.missing left expected
    · exact atEnd.missing expected
  furthest := by
    rintro first second _ _ rfl rfl
    exact furthest_padded first second

namespace padding

/-! ### Values and lists -/

theorem carries_takeWhile {holds : Char → Bool} (stops : holds ' ' = false) :
    (padding before behind total).Carries (padding before behind total).Nears
      (padding before behind total).Nears id (takeWhile holds) (takeWhile holds) := by
  rintro cursor other (within | atEnd)
  · unfold Rule.takeWhile
    rw [within.rest_eq, takeWhile_append_spaces stops]
    exact .yielded _ (Or.inl (within.advance (List.takeWhile_prefix holds)))
  · unfold Rule.takeWhile
    rw [atEnd.rest_eq, atEnd.otherRest_eq]
    exact .yielded _ (Or.inr atEnd)

/-- A quote is closed within the text or not at all, and then it is the opening one that is
blamed. -/
theorem carries_quotedBy {quote : Char} (notSpace : quote ≠ ' ') :
    (padding before behind total).Carries (padding before behind total).Meets
      (padding before behind total).Nears id (quotedBy quote) (quotedBy quote) := by
  intro cursor other meets
  by_cases stands : [quote] <+: cursor.rest
  · obtain ⟨within, left⟩ | atEnd := meets
    · obtain ⟨inner, restEq⟩ := stands
      have otherRestEq : other.rest = quote :: (inner ++ List.replicate behind ' ') := by
        rw [within.rest_eq, ← restEq]
        rfl
      by_cases closed : quote ∈ inner
      · obtain ⟨content, tail, rfl, free⟩ := List.eq_append_cons_of_mem closed
        have found : quote :: (content ++ [quote]) <+: cursor.rest :=
          ⟨tail, by rw [← restEq]; simp⟩
        have foundToo : quote :: (content ++ [quote]) <+: other.rest :=
          within.rest_eq ▸ found.trans (List.prefix_append _ _)
        have reads := quotedBy_eq_ok_iff.mpr ⟨Cursor.reads_advance found, free⟩
        have readsToo := quotedBy_eq_ok_iff.mpr ⟨Cursor.reads_advance foundToo, free⟩
        rw [reads, readsToo]
        exact .yielded content (Or.inl (within.advance found))
      · have unclosed : quote ∉ inner ++ List.replicate behind ' ' := fun member =>
          (List.mem_append.mp member).elim closed fun space =>
            notSpace (List.eq_of_mem_replicate space)
        rw [quotedBy_of_unclosed restEq.symm closed, quotedBy_of_unclosed otherRestEq unclosed]
        exact .failed (within.missing left _)
    · rw [atEnd.rest_eq, List.prefix_nil] at stands
      cases stands
  · have standsToo : ¬ [quote] <+: other.rest := by
      obtain ⟨within, -⟩ | atEnd := meets
      · rwa [within.rest_eq, prefix_append_spaces_iff (by simpa using notSpace.symm)]
      · rw [atEnd.otherRest_eq]
        exact nofun
    rw [quotedBy_of_not_stands stands, quotedBy_of_not_stands standsToo]
    exact .failed ((padding before behind total).missing meets _)

theorem carries_quotedValue :
    (padding before behind total).Carries (padding before behind total).Meets
      (padding before behind total).Nears id quotedValue quotedValue :=
  (carries_quotedBy (by decide)).orElse (carries_quotedBy (by decide))

/-- A value in quotes or a run of characters without spaces. -/
theorem carries_quotedOr {holds : Char → Bool} (stops : holds ' ' = false)
    (expected : Expectation) :
    (padding before behind total).Carries (padding before behind total).Meets
      (padding before behind total).Nears id
      (quotedValue.orElse (takeWhileSome holds expected))
      (quotedValue.orElse (takeWhileSome holds expected)) :=
  carries_quotedValue.orElse <| carries_takeWhileSome
    (fun _ _ meets => carries_takeWhile stops ((padding before behind total).nears meets))
    (fun _ => rfl) expected

theorem carries_value :
    (padding before behind total).Carries (padding before behind total).Meets
      (padding before behind total).Nears id value value :=
  carries_quotedOr rfl .value

/-- Items are read from a text with no spaces behind it, so that as many characters are left. -/
theorem joins_items : (padding before 0 total).Joins (List.map id) items items := by
  intro cursor other meets
  refine carries_items (carries_quotedOr rfl .listItem) ?_ ((padding before 0 total).nears meets)
  rintro cursor other (within | atEnd)
  · rw [within.rest_eq, List.replicate_zero, List.append_nil]
  · rw [atEnd.rest_eq, atEnd.otherRest_eq]

/-- A failure in a part of the text that ends earlier is a failure before the end. -/
theorem blames_of_inner {failure image : Failure} {innerTotal : Nat}
    (earlier : innerTotal < total) (inside : failure.position ≤ innerTotal)
    (blames : image = failure.padded before 0 innerTotal) :
    image = failure.padded before behind total := by
  have ahead : failure.position < total := Nat.lt_of_le_of_lt inside earlier
  rw [blames, Failure.padded, Failure.padded, paddedPosition, paddedPosition, if_pos ahead]
  split <;> rfl

/-- A list is closed within the text or not at all, and then the end of the text is blamed. -/
theorem carries_valueList :
    (padding before behind total).Carries (padding before behind total).Meets
      (padding before behind total).Nears (List.map id) valueList valueList := by
  intro opening openingOther meets
  refine (carries_literal (by decide) _ meets).bind fun _ start other nears => ?_
  rw [here_bind, here_bind]
  by_cases closed : ')' ∈ start.rest
  · obtain within | atEnd := nears
    · obtain ⟨content, tail, restEq, free⟩ := List.eq_append_cons_of_mem closed
      have otherRestEq : other.rest = content ++ ')' :: (tail ++ List.replicate behind ' ') := by
        rw [within.rest_eq, restEq, List.append_assoc, List.cons_append]
      have found : content ++ [')'] <+: start.rest := ⟨tail, by rw [restEq]; simp⟩
      rw [bracketed_of_closed _ restEq free, bracketed_of_closed _ otherRestEq free]
      have earlier : start.offset + utf8Length content < total := by
        have totalEq := within.total_eq
        have positive := ')'.utf8Size_pos
        rw [restEq, utf8Length_append, utf8Length] at totalEq
        omega
      have itemsMeet : (padding before 0 (start.offset + utf8Length content)).Meets
          ⟨start.offset, content, start.depth⟩ ⟨other.offset, content, other.depth⟩ := by
        cases content with
        | nil => exact Or.inr ⟨rfl, rfl, within.offset_eq, within.depth_eq, rfl⟩
        | cons character content =>
          have noneBehind := (List.append_nil (character :: content)).symm
          exact Or.inl ⟨⟨noneBehind, within.offset_eq, within.depth_eq, rfl⟩, List.cons_ne_nil _ _⟩
      have near : (padding before behind total).Nears (start.advance (content ++ [')']))
          (other.advance (content ++ [')'])) := Or.inl (within.advance found)
      refine Carries.inside joins_items itemsMeet isTidy_items
        (fun failure image ahead blames => ?_) near
      exact blames_of_inner earlier ahead.position_le blames
    · rw [atEnd.rest_eq] at closed
      cases closed
  · have closedToo : ')' ∉ other.rest := by
      obtain within | atEnd := nears
      · rw [within.rest_eq, List.mem_append]
        exact fun member => member.elim closed fun space =>
          absurd (List.eq_of_mem_replicate space) (by decide)
      · rw [atEnd.otherRest_eq]
        exact List.not_mem_nil
    rw [bracketed_of_unclosed _ closed, bracketed_of_unclosed _ closedToo]
    obtain within | atEnd := nears
    · exact .failed (within.advance_all.missing _)
    · rw [atEnd.rest_eq, atEnd.otherRest_eq]
      exact .failed (atEnd.missing _)

end padding

/-! ### Queries -/

theorem mapValues_id (term : Term) : term.map (Atom.mapValues id) = term := by
  induction term with
  | join connective left right leftHypothesis rightHypothesis =>
    rw [Tree.map, leftHypothesis, rightHypothesis]
  | negate operand inductionHypothesis => rw [Tree.map, inductionHypothesis]
  | leaf atom =>
    cases atom with
    | single field comparison value =>
      simp only [Tree.map, Atom.mapValues, id, String.ofList_toList]
    | list field membership values =>
      simp only [Tree.map, Atom.mapValues, id, String.ofList_toList, List.map_id']

/-- The text with spaces on both sides. -/
def pad (before behind : Nat) (text : List Char) : List Char :=
  List.replicate before ' ' ++ (text ++ List.replicate behind ' ')

theorem fold_pad (before behind : Nat) (text : List Char) :
    fold (pad before behind text) = pad before behind (fold text) := by
  have isBreak : IsBreak ' ' := isBreak_of_mem List.mem_cons_self
  have spacesBehind : ∀ text, fold (text ++ List.replicate behind ' ') =
      fold text ++ List.replicate behind ' ' := by
    induction behind with
    | zero => simp
    | succ count inductionHypothesis =>
      intro text
      have alone : fold (List.replicate count ' ') = List.replicate count ' ' :=
        inductionHypothesis []
      rw [List.replicate_succ, fold_append_cons isBreak, alone]
  rw [pad, pad]
  induction before with
  | zero => exact spacesBehind text
  | succ count inductionHypothesis =>
    rw [List.replicate_succ, List.cons_append, List.cons_append, fold_cons isBreak,
      inductionHypothesis]

/-- A folded text with spaces on both sides is read as without them, or both fail. -/
theorem readTerm_pad (before behind : Nat) (text : List Char) :
    (∃ term, readTerm text = .ok term ∧ readTerm (pad before behind text) = .ok term) ∨
    ∃ failure, readTerm text = .error failure ∧
      readTerm (pad before behind text) =
        .error (failure.padded before behind (utf8Length text)) := by
  have joins : (padding before behind (utf8Length text)).Joins (Atom.mapValues id) atom atom :=
    joins_atom padding.carries_value padding.carries_valueList fun field value => by
      rw [id, String.ofList_toList]
  have within : IsWithin before behind (utf8Length text) (.start text)
      ⟨before, text ++ List.replicate behind ' ', 0⟩ := ⟨rfl, rfl, rfl, Nat.zero_add _⟩
  have skipped : (Cursor.start (pad before behind text)).advance (List.replicate before ' ') =
      ⟨before, text ++ List.replicate behind ' ', 0⟩ := by
    simp [Cursor.advance, Cursor.start, pad, utf8Length_replicate_space]
  have meets := (padding before behind (utf8Length text)).meets (Or.inl within)
  rw [← skipped, ← Cursor.advance_append, skipped] at meets
  have taken : (pad before behind text).takeWhile (· == ' ') = List.replicate before ' ' ++
      (text ++ List.replicate behind ' ').takeWhile (· == ' ') :=
    List.takeWhile_append_of_pos fun character member => by
      rw [List.eq_of_mem_replicate member, beq_self_eq_true]
  rw [← taken] at meets
  rcases read_cases (some depthLimit) isTidy_atom isTidy_atom joins meets with
    ⟨term, reads, image⟩ | ⟨failure, _, fails, image, rfl⟩
  · rw [mapValues_id] at image
    exact Or.inl ⟨term, reads, image⟩
  · exact Or.inr ⟨failure, fails, image⟩

/-- The query with spaces on both sides. -/
def padded (before behind : Nat) (query : String) : String :=
  String.ofList (pad before behind query.toList)

/-- Spaces around a query do not matter: it denotes the same term, or it is rejected with the
same said to be expected. A place before the end of the folded query moves by the spaces in front
of it, and the end moves to the end of the spaces behind it. -/
theorem parse_padded (query : String) (before behind : Nat) :
    (∀ term, parse query = .ok term → parse (padded before behind query) = .ok term) ∧
    ∀ error, parse query = .error error →
      ∃ other, parse (padded before behind query) = .error other ∧
        other.expected = error.expected ∧
        (error.position < (String.ofList (fold query.toList)).utf8ByteSize ∧
            other.position = before + error.position ∨
          error.position = (String.ofList (fold query.toList)).utf8ByteSize ∧
            other.position =
              before + (String.ofList (fold query.toList)).utf8ByteSize + behind) := by
  have paddedEq : parse (padded before behind query) =
      resultOf (pad before behind (fold query.toList))
        (readTerm (pad before behind (fold query.toList))) := by
    rw [parse, padded, String.toList_ofList, fold_pad]
  rw [paddedEq, parse, ← utf8Length_eq_utf8ByteSize]
  generalize fold query.toList = folded
  rcases readTerm_pad before behind folded with ⟨term, reads, image⟩ | ⟨failure, fails, image⟩
  · rw [reads, image]
    refine ⟨fun other accepted => ?_, fun error rejected => ?_⟩
    · cases accepted
      rfl
    · cases rejected
  · rw [fails, image]
    refine ⟨fun term accepted => ?_, fun error rejected => ?_⟩
    · cases accepted
    · cases rejected
      refine ⟨_, rfl, rfl, ?_⟩
      obtain ⟨front, back, split, positionEq⟩ := exists_append_of_readTerm fails
      have inside : failure.position ≤ utf8Length folded := by
        rw [positionEq, split, utf8Length_append]
        exact Nat.le_add_right _ _
      exact paddedPosition_cases inside

/-- A query that is accepted, one that breaks off at its end, and one whose quote is not closed. -/
theorem parse_padded_instances :
    parse (padded 2 3 "label = a") = .ok (Term.single .label .equals "a") ∧
    (∃ other, parse (padded 2 3 "label in (a ") = .error other ∧
      other.expected = "')'" ∧ other.position = 17) ∧
    ∃ other, parse (padded 2 3 "label = \"a ") = .error other ∧
      other.expected = "closing quote" ∧ other.position = 10 := by
  have accepted : parse "label = a" = .ok (Term.single .label .equals "a") := rfl
  have unfinished : parse "label in (a " = .error ⟨12, "')'", "label in (a "⟩ := rfl
  have unclosed : parse "label = \"a " = .error ⟨8, "closing quote", "label = \"a "⟩ := rfl
  have width : (String.ofList (fold "label in (a ".toList)).utf8ByteSize = 12 := by decide +kernel
  have widthToo : (String.ofList (fold "label = \"a ".toList)).utf8ByteSize = 11 := by
    decide +kernel
  obtain ⟨other, rejected, expectedEq, places⟩ := (parse_padded "label in (a " 2 3).2 _ unfinished
  obtain ⟨otherToo, rejectedToo, expectedEqToo, placesToo⟩ :=
    (parse_padded "label = \"a " 2 3).2 _ unclosed
  simp only [width] at places
  simp only [widthToo] at placesToo
  refine ⟨(parse_padded "label = a" 2 3).1 _ accepted, ⟨other, rejected, expectedEq, ?_⟩,
    otherToo, rejectedToo, expectedEqToo, ?_⟩
  · omega
  · omega

end ContentQuery.Query
