/-
This file runs the grammar on two texts side by side. A correspondence says which places of the
two texts belong together and which failures do. If the words of the grammar stand at one of two
such places just where they stand at the other one, and spaces are skipped alike, then the two
runs keep step: both yield a tree, and the trees have the same shape, or both fail.

What becomes of values is left open here. It is settled by the rules for values and lists, which
look at more than words, so the two texts must be shown to keep step on those separately. That is
then enough for whole queries, at any nesting.
-/

import ContentQuery.Proofs.Boundaries
import ContentQuery.Proofs.Bounds
import Mathlib.Data.List.Find

namespace ContentQuery

/-! ### Changed values -/

/-- The atom with its values changed. -/
def Atom.mapValues (change : List Char → List Char) : Atom → Atom
  | .single field comparison value => .single field comparison (String.ofList (change value.toList))
  | .list field membership values =>
    .list field membership (values.map fun value => String.ofList (change value.toList))

/-- An atom stays valid, or invalid, if what its field thinks of values stays the same. -/
theorem Atom.isValid_mapValues {change : List Char → List Char}
    (admits_eq : ∀ (field : Field) (value : String),
      field.admits (String.ofList (change value.toList)) = field.admits value) (atom : Atom) :
    (atom.mapValues change).isValid = atom.isValid := by
  cases atom with
  | single field comparison value =>
    simp only [mapValues, isValid, Atom.field, operator, values, List.all_cons, admits_eq]
  | list field membership values =>
    have same : (values.map fun value => String.ofList (change value.toList)).all field.admits =
        values.all field.admits := by
      rw [List.all_map]
      exact congrArg values.all (funext (admits_eq field))
    simp only [mapValues, isValid, Atom.field, operator, Atom.values, same]

namespace Query

open Rule Text

/-! ### Places of two texts -/

/-- The word holds no spaces and no quotes. -/
def IsPlainWord (word : String) : Prop := ∀ character ∈ word.toList, character ∉ [' ', '"', '\'']

instance (word : String) : Decidable (IsPlainWord word) := List.decidableBAll _ _

/-- Which places of two texts belong together, and which failures do. Behind a word the spaces
are still to be skipped, and the two texts may differ in them. -/
structure Correspondence where
  /-- The places belong together, with no spaces left to skip. -/
  Meets : Cursor → Cursor → Prop
  /-- The places belong together behind a word. -/
  Nears : Cursor → Cursor → Prop
  /-- The failures belong together. -/
  Blames : Failure → Failure → Prop
  /-- Spaces need not follow a word. -/
  nears {cursor other : Cursor} (meets : Meets cursor other) : Nears cursor other
  /-- Behind the spaces the places meet. -/
  meets {cursor other : Cursor} (nears : Nears cursor other) :
    Meets (cursor.advance (cursor.rest.takeWhile (· == ' ')))
      (other.advance (other.rest.takeWhile (· == ' ')))
  /-- A word stands at both places or at neither. -/
  stands_iff {word : String} {cursor other : Cursor} (plain : IsPlainWord word)
    (meets : Meets cursor other) : word.toList <+: cursor.rest ↔ word.toList <+: other.rest
  /-- The places behind a word belong together. -/
  advance {word : String} {cursor other : Cursor} (plain : IsPlainWord word)
    (meets : Meets cursor other) (stands : word.toList <+: cursor.rest) :
    Nears (cursor.advance word.toList) (other.advance word.toList)
  /-- A longer word goes on at both places or at neither. -/
  continues_eq {cursor other : Cursor} (nears : Nears cursor other) :
    cursor.rest.head?.any continuesWord = other.rest.head?.any continuesWord
  /-- Both texts end or neither does. -/
  isEmpty_eq {cursor other : Cursor} (meets : Meets cursor other) :
    cursor.rest.isEmpty = other.rest.isEmpty
  /-- The same number of groups is open. -/
  depth_eq {cursor other : Cursor} (meets : Meets cursor other) : cursor.depth = other.depth
  /-- Opening and closing groups moves neither place. -/
  atDepth {cursor other : Cursor} (meets : Meets cursor other) (depth : Nat) :
    Meets (cursor.atDepth depth) (other.atDepth depth)
  /-- Not to find something at places that belong together is failing alike. -/
  missing {cursor other : Cursor} (meets : Meets cursor other) (expected : Expectation) :
    Blames (cursor.missing expected) (other.missing expected)
  /-- Of two failures on each side, the ones that are kept belong together. -/
  furthest {first second image imageSecond : Failure} (blames : Blames first image)
    (blamesSecond : Blames second imageSecond) :
    Blames (first.furthest second) (image.furthest imageSecond)

namespace Correspondence

variable {Value Image Other OtherImage Leaf LeafImage : Type} {pairing : Correspondence}
  {Before Middle After : Cursor → Cursor → Prop} {change : Value → Image}
  {changeOther : Other → OtherImage} {cursor other : Cursor}

/-- Two outcomes keep step when both are successes, up to what becomes of the value, at places
that belong together, or failures that belong together. -/
inductive KeepsStep (pairing : Correspondence) (After : Cursor → Cursor → Prop)
    (change : Value → Image) :
    Except Failure (Value × Cursor) → Except Failure (Image × Cursor) → Prop where
  /-- Both runs yield a value. -/
  | yielded (value : Value) {cursor other : Cursor} (after : After cursor other) :
    KeepsStep pairing After change (.ok (value, cursor)) (.ok (change value, other))
  /-- Both runs fail. -/
  | failed {failure image : Failure} (blames : pairing.Blames failure image) :
    KeepsStep pairing After change (.error failure) (.error image)

/-- From places that belong together, the two rules have outcomes that keep step. -/
def Carries (pairing : Correspondence) (Before After : Cursor → Cursor → Prop)
    (change : Value → Image) (rule : Rule Value) (image : Rule Image) : Prop :=
  ∀ ⦃cursor other : Cursor⦄, Before cursor other →
    pairing.KeepsStep After change (rule cursor) (image other)

/-- From places that meet, the two rules have outcomes that keep step, and where they succeed
the places meet again. -/
abbrev Joins (pairing : Correspondence) (change : Value → Image) (rule : Rule Value)
    (image : Rule Image) : Prop :=
  pairing.Carries pairing.Meets pairing.Meets change rule image

/-! ### Rules in sequence -/

theorem carries_pure (value : Value) :
    pairing.Carries Before Before change (pure value) (pure (change value)) :=
  fun _ _ before => .yielded value before

/-- Two runs in sequence keep step when the first ones do and the second ones do from where the
first ones lead. -/
theorem KeepsStep.bind {rule : Rule Value} {image : Rule Image} {next : Value → Rule Other}
    {nextImage : Image → Rule OtherImage}
    (keeps : pairing.KeepsStep Middle change (rule cursor) (image other))
    (nextCarries : ∀ value,
      pairing.Carries Middle After changeOther (next value) (nextImage (change value))) :
    pairing.KeepsStep After changeOther ((rule >>= next) cursor) ((image >>= nextImage) other) := by
  simp only [Bind.bind]
  generalize rule cursor = outcome at keeps ⊢
  generalize image other = outcome' at keeps ⊢
  cases keeps with
  | yielded value middle => exact nextCarries value middle
  | failed blames => exact .failed blames

theorem Carries.bind {rule : Rule Value} {image : Rule Image} {next : Value → Rule Other}
    {nextImage : Image → Rule OtherImage}
    (carries : pairing.Carries Before Middle change rule image)
    (nextCarries : ∀ value,
      pairing.Carries Middle After changeOther (next value) (nextImage (change value))) :
    pairing.Carries Before After changeOther (rule >>= next) (image >>= nextImage) :=
  fun _ _ before => (carries before).bind nextCarries

theorem Carries.map {rule : Rule Value} {image : Rule Image} {convert : Value → Other}
    {convertImage : Image → OtherImage}
    (carries : pairing.Carries Before After change rule image)
    (commutes : ∀ value, changeOther (convert value) = convertImage (change value)) :
    pairing.Carries Before After changeOther (convert <$> rule) (convertImage <$> image) :=
  carries.bind fun value => by
    intro cursor other after
    have keeps : pairing.KeepsStep After changeOther (.ok (convert value, cursor))
        (.ok (changeOther (convert value), other)) := .yielded (convert value) after
    rwa [commutes value] at keeps

/-- Rules that begin by noting where they are may go on with what they noted. -/
theorem carries_here_bind {next nextImage : Cursor → _}
    (nextCarries : ∀ {cursor other}, Before cursor other →
      pairing.Carries Before After change (next cursor) (nextImage other)) :
    pairing.Carries Before After change (here >>= next) (here >>= nextImage) :=
  fun _ _ before => nextCarries before before

theorem carries_reject (meets : pairing.Meets cursor other) (expected : Expectation) :
    pairing.Carries Before After change (reject (cursor.missing expected))
      (reject (other.missing expected)) :=
  fun _ _ _ => .failed (pairing.missing meets expected)

/-! ### Choice -/

theorem Carries.orElse {first second : Rule Value} {image imageSecond : Rule Image}
    (carries : pairing.Carries Before After change first image)
    (carriesSecond : pairing.Carries Before After change second imageSecond) :
    pairing.Carries Before After change (first.orElse second) (image.orElse imageSecond) := by
  intro cursor other before
  have keeps := carries before
  have keepsSecond := carriesSecond before
  unfold Rule.orElse
  generalize first cursor = outcome at keeps ⊢
  generalize image other = outcome' at keeps ⊢
  generalize second cursor = secondOutcome at keepsSecond ⊢
  generalize imageSecond other = secondOutcome' at keepsSecond ⊢
  cases keeps with
  | yielded value after => exact .yielded value after
  | failed blames =>
    cases keepsSecond with
    | yielded value after => exact .yielded value after
    | failed blamesSecond => exact .failed (pairing.furthest blames blamesSecond)

/-- What a failed rule read is forgotten on both sides, and the runs go on from where it began. -/
theorem Carries.attempt_bind {rule : Rule Value} {image : Rule Image}
    {next : Option Value → Rule Other} {nextImage : Option Image → Rule OtherImage}
    (carries : pairing.Carries Before Middle change rule image)
    (found : ∀ value, pairing.Carries Middle After changeOther (next (some value))
      (nextImage (some (change value))))
    (notFound : pairing.Carries Before After changeOther (next none) (nextImage none)) :
    pairing.Carries Before After changeOther (attempt rule >>= next)
      (attempt image >>= nextImage) := by
  intro cursor other before
  have keeps := carries before
  simp only [Bind.bind, Rule.attempt]
  generalize rule cursor = outcome at keeps ⊢
  generalize image other = outcome' at keeps ⊢
  cases keeps with
  | yielded value middle => exact found value middle
  | failed _ => exact notFound before

/-! ### Words and spaces -/

theorem carries_literal {word : String} (plain : IsPlainWord word) (expected : Expectation) :
    pairing.Carries pairing.Meets pairing.Nears id (literal word expected)
      (literal word expected) := by
  intro cursor other meets
  have same := pairing.stands_iff plain meets
  unfold literal
  simp only [List.isPrefixOf_iff_prefix, ← same]
  split
  · rename_i stands
    exact .yielded () (pairing.advance plain meets stands)
  · exact .failed (pairing.missing meets expected)

theorem carries_spelled {table : List (String × Value)}
    (plain : ∀ entry ∈ table, IsPlainWord entry.1) (expected : Expectation) :
    pairing.Carries pairing.Meets pairing.Nears id (spelled table expected)
      (spelled table expected) := by
  intro cursor other meets
  have same : table.find? (fun entry => entry.1.toList.isPrefixOf cursor.rest) =
      table.find? fun entry => entry.1.toList.isPrefixOf other.rest := by
    refine List.find?_congr fun entry member => ?_
    rw [Bool.eq_iff_iff, List.isPrefixOf_iff_prefix, List.isPrefixOf_iff_prefix]
    exact pairing.stands_iff (plain entry member) meets
  unfold spelled
  rw [← same]
  cases found : table.find? fun entry => entry.1.toList.isPrefixOf cursor.rest with
  | none => exact .failed (pairing.missing meets expected)
  | some entry =>
    have stands := List.find?_some found
    rw [List.isPrefixOf_iff_prefix] at stands
    exact .yielded entry.2
      (pairing.advance (plain entry (List.mem_of_find?_eq_some found)) meets stands)

theorem carries_spaces : pairing.Carries pairing.Nears pairing.Meets id spaces spaces :=
  fun _ _ nears => .yielded () (pairing.meets nears)

theorem Carries.token {rule : Rule Value} {image : Rule Image}
    (carries : pairing.Carries Before pairing.Nears change rule image) :
    pairing.Carries Before pairing.Meets change (token rule) (token image) :=
  carries.bind fun value => carries_spaces.bind fun _ => carries_pure value

theorem carries_keyword {word : String} (plain : IsPlainWord word) (expected : Expectation) :
    pairing.Carries pairing.Meets pairing.Nears id (keyword word expected)
      (keyword word expected) := by
  intro start otherStart meets
  refine (carries_literal plain expected meets).bind fun _ cursor other nears => ?_
  rw [here_bind, here_bind, ← pairing.continues_eq nears]
  split
  · exact .failed (pairing.missing meets expected)
  · exact .yielded () nears

theorem carries_endOfText : pairing.Joins id endOfText endOfText := by
  intro cursor other meets
  unfold endOfText
  rw [← pairing.isEmpty_eq meets]
  split
  · exact .yielded () meets
  · exact .failed (pairing.missing meets .endOfQuery)

/-! ### Parts of a text -/

/-- Rules that keep step in one correspondence do so on parts of two texts, each read to its end,
if the failures that belong together there do so in the whole texts. -/
theorem Carries.inside {inner : Correspondence} {rule : Rule Value} {image : Rule Image}
    {start imageStart : Cursor} {content imageContent : List Char}
    (joins : inner.Joins change rule image)
    (meets : inner.Meets ⟨start.offset, content, start.depth⟩
      ⟨imageStart.offset, imageContent, imageStart.depth⟩)
    (tidy : rule.IsTidy)
    (blames : ∀ failure image, failure.IsAhead ⟨start.offset, content, start.depth⟩ →
      inner.Blames failure image → pairing.Blames failure image) :
    pairing.Carries Before Before change (inside start content rule)
      (inside imageStart imageContent image) := by
  intro cursor other before
  have runs : inner.Joins change (do let value ← rule; endOfText; pure value)
      (do let value ← image; endOfText; pure value) :=
    joins.bind fun value => carries_endOfText.bind fun _ => carries_pure value
  have keeps := runs meets
  have whole : (do let value ← rule; endOfText; pure value : Rule Value).IsTidy := fun _ =>
    (tidy _).bind fun value => isTidyFrom_endOfText.bind fun _ => isTidyFrom_pure value
  unfold Rule.inside
  generalize outcomeEq : (rule >>= _ : Rule Value) _ = outcome at keeps ⊢
  generalize (image >>= _ : Rule Image) _ = outcome' at keeps ⊢
  cases keeps with
  | yielded value _ => exact .yielded value before
  | failed same => exact .failed (blames _ _ (whole.isAhead outcomeEq) same)

theorem Carries.nested {rule : Rule Value} {image : Rule Image} (limit : Option Nat)
    (joins : pairing.Joins change rule image) :
    pairing.Joins change (nested limit rule) (nested limit image) := by
  intro cursor other meets
  unfold Rule.nested
  rw [← pairing.depth_eq meets]
  split
  · exact .failed (pairing.missing meets .shallowerNesting)
  · have keeps := joins (pairing.atDepth meets (cursor.depth + 1))
    generalize rule _ = outcome at keeps ⊢
    generalize image _ = outcome' at keeps ⊢
    cases keeps with
    | yielded value after => exact .yielded value (pairing.atDepth after cursor.depth)
    | failed blames => exact .failed blames

/-! ### Values and lists -/

/-- Looking for something else at the end of a run of characters does not matter. -/
theorem carries_takeWhileSome {holds imageHolds : Char → Bool} {change : List Char → List Char}
    (carries : pairing.Carries pairing.Meets pairing.Nears change (takeWhile holds)
      (takeWhile imageHolds))
    (isEmpty_eq : ∀ text, (change text).isEmpty = text.isEmpty) (expected : Expectation) :
    pairing.Carries pairing.Meets pairing.Nears change (takeWhileSome holds expected)
      (takeWhileSome imageHolds expected) := by
  refine carries_here_bind fun meets => ?_
  refine carries.bind fun found => ?_
  rw [isEmpty_eq]
  split
  · exact carries_reject meets expected
  · exact carries_pure found

section Items

variable {change : List Char → List Char}
  (carriesItem : pairing.Carries pairing.Meets pairing.Nears change
    (quotedValue.orElse bareItem) (quotedValue.orElse bareItem))

include carriesItem

theorem carries_item : pairing.Carries pairing.Nears pairing.Meets change item item :=
  carries_spaces.bind fun _ => carriesItem.token

theorem joins_moreItems (bound : Nat) :
    pairing.Joins (List.map change) (moreItems bound) (moreItems bound) := by
  induction bound with
  | zero => exact carries_pure []
  | succ bound inductionHypothesis =>
    refine (carries_literal (by decide) .comma).attempt_bind (fun _ => ?_) (carries_pure [])
    exact (carries_item carriesItem).bind fun next => inductionHypothesis.bind fun further =>
      (carries_pure (next :: further) : pairing.Joins (List.map change) _ _)

/-- The bound on the number of items is the length of what is left, so this must be the same. -/
theorem carries_items
    (length_eq : ∀ {cursor other}, pairing.Nears cursor other →
      cursor.rest.length = other.rest.length) :
    pairing.Carries pairing.Nears pairing.Meets (List.map change) items items :=
  carries_here_bind fun nears => by
    rw [length_eq nears]
    exact (carries_item carriesItem).bind fun first =>
      (joins_moreItems carriesItem _).bind fun further =>
        (carries_pure (first :: further) : pairing.Joins (List.map change) _ _)

end Items

/-! ### Atoms -/

theorem isPlainWord_fieldSpellings : ∀ entry ∈ fieldSpellings, IsPlainWord entry.1 := by decide

theorem isPlainWord_comparisonSymbols : ∀ entry ∈ comparisonSymbols, IsPlainWord entry.1 := by
  decide

theorem carries_operator : pairing.Carries pairing.Meets pairing.Nears id operator operator := by
  have comparison : pairing.Carries pairing.Meets pairing.Nears id comparison comparison :=
    carries_spelled isPlainWord_comparisonSymbols _
  have isIn : pairing.Carries pairing.Meets pairing.Nears id
      (do keyword "in" .listOperator; pure .isIn : Rule Membership)
      (do keyword "in" .listOperator; pure .isIn : Rule Membership) :=
    (carries_keyword (by decide) _).bind fun _ => carries_pure Membership.isIn
  have notIn : pairing.Carries pairing.Meets pairing.Nears id notIn notIn :=
    (carries_literal (by decide) _).token.bind fun _ =>
      (carries_keyword (by decide) _).bind fun _ => carries_pure Membership.notIn
  have comparisons : pairing.Carries pairing.Meets pairing.Nears id
      (Operator.comparison <$> Query.comparison) (Operator.comparison <$> Query.comparison) :=
    comparison.map fun _ => rfl
  exact comparisons.orElse ((isIn.orElse notIn).map fun _ => rfl)

section Atoms

variable {change : List Char → List Char}
  (carriesValue : pairing.Carries pairing.Meets pairing.Nears change value value)
  (carriesList : pairing.Carries pairing.Meets pairing.Nears (List.map change) valueList valueList)

include carriesValue carriesList

theorem joins_operand (field : Field) (operator : Operator) :
    pairing.Joins (Atom.mapValues change) (operand field operator) (operand field operator) := by
  cases operator with
  | comparison comparison =>
    refine carriesValue.token.bind fun text => ?_
    have same : Atom.mapValues change (.single field comparison (String.ofList text)) =
        .single field comparison (String.ofList (change text)) := by
      rw [Atom.mapValues, String.toList_ofList]
    rw [← same]
    exact carries_pure _
  | membership membership =>
    refine carriesList.token.bind fun texts => ?_
    have same : Atom.mapValues change (.list field membership (texts.map String.ofList)) =
        .list field membership ((texts.map change).map String.ofList) := by
      simp only [Atom.mapValues, List.map_map, Function.comp_def, String.toList_ofList]
    rw [← same]
    exact carries_pure _

/-- Atoms are read alike if what their fields think of values is the same on both sides. -/
theorem joins_atom
    (admits_eq : ∀ (field : Field) (value : String),
      field.admits (String.ofList (change value.toList)) = field.admits value) :
    pairing.Joins (Atom.mapValues change) atom atom := by
  unfold atom placedAtom
  simp only [Rule.bind_assoc]
  refine (carries_spelled isPlainWord_fieldSpellings _).token.bind fun field =>
    carries_here_bind fun operatorMeets => carries_operator.token.bind fun operator =>
      carries_here_bind fun valueMeets =>
        (joins_operand carriesValue carriesList field operator).bind fun atom => ?_
  intro cursor other meets
  rw [Rule.bind_ok (Rule.pure_apply _ cursor), Rule.bind_ok (Rule.pure_apply _ other)]
  have sameValid := Atom.isValid_mapValues admits_eq atom
  have sameAllows : (atom.mapValues change).field.allows (atom.mapValues change).operator =
      atom.field.allows atom.operator := by
    cases atom <;> rfl
  unfold PlacedAtom.fault?
  simp only [sameValid, sameAllows]
  by_cases valid : atom.isValid = true
  · simp only [if_pos valid]
    exact .yielded atom meets
  · by_cases allowed : atom.field.allows atom.operator = true
    · simp only [if_neg valid, if_pos allowed]
      exact .failed (pairing.missing valueMeets .allowedValue)
    · simp only [if_neg valid, if_neg allowed]
      exact .failed (pairing.missing operatorMeets .allowedOperator)

end Atoms

/-! ### Terms -/

theorem isPlainWord_word (kind : Connective) : IsPlainWord kind.word := by
  cases kind <;> decide

theorem joins_connective {word : String} (plain : IsPlainWord word) :
    pairing.Joins id (connective word) (connective word) :=
  (carries_keyword plain _).token

variable {change : Leaf → LeafImage}

theorem joins_chainAfter (kind : Connective) {operand : Rule (Tree Leaf)}
    {image : Rule (Tree LeafImage)} (joins : pairing.Joins (Tree.map change) operand image)
    (bound : Nat) (left : Tree Leaf) :
    pairing.Joins (Tree.map change) (chainAfter kind operand bound left)
      (chainAfter kind image bound (left.map change)) := by
  induction bound generalizing left with
  | zero => exact carries_pure left
  | succ bound inductionHypothesis =>
    refine (joins_connective (isPlainWord_word kind)).attempt_bind (fun _ => ?_) (carries_pure left)
    exact joins.bind fun right => inductionHypothesis (.join kind left right)

theorem joins_chain (kind : Connective) {operand : Rule (Tree Leaf)}
    {image : Rule (Tree LeafImage)} (bound : Nat)
    (joins : pairing.Joins (Tree.map change) operand image) :
    pairing.Joins (Tree.map change) (chain kind bound operand) (chain kind bound image) :=
  joins.bind fun first => joins_chainAfter kind joins bound first

theorem joins_unaryOf {primary : Rule (Tree Leaf)} {image : Rule (Tree LeafImage)}
    (joins : pairing.Joins (Tree.map change) primary image) :
    pairing.Joins (Tree.map change) (unaryOf primary) (unaryOf image) := by
  refine (joins_connective (by decide)).attempt_bind (fun _ => ?_) joins
  exact joins.bind fun operand => carries_pure (Tree.negate operand)

theorem joins_groupOf (limit : Option Nat) {term : Rule (Tree Leaf)}
    {image : Rule (Tree LeafImage)} (joins : pairing.Joins (Tree.map change) term image) :
    pairing.Joins (Tree.map change) (groupOf limit term) (groupOf limit image) :=
  (carries_literal (by decide) _).token.bind fun _ => Carries.nested limit <|
    joins.bind fun inner => (carries_literal (by decide) _).token.bind fun _ => carries_pure inner

theorem joins_primaryOf (limit : Option Nat) {leaf : Rule Leaf} {leafImage : Rule LeafImage}
    {term : Rule (Tree Leaf)} {image : Rule (Tree LeafImage)}
    (joinsLeaf : pairing.Joins change leaf leafImage)
    (joins : pairing.Joins (Tree.map change) term image) :
    pairing.Joins (Tree.map change) (primaryOf limit leaf term)
      (primaryOf limit leafImage image) := by
  have leaves : pairing.Joins (Tree.map change) (Tree.leaf <$> leaf) (Tree.leaf <$> leafImage) :=
    joinsLeaf.map fun _ => rfl
  exact leaves.orElse (joins_groupOf limit joins)

theorem joins_termWithin (limit : Option Nat) {leaf : Rule Leaf} {leafImage : Rule LeafImage}
    (joinsLeaf : pairing.Joins change leaf leafImage) (bound : Nat) :
    pairing.Joins (Tree.map change) (termWithin limit leaf bound)
      (termWithin limit leafImage bound) := by
  induction bound with
  | zero => exact fun _ _ meets => .failed (pairing.missing meets .fieldName)
  | succ bound inductionHypothesis =>
    exact joins_chain .or bound <| joins_chain .and bound <| joins_unaryOf <|
      joins_primaryOf limit joinsLeaf inductionHypothesis

/-- The two texts may differ in length, since bounds that are not used up do not matter. -/
theorem joins_term (limit : Option Nat) {leaf : Rule Leaf} {leafImage : Rule LeafImage}
    (tidy : leaf.IsTidy) (tidyImage : leafImage.IsTidy)
    (joinsLeaf : pairing.Joins change leaf leafImage) :
    pairing.Joins (Tree.map change) (term limit leaf) (term limit leafImage) := by
  intro cursor other meets
  let bound := max (cursor.rest.length + 1) (other.rest.length + 1)
  have sameBound : term limit leaf cursor = termWithin limit leaf bound cursor :=
    agreeBelow_termWithin limit tidy (Nat.le_refl _) (Nat.le_max_left _ _) (Nat.lt_succ_self _)
  have sameImageBound : term limit leafImage other = termWithin limit leafImage bound other :=
    agreeBelow_termWithin limit tidyImage (Nat.le_refl _) (Nat.le_max_right _ _)
      (Nat.lt_succ_self _)
  rw [sameBound, sameImageBound]
  exact joins_termWithin limit joinsLeaf bound meets

/-- Whole texts that meet behind their first spaces are both read as trees of one shape, or both
fail. -/
theorem read_cases (limit : Option Nat) {leaf : Rule Leaf} {leafImage : Rule LeafImage}
    (tidy : leaf.IsTidy) (tidyImage : leafImage.IsTidy)
    (joinsLeaf : pairing.Joins change leaf leafImage) {text imageText : List Char}
    (meets : pairing.Meets ((Cursor.start text).advance (text.takeWhile (· == ' ')))
      ((Cursor.start imageText).advance (imageText.takeWhile (· == ' ')))) :
    (∃ tree, read limit leaf text = .ok tree ∧
      read limit leafImage imageText = .ok (tree.map change)) ∨
    ∃ failure image, read limit leaf text = .error failure ∧
      read limit leafImage imageText = .error image ∧ pairing.Blames failure image := by
  have runs : pairing.Joins (Tree.map change)
      (do let tree ← term limit leaf; endOfText; pure tree)
      (do let tree ← term limit leafImage; endOfText; pure tree) :=
    (joins_term limit tidy tidyImage joinsLeaf).bind fun tree => carries_endOfText.bind fun _ =>
      carries_pure tree
  have keeps : pairing.KeepsStep pairing.Meets (Tree.map change) (whole limit leaf (.start text))
      (whole limit leafImage (.start imageText)) := runs meets
  unfold read
  generalize whole limit leaf _ = outcome at keeps ⊢
  generalize whole limit leafImage _ = outcome' at keeps ⊢
  cases keeps with
  | yielded tree _ => exact Or.inl ⟨tree, rfl, rfl⟩
  | failed blames => exact Or.inr ⟨_, _, rfl, rfl, blames⟩

end Correspondence

end Query

end ContentQuery
