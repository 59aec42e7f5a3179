/-
This file proves what becomes of queries that are put together. The operands of a query stand in
rows: groups joined by `or`, and in each group operands joined by `and`. The term of the query
joins them from the left. With `or` between two queries, the groups of the second follow those of
the first, and with `and` between them, the two groups that meet become one.

A query that is followed by a space or a bracket is what it was, since neither runs into its last
value and folding does not look across them. In brackets, every group of a query lies one group
deeper. So a query that may stand in brackets is one that can be read with room for one group
less, and what happens to any other is that a group is opened too deep.
-/

import ContentQuery.Proofs.Accepted
import ContentQuery.Proofs.Breaks
import ContentQuery.Proofs.Nesting
import ContentQuery.Proofs.Surroundings
import Mathlib.Data.List.Induction

namespace ContentQuery.Query

open Rule Text

variable {Leaf Item : Type} {relation : List Char → Leaf → List Char → Prop}
  {kind : Connective} {item : List Char → Item → List Char → Prop}
  {text middle behind rest : List Char} {room : Nat}

/-! ### Rows -/

/-- Items one after another, joined by a connective. -/
inductive DerivesRow (kind : Connective) (item : List Char → Item → List Char → Prop) :
    List Char → List Item → List Char → Prop where
  /-- The last item. -/
  | last {text rest : List Char} {content : Item} (stands : item text content rest) :
    DerivesRow kind item text [content] rest
  /-- An item, the word of the connective, and more items. -/
  | more {text middle behind rest : List Char} {content : Item} {contents : List Item}
      (stands : item text content middle) (word : DerivesWord kind.word middle behind)
      (further : DerivesRow kind item behind contents rest) :
    DerivesRow kind item text (content :: contents) rest

namespace DerivesRow

variable {contents front back : List Item}

theorem ne_nil (row : DerivesRow kind item text contents rest) : contents ≠ [] := by
  cases row <;> exact List.cons_ne_nil _ _

theorem append (row : DerivesRow kind item text front middle)
    (word : DerivesWord kind.word middle behind) (next : DerivesRow kind item behind back rest) :
    DerivesRow kind item text (front ++ back) rest := by
  induction row with
  | last stands => exact .more stands word next
  | more stands inner _ inductionHypothesis => exact .more stands inner (inductionHypothesis word)

/-- Where the last item of one row and the first item of another make up one item, the rows make
up one row. -/
theorem append_within {last first joined : Item}
    (join : ∀ ⦃text rest⦄, item text last middle → item behind first rest → item text joined rest)
    (row : DerivesRow kind item text (front ++ [last]) middle)
    (next : DerivesRow kind item behind (first :: back) rest) :
    DerivesRow kind item text (front ++ joined :: back) rest := by
  induction front generalizing text with
  | nil =>
    cases row with
    | last stands =>
      cases next with
      | last standsNext => exact .last (join stands standsNext)
      | more standsNext word further => exact .more (join stands standsNext) word further
    | more _ _ further => exact absurd rfl further.ne_nil
  | cons content front inductionHypothesis =>
    rw [List.cons_append] at row
    generalize contentsEq : front ++ [last] = contents at row
    cases row with
    | last _ => exact absurd contentsEq (List.append_ne_nil_of_right_ne_nil _ (by simp))
    | more stands word further =>
      exact .more stands word (inductionHypothesis (contentsEq ▸ further))

theorem beginsTight (itemTight : ∀ {text content rest}, item text content rest → BeginsTight text)
    (row : DerivesRow kind item text contents rest) : BeginsTight text := by
  cases row with
  | last stands => exact itemTight stands
  | more stands _ _ => exact itemTight stands

/-- Items can be exchanged for others one by one. -/
theorem exists_mapM {Other : Type} {otherItem : List Char → Other → List Char → Prop}
    {change : Other → Option Item}
    (exchange : ∀ {text content rest}, item text content rest →
      ∃ other, otherItem text other rest ∧ change other = some content)
    (row : DerivesRow kind item text contents rest) :
    ∃ others, DerivesRow kind otherItem text others rest ∧ others.mapM change = some contents := by
  induction row with
  | last stands =>
    obtain ⟨other, standsOther, changes⟩ := exchange stands
    exact ⟨[other], .last standsOther, by simp [changes]⟩
  | more stands word _ inductionHypothesis =>
    obtain ⟨other, standsOther, changes⟩ := exchange stands
    obtain ⟨others, further, changesFurther⟩ := inductionHypothesis
    exact ⟨other :: others, .more standsOther word further, by simp [changes, changesFurther]⟩

end DerivesRow

/-- Rows move where their items do. -/
theorem IsMovable.row (movable : IsMovable item) (kind : Connective) :
    IsMovable (DerivesRow kind item) := by
  intro text contents rest row
  induction row with
  | last stands => exact (movable stands).imp fun _ _ => .last
  | more stands word _ inductionHypothesis =>
    refine ((movable stands).trans (word.moves.trans inductionHypothesis)).imp ?_
    rintro _ _ ⟨_, stands, _, word, further⟩
    exact .more stands word further

/-- Rows take the spaces behind them where their items do. -/
theorem TakesSpaces.row (takes : TakesSpaces item) (kind : Connective) :
    TakesSpaces (DerivesRow kind item) := by
  intro text contents middle rest row spaces
  induction row with
  | last stands => exact .last (takes stands spaces)
  | more stands word _ inductionHypothesis =>
    exact .more stands word (inductionHypothesis spaces)

/-! ### No text has two rows -/

/-- Two rows up to where they end agree if their items do. -/
theorem DerivesRow.unique
    (itemTight : ∀ {text content rest}, item text content rest → BeginsTight text)
    (itemUnique : ∀ {text content other rest otherRest},
      item text content rest → (Level.operand kind).Settles rest →
        item text other otherRest → (Level.operand kind).Settles otherRest →
          content = other ∧ rest = otherRest)
    {contents others : List Item} {otherRest : List Char}
    (row : DerivesRow kind item text contents rest) (settles : (Level.chain kind).Settles rest)
    (otherRow : DerivesRow kind item text others otherRest)
    (otherSettles : (Level.chain kind).Settles otherRest) :
    contents = others ∧ rest = otherRest := by
  obtain ⟨ends, noWord⟩ := Level.settles_chain_iff.mp settles
  obtain ⟨otherEnds, noOtherWord⟩ := Level.settles_chain_iff.mp otherSettles
  induction row generalizing others with
  | last stands =>
    cases otherRow with
    | last standsOther =>
      obtain ⟨rfl, rfl⟩ := itemUnique stands ends standsOther otherEnds
      exact ⟨rfl, rfl⟩
    | more standsOther word _ =>
      obtain ⟨_, rfl⟩ := itemUnique stands ends standsOther word.settles
      exact absurd word (noWord _)
  | more stands word further inductionHypothesis =>
    cases otherRow with
    | last standsOther =>
      obtain ⟨_, rfl⟩ := itemUnique stands word.settles standsOther otherEnds
      exact absurd word (noOtherWord _)
    | more standsOther otherWord otherFurther =>
      obtain ⟨rfl, rfl⟩ := itemUnique stands word.settles standsOther otherWord.settles
      obtain rfl := word.unique (further.beginsTight itemTight) otherWord
        (otherFurther.beginsTight itemTight)
      obtain ⟨rfl, rfl⟩ := inductionHypothesis settles otherFurther ends noWord
      exact ⟨rfl, rfl⟩

/-! ### Chains are rows -/

/-- The tree of items that a connective joins from the left; without items there is none. -/
def joinAll (kind : Connective) : List (Tree Leaf) → Option (Tree Leaf)
  | [] => none
  | first :: others => some (others.foldl (.join kind) first)

theorem joinAll_append_singleton {trees : List (Tree Leaf)} {left : Tree Leaf}
    (joins : joinAll kind trees = some left) (right : Tree Leaf) :
    joinAll kind (trees ++ [right]) = some (.join kind left right) := by
  cases trees with
  | nil => cases joins
  | cons first others =>
    cases joins
    simp [joinAll]

theorem Derives.exists_row {tree : Tree Leaf}
    (derives : Derives relation (.chain kind) room text tree rest) :
    ∃ trees, DerivesRow kind (Derives relation (.operand kind) room) text trees rest ∧
      joinAll kind trees = some tree := by
  generalize levelEq : Level.chain kind = level at derives
  induction derives with
  | first operand _ =>
    cases levelEq
    exact ⟨_, .last operand, rfl⟩
  | join _ word operand chainHypothesis _ =>
    cases levelEq
    obtain ⟨trees, row, joins⟩ := chainHypothesis rfl
    exact ⟨_, row.append word (.last operand), joinAll_append_singleton joins _⟩
  | leaf _ => cases levelEq
  | group _ _ _ _ => cases levelEq
  | plain _ _ => cases levelEq
  | negate _ _ _ => cases levelEq

/-- A chain goes on with the items of a row. -/
theorem Derives.append_row {left : Tree Leaf} {trees : List (Tree Leaf)}
    (chain : Derives relation (.chain kind) room text left middle)
    (word : DerivesWord kind.word middle behind)
    (row : DerivesRow kind (Derives relation (.operand kind) room) behind trees rest) :
    Derives relation (.chain kind) room text (trees.foldl (.join kind) left) rest := by
  induction row generalizing left middle with
  | last stands => exact .join chain word stands
  | more stands inner _ inductionHypothesis =>
    exact inductionHypothesis (.join chain word stands) inner

theorem DerivesRow.exists_chain {trees : List (Tree Leaf)}
    (row : DerivesRow kind (Derives relation (.operand kind) room) text trees rest) :
    ∃ tree, Derives relation (.chain kind) room text tree rest ∧
      joinAll kind trees = some tree := by
  cases row with
  | last stands => exact ⟨_, .first stands, rfl⟩
  | more stands word further => exact ⟨_, (Derives.first stands).append_row word further, rfl⟩

/-! ### Operands of a query -/

/-- The text consists of groups that `or` joins, and each of these of operands that `and`
joins. -/
def DerivesOperands (text : List Char) (groups : List (List Term)) (rest : List Char) : Prop :=
  DerivesRow .or (DerivesRow .and (Derives DerivesValidAtom .unary depthLimit)) text groups rest

/-- The operands of a query, in their groups. -/
def HasOperands (query : String) (groups : List (List Term)) : Prop :=
  ∃ inside, Spaces (fold query.toList) inside ∧ DerivesOperands inside groups []

/-- The term of operands in their groups; there is none without groups or with an empty one. -/
def termOf (groups : List (List Term)) : Option Term :=
  (groups.mapM (joinAll .and)).bind (joinAll .or)

/-- Every term is derived from a row of rows, ... -/
theorem Derives.exists_operands {term : Term}
    (derives : Derives DerivesValidAtom (.chain .or) depthLimit text term rest) :
    ∃ groups, DerivesOperands text groups rest ∧ termOf groups = some term := by
  obtain ⟨trees, row, joins⟩ := derives.exists_row
  obtain ⟨groups, rows, maps⟩ := row.exists_mapM Derives.exists_row
  exact ⟨groups, rows, by rw [termOf, maps]; exact joins⟩

/-- ... and every row of rows has a term. -/
theorem DerivesOperands.exists_term {groups : List (List Term)}
    (operands : DerivesOperands text groups rest) :
    ∃ term, Derives DerivesValidAtom (.chain .or) depthLimit text term rest ∧
      termOf groups = some term := by
  have chains : ∃ trees, DerivesRow .or (Derives DerivesValidAtom (.chain .and) depthLimit)
      text trees rest ∧ groups.mapM (joinAll .and) = some trees := by
    unfold DerivesOperands at operands
    induction operands with
    | last stands =>
      obtain ⟨tree, chain, joins⟩ := stands.exists_chain
      exact ⟨[tree], .last chain, by simp [joins]⟩
    | more stands word _ inductionHypothesis =>
      obtain ⟨tree, chain, joins⟩ := stands.exists_chain
      obtain ⟨trees, row, maps⟩ := inductionHypothesis
      exact ⟨tree :: trees, .more chain word row, by simp [joins, maps]⟩
  obtain ⟨trees, row, maps⟩ := chains
  obtain ⟨term, derives, joins⟩ := row.exists_chain
  exact ⟨term, derives, by rw [termOf, maps]; exact joins⟩

theorem DerivesOperands.ne_nil {groups : List (List Term)}
    (operands : DerivesOperands text groups rest) : groups ≠ [] ∧ ∀ group ∈ groups, group ≠ [] := by
  refine ⟨DerivesRow.ne_nil operands, ?_⟩
  unfold DerivesOperands at operands
  induction operands with
  | last stands => exact List.forall_mem_singleton.mpr stands.ne_nil
  | more stands _ _ inductionHypothesis =>
    exact List.forall_mem_cons.mpr ⟨stands.ne_nil, inductionHypothesis⟩

theorem derivesUnary_beginsTight {term : Term}
    (derives : Derives DerivesValidAtom .unary room text term rest) : BeginsTight text :=
  derives.beginsTight beginsApart_atom

theorem DerivesOperands.beginsTight {groups : List (List Term)}
    (operands : DerivesOperands text groups rest) : BeginsTight text :=
  DerivesRow.beginsTight (DerivesRow.beginsTight derivesUnary_beginsTight) operands

theorem DerivesOperands.unique {groups others : List (List Term)} {otherRest : List Char}
    (operands : DerivesOperands text groups rest) (settles : (Level.chain .or).Settles rest)
    (otherOperands : DerivesOperands text others otherRest)
    (otherSettles : (Level.chain .or).Settles otherRest) : groups = others ∧ rest = otherRest :=
  DerivesRow.unique (DerivesRow.beginsTight derivesUnary_beginsTight)
    (DerivesRow.unique derivesUnary_beginsTight
      (Derives.unique beginsApart_atom isTidy_atom accepts_atom))
    operands settles otherOperands otherSettles

theorem HasOperands.unique {query : String} {groups others : List (List Term)}
    (operands : HasOperands query groups) (otherOperands : HasOperands query others) :
    groups = others := by
  obtain ⟨inside, spaces, rows⟩ := operands
  obtain ⟨otherInside, otherSpaces, otherRows⟩ := otherOperands
  obtain rfl := spaces.unique rows.beginsTight otherSpaces otherRows.beginsTight
  have settles : (Level.chain .or).Settles [] := Level.settles_of_head _ (by simp)
  exact (rows.unique settles otherRows settles).1

/-- A query is accepted as a term just when it has operands of which this is the term. -/
theorem parse_eq_ok_iff_hasOperands {query : String} {term : Term} :
    parse query = .ok term ↔ ∃ groups, HasOperands query groups ∧ termOf groups = some term := by
  rw [parse_eq_ok_iff, readTerm_eq_ok_iff]
  constructor
  · rintro ⟨inside, spaces, derives⟩
    obtain ⟨groups, operands, termEq⟩ := derives.exists_operands
    exact ⟨groups, ⟨inside, spaces, operands⟩, termEq⟩
  · rintro ⟨groups, ⟨inside, spaces, operands⟩, termEq⟩
    obtain ⟨found, derives, foundEq⟩ := operands.exists_term
    cases termEq.symm.trans foundEq
    exact ⟨inside, spaces, derives⟩

/-! ### Queries behind each other -/

/-- Two queries with a connective between them are folded as texts of their own. -/
theorem fold_join {kind : Connective} {separator : String}
    (spells : separator.toList = ' ' :: (kind.word.toList ++ [' '])) (query other : String) :
    fold (query ++ separator ++ other).toList =
      fold query.toList ++ ' ' :: (kind.word.toList ++ ' ' :: fold other.toList) := by
  have wordEq : fold kind.word.toList = kind.word.toList := by
    cases kind <;> exact fold_eq_self (by decide)
  have textEq : (query ++ separator ++ other).toList =
      query.toList ++ ' ' :: (kind.word.toList ++ ' ' :: other.toList) := by
    simp [spells]
  rw [textEq, fold_append_cons (isBreak_of_mem (by decide)),
    fold_append_cons (isBreak_of_mem (by decide)), wordEq]

theorem mayReplace_nil {character : Char} (ends : character = ' ' ∨ character = ')')
    (behind : List Char) : MayReplace (character :: behind) [] := by
  intro found begins
  cases begins
  exact Or.inr ends

theorem isMovable_operands : IsMovable DerivesOperands :=
  ((isMovable_validAtom.derives .unary depthLimit).row .and).row .or

theorem takesSpaces_operands : TakesSpaces DerivesOperands :=
  ((takesSpaces_validAtom.derives .unary depthLimit).row .and).row .or

/-- Before a connective, a query has the operands that it has by itself. -/
theorem HasOperands.before_word {query other : String} {groups others : List (List Term)}
    (operands : HasOperands query groups) (otherOperands : HasOperands other others)
    {separator : String} (spells : separator.toList = ' ' :: (kind.word.toList ++ [' '])) :
    ∃ inside middle behind, Spaces (fold (query ++ separator ++ other).toList) inside ∧
      DerivesOperands inside groups middle ∧ DerivesWord kind.word middle behind ∧
        DerivesOperands behind others [] := by
  obtain ⟨inside, ⟨count, textEq⟩, rows⟩ := operands
  obtain ⟨otherInside, otherSpaces, otherRows⟩ := otherOperands
  obtain ⟨lexeme, rfl, stands⟩ := isMovable_operands rows
  rw [fold_join spells]
  generalize fold other.toList = otherText at otherSpaces
  have may : MayReplace (' ' :: (kind.word.toList ++ ' ' :: otherText)) [] :=
    mayReplace_nil (Or.inl rfl) _
  refine ⟨_, _, otherInside, ⟨count, ?_⟩, takesSpaces_operands (stands _ may) (spaces_cons _), ?_,
    otherRows⟩
  · rw [textEq, List.append_nil, List.append_assoc]
  · exact ⟨_, rfl, endsWord_cons _, (spaces_cons _).trans otherSpaces⟩

/-- With `or` between two queries, their groups follow each other. -/
theorem HasOperands.or {query other : String} {groups others : List (List Term)}
    (operands : HasOperands query groups) (otherOperands : HasOperands other others) :
    HasOperands (query ++ " or " ++ other) (groups ++ others) := by
  obtain ⟨inside, _, _, spaces, rows, word, otherRows⟩ :=
    operands.before_word otherOperands (show " or ".toList = _ :: (Connective.or.word.toList ++ _)
      from by decide)
  exact ⟨inside, spaces, DerivesRow.append rows word otherRows⟩

/-- With `and` between two queries, the groups that meet become one. -/
theorem HasOperands.and {query other : String} {front back : List (List Term)}
    {last first : List Term} (operands : HasOperands query (front ++ [last]))
    (otherOperands : HasOperands other (first :: back)) :
    HasOperands (query ++ " and " ++ other) (front ++ (last ++ first) :: back) := by
  obtain ⟨inside, _, _, spaces, rows, word, otherRows⟩ :=
    operands.before_word otherOperands (show " and ".toList = _ :: (Connective.and.word.toList ++ _)
      from by decide)
  exact ⟨inside, spaces, DerivesRow.append_within
    (fun _ _ lastRow firstRow => lastRow.append word firstRow) rows otherRows⟩

/-! ### Open groups -/

/-- At some time while the query is read, the given number of groups is open. -/
def HasOpen (count : Nat) (query : String) : Prop :=
  ∃ before, before <+: uncappedEvents (fold query.toList) ∧ openGroups before = count

variable {Content : Type} {record before : List (Event Content)} {limit : Nat}

theorem openGroups_append_singleton (before : List (Event Content)) (event : Event Content) :
    openGroups (before ++ [event]) = Event.groupsAfter (openGroups before) event := by
  rw [openGroups, List.foldl_append]
  rfl

/-- A record below the limit never has more groups open than that. -/
theorem StaysShallow.openGroups_le (shallow : StaysShallow limit record)
    (within : before <+: record) : openGroups before ≤ limit := by
  induction before using List.reverseRecOn with
  | nil => exact Nat.zero_le limit
  | append_singleton front event inductionHypothesis =>
    have le := inductionHypothesis ((List.prefix_append front [event]).trans within)
    rw [openGroups_append_singleton]
    cases event with
    | opened place =>
      obtain ⟨behind, split⟩ := within
      exact shallow front place behind (by rw [← split, List.append_assoc]; rfl)
    | closed place => exact Nat.le_trans (Nat.sub_le _ 1) le
    | read content after => exact le

/-- A record that is below one limit, but not below the next smaller one, reaches the limit. -/
theorem StaysShallow.exists_openGroups (shallow : StaysShallow (limit + 1) record)
    (deep : ¬ StaysShallow limit record) :
    ∃ before, before <+: record ∧ openGroups before = limit + 1 := by
  refine Classical.byContradiction fun never => deep fun front place behind split => ?_
  have below := shallow front place behind split
  refine Nat.lt_of_le_of_ne (Nat.le_of_lt_succ below) fun reached => never ?_
  refine ⟨front ++ [.opened place], ⟨behind, by rw [split, List.append_assoc]; rfl⟩, ?_⟩
  rw [openGroups_append_singleton, reached]
  rfl

theorem derivesQuery_iff_staysShallow {term : Term} :
    DerivesQuery room text term ↔
      StaysShallow room (uncappedEvents text) ∧ readUncapped text = .ok term := by
  rw [← read_eq_ok_iff_staysShallow]
  exact (read_eq_ok_iff beginsApart_atom isTidy_atom accepts_atom).symm

/-- With room for one group more than there ever are, a query reaches this number just if it
needs all of the room. -/
theorem hasOpen_iff {query : String} {term : Term}
    (derives : DerivesQuery (room + 1) (fold query.toList) term) :
    HasOpen (room + 1) query ↔ ¬ DerivesQuery room (fold query.toList) term := by
  obtain ⟨shallow, reads⟩ := derivesQuery_iff_staysShallow.mp derives
  rw [derivesQuery_iff_staysShallow]
  constructor
  · rintro ⟨before, within, countEq⟩ ⟨shallower, _⟩
    have le := shallower.openGroups_le within
    omega
  · exact fun deep => shallow.exists_openGroups fun shallower => deep ⟨shallower, reads⟩

/-- A text that is read only with more room than the limit leaves opens a group too deep. -/
theorem exists_tooDeep {term : Term} (derives : DerivesQuery room text term)
    (deep : ∀ found, ¬ DerivesQuery depthLimit text found) :
    ∃ place : Cursor, readTerm text = .error (place.missing .shallowerNesting) := by
  obtain ⟨_, reads⟩ := derivesQuery_iff_staysShallow.mp derives
  have outcome := readTerm_eq_of_uncappedEvents text
  cases blamed : (uncappedEvents text).findSome? blameDepth with
  | none =>
    rw [blamed] at outcome
    exact absurd (readTerm_eq_ok_iff.mp (outcome.trans reads)) (deep term)
  | some failure =>
    rw [blamed] at outcome
    obtain ⟨place, _, rfl⟩ := isFirstTooDeep_of_blamed blamed
    exact ⟨place, outcome⟩

/-! ### Queries in brackets -/

/-- A query in brackets is a group, with room for one group more. -/
theorem DerivesQuery.group {term : Term} (derives : DerivesQuery room text term) :
    Derives DerivesValidAtom .primary (room + 1) ('(' :: (text ++ [')'])) term [] := by
  obtain ⟨inside, ⟨count, rfl⟩, derives⟩ := derives
  obtain ⟨lexeme, rfl, stands⟩ := isMovable_validAtom.derives _ _ derives
  refine .group ⟨_, rfl, count, ?_⟩ (stands [')'] (mayReplace_nil (Or.inr rfl) []))
    ⟨[], rfl, spaces_refl []⟩
  rw [List.append_nil, List.append_assoc]

/-- A group that is a query in brackets leaves the query room for one group less. -/
theorem DerivesQuery.of_group {larger : Nat} {term tree : Term}
    (derives : DerivesQuery larger text term)
    (primary : Derives DerivesValidAtom .primary room ('(' :: (text ++ [')'])) tree rest) :
    ∃ inner, room = inner + 1 ∧ DerivesQuery inner text term := by
  obtain ⟨inside, ⟨count, rfl⟩, derives⟩ := derives
  obtain ⟨lexeme, rfl, stands⟩ := isMovable_validAtom.derives _ _ derives
  have bracketed := stands [')'] (mayReplace_nil (Or.inr rfl) [])
  have settles : (Level.chain .or).Settles [')'] := Level.settles_of_head _ (by simp)
  cases primary with
  | leaf stands => exact absurd rfl (beginsApart_atom stands '(' (by decide))
  | @group inner _ start _ _ _ opens derivesInner closes =>
    obtain ⟨_, textEq, spaces⟩ := opens
    cases textEq
    obtain rfl : lexeme ++ [')'] = start := by
      refine Spaces.unique ⟨count, ?_⟩ (bracketed.beginsTight beginsApart_atom) spaces
        (derivesInner.beginsTight beginsApart_atom)
      rw [List.append_nil, List.append_assoc]
    obtain ⟨rfl, rfl⟩ := Derives.unique beginsApart_atom isTidy_atom accepts_atom
      (bracketed.of_le (Nat.le_max_left larger inner)) settles
      (derivesInner.of_le (Nat.le_max_right larger inner)) (closes.settles _)
    obtain ⟨front, frontEq, standsFront⟩ := isMovable_validAtom.derives _ _ derivesInner
    obtain rfl := List.append_cancel_right frontEq
    exact ⟨inner, rfl, _, ⟨count, rfl⟩, standsFront [] (by simp [MayReplace])⟩

/-- In front of a term stands a primary, perhaps behind a negation. -/
theorem Derives.exists_primary {level : Level} {tree : Tree Leaf}
    (derives : Derives relation level room text tree rest) :
    ∃ start inner behind, (start = text ∨ DerivesWord negationWord text start) ∧
      Derives relation .primary room start inner behind := by
  induction derives with
  | leaf stands => exact ⟨_, _, _, Or.inl rfl, .leaf stands⟩
  | group opens derives closes _ => exact ⟨_, _, _, Or.inl rfl, .group opens derives closes⟩
  | plain primary _ => exact ⟨_, _, _, Or.inl rfl, primary⟩
  | negate word primary _ => exact ⟨_, _, _, Or.inr word, primary⟩
  | first _ inductionHypothesis => exact inductionHypothesis
  | join _ _ _ chainHypothesis _ => exact chainHypothesis

/-- The text is a query in brackets, or the negation of one. -/
def Encloses (enclosed text : List Char) : Prop :=
  enclosed = '(' :: (text ++ [')']) ∨
    enclosed = negationWord.toList ++ ' ' :: '(' :: (text ++ [')'])

/-- Where an enclosed query is a term, it is a group. -/
theorem DerivesQuery.exists_group {enclosed : List Char} {found : Term}
    (derives : DerivesQuery room enclosed found) (encloses : Encloses enclosed text) :
    ∃ tree rest, Derives DerivesValidAtom .primary room ('(' :: (text ++ [')'])) tree rest := by
  obtain ⟨inside, spaces, derives⟩ := derives
  have tight := derives.beginsTight beginsApart_atom
  obtain ⟨start, tree, behind, front, primary⟩ := derives.exists_primary
  refine ⟨tree, behind, ?_⟩
  rcases encloses with rfl | rfl
  · obtain rfl := spaces.unique tight (spaces_refl _) (by simp [BeginsTight])
    rcases front with rfl | word
    · exact primary
    · cases word.head_eq (show negationWord.toList.head? = some 'n' from by decide)
  · obtain rfl := spaces.unique tight (spaces_refl _) (by simp [BeginsTight, negationWord])
    have negation : DerivesWord negationWord _ ('(' :: (text ++ [')'])) := derivesWord_cons _
    rcases front with rfl | word
    · exact absurd negation (primary.not_negation beginsApart_atom)
    · obtain rfl := word.unique (primary.beginsTight beginsApart_atom) negation
        (by simp [BeginsTight])
      exact primary

/-- A query that needs all of the room has none left for brackets around it. -/
theorem not_derivesQuery_of_encloses {enclosed : List Char} {term : Term}
    (derives : DerivesQuery (room + 1) text term) (deep : ¬ DerivesQuery room text term)
    (encloses : Encloses enclosed text) (found : Term) :
    ¬ DerivesQuery (room + 1) enclosed found := by
  intro derivesEnclosed
  obtain ⟨_, _, primary⟩ := derivesEnclosed.exists_group encloses
  obtain ⟨inner, roomEq, derivesInner⟩ := derives.of_group primary
  cases roomEq
  exact deep derivesInner

theorem fold_brackets (query : String) :
    fold ("(" ++ query ++ ")").toList = '(' :: (fold query.toList ++ [')']) := by
  have textEq : ("(" ++ query ++ ")").toList = '(' :: (query.toList ++ [')']) := by
    simp
  rw [textEq, fold_cons (isBreak_of_mem (by decide)),
    fold_append_cons (isBreak_of_mem (by decide))]
  rfl

theorem fold_negatedBrackets (query : String) :
    fold ("not (" ++ query ++ ")").toList =
      negationWord.toList ++ ' ' :: '(' :: (fold query.toList ++ [')']) := by
  have textEq : ("not (" ++ query ++ ")").toList =
      negationWord.toList ++ ' ' :: ("(" ++ query ++ ")").toList := by
    simp [negationWord]
  rw [textEq, fold_append_cons (isBreak_of_mem (by decide)), fold_brackets,
    fold_eq_self (show IsSmall negationWord.toList from by decide)]

/-! ### Queries put together -/

/-- A query without all of its groups open at a time is read in brackets as it is by itself. -/
theorem parse_enclosed {query : String} {term : Term} (accepted : parse query = .ok term)
    (shallow : ¬ HasOpen depthLimit query) :
    parse ("(" ++ query ++ ")") = .ok term ∧
      parse ("not (" ++ query ++ ")") = .ok (.negate term) := by
  rw [parse_eq_ok_iff, readTerm_eq_ok_iff] at accepted
  have fits : DerivesQuery 63 (fold query.toList) term :=
    Classical.byContradiction fun deep => shallow ((hasOpen_iff accepted).mpr deep)
  have group : Derives DerivesValidAtom .primary depthLimit _ term [] := fits.group
  rw [parse_eq_ok_iff, parse_eq_ok_iff, fold_brackets, fold_negatedBrackets]
  have negated := (Derives.negate (derivesWord_cons _) group).of_unary .or
  exact ⟨readTerm_eq_ok_iff.mpr ⟨_, spaces_refl _, group.of_primary _⟩,
    readTerm_eq_ok_iff.mpr ⟨_, spaces_refl _, negated⟩⟩

/-- A query with all of its groups open at a time opens one too many in brackets. -/
theorem parse_enclosed_of_hasOpen {query : String} {term : Term}
    (accepted : parse query = .ok term) (deep : HasOpen depthLimit query) :
    ∀ enclosed ∈ ["(" ++ query ++ ")", "not (" ++ query ++ ")"], ∃ position,
      parse enclosed =
        .error ⟨position, "shallower nesting", String.ofList (fold enclosed.toList)⟩ := by
  rw [parse_eq_ok_iff, readTerm_eq_ok_iff] at accepted
  have group := accepted.group
  have tooDeep := (hasOpen_iff accepted).mp deep
  have rejects : ∀ enclosed found, Encloses (fold enclosed.toList) (fold query.toList) →
      DerivesQuery (depthLimit + 1) (fold enclosed.toList) found → ∃ position,
        parse enclosed =
          .error ⟨position, "shallower nesting", String.ofList (fold enclosed.toList)⟩ := by
    intro enclosed found encloses derives
    obtain ⟨place, fails⟩ := exists_tooDeep derives
      (not_derivesQuery_of_encloses accepted tooDeep encloses)
    refine ⟨place.offset, ?_⟩
    show resultOf _ (readTerm _) = _
    rw [fails]
    rfl
  simp only [List.forall_mem_cons]
  refine ⟨rejects _ term (Or.inl (fold_brackets query)) ?_,
    rejects _ (.negate term) (Or.inr (fold_negatedBrackets query)) ?_, nofun⟩
  · rw [fold_brackets]
    exact ⟨_, spaces_refl _, group.of_primary _⟩
  · rw [fold_negatedBrackets]
    exact ⟨_, spaces_refl _, (Derives.negate (derivesWord_cons _) group).of_unary _⟩

/-- The query is accepted as the term, and the groups are its operands. -/
structure OperandsOf (query : String) (term : Term) (groups : List (List Term)) : Prop where
  /-- The query is accepted as the term. -/
  accepted : parse query = .ok term
  /-- The query consists of the operands. -/
  stand : HasOperands query groups
  /-- The query does not consist of others. -/
  unique : ∀ others, HasOperands query others → others = groups
  /-- There is a group. -/
  nonempty : groups ≠ []
  /-- There is an operand in every group. -/
  each_nonempty : ∀ group ∈ groups, group ≠ []
  /-- The operands make up the term from the left. -/
  term_eq : termOf groups = some term

theorem HasOperands.exists_term {query : String} {groups : List (List Term)}
    (operands : HasOperands query groups) : ∃ term, OperandsOf query term groups := by
  rcases operands with ⟨inside, spaces, rows⟩
  have operands : HasOperands query groups := ⟨inside, spaces, rows⟩
  obtain ⟨term, derives, termEq⟩ := rows.exists_term
  exact ⟨term, parse_eq_ok_iff_hasOperands.mpr ⟨groups, operands, termEq⟩, operands,
    fun others otherOperands => otherOperands.unique operands, rows.ne_nil.1, rows.ne_nil.2, termEq⟩

theorem exists_operandsOf {query : String} {term : Term} (accepted : parse query = .ok term) :
    ∃ groups, OperandsOf query term groups := by
  obtain ⟨groups, operands, termEq⟩ := parse_eq_ok_iff_hasOperands.mp accepted
  obtain ⟨found, operandsOf⟩ := operands.exists_term
  cases termEq.symm.trans operandsOf.term_eq
  exact ⟨groups, operandsOf⟩

/-- Every accepted query is made up of its operands. With `or` between two queries their groups
follow each other, and with `and` the groups that meet become one. A query stands in brackets,
negated or not, as it does by itself, unless 64 of its own groups are open at a time. -/
theorem parse_joined_and_enclosed (query other : String) (term otherTerm : Term)
    (accepted : parse query = .ok term) (otherAccepted : parse other = .ok otherTerm) :
    (∃ groups others, OperandsOf query term groups ∧ OperandsOf other otherTerm others ∧
      (∃ joined, OperandsOf (query ++ " or " ++ other) joined (groups ++ others)) ∧
      ∃ front last first back joined, groups = front ++ [last] ∧ others = first :: back ∧
        OperandsOf (query ++ " and " ++ other) joined (front ++ (last ++ first) :: back)) ∧
    (¬ HasOpen 64 query →
      parse ("(" ++ query ++ ")") = .ok term ∧
        parse ("not (" ++ query ++ ")") = .ok (.negate term)) ∧
    (HasOpen 64 query →
      ∀ enclosed ∈ ["(" ++ query ++ ")", "not (" ++ query ++ ")"], ∃ position,
        parse enclosed =
          .error ⟨position, "shallower nesting", String.ofList (fold enclosed.toList)⟩) := by
  refine ⟨?_, parse_enclosed accepted, parse_enclosed_of_hasOpen accepted⟩
  obtain ⟨groups, operands⟩ := exists_operandsOf accepted
  obtain ⟨others, otherOperands⟩ := exists_operandsOf otherAccepted
  refine ⟨groups, others, operands, otherOperands,
    (operands.stand.or otherOperands.stand).exists_term, ?_⟩
  obtain ⟨front, last, rfl⟩ : ∃ front last, groups = front ++ [last] :=
    ⟨_, _, (List.dropLast_concat_getLast operands.nonempty).symm⟩
  obtain ⟨first, back, rfl⟩ := List.exists_cons_of_ne_nil otherOperands.nonempty
  obtain ⟨joined, joinedOperands⟩ := (operands.stand.and otherOperands.stand).exists_term
  exact ⟨front, last, first, back, joined, rfl, rfl, joinedOperands⟩

/-- Whether 64 groups are open at a time can be computed from what is read with room for 63. -/
theorem hasOpen_iff_of_parse {query : String} {term : Term} (accepted : parse query = .ok term) :
    HasOpen 64 query ↔ (read (some 63) atom (fold query.toList)).toOption ≠ some term := by
  rw [parse_eq_ok_iff, readTerm_eq_ok_iff] at accepted
  have readEq : (read (some 63) atom (fold query.toList)).toOption = some term ↔
      DerivesQuery 63 (fold query.toList) term := by
    rw [DerivesQuery, ← read_eq_ok_iff beginsApart_atom isTidy_atom accepts_atom]
    cases read (some 63) atom (fold query.toList) <;> simp [Except.toOption]
  rw [Ne, readEq]
  exact hasOpen_iff accepted

/-- A page in 64 groups inside each other. -/
def deepQuery : String :=
  String.ofList (List.replicate 64 '(' ++ "type=page".toList ++ List.replicate 64 ')')

/-- Two queries with both connectives, and one with as many groups as may be open at a time. -/
theorem parse_joined_and_enclosed_instances :
    (∃ front last first back joined,
      OperandsOf "label=a or title=b" joined (front ++ [last]) ∧
      ∃ otherJoined, OperandsOf "type=page and space=c or parent=1" otherJoined (first :: back) ∧
      ∃ both, OperandsOf ("label=a or title=b" ++ " and " ++ "type=page and space=c or parent=1")
        both (front ++ (last ++ first) :: back)) ∧
    parse ("not (" ++ "label=a or title=b" ++ ")") = .ok (.negate
      (.or (Term.single .label .equals "a") (Term.single .title .equals "b"))) ∧
    ∃ position, parse ("(" ++ deepQuery ++ ")") = .error ⟨position, "shallower nesting",
      String.ofList (fold ("(" ++ deepQuery ++ ")").toList)⟩ := by
  have accepted : parse "label=a or title=b" =
      .ok (.or (Term.single .label .equals "a") (Term.single .title .equals "b")) :=
    parse_of_toOption (by decide +kernel)
  have otherAccepted : parse "type=page and space=c or parent=1" =
      .ok (.or (.and (Term.single .type .equals "page") (Term.single .space .equals "c"))
        (Term.single .parent .equals "1")) :=
    parse_of_toOption (by decide +kernel)
  have deepAccepted : parse deepQuery = .ok (Term.single .type .equals "page") :=
    parse_of_toOption (by decide +kernel)
  have shallow := mt (hasOpen_iff_of_parse accepted).mp (by decide +kernel)
  have deep := (hasOpen_iff_of_parse deepAccepted).mpr (by decide +kernel)
  obtain ⟨⟨_, _, operands, otherOperands, _, front, last, first, back, both, rfl, rfl, joined⟩,
    enclosed, _⟩ := parse_joined_and_enclosed _ _ _ _ accepted otherAccepted
  obtain ⟨_, _, tooDeep⟩ := parse_joined_and_enclosed _ _ _ _ deepAccepted accepted
  exact ⟨⟨front, last, first, back, _, operands, _, otherOperands, both, joined⟩,
    (enclosed shallow).2, tooDeep deep _ List.mem_cons_self⟩

end ContentQuery.Query
