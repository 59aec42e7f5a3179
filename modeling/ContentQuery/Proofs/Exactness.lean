/-
This file proves that terms are read exactly as the grammar derives them. What is read is
derived: by induction on the bound, a group is derived from the term in it, and a loop over
operands extends the chain that it has read. What is derived is read: by induction on the
derivation of a chain, the loop stands behind the chain with the chain as what it has joined,
and it stops where no connective follows.

Room and depth add up to the limit at every place, which makes the room of a derivation the
number of groups that may still be opened.
-/

import ContentQuery.Proofs.Recognition

namespace ContentQuery.Query

open Rule Text

variable {Leaf : Type} {relation : List Char → Leaf → List Char → Prop} {limit bound : Nat}

/-! ### What is read is derived -/

/-- Whatever the rule reads at a place is derived at the level, with the room that the limit
leaves at that depth. -/
def Rule.IsSound (relation : List Char → Leaf → List Char → Prop) (limit : Nat) (level : Level)
    (rule : Rule (Tree Leaf)) : Prop :=
  ∀ ⦃cursor after : Cursor⦄ ⦃tree : Tree Leaf⦄ ⦃room : Nat⦄, cursor.depth + room = limit →
    rule cursor = .ok (tree, after) → Derives relation level room cursor.rest tree after.rest

theorem isSound_groupOf {term : Rule (Tree Leaf)}
    (sound : term.IsSound relation limit (.chain .or)) :
    (groupOf (some limit) term).IsSound relation limit .primary := by
  intro cursor after tree room depthEq reads
  obtain ⟨_, inside, opens, readsNested⟩ := bind_eq_ok_iff.mp reads
  obtain ⟨shallow, last, readsInside, rfl⟩ := nested_eq_ok_iff.mp readsNested
  obtain ⟨inner, behind, readsTerm, readsClosing⟩ := bind_eq_ok_iff.mp readsInside
  obtain ⟨_, _, closes, same⟩ := bind_eq_ok_iff.mp readsClosing
  cases same
  obtain ⟨_, readsOpening⟩ := (isTidy_sign "(" .openingBracket).reads opens
  have depthInside := readsOpening.depth_eq
  have fits : ¬ limit ≤ inside.depth := by simpa using shallow
  obtain ⟨roomInside, rfl⟩ : ∃ roomInside, room = roomInside + 1 := ⟨room - 1, by omega⟩
  have depthNested : (inside.atDepth (inside.depth + 1)).depth + roomInside = limit := by
    show inside.depth + 1 + roomInside = limit
    omega
  have derives := sound depthNested readsTerm
  exact .group ((accepts_bracket '(' "(" _ (by decide)).sound opens).1 derives
    ((accepts_bracket ')' ")" _ (by decide)).sound closes).1

theorem isSound_primaryOf {leaf : Rule Leaf} {term : Rule (Tree Leaf)}
    (accepts : leaf.Accepts fun text content rest =>
      relation text content rest ∧ BeginsTight rest)
    (sound : term.IsSound relation limit (.chain .or)) :
    (primaryOf (some limit) leaf term).IsSound relation limit .primary := by
  intro cursor after tree room depthEq reads
  rcases orElse_eq_ok_iff.mp reads with readsLeaf | ⟨_, readsGroup⟩
  · obtain ⟨content, ⟨stands, _⟩, rfl⟩ := (accepts.map Tree.leaf).sound readsLeaf
    exact .leaf stands
  · exact isSound_groupOf sound depthEq readsGroup

theorem isSound_unaryOf {primary : Rule (Tree Leaf)}
    (sound : primary.IsSound relation limit .primary) :
    (unaryOf primary).IsSound relation limit .unary := by
  intro cursor after tree room depthEq reads
  obtain ⟨found, behind, attempts, readsBehind⟩ := bind_eq_ok_iff.mp reads
  rcases attempt_eq_ok_iff.mp attempts with ⟨_, rfl, word⟩ | ⟨_, rfl, rfl⟩
  · obtain ⟨operand, last, readsOperand, same⟩ := bind_eq_ok_iff.mp readsBehind
    cases same
    obtain ⟨_, readsWord⟩ := (isTidy_connective negationWord).reads word
    have depthBehind := readsWord.depth_eq
    exact .negate ((accepts_connective negationWord).sound word).1
      (sound (by omega) readsOperand)
  · exact .plain (sound depthEq readsBehind)

/-- The loop over operands extends the chain that it has read. -/
theorem derives_of_chainAfter {kind : Connective} {operand : Rule (Tree Leaf)}
    (sound : operand.IsSound relation limit (.operand kind)) (tidy : operand.IsTidy)
    {count room : Nat} {text : List Char} {left tree : Tree Leaf} {cursor after : Cursor}
    (depthEq : cursor.depth + room = limit)
    (chain : Derives relation (.chain kind) room text left cursor.rest)
    (reads : chainAfter kind operand count left cursor = .ok (tree, after)) :
    Derives relation (.chain kind) room text tree after.rest := by
  induction count generalizing left cursor with
  | zero =>
    cases reads
    exact chain
  | succ count inductionHypothesis =>
    obtain ⟨found, behind, attempts, readsBehind⟩ := bind_eq_ok_iff.mp reads
    rcases attempt_eq_ok_iff.mp attempts with ⟨_, rfl, word⟩ | ⟨_, rfl, rfl⟩
    · obtain ⟨right, last, readsOperand, readsMore⟩ := bind_eq_ok_iff.mp readsBehind
      obtain ⟨_, readsWord⟩ := (isTidy_connective kind.word).reads word
      obtain ⟨_, readsRight⟩ := tidy.reads readsOperand
      have depthBehind := readsWord.depth_eq
      have depthLast := readsRight.depth_eq
      refine inductionHypothesis (by omega) ?_ readsMore
      exact .join chain ((accepts_connective kind.word).sound word).1
        (sound (by omega) readsOperand)
    · cases readsBehind
      exact chain

theorem isSound_chain {kind : Connective} {operand : Rule (Tree Leaf)}
    (sound : operand.IsSound relation limit (.operand kind)) (tidy : operand.IsTidy)
    (count : Nat) : (chain kind count operand).IsSound relation limit (.chain kind) := by
  intro cursor after tree room depthEq reads
  obtain ⟨first, middle, readsFirst, reads⟩ := bind_eq_ok_iff.mp reads
  obtain ⟨_, readsOperand⟩ := tidy.reads readsFirst
  have depthMiddle := readsOperand.depth_eq
  exact derives_of_chainAfter sound tidy (by omega) (.first (sound depthEq readsFirst)) reads

theorem isSound_termWithin {leaf : Rule Leaf} (tidy : leaf.IsTidy)
    (accepts : leaf.Accepts fun text content rest =>
      relation text content rest ∧ BeginsTight rest) (bound : Nat) :
    (termWithin (some limit) leaf bound).IsSound relation limit (.chain .or) := by
  induction bound with
  | zero =>
    intro _ _ _ _ _ impossible
    cases impossible
  | succ bound inductionHypothesis =>
    have primaryTidy := isTidy_primaryOf (some limit) tidy
      (isTidy_termWithin (some limit) tidy bound)
    have unaryTidy := isTidy_unaryOf primaryTidy
    exact isSound_chain
      (isSound_chain (isSound_unaryOf (isSound_primaryOf accepts inductionHypothesis))
        unaryTidy bound)
      (isTidy_chain .and unaryTidy bound) bound

/-! ### What may stand behind a term -/

/-- The connectives that would extend a term of the level. -/
def Level.connectives : Level → List Connective
  | .primary => []
  | .unary => []
  | .chain .and => [.and]
  | .chain .or => [.and, .or]

/-- A term of the level ends before the rest: there is no space to be read, and no connective
that would extend the term. -/
def Level.Settles (level : Level) (rest : List Char) : Prop :=
  BeginsTight rest ∧ ∀ kind ∈ level.connectives, ∀ behind, ¬ DerivesWord kind.word rest behind

theorem Level.settles_chain_iff {kind : Connective} {rest : List Char} :
    (Level.chain kind).Settles rest ↔
      (Level.operand kind).Settles rest ∧ ∀ behind, ¬ DerivesWord kind.word rest behind := by
  cases kind <;> simp [Settles, connectives, operand, and_assoc]

theorem DerivesWord.head_eq {word : String} {text rest : List Char} {character : Char}
    (derives : DerivesWord word text rest) (begins : word.toList.head? = some character) :
    text.head? = some character := by
  obtain ⟨behind, rfl, _⟩ := derives
  rw [List.head?_append, begins]
  rfl

theorem head?_word (kind : Connective) :
    kind.word.toList.head? = some (match kind with | .and => 'a' | .or => 'o') := by
  cases kind <;> decide

/-- Where a connective stands, its left operand has ended. -/
theorem DerivesWord.settles {kind : Connective} {text rest : List Char}
    (word : DerivesWord kind.word text rest) : (Level.operand kind).Settles text := by
  have begins := word.head_eq (head?_word kind)
  refine ⟨?_, fun other member behind otherWord => ?_⟩
  · rw [BeginsTight, begins]
    cases kind <;> decide
  · have otherBegins := otherWord.head_eq (head?_word other)
    rw [begins] at otherBegins
    cases kind <;> cases other <;> simp_all [Level.operand, Level.connectives]

/-- Before a bracket and at the end of the text, every term has ended. -/
theorem Level.settles_of_head (level : Level) {rest : List Char}
    (ends : ∀ character ∈ rest.head?, character = ')') : level.Settles rest := by
  refine ⟨fun begins => ?_, fun kind _ behind word => ?_⟩
  · cases ends ' ' begins
  · have begins := word.head_eq (head?_word kind)
    have impossible := ends _ begins
    cases kind <;> cases impossible

theorem DerivesBracket.settles {rest behind : List Char} (level : Level)
    (closes : DerivesBracket ')' rest behind) : level.Settles rest := by
  obtain ⟨_, rfl, _⟩ := closes
  exact level.settles_of_head fun character same => (Option.some.inj same).symm

/-! ### What a term begins with -/

/-- No text of a leaf begins with a space, or as a group or a negation does. -/
def BeginsApart (relation : List Char → Leaf → List Char → Prop) : Prop :=
  ∀ {text content rest}, relation text content rest →
    ∀ character ∈ [' ', '(', 'n'], text.head? ≠ some character

theorem Derives.beginsTight {level : Level} {room : Nat} {text rest : List Char}
    {tree : Tree Leaf} (apart : BeginsApart relation)
    (derives : Derives relation level room text tree rest) : BeginsTight text := by
  induction derives with
  | leaf stands => exact apart stands ' ' (by decide)
  | group opens _ _ _ =>
    obtain ⟨_, rfl, _⟩ := opens
    simp [BeginsTight]
  | plain _ inductionHypothesis => exact inductionHypothesis
  | negate word _ _ =>
    rw [BeginsTight, word.head_eq (show negationWord.toList.head? = some 'n' from by decide)]
    decide
  | first _ inductionHypothesis => exact inductionHypothesis
  | join _ _ _ inductionHypothesis _ => exact inductionHypothesis

/-- A primary is not taken for a negation. -/
theorem Derives.not_negation {room : Nat} {text rest behind : List Char} {tree : Tree Leaf}
    (apart : BeginsApart relation) (derives : Derives relation .primary room text tree rest) :
    ¬ DerivesWord negationWord text behind := by
  intro word
  have begins := word.head_eq (show negationWord.toList.head? = some 'n' from by decide)
  cases derives with
  | leaf stands => exact apart stands 'n' (by decide) begins
  | group opens _ _ =>
    obtain ⟨_, rfl, _⟩ := opens
    cases begins

/-! ### What is derived is read -/

/-- Where the level derives a tree of a text that is shorter than the bound, and the term ends
there, the rule reads the tree. -/
def Rule.IsComplete (relation : List Char → Leaf → List Char → Prop) (limit bound : Nat)
    (level : Level) (rule : Rule (Tree Leaf)) : Prop :=
  ∀ ⦃cursor : Cursor⦄ ⦃tree : Tree Leaf⦄ ⦃rest : List Char⦄ ⦃room : Nat⦄,
    cursor.depth + room = limit → cursor.rest.length < bound →
      Derives relation level room cursor.rest tree rest → level.Settles rest →
        ∃ after, rule cursor = .ok (tree, after) ∧ after.rest = rest

/-- A group is read where it is derived. -/
theorem groupOf_of_derives {term : Rule (Tree Leaf)} (apart : BeginsApart relation)
    (complete : term.IsComplete relation limit bound (.chain .or)) {cursor : Cursor}
    {tree : Tree Leaf} {inside inner rest : List Char} {room : Nat}
    (depthEq : cursor.depth + (room + 1) = limit) (short : cursor.rest.length < bound + 1)
    (opens : DerivesBracket '(' cursor.rest inside)
    (derives : Derives relation (.chain .or) room inside tree inner)
    (closes : DerivesBracket ')' inner rest) (tight : BeginsTight rest) :
    ∃ after, groupOf (some limit) term cursor = .ok (tree, after) ∧ after.rest = rest := by
  obtain ⟨place, readsOpening, rfl⟩ := (accepts_bracket '(' "(" .openingBracket
    (by decide) cursor () _).mpr ⟨opens, derives.beginsTight apart⟩
  obtain ⟨_, opening⟩ := (isTidy_sign "(" .openingBracket).reads readsOpening
  have depthPlace := opening.depth_eq
  have shorter := (progresses_literal (by decide)).token readsOpening
  have depthNested : (place.atDepth (place.depth + 1)).depth + room = limit := by
    show place.depth + 1 + room = limit
    omega
  have shortNested : (place.atDepth (place.depth + 1)).rest.length < bound := by
    show place.rest.length < bound
    omega
  obtain ⟨last, readsTerm, rfl⟩ := complete depthNested shortNested derives (closes.settles _)
  obtain ⟨behind, readsClosing, rfl⟩ := (accepts_bracket ')' ")" .closingBracket
    (by decide) last () _).mpr ⟨closes, tight⟩
  have shallow : ¬ limit ≤ place.depth := by omega
  refine ⟨behind.atDepth place.depth, bind_eq_ok_iff.mpr ⟨(), place, readsOpening, ?_⟩, rfl⟩
  refine nested_eq_ok_iff.mpr ⟨by simpa using shallow, behind, ?_, rfl⟩
  exact bind_eq_ok_iff.mpr ⟨tree, last, readsTerm,
    bind_eq_ok_iff.mpr ⟨(), behind, readsClosing, rfl⟩⟩

theorem isComplete_primaryOf {leaf : Rule Leaf} {term : Rule (Tree Leaf)}
    (apart : BeginsApart relation)
    (accepts : leaf.Accepts fun text content rest =>
      relation text content rest ∧ BeginsTight rest)
    (complete : term.IsComplete relation limit bound (.chain .or)) :
    (primaryOf (some limit) leaf term).IsComplete relation limit (bound + 1) .primary := by
  intro cursor tree rest room depthEq short derives settles
  generalize textEq : cursor.rest = text at derives
  cases derives with
  | leaf stands =>
    subst textEq
    obtain ⟨after, reads, restEq⟩ := (accepts cursor _ rest).mpr ⟨stands, settles.1⟩
    refine ⟨after, orElse_eq_ok_iff.mpr (Or.inl ?_), restEq⟩
    exact bind_eq_ok_iff.mpr ⟨_, after, reads, rfl⟩
  | group opens derives closes =>
    subst textEq
    have noLeaf : ∃ failure, (Tree.leaf <$> leaf) cursor = .error failure := by
      refine (accepts.map Tree.leaf).error_iff.mpr ?_
      rintro _ _ ⟨content, ⟨stands, _⟩, _⟩
      obtain ⟨_, textEq, _⟩ := opens
      exact apart stands '(' (by decide) (by rw [textEq]; rfl)
    obtain ⟨after, reads, restEq⟩ :=
      groupOf_of_derives apart complete depthEq short opens derives closes settles.1
    exact ⟨after, orElse_eq_ok_iff.mpr (Or.inr ⟨noLeaf, reads⟩), restEq⟩

theorem isComplete_unaryOf {primary : Rule (Tree Leaf)} (apart : BeginsApart relation)
    (complete : primary.IsComplete relation limit bound .primary) :
    (unaryOf primary).IsComplete relation limit bound .unary := by
  intro cursor tree rest room depthEq short derives settles
  have primarySettles : Level.primary.Settles rest := ⟨settles.1, by simp [Level.connectives]⟩
  generalize textEq : cursor.rest = text at derives
  cases derives with
  | plain derives =>
    subst textEq
    obtain ⟨failure, noWord⟩ := (accepts_connective negationWord).error_iff.mpr
      fun _ behind word => derives.not_negation apart word.1
    obtain ⟨after, reads, restEq⟩ := complete depthEq short derives primarySettles
    exact ⟨after, (unaryOf_of_error noWord).trans reads, restEq⟩
  | negate word derives =>
    subst textEq
    obtain ⟨place, readsWord, rfl⟩ := (accepts_connective negationWord cursor () _).mpr
      ⟨word, derives.beginsTight apart⟩
    obtain ⟨_, behindWord⟩ := (isTidy_connective negationWord).reads readsWord
    have depthPlace := behindWord.depth_eq
    have shorter := behindWord.length_eq
    obtain ⟨after, reads, restEq⟩ := complete (by omega) (by omega) derives primarySettles
    exact ⟨after, (unaryOf_of_ok readsWord).trans (bind_ok reads), restEq⟩

/-- Behind a chain that is derived, the loop stands with the chain as what it has joined, and
may still read as many operands as there are characters left. -/
theorem chain_eq_chainAfter {kind : Connective} {operand : Rule (Tree Leaf)}
    (apart : BeginsApart relation) (tidy : operand.IsTidy)
    (complete : operand.IsComplete relation limit (bound + 1) (.operand kind))
    {cursor : Cursor} {tree : Tree Leaf} {rest : List Char} {room : Nat}
    (depthEq : cursor.depth + room = limit) (short : cursor.rest.length < bound + 1)
    (derives : Derives relation (.chain kind) room cursor.rest tree rest)
    (settles : (Level.operand kind).Settles rest) :
    ∃ after lexeme count, cursor.Reads lexeme after ∧ after.rest = rest ∧
      after.rest.length ≤ count ∧
      chain kind bound operand cursor = chainAfter kind operand count tree after := by
  generalize levelEq : Level.chain kind = level at derives
  generalize textEq : cursor.rest = text at derives
  induction derives with
  | first derives _ =>
    cases levelEq
    subst textEq
    obtain ⟨after, reads, restEq⟩ := complete depthEq short derives settles
    obtain ⟨lexeme, behind⟩ := tidy.reads reads
    have shorter := behind.length_eq
    exact ⟨after, lexeme, bound, behind, restEq, by omega, bind_ok reads⟩
  | join _ word derives inductionHypothesis _ =>
    cases levelEq
    obtain ⟨middle, front, count, toMiddle, rfl, enough, chainEq⟩ :=
      inductionHypothesis depthEq word.settles rfl textEq
    obtain ⟨place, readsWord, rfl⟩ := (accepts_connective kind.word middle () _).mpr
      ⟨word, derives.beginsTight apart⟩
    obtain ⟨spelling, toPlace⟩ := (isTidy_connective kind.word).reads readsWord
    have depthMiddle := toMiddle.depth_eq
    have depthPlace := toPlace.depth_eq
    have shorterMiddle := toMiddle.length_eq
    have shorterPlace := progresses_connective (word_ne_nil kind) readsWord
    obtain ⟨after, readsRight, rfl⟩ := complete (by omega) (by omega) derives settles
    obtain ⟨back, toAfter⟩ := tidy.reads readsRight
    have shorterAfter := toAfter.length_eq
    obtain ⟨count, rfl⟩ : ∃ left, count = left + 1 := ⟨count - 1, by omega⟩
    exact ⟨after, front ++ (spelling ++ back), count, toMiddle.trans (toPlace.trans toAfter), rfl,
      by omega, chainEq.trans ((chainAfter_of_ok readsWord).trans (bind_ok readsRight))⟩
  | leaf _ => cases levelEq
  | group _ _ _ _ => cases levelEq
  | plain _ _ => cases levelEq
  | negate _ _ _ => cases levelEq

theorem isComplete_chain {kind : Connective} {operand : Rule (Tree Leaf)}
    (apart : BeginsApart relation) (tidy : operand.IsTidy)
    (complete : operand.IsComplete relation limit (bound + 1) (.operand kind)) :
    (chain kind bound operand).IsComplete relation limit (bound + 1) (.chain kind) := by
  intro cursor tree rest room depthEq short derives settles
  obtain ⟨operandSettles, noWord⟩ := Level.settles_chain_iff.mp settles
  obtain ⟨after, lexeme, count, _, rfl, _, chainEq⟩ :=
    chain_eq_chainAfter apart tidy complete depthEq short derives operandSettles
  obtain ⟨failure, fails⟩ := (accepts_connective kind.word).error_iff.mpr
    fun _ behind word => noWord behind word.1
  exact ⟨after, chainEq.trans (chainAfter_of_error fails), rfl⟩

theorem isComplete_termWithin {leaf : Rule Leaf} (apart : BeginsApart relation)
    (tidy : leaf.IsTidy)
    (accepts : leaf.Accepts fun text content rest =>
      relation text content rest ∧ BeginsTight rest) (bound : Nat) :
    (termWithin (some limit) leaf bound).IsComplete relation limit bound (.chain .or) := by
  induction bound with
  | zero =>
    intro cursor _ _ _ _ impossible
    exact absurd impossible (Nat.not_lt_zero _)
  | succ bound inductionHypothesis =>
    have primaryTidy := isTidy_primaryOf (some limit) tidy
      (isTidy_termWithin (some limit) tidy bound)
    have unaryTidy := isTidy_unaryOf primaryTidy
    have primaryComplete := isComplete_primaryOf apart accepts inductionHypothesis
    exact isComplete_chain apart (isTidy_chain .and unaryTidy bound)
      (isComplete_chain apart unaryTidy (isComplete_unaryOf apart primaryComplete))

/-! ### Whole texts -/

/-- A whole text is read as a tree just where the grammar derives it behind some spaces. -/
theorem read_eq_ok_iff {leaf : Rule Leaf} (apart : BeginsApart relation) (tidy : leaf.IsTidy)
    (accepts : leaf.Accepts fun text content rest =>
      relation text content rest ∧ BeginsTight rest) {text : List Char} {tree : Tree Leaf} :
    read (some limit) leaf text = .ok tree ↔
      ∃ inside, Spaces text inside ∧ Derives relation (.chain .or) limit inside tree [] := by
  have readEq : read (some limit) leaf text = .ok tree ↔
      ∃ after, whole (some limit) leaf (.start text) = .ok (tree, after) := by
    unfold read
    cases whole (some limit) leaf (.start text) with
    | ok found =>
      obtain ⟨foundTree, after⟩ := found
      simp
    | error failure => simp
  unfold whole at readEq
  simp only [bind_eq_ok_iff, endOfText_eq_ok_iff, pure_apply] at readEq
  rw [readEq]
  constructor
  · rintro ⟨_, _, inside, skips, found, last, reads, _, _, ⟨ends, rfl⟩, same⟩
    cases same
    obtain ⟨_, behind⟩ := isTidy_spaces.reads skips
    have depthInside : inside.depth + limit = limit := by
      rw [behind.depth_eq]
      exact Nat.zero_add limit
    refine ⟨inside.rest, (accepts_spaces.sound skips).1, ?_⟩
    rw [← ends]
    exact isSound_termWithin tidy accepts _ depthInside reads
  · rintro ⟨insideText, spaces, derives⟩
    obtain ⟨inside, skips, rfl⟩ := (accepts_spaces (.start text) () _).mpr
      ⟨spaces, derives.beginsTight apart⟩
    obtain ⟨_, behind⟩ := isTidy_spaces.reads skips
    have depthInside : inside.depth + limit = limit := by
      rw [behind.depth_eq]
      exact Nat.zero_add limit
    obtain ⟨last, reads, ends⟩ := isComplete_termWithin apart tidy accepts _ depthInside
      (Nat.lt_succ_self _) derives (Level.settles_of_head _ (by simp))
    exact ⟨last, (), inside, skips, tree, last, reads, (), last, ⟨ends, rfl⟩, rfl⟩

theorem beginsApart_wellFormedAtom : BeginsApart DerivesAtom := by
  have apart : ∀ initial ∈ ['a', 'c', 'l', 'p', 's', 't'], ∀ character ∈ [' ', '(', 'n'],
      some initial ≠ some character := by simp
  rintro text content rest ⟨name, _⟩ character member
  obtain ⟨initial, initialMember, begins⟩ := name.head_mem
  rw [begins]
  exact apart initial initialMember character member

theorem beginsApart_atom : BeginsApart DerivesValidAtom :=
  fun stands => beginsApart_wellFormedAtom stands.1

/-- A query is accepted when its folded text is read. -/
theorem parse_eq_ok_iff {query : String} {term : Term} :
    parse query = .ok term ↔ readTerm (fold query.toList) = .ok term := by
  show resultOf _ (readTerm (fold query.toList)) = .ok term ↔ _
  cases readTerm (fold query.toList) with
  | ok found =>
    constructor
    · intro same
      cases same
      rfl
    · intro same
      cases same
      rfl
  | error failure =>
    constructor
    · intro impossible
      cases impossible
    · intro impossible
      cases impossible

/-- A folded text is read as a term exactly when the grammar derives the term from it with room
for as many groups inside each other as may be open. -/
theorem readTerm_eq_ok_iff {text : List Char} {term : Term} :
    readTerm text = .ok term ↔ DerivesQuery depthLimit text term :=
  read_eq_ok_iff beginsApart_atom isTidy_atom accepts_atom

/-- A query is accepted as a term exactly when the grammar derives the term from the folded
query with room for 64 groups inside each other. -/
theorem parse_eq_ok_iff_derivesQuery (query : String) (term : Term) :
    parse query = .ok term ↔ DerivesQuery 64 (fold query.toList) term :=
  parse_eq_ok_iff.trans readTerm_eq_ok_iff

end ContentQuery.Query
