/-
This file proves that what a piece of a query denotes does not depend on what stands behind it.
The grammar looks at no more than the first character there, and only to see that a word or a
run of characters has ended. A space and a closing bracket end both. So a piece may stand before
any other text that begins as the one behind it does, or with one of these two.

A tree is also the only one that the grammar derives from a text up to where the tree ends,
because it is the one that is read there.
-/

import ContentQuery.Proofs.Writing

namespace ContentQuery.Query

open Rule

variable {Leaf : Type} {relation : List Char → Leaf → List Char → Prop}
  {piece next : List Char → List Char → Prop} {text middle rest other : List Char}

/-! ### Pieces that stand elsewhere -/

/-- The other text begins as the rest does, or it begins with a space or a closing bracket. -/
def MayReplace (other rest : List Char) : Prop :=
  ∀ character ∈ other.head?, character ∈ rest.head? ∨ character = ' ' ∨ character = ')'

theorem mayReplace_cons (character : Char) (other rest : List Char) :
    MayReplace (character :: other) (character :: rest) :=
  fun _ begins => Or.inl begins

theorem MayReplace.append (may : MayReplace other rest) (front : List Char) :
    MayReplace (front ++ other) (front ++ rest) := by
  cases front with
  | nil => exact may
  | cons character front => exact mayReplace_cons character _ _

/-- What is asked of the first character behind a piece still holds of the other text, if it
holds of a space and of a closing bracket. -/
theorem MayReplace.forall_head (may : MayReplace other rest) {holds : Char → Prop}
    (space : holds ' ') (bracket : holds ')') (head : ∀ character ∈ rest.head?, holds character) :
    ∀ character ∈ other.head?, holds character := by
  intro character begins
  rcases may character begins with same | rfl | rfl
  · exact head character same
  · exact space
  · exact bracket

/-- A piece stands at the beginning of the text, and also before every text that may replace
the rest. -/
def Moves (piece : List Char → List Char → Prop) (text rest : List Char) : Prop :=
  ∃ lexeme, text = lexeme ++ rest ∧
    ∀ other, MayReplace other rest → piece (lexeme ++ other) other

theorem Moves.imp {weaker : List Char → List Char → Prop} (moves : Moves piece text rest)
    (implies : ∀ ⦃text rest⦄, piece text rest → weaker text rest) : Moves weaker text rest := by
  obtain ⟨lexeme, textEq, stands⟩ := moves
  exact ⟨lexeme, textEq, fun other may => implies (stands other may)⟩

/-- Two pieces in sequence move as one. -/
theorem Moves.trans (moves : Moves piece text middle) (movesNext : Moves next middle rest) :
    Moves (fun text rest => ∃ middle, piece text middle ∧ next middle rest) text rest := by
  obtain ⟨front, rfl, stands⟩ := moves
  obtain ⟨back, rfl, standsNext⟩ := movesNext
  refine ⟨front ++ back, (List.append_assoc front back rest).symm, fun other may => ?_⟩
  rw [List.append_assoc]
  exact ⟨back ++ other, stands _ (may.append back), standsNext other may⟩

/-! ### Words and brackets -/

theorem Spaces.moves (spaces : Spaces text rest) : Moves Spaces text rest := by
  obtain ⟨count, rfl⟩ := spaces
  exact ⟨List.replicate count ' ', rfl, fun _ _ => ⟨count, rfl⟩⟩

theorem EndsWord.replace (ends : EndsWord rest) (may : MayReplace other rest) : EndsWord other :=
  may.forall_head (by decide) (by decide) ends

theorem DerivesWord.moves {word : String} (derives : DerivesWord word text rest) :
    Moves (DerivesWord word) text rest := by
  obtain ⟨_, rfl, ends, count, rfl⟩ := derives
  refine ⟨word.toList ++ List.replicate count ' ', by rw [List.append_assoc], fun other may => ?_⟩
  rw [List.append_assoc]
  exact ⟨_, rfl, ends.replace (may.append _), count, rfl⟩

theorem DerivesBracket.moves {bracket : Char} (derives : DerivesBracket bracket text rest) :
    Moves (DerivesBracket bracket) text rest := by
  obtain ⟨_, rfl, count, rfl⟩ := derives
  exact ⟨bracket :: List.replicate count ' ', rfl, fun other _ => ⟨_, rfl, count, rfl⟩⟩

/-! ### Atoms -/

theorem DerivesField.moves {field : Field} (derives : DerivesField text field rest) :
    Moves (DerivesField · field ·) text rest := by
  obtain ⟨spelling, member, rfl⟩ := derives
  exact ⟨spelling.toList, rfl, fun _ _ => ⟨spelling, member, rfl⟩⟩

theorem DerivesOperator.moves {operator : Operator} (derives : DerivesOperator text operator rest) :
    Moves (DerivesOperator · operator ·) text rest := by
  cases derives with
  | comparison sign rest => exact ⟨sign.symbol.toList, rfl, fun other _ => .comparison sign other⟩
  | isIn ends => exact ⟨"in".toList, rfl, fun _ may => .isIn (ends.replace may)⟩
  | notIn spaces ends =>
    obtain ⟨count, rfl⟩ := spaces
    refine ⟨"not".toList ++ (List.replicate count ' ' ++ "in".toList), by simp, ?_⟩
    intro other may
    rw [List.append_assoc, List.append_assoc]
    exact .notIn ⟨count, rfl⟩ (ends.replace may)

theorem DerivesQuoted.moves {value : List Char} (derives : DerivesQuoted text value rest) :
    Moves (DerivesQuoted · value ·) text rest := by
  obtain ⟨isQuote, free⟩ := derives
  rename_i quote
  refine ⟨quote :: (value ++ [quote]), by simp, fun other _ => ?_⟩
  rw [List.cons_append, List.append_assoc]
  exact .between isQuote free

theorem DerivesRun.moves {stops value : List Char} (run : DerivesRun stops text value rest)
    (space : ' ' ∈ stops) (bracket : ')' ∈ stops) :
    Moves (DerivesRun stops · value ·) text rest :=
  ⟨value, run.text_eq, fun _ may =>
    ⟨rfl, run.nonempty, run.free, may.forall_head space bracket run.longest⟩⟩

theorem DerivesValue.moves {value : List Char} (derives : DerivesValue text value rest) :
    Moves (DerivesValue · value ·) text rest := by
  cases derives with
  | quoted between => exact between.moves.imp fun _ _ => .quoted
  | bare run => exact (run.moves (by decide) (by decide)).imp fun _ _ => .bare

theorem DerivesList.moves {values : List (List Char)} (derives : DerivesList text values rest) :
    Moves (DerivesList · values ·) text rest := by
  obtain ⟨free, items⟩ := derives
  rename_i content
  refine ⟨'(' :: (content ++ [')']), by simp, fun other _ => ?_⟩
  rw [List.cons_append, List.append_assoc]
  exact .brackets free items

theorem DerivesOperand.moves {field : Field} {operator : Operator} {atom : Atom}
    (derives : DerivesOperand field operator text atom rest) :
    Moves (DerivesOperand field operator · atom ·) text rest := by
  cases derives with
  | single derives => exact derives.moves.imp fun _ _ => .single
  | list derives => exact derives.moves.imp fun _ _ => .list

theorem DerivesAtom.moves {atom : Atom} (derives : DerivesAtom text atom rest) :
    Moves (DerivesAtom · atom ·) text rest := by
  obtain ⟨name, fieldSpaces, sign, operatorSpaces, operand, valueSpaces⟩ := derives
  refine (name.moves.trans (fieldSpaces.moves.trans (sign.moves.trans
    (operatorSpaces.moves.trans (operand.moves.trans valueSpaces.moves))))).imp ?_
  rintro _ _ ⟨_, name, _, fieldSpaces, _, sign, _, operatorSpaces, _, operand, valueSpaces⟩
  exact .parts name fieldSpaces sign operatorSpaces operand valueSpaces

/-! ### Terms -/

/-- Whatever denotes something moves. -/
def IsMovable (relation : List Char → Leaf → List Char → Prop) : Prop :=
  ∀ ⦃text content rest⦄, relation text content rest → Moves (relation · content ·) text rest

theorem isMovable_validAtom : IsMovable DerivesValidAtom :=
  fun _ _ _ stands => stands.1.moves.imp fun _ _ moved => ⟨moved, stands.2⟩

/-- Terms move where their leaves do. -/
theorem IsMovable.derives (movable : IsMovable relation) (level : Level) (room : Nat) :
    IsMovable (Derives relation level room) := by
  intro text tree rest derives
  induction derives with
  | leaf stands => exact (movable stands).imp fun _ _ => .leaf
  | group opens _ closes inductionHypothesis =>
    refine (opens.moves.trans (inductionHypothesis.trans closes.moves)).imp ?_
    rintro _ _ ⟨_, opens, _, derives, closes⟩
    exact .group opens derives closes
  | plain _ inductionHypothesis => exact inductionHypothesis.imp fun _ _ => .plain
  | negate word _ inductionHypothesis =>
    refine (word.moves.trans inductionHypothesis).imp ?_
    rintro _ _ ⟨_, word, derives⟩
    exact .negate word derives
  | first _ inductionHypothesis => exact inductionHypothesis.imp fun _ _ => .first
  | join _ word _ chainHypothesis operandHypothesis =>
    refine (chainHypothesis.trans (word.moves.trans operandHypothesis)).imp ?_
    rintro _ _ ⟨_, chain, _, word, derives⟩
    exact .join chain word derives

theorem Spaces.trans (spaces : Spaces text middle) (further : Spaces middle rest) :
    Spaces text rest := by
  obtain ⟨count, rfl⟩ := spaces
  obtain ⟨more, rfl⟩ := further
  exact ⟨count + more, by rw [← List.append_assoc, List.replicate_append_replicate]⟩

theorem DerivesBracket.skip_spaces {bracket : Char} (derives : DerivesBracket bracket text middle)
    (spaces : Spaces middle rest) : DerivesBracket bracket text rest := by
  obtain ⟨behind, textEq, front⟩ := derives
  exact ⟨behind, textEq, front.trans spaces⟩

/-- Spaces behind a text belong to it. -/
def TakesSpaces (relation : List Char → Leaf → List Char → Prop) : Prop :=
  ∀ ⦃text content middle rest⦄,
    relation text content middle → Spaces middle rest → relation text content rest

theorem takesSpaces_validAtom : TakesSpaces DerivesValidAtom := by
  rintro _ _ _ _ ⟨⟨name, fieldSpaces, sign, operatorSpaces, operand, valueSpaces⟩, valid⟩ spaces
  exact ⟨.parts name fieldSpaces sign operatorSpaces operand (valueSpaces.trans spaces), valid⟩

/-- Terms take the spaces behind them where their leaves do. -/
theorem TakesSpaces.derives (takes : TakesSpaces relation) (level : Level) (room : Nat) :
    TakesSpaces (Derives relation level room) := by
  intro text tree middle rest derives spaces
  induction derives with
  | leaf stands => exact .leaf (takes stands spaces)
  | group opens derives closes _ => exact .group opens derives (closes.skip_spaces spaces)
  | plain _ inductionHypothesis => exact .plain (inductionHypothesis spaces)
  | negate word _ inductionHypothesis => exact .negate word (inductionHypothesis spaces)
  | first _ inductionHypothesis => exact .first (inductionHypothesis spaces)
  | join chain word _ _ operandHypothesis => exact .join chain word (operandHypothesis spaces)

/-- More room does no harm. -/
theorem Derives.of_le {level : Level} {room larger : Nat} {tree : Tree Leaf}
    (derives : Derives relation level room text tree rest) (le : room ≤ larger) :
    Derives relation level larger text tree rest := by
  induction derives generalizing larger with
  | leaf stands => exact .leaf stands
  | group opens _ closes inductionHypothesis =>
    obtain ⟨inside, rfl⟩ : ∃ inside, larger = inside + 1 := ⟨larger - 1, by omega⟩
    exact .group opens (inductionHypothesis (by omega)) closes
  | plain _ inductionHypothesis => exact .plain (inductionHypothesis le)
  | negate word _ inductionHypothesis => exact .negate word (inductionHypothesis le)
  | first _ inductionHypothesis => exact .first (inductionHypothesis le)
  | join _ word _ chainHypothesis operandHypothesis =>
    exact .join (chainHypothesis le) word (operandHypothesis le)

/-! ### No text has two terms -/

/-- What a rule accepts is determined by the text. -/
theorem Rule.Accepts.unique {Value : Type} {rule : Rule Value}
    {relation : List Char → Value → List Char → Prop} (accepts : rule.Accepts relation)
    {value other : Value} {otherRest : List Char} (stands : relation text value rest)
    (standsOther : relation text other otherRest) : value = other ∧ rest = otherRest := by
  obtain ⟨after, reads, rfl⟩ := (accepts (.start text) value rest).mpr stands
  obtain ⟨last, readsOther, rfl⟩ := (accepts (.start text) other otherRest).mpr standsOther
  rw [reads] at readsOther
  cases readsOther
  exact ⟨rfl, rfl⟩

theorem Spaces.unique {other : List Char} (spaces : Spaces text rest) (tight : BeginsTight rest)
    (otherSpaces : Spaces text other) (otherTight : BeginsTight other) : rest = other :=
  (accepts_spaces.unique ⟨spaces, tight⟩ ⟨otherSpaces, otherTight⟩ :
    () = () ∧ rest = other).2

theorem DerivesWord.unique {word : String} {other : List Char}
    (derives : DerivesWord word text rest) (tight : BeginsTight rest)
    (otherDerives : DerivesWord word text other) (otherTight : BeginsTight other) :
    rest = other :=
  ((accepts_connective word).unique ⟨derives, tight⟩ ⟨otherDerives, otherTight⟩ :
    () = () ∧ rest = other).2

/-- At every level some rule reads whatever is derived up to an end of the term. -/
theorem exists_isComplete {leaf : Rule Leaf} (apart : BeginsApart relation) (tidy : leaf.IsTidy)
    (accepts : leaf.Accepts fun text content rest =>
      relation text content rest ∧ BeginsTight rest) (limit bound : Nat) (level : Level) :
    ∃ rule : Rule (Tree Leaf), rule.IsComplete relation limit (bound + 1) level := by
  have primaryTidy := isTidy_primaryOf (some limit) tidy
    (isTidy_termWithin (some limit) tidy bound)
  have unaryTidy := isTidy_unaryOf primaryTidy
  have termComplete : (termWithin (some limit) leaf bound).IsComplete relation limit bound
      (.chain .or) := isComplete_termWithin apart tidy accepts bound
  have primaryComplete := isComplete_primaryOf apart accepts termComplete
  have unaryComplete := isComplete_unaryOf apart primaryComplete
  have andComplete : (chain .and bound _).IsComplete relation limit (bound + 1) (.chain .and) :=
    isComplete_chain apart unaryTidy unaryComplete
  cases level with
  | primary => exact ⟨_, primaryComplete⟩
  | unary => exact ⟨_, unaryComplete⟩
  | chain kind =>
    cases kind with
    | and => exact ⟨_, andComplete⟩
    | or => exact ⟨_, isComplete_chain apart (isTidy_chain .and unaryTidy bound) andComplete⟩

/-- Two derivations at one level agree if both go up to where the term ends. -/
theorem Derives.unique {leaf : Rule Leaf} (apart : BeginsApart relation) (tidy : leaf.IsTidy)
    (accepts : leaf.Accepts fun text content rest =>
      relation text content rest ∧ BeginsTight rest)
    {level : Level} {room : Nat} {tree otherTree : Tree Leaf} {otherRest : List Char}
    (derives : Derives relation level room text tree rest) (settles : level.Settles rest)
    (otherDerives : Derives relation level room text otherTree otherRest)
    (otherSettles : level.Settles otherRest) : tree = otherTree ∧ rest = otherRest := by
  obtain ⟨rule, complete⟩ := exists_isComplete apart tidy accepts room text.length level
  have depthEq : (Cursor.start text).depth + room = room := Nat.zero_add room
  have short : (Cursor.start text).rest.length < text.length + 1 := Nat.lt_succ_self _
  obtain ⟨after, reads, rfl⟩ := complete depthEq short derives settles
  obtain ⟨last, readsOther, rfl⟩ := complete depthEq short otherDerives otherSettles
  rw [reads] at readsOther
  cases readsOther
  exact ⟨rfl, rfl⟩

end ContentQuery.Query
