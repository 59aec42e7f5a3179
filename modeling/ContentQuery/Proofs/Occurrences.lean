/-
This file says where a piece of a query stands. A derivation with a hole is a derivation of all
but one piece of a text: the piece goes from a spot to what is behind it, and what the text
denotes is a function of what the piece denotes. Filling the hole gives a derivation of the whole
text, and every leaf of a derivation fills such a hole.

Nothing in front of a hole in a term sees more of it than its first character, so another text
may take its place. In a list this holds of the items in front only if each of them ends in front
of the hole by itself, since an item that begins with a quote searches all of the list for the
closing one.
-/

import ContentQuery.Proofs.Accepted
import ContentQuery.Proofs.Surroundings

namespace ContentQuery.Query

variable {Leaf : Type} {relation : List Char → Leaf → List Char → Prop}
  {spot behind text rest : List Char}

/-! ### Terms with a hole -/

/-- A term with a hole for a leaf that stands at the spot. -/
inductive DerivesAround (leaf : List Char → Leaf → List Char → Prop) (spot behind : List Char) :
    Level → Nat → List Char → (Leaf → Tree Leaf) → List Char → Prop where
  /-- Nothing but the hole. -/
  | leaf {room : Nat} : DerivesAround leaf spot behind .primary room spot .leaf behind
  /-- A term in brackets. -/
  | group {room : Nat} {text inside inner rest : List Char} {build : Leaf → Tree Leaf}
      (opens : DerivesBracket '(' text inside)
      (around : DerivesAround leaf spot behind (.chain .or) room inside build inner)
      (closes : DerivesBracket ')' inner rest) :
    DerivesAround leaf spot behind .primary (room + 1) text build rest
  /-- A primary that is not negated. -/
  | plain {room : Nat} {text rest : List Char} {build : Leaf → Tree Leaf}
      (around : DerivesAround leaf spot behind .primary room text build rest) :
    DerivesAround leaf spot behind .unary room text build rest
  /-- A negated primary. -/
  | negate {room : Nat} {text start rest : List Char} {build : Leaf → Tree Leaf}
      (word : DerivesWord negationWord text start)
      (around : DerivesAround leaf spot behind .primary room start build rest) :
    DerivesAround leaf spot behind .unary room text (fun content => .negate (build content)) rest
  /-- The first operand of a chain. -/
  | first {kind : Connective} {room : Nat} {text rest : List Char} {build : Leaf → Tree Leaf}
      (around : DerivesAround leaf spot behind (.operand kind) room text build rest) :
    DerivesAround leaf spot behind (.chain kind) room text build rest
  /-- A chain with the hole in front of its last operand. -/
  | left {kind : Connective} {room : Nat} {text middle start rest : List Char}
      {build : Leaf → Tree Leaf} {right : Tree Leaf}
      (around : DerivesAround leaf spot behind (.chain kind) room text build middle)
      (word : DerivesWord kind.word middle start)
      (operand : Derives leaf (.operand kind) room start right rest) :
    DerivesAround leaf spot behind (.chain kind) room text
      (fun content => .join kind (build content) right) rest
  /-- A chain with the hole in its last operand. -/
  | right {kind : Connective} {room : Nat} {text middle start rest : List Char}
      {build : Leaf → Tree Leaf} {left : Tree Leaf}
      (chain : Derives leaf (.chain kind) room text left middle)
      (word : DerivesWord kind.word middle start)
      (around : DerivesAround leaf spot behind (.operand kind) room start build rest) :
    DerivesAround leaf spot behind (.chain kind) room text
      (fun content => .join kind left (build content)) rest

namespace DerivesAround

variable {level : Level} {room : Nat} {build : Leaf → Tree Leaf}

/-- A leaf in the hole makes a term. -/
theorem fill (around : DerivesAround relation spot behind level room text build rest)
    {content : Leaf} (stands : relation spot content behind) :
    Derives relation level room text (build content) rest := by
  induction around with
  | leaf => exact .leaf stands
  | group opens _ closes inductionHypothesis => exact .group opens inductionHypothesis closes
  | plain _ inductionHypothesis => exact .plain inductionHypothesis
  | negate word _ inductionHypothesis => exact .negate word inductionHypothesis
  | first _ inductionHypothesis => exact .first inductionHypothesis
  | left _ word operand inductionHypothesis => exact .join inductionHypothesis word operand
  | right chain word _ inductionHypothesis => exact .join chain word inductionHypothesis

/-- The text in front of the hole stands before any other text that may replace the one from the
spot on. -/
theorem replace (movable : IsMovable relation)
    (around : DerivesAround relation spot behind level room text build rest) :
    ∃ front, text = front ++ spot ∧ ∀ other, MayReplace other spot →
      DerivesAround relation other behind level room (front ++ other) build rest := by
  induction around with
  | leaf => exact ⟨[], rfl, fun _ _ => .leaf⟩
  | group opens _ closes inductionHypothesis =>
    obtain ⟨front, rfl, stands⟩ := inductionHypothesis
    obtain ⟨opening, rfl, opensBefore⟩ := opens.moves
    refine ⟨opening ++ front, (List.append_assoc _ _ _).symm, fun other may => ?_⟩
    rw [List.append_assoc]
    exact .group (opensBefore _ (may.append front)) (stands other may) closes
  | plain _ inductionHypothesis =>
    obtain ⟨front, rfl, stands⟩ := inductionHypothesis
    exact ⟨front, rfl, fun other may => .plain (stands other may)⟩
  | negate word _ inductionHypothesis =>
    obtain ⟨front, rfl, stands⟩ := inductionHypothesis
    obtain ⟨lexeme, rfl, wordBefore⟩ := word.moves
    refine ⟨lexeme ++ front, (List.append_assoc _ _ _).symm, fun other may => ?_⟩
    rw [List.append_assoc]
    exact .negate (wordBefore _ (may.append front)) (stands other may)
  | first _ inductionHypothesis =>
    obtain ⟨front, rfl, stands⟩ := inductionHypothesis
    exact ⟨front, rfl, fun other may => .first (stands other may)⟩
  | left _ word operand inductionHypothesis =>
    obtain ⟨front, rfl, stands⟩ := inductionHypothesis
    exact ⟨front, rfl, fun other may => .left (stands other may) word operand⟩
  | right chain word _ inductionHypothesis =>
    obtain ⟨front, rfl, stands⟩ := inductionHypothesis
    have moves := (movable.derives _ _ chain).trans word.moves
    obtain ⟨lexeme, rfl, before⟩ := moves
    refine ⟨lexeme ++ front, (List.append_assoc _ _ _).symm, fun other may => ?_⟩
    obtain ⟨_, chain, word⟩ := before _ (may.append front)
    rw [List.append_assoc]
    exact .right chain word (stands other may)

end DerivesAround

/-- Every leaf of a term fills a hole in it. -/
theorem Derives.exists_around {level : Level} {room : Nat} {tree : Tree Leaf}
    (derives : Derives relation level room text tree rest) {content : Leaf}
    (member : content ∈ tree.leaves) :
    ∃ spot behind build, DerivesAround relation spot behind level room text build rest ∧
      relation spot content behind ∧ build content = tree := by
  induction derives with
  | leaf stands =>
    cases List.mem_singleton.mp member
    exact ⟨_, _, _, .leaf, stands, rfl⟩
  | group opens _ closes inductionHypothesis =>
    obtain ⟨spot, behind, build, around, stands, rfl⟩ := inductionHypothesis member
    exact ⟨spot, behind, build, .group opens around closes, stands, rfl⟩
  | plain _ inductionHypothesis =>
    obtain ⟨spot, behind, build, around, stands, rfl⟩ := inductionHypothesis member
    exact ⟨spot, behind, build, .plain around, stands, rfl⟩
  | negate word _ inductionHypothesis =>
    obtain ⟨spot, behind, build, around, stands, rfl⟩ := inductionHypothesis member
    exact ⟨spot, behind, _, .negate word around, stands, rfl⟩
  | first _ inductionHypothesis =>
    obtain ⟨spot, behind, build, around, stands, rfl⟩ := inductionHypothesis member
    exact ⟨spot, behind, build, .first around, stands, rfl⟩
  | join chain word operand chainHypothesis operandHypothesis =>
    rcases List.mem_append.mp member with inChain | inOperand
    · obtain ⟨spot, behind, build, around, stands, rfl⟩ := chainHypothesis inChain
      exact ⟨spot, behind, _, .left around word operand, stands, rfl⟩
    · obtain ⟨spot, behind, build, around, stands, rfl⟩ := operandHypothesis inOperand
      exact ⟨spot, behind, _, .right chain word around, stands, rfl⟩

/-! ### Lists with a hole -/

/-- The items of a list in front of a spot, each before a comma. An item is kept with the text
from its first character on. -/
inductive DerivesEarlierItems :
    List Char → List (List Char × List Char) → List Char → Prop where
  /-- There are no items in front. -/
  | none {text spot : List Char} (spaces : Spaces text spot) : DerivesEarlierItems text [] spot
  /-- An item, a comma and more items. -/
  | item {text start value back next spot : List Char} {earlier : List (List Char × List Char)}
      (spaces : Spaces text start) (item : DerivesItem start value back)
      (itemSpaces : Spaces back (',' :: next)) (further : DerivesEarlierItems next earlier spot) :
    DerivesEarlierItems text ((start, value) :: earlier) spot

/-- A list with a hole for an item. The spot and what is behind it are given within the brackets
of the list. -/
inductive DerivesListAround (spot behind : List Char) :
    List Char → List (List Char × List Char) → List (List Char) → List Char → Prop where
  /-- Items in front of the hole and further ones behind it. -/
  | brackets {content further rest : List Char} {earlier : List (List Char × List Char)}
      {later : List (List Char)} (free : ')' ∉ content)
      (front : DerivesEarlierItems content earlier spot) (spaces : Spaces behind further)
      (back : DerivesFurtherItems further later) :
    DerivesListAround spot behind ('(' :: (content ++ ')' :: rest)) earlier later rest

theorem DerivesItem.exists_lexeme {value : List Char} (item : DerivesItem text value rest) :
    ∃ lexeme, lexeme ≠ [] ∧ text = lexeme ++ rest := by
  cases item with
  | quoted between =>
    obtain ⟨_, _⟩ := between
    rename_i quote _ _
    exact ⟨quote :: (value ++ [quote]), List.cons_ne_nil _ _, by simp⟩
  | bare _ run => exact ⟨value, run.nonempty, run.text_eq⟩

theorem DerivesItem.suffix {value : List Char} (item : DerivesItem text value rest) :
    rest <:+ text := by
  obtain ⟨lexeme, _, rfl⟩ := item.exists_lexeme
  exact List.suffix_append lexeme rest

theorem DerivesEarlierItems.suffix {earlier : List (List Char × List Char)}
    (front : DerivesEarlierItems text earlier spot) : spot <:+ text := by
  induction front with
  | none spaces => exact spaces.suffix
  | item spaces item itemSpaces _ inductionHypothesis =>
    exact inductionHypothesis.trans ((List.suffix_cons ',' _).trans
      (itemSpaces.suffix.trans (item.suffix.trans spaces.suffix)))

/-- Between the beginning of an item in front and the spot stands at least one character. -/
theorem DerivesEarlierItems.suffix_of_mem {earlier : List (List Char × List Char)}
    (front : DerivesEarlierItems text earlier spot) {item : List Char × List Char}
    (member : item ∈ earlier) : ∃ first tail, item.1 = first :: tail ∧ spot <:+ tail := by
  induction front with
  | none _ => cases member
  | item _ itemStands itemSpaces further inductionHypothesis =>
    rcases List.mem_cons.mp member with rfl | member
    · obtain ⟨lexeme, nonempty, textEq⟩ := itemStands.exists_lexeme
      obtain ⟨first, tail, rfl⟩ := List.exists_cons_of_ne_nil nonempty
      exact ⟨first, _, textEq, further.suffix.trans ((List.suffix_cons ',' _).trans
        (itemSpaces.suffix.trans (List.suffix_append tail _)))⟩
    · exact inductionHypothesis member

/-! ### Other texts in the hole of a list -/

/-- If the text begins with a quote, the quote is found again in it. -/
def ClosesQuote (text : List Char) : Prop :=
  ∀ quote tail, quote = '"' ∨ quote = '\'' → text = quote :: tail → quote ∈ tail

theorem exists_derivesQuoted {quote : Char} {tail : List Char}
    (isQuote : quote = '"' ∨ quote = '\'') (closes : quote ∈ tail) :
    ∃ value rest, DerivesQuoted (quote :: tail) value rest := by
  obtain ⟨value, rest, rfl, free⟩ := List.eq_append_cons_of_mem closes
  exact ⟨value, rest, .between isQuote free⟩

/-- An item that closes its quote stands before any other text that begins as the one behind
it. -/
theorem DerivesItem.replace {start value back : List Char} (item : DerivesItem start value back)
    (closes : ClosesQuote start) :
    ∃ lexeme, start = lexeme ++ back ∧ ∀ other, other.head? = back.head? →
      DerivesItem (lexeme ++ other) value other := by
  cases item with
  | quoted between =>
    obtain ⟨isQuote, free⟩ := between
    rename_i quote
    refine ⟨quote :: (value ++ [quote]), by simp, fun other _ => ?_⟩
    rw [List.cons_append, List.append_assoc]
    exact .quoted (.between isQuote free)
  | bare unquoted run =>
    refine ⟨value, run.text_eq, fun other sameHead => .bare ?_ ?_⟩
    · obtain ⟨first, tail, rfl⟩ := List.exists_cons_of_ne_nil run.nonempty
      intro content behind between
      obtain ⟨quote, isQuote, _, textEq⟩ := derivesQuoted_iff.mp between
      obtain rfl : first = quote := (List.cons.inj textEq).1
      have startEq : start = first :: (tail ++ back) := run.text_eq
      obtain ⟨found, rest, inStart⟩ :=
        exists_derivesQuoted isQuote (closes first _ isQuote startEq)
      exact unquoted found rest (startEq ▸ inStart)
    · exact ⟨rfl, run.nonempty, run.free, fun character begins =>
        run.longest character (sameHead ▸ begins)⟩

/-- Where all items in front close their quotes, another text may stand at the spot. -/
theorem DerivesEarlierItems.replace {earlier : List (List Char × List Char)}
    (front : DerivesEarlierItems text earlier spot)
    (closes : ∀ item ∈ earlier, ClosesQuote item.1) :
    ∃ lexeme, text = lexeme ++ spot ∧ ∀ other, ∃ moved : List (List Char × List Char),
      moved.map Prod.snd = earlier.map Prod.snd ∧
        DerivesEarlierItems (lexeme ++ other) moved other := by
  induction front with
  | none spaces =>
    obtain ⟨count, rfl⟩ := spaces
    exact ⟨List.replicate count ' ', rfl, fun other => ⟨[], rfl, .none ⟨count, rfl⟩⟩⟩
  | @item _ _ value _ _ spot _ spaces item itemSpaces _ inductionHypothesis =>
    obtain ⟨closesHere, closesFurther⟩ := List.forall_mem_cons.mp closes
    obtain ⟨further, rfl, standsFurther⟩ := inductionHypothesis closesFurther
    obtain ⟨count, rfl⟩ := spaces
    obtain ⟨behindCount, rfl⟩ := itemSpaces
    obtain ⟨lexeme, rfl, stands⟩ := item.replace closesHere
    refine ⟨List.replicate count ' ' ++ (lexeme ++
      (List.replicate behindCount ' ' ++ ',' :: further)), by simp, fun other => ?_⟩
    obtain ⟨moved, sameValues, front⟩ := standsFurther other
    have sameHead : (List.replicate behindCount ' ' ++ ',' :: (further ++ other)).head? =
        (List.replicate behindCount ' ' ++ ',' :: (further ++ spot)).head? := by
      cases behindCount <;> rfl
    have item : DerivesEarlierItems (List.replicate count ' ' ++ (lexeme ++
        (List.replicate behindCount ' ' ++ ',' :: (further ++ other))))
          ((_, value) :: moved) other :=
      .item ⟨count, rfl⟩ (stands _ sameHead) ⟨behindCount, rfl⟩ front
    refine ⟨_, ?_, by simpa using item⟩
    rw [List.map_cons, sameValues, List.map_cons]

/-- Another text without closing brackets may stand in the hole of a list whose items in front
close their quotes. -/
theorem DerivesListAround.replace {earlier : List (List Char × List Char)}
    {later : List (List Char)} {other : List Char}
    (list : DerivesListAround spot behind text earlier later rest)
    (closes : ∀ item ∈ earlier, ClosesQuote item.1)
    (bracketFree : ')' ∉ spot → ')' ∉ other) :
    ∃ lexeme, text = '(' :: (lexeme ++ spot ++ ')' :: rest) ∧
      ∃ moved : List (List Char × List Char), moved.map Prod.snd = earlier.map Prod.snd ∧
        DerivesListAround other behind ('(' :: (lexeme ++ other ++ ')' :: rest)) moved later
          rest := by
  obtain ⟨free, front, spaces, back⟩ := list
  obtain ⟨lexeme, rfl, stands⟩ := front.replace closes
  obtain ⟨moved, sameValues, movedFront⟩ := stands other
  rw [List.mem_append, not_or] at free
  have movedFree : ')' ∉ lexeme ++ other := by
    rw [List.mem_append, not_or]
    exact ⟨free.1, bracketFree free.2⟩
  exact ⟨lexeme, rfl, moved, sameValues, .brackets movedFree movedFront spaces back⟩

theorem DerivesItems.comma {values : List (List Char)} (items : DerivesItems text values) :
    DerivesFurtherItems (',' :: text) values := by
  obtain ⟨first, further⟩ := items
  exact .comma first further

/-- An item in the hole of a list makes a list. -/
theorem DerivesEarlierItems.fill {earlier : List (List Char × List Char)}
    {value further : List Char} {later : List (List Char)}
    (front : DerivesEarlierItems text earlier spot) (item : DerivesItem spot value behind)
    (spaces : Spaces behind further) (back : DerivesFurtherItems further later) :
    DerivesItems text (earlier.map Prod.snd ++ value :: later) := by
  induction front with
  | none frontSpaces => exact .items ⟨_, _, frontSpaces, item, spaces⟩ back
  | item frontSpaces first itemSpaces _ inductionHypothesis =>
    exact .items ⟨_, _, frontSpaces, first, itemSpaces⟩ (inductionHypothesis item).comma

theorem DerivesListAround.fill {value : List Char} {earlier : List (List Char × List Char)}
    {later : List (List Char)} (list : DerivesListAround spot behind text earlier later rest)
    (item : DerivesItem spot value behind) :
    DerivesList text (earlier.map Prod.snd ++ value :: later) rest := by
  obtain ⟨free, front, spaces, back⟩ := list
  exact .brackets free (front.fill item spaces back)

/-! ### Atoms with a hole -/

/-- The field and the operator of an atom, with the spaces behind each. -/
def DerivesHead (field : Field) (operator : Operator) (text start : List Char) : Prop :=
  ∃ fieldEnd operatorStart operatorEnd, DerivesField text field fieldEnd ∧
    Spaces fieldEnd operatorStart ∧ DerivesOperator operatorStart operator operatorEnd ∧
      Spaces operatorEnd start

theorem derivesHead_spelling {field : Field} {spelling : String}
    (member : spelling ∈ field.spellings) (operator : Operator) (start : List Char) :
    DerivesHead field operator
      (spelling.toList ++ ' ' :: (operator.spelling.toList ++ ' ' :: start)) start :=
  ⟨_, _, _, ⟨spelling, member, rfl⟩, spaces_cons _, derivesOperator_spelling operator start,
    spaces_cons start⟩

theorem DerivesHead.moves {field : Field} {operator : Operator} {start : List Char}
    (head : DerivesHead field operator text start) :
    Moves (DerivesHead field operator) text start := by
  obtain ⟨_, _, _, name, fieldSpaces, sign, operatorSpaces⟩ := head
  refine (name.moves.trans (fieldSpaces.moves.trans (sign.moves.trans
    operatorSpaces.moves))).imp ?_
  rintro _ _ ⟨_, name, _, fieldSpaces, _, sign, operatorSpaces⟩
  exact ⟨_, _, _, name, fieldSpaces, sign, operatorSpaces⟩

theorem DerivesHead.atom {field : Field} {operator : Operator} {start valueEnd : List Char}
    {atom : Atom} (head : DerivesHead field operator text start)
    (operand : DerivesOperand field operator start atom valueEnd) (spaces : Spaces valueEnd rest) :
    DerivesAtom text atom rest := by
  obtain ⟨_, _, _, name, fieldSpaces, sign, operatorSpaces⟩ := head
  exact .parts name fieldSpaces sign operatorSpaces operand spaces

theorem DerivesAtom.exists_head {atom : Atom} (derives : DerivesAtom text atom rest) :
    ∃ field operator start valueEnd, DerivesHead field operator text start ∧
      DerivesOperand field operator start atom valueEnd ∧ Spaces valueEnd rest := by
  obtain ⟨name, fieldSpaces, sign, operatorSpaces, operand, valueSpaces⟩ := derives
  exact ⟨_, _, _, _, ⟨_, _, _, name, fieldSpaces, sign, operatorSpaces⟩, operand, valueSpaces⟩

end ContentQuery.Query
