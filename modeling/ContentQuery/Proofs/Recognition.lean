/-
This file proves that the rules for words, values, lists and atoms read just what the grammar
says, no more and no less. A rule accepts a relation when it succeeds exactly where the
relation holds, with the same value and the same rest. Rules in sequence accept the relations
in sequence, and a choice accepts the second relation only where the first holds of nothing.
-/

import ContentQuery.Proofs.Grammar
import ContentQuery.Proofs.Progress

namespace ContentQuery.Query

open Rule Text

variable {Value Other : Type}

/-! ### Accepting a relation -/

/-- The rule succeeds just where the relation holds, with its value and its rest. -/
def Rule.Accepts (rule : Rule Value)
    (relation : List Char → Value → List Char → Prop) : Prop :=
  ∀ (cursor : Cursor) (value : Value) (rest : List Char),
    (∃ after, rule cursor = .ok (value, after) ∧ after.rest = rest) ↔
      relation cursor.rest value rest

namespace Rule

variable {rule first second : Rule Value} {relation : List Char → Value → List Char → Prop}
  {firstRelation secondRelation : List Char → Value → List Char → Prop}

theorem Accepts.congr {other : List Char → Value → List Char → Prop}
    (accepts : rule.Accepts relation)
    (same : ∀ text value rest, relation text value rest ↔ other text value rest) :
    rule.Accepts other := fun cursor value rest =>
  (accepts cursor value rest).trans (same cursor.rest value rest)

/-- What a rule reads is related to its value and to what it leaves. -/
theorem Accepts.sound (accepts : rule.Accepts relation) {cursor after : Cursor} {value : Value}
    (succeeds : rule cursor = .ok (value, after)) : relation cursor.rest value after.rest :=
  (accepts cursor value after.rest).mp ⟨after, succeeds, rfl⟩

/-- Where the relation holds of nothing, the rule fails. -/
theorem Accepts.error_iff (accepts : rule.Accepts relation) {cursor : Cursor} :
    (∃ failure, rule cursor = .error failure) ↔
      ∀ value rest, ¬ relation cursor.rest value rest := by
  constructor
  · rintro ⟨failure, fails⟩ value rest holds
    obtain ⟨after, succeeds, _⟩ := (accepts cursor value rest).mpr holds
    rw [fails] at succeeds
    cases succeeds
  · intro none
    cases outcome : rule cursor with
    | ok found => exact absurd (accepts.sound outcome) (none found.1 found.2.rest)
    | error failure => exact ⟨failure, rfl⟩

theorem accepts_pure (value : Value) :
    (pure value : Rule Value).Accepts fun text found rest => found = value ∧ rest = text := by
  intro cursor found rest
  constructor
  · rintro ⟨after, same, rfl⟩
    cases same
    exact ⟨rfl, rfl⟩
  · rintro ⟨rfl, rfl⟩
    exact ⟨cursor, rfl, rfl⟩

theorem Accepts.bind {next : Value → Rule Other}
    {nextRelation : Value → List Char → Other → List Char → Prop}
    (accepts : rule.Accepts relation)
    (nextAccepts : ∀ value, (next value).Accepts (nextRelation value)) :
    (rule >>= next).Accepts fun text other rest =>
      ∃ value middle, relation text value middle ∧ nextRelation value middle other rest := by
  intro cursor other rest
  simp only [bind_eq_ok_iff]
  constructor
  · rintro ⟨last, ⟨value, after, reads, readsNext⟩, rfl⟩
    exact ⟨value, after.rest, accepts.sound reads, (nextAccepts value).sound readsNext⟩
  · rintro ⟨value, middle, holds, holdsNext⟩
    obtain ⟨after, reads, rfl⟩ := (accepts cursor value middle).mpr holds
    obtain ⟨last, readsNext, restEq⟩ := (nextAccepts value after other rest).mpr holdsNext
    exact ⟨last, ⟨value, after, reads, readsNext⟩, restEq⟩

theorem Accepts.map (change : Value → Other) (accepts : rule.Accepts relation) :
    (change <$> rule).Accepts fun text other rest =>
      ∃ value, relation text value rest ∧ other = change value := by
  refine (accepts.bind fun value => accepts_pure (change value)).congr fun text other rest => ?_
  constructor
  · rintro ⟨value, _, holds, rfl, rfl⟩
    exact ⟨value, holds, rfl⟩
  · rintro ⟨value, holds, rfl⟩
    exact ⟨value, rest, holds, rfl, rfl⟩

theorem Accepts.orElse (firstAccepts : first.Accepts firstRelation)
    (secondAccepts : second.Accepts secondRelation) :
    (first.orElse second).Accepts fun text value rest =>
      firstRelation text value rest ∨
        (∀ found behind, ¬ firstRelation text found behind) ∧
          secondRelation text value rest := by
  intro cursor value rest
  simp only [orElse_eq_ok_iff, ← firstAccepts.error_iff, ← firstAccepts cursor value rest,
    ← secondAccepts cursor value rest]
  constructor
  · rintro ⟨after, reads | ⟨fails, reads⟩, restEq⟩
    · exact Or.inl ⟨after, reads, restEq⟩
    · exact Or.inr ⟨fails, after, reads, restEq⟩
  · rintro (⟨after, reads, restEq⟩ | ⟨fails, after, reads, restEq⟩)
    · exact ⟨after, Or.inl reads, restEq⟩
    · exact ⟨after, Or.inr ⟨fails, reads⟩, restEq⟩

end Rule

/-! ### Words and spaces -/

theorem exists_reads_iff {cursor : Cursor} {lexeme rest : List Char} :
    (∃ after, cursor.Reads lexeme after ∧ after.rest = rest) ↔ cursor.rest = lexeme ++ rest := by
  constructor
  · rintro ⟨after, reads, rfl⟩
    exact reads.rest_eq
  · intro restEq
    exact ⟨⟨cursor.offset + utf8Length lexeme, rest, cursor.depth⟩, ⟨restEq, rfl, rfl⟩, rfl⟩

theorem accepts_literal (word : String) (expected : Expectation) :
    (literal word expected).Accepts fun text _ rest => text = word.toList ++ rest := by
  intro cursor _ rest
  simp only [literal_eq_ok_iff]
  exact exists_reads_iff

theorem accepts_spaces :
    spaces.Accepts fun text _ rest => Spaces text rest ∧ BeginsTight rest := by
  intro cursor _ rest
  unfold spaces
  simp only [bind_eq_ok_iff, takeWhile_eq_ok_iff, pure_apply]
  constructor
  · rintro ⟨_, ⟨found, after, ⟨reads, all, stops⟩, same⟩, rfl⟩
    cases same
    have spacesOnly : found = List.replicate found.length ' ' :=
      List.eq_replicate_of_mem fun character member => by simpa using all character member
    refine ⟨⟨found.length, ?_⟩, fun begins => ?_⟩
    · rw [← spacesOnly]
      exact reads.rest_eq
    · have differs := stops ' ' begins
      simp at differs
  · rintro ⟨⟨count, textEq⟩, tight⟩
    obtain ⟨after, reads, rfl⟩ := exists_reads_iff.mpr textEq
    refine ⟨after, ⟨_, after, ⟨reads, ?_, ?_⟩, rfl⟩, rfl⟩
    · intro character member
      simp [List.eq_of_mem_replicate member]
    · intro character begins
      simpa using fun same : character = ' ' => tight (same ▸ begins)

theorem Rule.Accepts.token {rule : Rule Value}
    {relation : List Char → Value → List Char → Prop} (accepts : rule.Accepts relation) :
    (token rule).Accepts fun text value rest =>
      ∃ middle, relation text value middle ∧ Spaces middle rest ∧ BeginsTight rest := by
  refine (accepts.bind fun value => accepts_spaces.bind fun _ => accepts_pure value).congr
    fun text value rest => ?_
  constructor
  · rintro ⟨_, middle, holds, _, _, skips, rfl, rfl⟩
    exact ⟨middle, holds, skips⟩
  · rintro ⟨middle, holds, skips⟩
    exact ⟨value, middle, holds, (), rest, skips, rfl, rfl⟩

theorem accepts_keyword (word : String) (expected : Expectation) :
    (keyword word expected).Accepts fun text _ rest =>
      text = word.toList ++ rest ∧ EndsWord rest := by
  intro cursor _ rest
  simp only [keyword_eq_ok_iff]
  constructor
  · rintro ⟨after, ⟨reads, ends⟩, rfl⟩
    exact ⟨reads.rest_eq, ends⟩
  · rintro ⟨textEq, ends⟩
    obtain ⟨after, reads, rfl⟩ := exists_reads_iff.mpr textEq
    exact ⟨after, ⟨reads, ends⟩, rfl⟩

theorem accepts_connective (word : String) :
    (connective word).Accepts fun text _ rest => DerivesWord word text rest ∧ BeginsTight rest :=
  (accepts_keyword word _).token.congr fun text _ rest => by
    constructor
    · rintro ⟨behind, ⟨textEq, ends⟩, skips, tight⟩
      exact ⟨⟨behind, textEq, ends, skips⟩, tight⟩
    · rintro ⟨⟨behind, textEq, ends, skips⟩, tight⟩
      exact ⟨behind, ⟨textEq, ends⟩, skips, tight⟩

theorem accepts_bracket (bracket : Char) (spelling : String) (expected : Expectation)
    (spells : spelling.toList = [bracket]) :
    (token (literal spelling expected)).Accepts fun text _ rest =>
      DerivesBracket bracket text rest ∧ BeginsTight rest :=
  (accepts_literal spelling expected).token.congr fun text _ rest => by
    rw [spells]
    constructor
    · rintro ⟨behind, textEq, skips, tight⟩
      exact ⟨⟨behind, textEq, skips⟩, tight⟩
    · rintro ⟨⟨behind, textEq, skips⟩, tight⟩
      exact ⟨behind, textEq, skips, tight⟩

/-! ### Values -/

theorem accepts_quotedBy (quote : Char) :
    (quotedBy quote).Accepts fun text value rest =>
      text = quote :: (value ++ quote :: rest) ∧ quote ∉ value := by
  intro cursor value rest
  have spelled : quote :: (value ++ quote :: rest) = quote :: (value ++ [quote]) ++ rest := by
    simp
  simp only [quotedBy_eq_ok_iff, spelled, ← exists_reads_iff]
  constructor
  · rintro ⟨after, ⟨reads, free⟩, restEq⟩
    exact ⟨⟨after, reads, restEq⟩, free⟩
  · rintro ⟨⟨after, reads, restEq⟩, free⟩
    exact ⟨after, ⟨reads, free⟩, restEq⟩

theorem accepts_quotedValue : quotedValue.Accepts DerivesQuoted :=
  ((accepts_quotedBy '"').orElse (accepts_quotedBy '\'')).congr fun text value rest => by
    constructor
    · rintro (⟨rfl, free⟩ | ⟨_, rfl, free⟩)
      · exact .between (Or.inl rfl) free
      · exact .between (Or.inr rfl) free
    · rintro ⟨rfl | rfl, free⟩
      · exact Or.inl ⟨rfl, free⟩
      · refine Or.inr ⟨?_, rfl, free⟩
        rintro found behind ⟨same, _⟩
        cases same

theorem accepts_takeWhileSome {holds : Char → Bool} (expected : Expectation)
    {stops : List Char} (class_eq : ∀ character, holds character = true ↔ character ∉ stops) :
    (takeWhileSome holds expected).Accepts (DerivesRun stops) := by
  have stop : ∀ character, holds character = false ↔ character ∈ stops := by
    intro character
    rw [← Bool.not_eq_true, class_eq, Classical.not_not]
  intro cursor value rest
  simp only [takeWhileSome_eq_ok_iff, takeWhile_eq_ok_iff, class_eq, stop]
  constructor
  · rintro ⟨after, ⟨⟨reads, free, longest⟩, nonempty⟩, rfl⟩
    exact ⟨reads.rest_eq, nonempty, free, longest⟩
  · rintro ⟨textEq, nonempty, free, longest⟩
    obtain ⟨after, reads, rfl⟩ := exists_reads_iff.mpr textEq
    exact ⟨after, ⟨⟨reads, free, longest⟩, nonempty⟩, rfl⟩

/-- A run is no quoted value when the quotes are among its stops. -/
theorem not_derivesQuoted_of_run {stops text value rest : List Char}
    (run : DerivesRun stops text value rest) (double : '"' ∈ stops) (single : '\'' ∈ stops)
    (content behind : List Char) : ¬ DerivesQuoted text content behind := by
  obtain ⟨character, tail, rfl⟩ := List.exists_cons_of_ne_nil run.nonempty
  have free := run.free character List.mem_cons_self
  rw [run.text_eq, derivesQuoted_iff]
  rintro ⟨quote, isQuote, _, textEq⟩
  obtain ⟨rfl, _⟩ := List.cons.inj textEq
  rcases isQuote with rfl | rfl
  · exact free double
  · exact free single

theorem accepts_value : value.Accepts DerivesValue := by
  have bare : bareValue.Accepts (DerivesRun [' ', ')', '"', '\'', ',']) :=
    accepts_takeWhileSome _ fun character => by simp [endsBareValue, and_assoc]
  refine (accepts_quotedValue.orElse bare).congr fun text value rest => ?_
  constructor
  · rintro (between | ⟨_, run⟩)
    · exact .quoted between
    · exact .bare run
  · rintro (between | run)
    · exact Or.inl between
    · exact Or.inr ⟨not_derivesQuoted_of_run run (by decide) (by decide), run⟩

/-! ### Lists of values -/

theorem accepts_item :
    item.Accepts fun text value rest => DerivesSpacedItem text value rest ∧ BeginsTight rest := by
  have bare : bareItem.Accepts (DerivesRun [' ', ',']) :=
    accepts_takeWhileSome _ fun character => by simp [and_comm]
  have content : (quotedValue.orElse bareItem).Accepts DerivesItem :=
    (accepts_quotedValue.orElse bare).congr fun text value rest => by
      constructor
      · rintro (between | ⟨unquoted, run⟩)
        · exact .quoted between
        · exact .bare unquoted run
      · rintro (between | ⟨unquoted, run⟩)
        · exact Or.inl between
        · exact Or.inr ⟨unquoted, run⟩
  refine (accepts_spaces.bind fun _ => content.token).congr fun text value rest => ?_
  constructor
  · rintro ⟨_, front, ⟨skips, _⟩, back, derives, skipsBack, tight⟩
    exact ⟨⟨front, back, skips, derives, skipsBack⟩, tight⟩
  · rintro ⟨⟨front, back, skips, derives, skipsBack⟩, tight⟩
    exact ⟨(), front, ⟨skips, derives.beginsTight⟩, back, derives, skipsBack, tight⟩

theorem moreItems_succ_eq_ok_iff {bound : Nat} {cursor after : Cursor}
    {values : List (List Char)} :
    moreItems (bound + 1) cursor = .ok (values, after) ↔
      (∃ start middle next further, cursor.Reads [','] start ∧
        item start = .ok (next, middle) ∧ moreItems bound middle = .ok (further, after) ∧
        values = next :: further) ∨
      ¬ [','] <+: cursor.rest ∧ values = [] ∧ after = cursor := by
  have comma : ",".toList = [','] := by decide
  rw [moreItems]
  simp only [bind_eq_ok_iff, attempt_eq_ok_iff, literal_eq_ok_iff, literal_eq_error_iff, comma]
  constructor
  · rintro ⟨_, start, ⟨_, rfl, opens⟩ | ⟨⟨_, absent, rfl⟩, rfl, rfl⟩, rest⟩
    · obtain ⟨next, middle, reads, further, last, readsMore, same⟩ := by
        simpa only [bind_eq_ok_iff] using rest
      cases same
      exact Or.inl ⟨start, middle, next, further, opens, reads, readsMore, rfl⟩
    · cases rest
      exact Or.inr ⟨absent, rfl, rfl⟩
  · rintro (⟨start, middle, next, further, opens, reads, readsMore, rfl⟩ | ⟨absent, rfl, rfl⟩)
    · refine ⟨some (), start, Or.inl ⟨(), rfl, opens⟩, ?_⟩
      simp only [bind_eq_ok_iff]
      exact ⟨next, middle, reads, further, after, readsMore, rfl⟩
    · exact ⟨none, after, Or.inr ⟨⟨_, absent, rfl⟩, rfl, rfl⟩, rfl⟩

/-- With at least as much bound as text, the further items are read to the end of the text
just where the grammar has them. -/
theorem moreItems_eq_ok_iff {bound : Nat} {cursor : Cursor} {values : List (List Char)}
    (enough : cursor.rest.length ≤ bound) :
    (∃ after, moreItems bound cursor = .ok (values, after) ∧ after.rest = []) ↔
      DerivesFurtherItems cursor.rest values := by
  induction bound generalizing cursor values with
  | zero =>
    have nothing : cursor.rest = [] := List.length_eq_zero_iff.mp (Nat.le_zero.mp enough)
    rw [nothing]
    constructor
    · rintro ⟨after, same, _⟩
      cases same
      exact .none
    · rintro ⟨⟩
      exact ⟨cursor, rfl, nothing⟩
  | succ bound inductionHypothesis =>
    simp only [moreItems_succ_eq_ok_iff]
    constructor
    · rintro ⟨after, ⟨start, middle, next, further, opens, reads, readsMore, rfl⟩ | stops, ends⟩
      · have shorter := opens.length_eq
        have progress := progresses_item reads
        simp only [List.length_singleton] at shorter
        have derives := (inductionHypothesis (by omega)).mp ⟨after, readsMore, ends⟩
        rw [opens.rest_eq]
        exact .comma (accepts_item.sound reads).1 derives
      · obtain ⟨_, rfl, rfl⟩ := stops
        rw [ends]
        exact .none
    · intro derives
      cases textEq : cursor.rest with
      | nil =>
        rw [textEq] at derives
        cases derives
        exact ⟨cursor, Or.inr ⟨by simp, rfl, rfl⟩, textEq⟩
      | cons character tail =>
        rw [textEq] at derives
        cases derives with
        | comma next further =>
          have split : cursor.rest = [','] ++ tail := textEq
          obtain ⟨start, opens, rfl⟩ := exists_reads_iff.mpr split
          obtain ⟨middle, reads, rfl⟩ := (accepts_item start _ _).mpr ⟨next, further.beginsTight⟩
          have shorter := opens.length_eq
          have progress := progresses_item reads
          simp only [List.length_singleton] at shorter
          obtain ⟨after, readsMore, ends⟩ := (inductionHypothesis (by omega)).mpr further
          exact ⟨after, Or.inl ⟨start, middle, _, _, opens, reads, readsMore, rfl⟩, ends⟩

theorem items_eq_ok_iff {cursor : Cursor} {values : List (List Char)} :
    (∃ after, items cursor = .ok (values, after) ∧ after.rest = []) ↔
      DerivesItems cursor.rest values := by
  unfold items
  simp only [bind_eq_ok_iff, pure_apply]
  constructor
  · rintro ⟨last, ⟨_, _, ⟨⟩, first, middle, reads, further, _, readsMore, same⟩, ends⟩
    cases same
    have progress := progresses_item reads
    exact .items (accepts_item.sound reads).1
      ((moreItems_eq_ok_iff (by omega)).mp ⟨last, readsMore, ends⟩)
  · rintro ⟨first, further⟩
    obtain ⟨middle, reads, rfl⟩ := (accepts_item cursor _ _).mpr ⟨first, further.beginsTight⟩
    have progress := progresses_item reads
    have enough : middle.rest.length ≤ cursor.rest.length := Nat.le_of_lt progress
    obtain ⟨last, readsMore, ends⟩ := (moreItems_eq_ok_iff enough).mpr further
    exact ⟨last, ⟨cursor, cursor, rfl, _, middle, reads, _, last, readsMore, rfl⟩, ends⟩

theorem accepts_valueList : valueList.Accepts DerivesList := by
  intro cursor values rest
  simp only [valueList_eq_ok_iff]
  constructor
  · rintro ⟨after, ⟨start, content, opens, reads, free, contentRead⟩, rfl⟩
    have textEq : cursor.rest = '(' :: (content ++ ')' :: after.rest) := by
      rw [opens.rest_eq, reads.rest_eq]
      simp
    rw [textEq]
    exact .brackets free (items_eq_ok_iff.mp contentRead)
  · intro derives
    generalize textEq : cursor.rest = text at derives
    obtain ⟨free, derives⟩ := derives
    rename_i content
    have split : cursor.rest = ['('] ++ ((content ++ [')']) ++ rest) := by
      rw [textEq]
      simp
    obtain ⟨start, opens, startEq⟩ := exists_reads_iff.mpr split
    obtain ⟨after, reads, rfl⟩ := exists_reads_iff.mpr startEq
    exact ⟨after, ⟨start, content, opens, reads, free, items_eq_ok_iff.mpr derives⟩, rfl⟩

/-! ### Fields and operators -/

/-- Where no spelling begins with another one, a table is read in any order. -/
theorem accepts_spelled {table : List (String × Value)} (expected : Expectation)
    (apart : ∀ entry ∈ table, ∀ other ∈ table,
      entry.1.toList <+: other.1.toList → entry = other) :
    (spelled table expected).Accepts fun text value rest =>
      ∃ spelling, (spelling, value) ∈ table ∧ text = spelling.toList ++ rest := by
  intro cursor value rest
  constructor
  · rintro ⟨after, reads, rfl⟩
    obtain ⟨spelling, member, reads⟩ := reads_of_spelled reads
    exact ⟨spelling, member, reads.rest_eq⟩
  · rintro ⟨spelling, member, textEq⟩
    obtain ⟨after, reads, rfl⟩ := exists_reads_iff.mpr textEq
    have stands : spelling.toList <+: cursor.rest := ⟨_, textEq.symm⟩
    cases outcome : spelled table expected cursor with
    | error failure =>
      exact absurd stands ((spelled_eq_error_iff.mp outcome).1 _ member)
    | ok found =>
      obtain ⟨foundValue, place⟩ := found
      obtain ⟨foundSpelling, foundMember, foundReads⟩ := reads_of_spelled outcome
      have foundStands : foundSpelling.toList <+: cursor.rest := ⟨_, foundReads.rest_eq.symm⟩
      have same : (foundSpelling, foundValue) = (spelling, value) := by
        rcases List.prefix_or_prefix_of_prefix foundStands stands with shorter | longer
        · exact apart _ foundMember _ member shorter
        · exact (apart _ member _ foundMember longer).symm
      cases same
      refine ⟨place, rfl, ?_⟩
      exact List.append_cancel_left (foundReads.rest_eq.symm.trans textEq)

theorem accepts_comparison :
    comparison.Accepts fun text sign rest => text = sign.symbol.toList ++ rest := by
  have apart : ∀ entry ∈ comparisonSymbols, ∀ other ∈ comparisonSymbols,
      entry.1.toList <+: other.1.toList → entry = other := by decide
  refine (accepts_spelled .comparisonOperator apart).congr fun text sign rest => ?_
  constructor
  · rintro ⟨spelling, member, textEq⟩
    obtain ⟨_, _, same⟩ := List.mem_map.mp member
    cases same
    exact textEq
  · intro textEq
    exact ⟨sign.symbol, List.mem_map.mpr ⟨sign, by cases sign <;> decide, rfl⟩, textEq⟩

theorem accepts_membership :
    membership.Accepts fun text sign rest => DerivesOperator text (.membership sign) rest := by
  have isIn := (accepts_keyword "in" .listOperator).bind fun _ => accepts_pure Membership.isIn
  have notIn := (accepts_literal "not" .listOperator).token.bind fun _ =>
    (accepts_keyword "in" .listOperator).bind fun _ => accepts_pure Membership.notIn
  refine (isIn.orElse notIn).congr fun text sign rest => ?_
  constructor
  · rintro (⟨_, _, ⟨rfl, ends⟩, rfl, rfl⟩ |
      ⟨_, _, behind, ⟨middle, rfl, skips, _⟩, _, _, ⟨rfl, ends⟩, rfl, rfl⟩)
    · exact .isIn ends
    · exact .notIn skips ends
  · intro derives
    cases derives with
    | isIn ends => exact Or.inl ⟨(), rest, ⟨rfl, ends⟩, rfl, rfl⟩
    | notIn skips ends =>
      refine Or.inr ⟨?_, (), _, ⟨_, rfl, skips, by simp [BeginsTight]⟩, (), rest, ⟨rfl, ends⟩,
        rfl, rfl⟩
      rintro _ _ ⟨_, _, ⟨impossible, _⟩, _⟩
      simp at impossible

theorem accepts_operator : operator.Accepts DerivesOperator := by
  refine ((accepts_comparison.map _).orElse (accepts_membership.map _)).congr
    fun text sign rest => ?_
  constructor
  · rintro (⟨comparison, rfl, rfl⟩ | ⟨_, membership, derives, rfl⟩)
    · exact .comparison comparison rest
    · exact derives
  · intro derives
    cases sign with
    | comparison comparison =>
      cases derives
      exact Or.inl ⟨comparison, rfl, rfl⟩
    | membership membership =>
      refine Or.inr ⟨?_, membership, derives, rfl⟩
      rintro _ behind ⟨comparison, textEq, _⟩
      cases derives <;> cases comparison <;> simp [Comparison.symbol] at textEq

/-- Of the spellings that stand at a place, the table has the one that is meant first, unless a
dot follows: one spelling goes on with a dot where another one ends. -/
theorem find?_fieldSpellings {field : Field} {spelling : String} {rest : List Char}
    (member : spelling ∈ field.spellings) (noDot : rest.head? ≠ some '.') :
    fieldSpellings.find? (fun entry => entry.1.toList.isPrefixOf (spelling.toList ++ rest)) =
      some (spelling, field) := by
  cases field with
  | space =>
    simp only [Field.spellings, List.mem_cons, List.not_mem_nil, or_false] at member
    rcases member with rfl | rfl
    · rfl
    · cases rest with
      | nil => rfl
      | cons character tail =>
        have differs : ('.' == character) = false := by
          simpa using fun same : '.' = character => noDot (same ▸ rfl)
        show (match '.' == character && "key".toList.isPrefixOf tail with
          | true => some ("space.key", Field.space)
          | false => some ("space", Field.space)) = _
        rw [differs]
        rfl
  | _ =>
    simp only [Field.spellings, Field.name, List.mem_singleton] at member
    subst member
    rfl

theorem derivesField_of_fieldName {cursor after : Cursor} {field : Field}
    (reads : fieldName cursor = .ok (field, after)) :
    DerivesField cursor.rest field after.rest := by
  have spells : ∀ entry ∈ fieldSpellings, entry.1 ∈ entry.2.spellings := by decide
  obtain ⟨spelling, member, reads⟩ := reads_of_spelled reads
  exact ⟨spelling, spells _ member, reads.rest_eq⟩

theorem fieldName_of_derivesField {cursor : Cursor} {field : Field} {rest : List Char}
    (derives : DerivesField cursor.rest field rest) (noDot : rest.head? ≠ some '.') :
    ∃ after, fieldName cursor = .ok (field, after) ∧ after.rest = rest := by
  obtain ⟨spelling, member, textEq⟩ := derives
  refine ⟨cursor.advance spelling.toList, spelled_eq_ok_iff.mpr ⟨spelling, ?_, rfl⟩, ?_⟩
  · rw [textEq]
    exact find?_fieldSpellings member noDot
  · rw [Cursor.advance, textEq, List.drop_left]

/-! ### Atoms -/

theorem accepts_operand (field : Field) (operator : Operator) :
    (operand field operator).Accepts fun text atom rest =>
      ∃ middle, DerivesOperand field operator text atom middle ∧ Spaces middle rest ∧
        BeginsTight rest := by
  cases operator with
  | comparison sign =>
    refine (accepts_value.token.map _).congr fun text atom rest => ?_
    constructor
    · rintro ⟨value, ⟨middle, derives, skips⟩, rfl⟩
      exact ⟨middle, .single derives, skips⟩
    · rintro ⟨middle, operand, skips⟩
      cases operand with
      | single derives => exact ⟨_, ⟨middle, derives, skips⟩, rfl⟩
  | membership sign =>
    refine (accepts_valueList.token.map _).congr fun text atom rest => ?_
    constructor
    · rintro ⟨values, ⟨middle, derives, skips⟩, rfl⟩
      exact ⟨middle, .list derives, skips⟩
    · rintro ⟨middle, operand, skips⟩
      cases operand with
      | list derives => exact ⟨_, ⟨middle, derives, skips⟩, rfl⟩

/-- The name of a field before an operator does not end where a dot follows. -/
theorem head?_ne_dot {fieldEnd operatorStart operatorEnd : List Char} {operator : Operator}
    (spaces : Spaces fieldEnd operatorStart)
    (derives : DerivesOperator operatorStart operator operatorEnd) :
    fieldEnd.head? ≠ some '.' := by
  obtain ⟨count, rfl⟩ := spaces
  cases count with
  | zero =>
    have notDot : ∀ sign ∈ ['=', '!', '~', 'i', 'n'], some sign ≠ some '.' := by simp
    obtain ⟨character, member, begins⟩ := derives.head_mem
    rw [List.replicate_zero, List.nil_append, begins]
    exact notDot character member
  | succ count => simp [List.replicate_succ]

/-- Well-formed atoms are read just where the grammar has them, along with all the spaces
behind them. -/
theorem placedAtom_eq_ok_iff_derives {cursor : Cursor} {atom : Atom} {rest : List Char} :
    (∃ placed after, placedAtom cursor = .ok (placed, after) ∧ placed.atom = atom ∧
        after.rest = rest) ↔ DerivesAtom cursor.rest atom rest ∧ BeginsTight rest := by
  simp only [placedAtom_eq_ok_iff]
  constructor
  · rintro ⟨placed, after, ⟨field, operator', name, sign, taken⟩, rfl, rfl⟩
    obtain ⟨fieldEnd, name, skips⟩ := token_eq_ok_iff.mp name
    obtain ⟨operatorEnd, sign, operatorSpaces, _⟩ := accepts_operator.token.sound sign
    obtain ⟨valueEnd, taken, valueSpaces, tight⟩ := (accepts_operand field operator').sound taken
    exact ⟨.parts (derivesField_of_fieldName name) (accepts_spaces.sound skips).1 sign
      operatorSpaces taken valueSpaces, tight⟩
  · rintro ⟨⟨name, fieldSpaces, sign, operatorSpaces, taken, valueSpaces⟩, tight⟩
    obtain ⟨nameEnd, readsName, rfl⟩ :=
      fieldName_of_derivesField name (head?_ne_dot fieldSpaces sign)
    obtain ⟨operatorPlace, skips, rfl⟩ :=
      (accepts_spaces nameEnd () _).mpr ⟨fieldSpaces, sign.beginsTight⟩
    obtain ⟨valuePlace, readsSign, rfl⟩ := (accepts_operator.token operatorPlace _ _).mpr
      ⟨_, sign, operatorSpaces, taken.beginsTight⟩
    obtain ⟨after, readsOperand, restEq⟩ := (accepts_operand _ _ valuePlace _ _).mpr
      ⟨_, taken, valueSpaces, tight⟩
    exact ⟨⟨atom, operatorPlace, valuePlace⟩, after, ⟨_, _,
      token_eq_ok_iff.mpr ⟨nameEnd, readsName, skips⟩, readsSign, readsOperand⟩, rfl, restEq⟩

/-- An atom has no fault just when it is valid. -/
theorem PlacedAtom.fault?_eq_none_iff {placed : PlacedAtom} :
    placed.fault? = none ↔ placed.atom.isValid = true := by
  unfold fault?
  split
  · simp_all
  · split <;> simp_all

theorem accepts_atom :
    atom.Accepts fun text content rest =>
      DerivesValidAtom text content rest ∧ BeginsTight rest := by
  intro cursor content rest
  simp only [atom_eq_ok_iff, PlacedAtom.fault?_eq_none_iff, DerivesValidAtom]
  constructor
  · rintro ⟨after, ⟨placed, reads, valid, rfl⟩, restEq⟩
    obtain ⟨derives, tight⟩ :=
      placedAtom_eq_ok_iff_derives.mp ⟨placed, after, reads, rfl, restEq⟩
    exact ⟨⟨derives, valid⟩, tight⟩
  · rintro ⟨⟨derives, valid⟩, tight⟩
    obtain ⟨placed, after, reads, rfl, restEq⟩ :=
      placedAtom_eq_ok_iff_derives.mpr ⟨derives, tight⟩
    exact ⟨after, ⟨placed, reads, valid, rfl⟩, restEq⟩

end ContentQuery.Query
