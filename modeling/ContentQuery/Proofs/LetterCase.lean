/-
This file proves that the case of a letter of ASCII plays no part in a query, wherever the letter
stands: in a word, in a value, in quotes. It is folded away before anything is read, but folding
looks at more than one character at a time. A capital sigma becomes one of two small letters, and
which one depends on whether letters stand around it. A letter of ASCII is a letter in either case,
so a sigma finds the same neighbours, at whatever distance.

The rest of the query may be any text. That a letter of ASCII is folded like its small letter is
all that is used of it, and that is checked code by code.
-/

import ContentQuery.Proofs.Breaks
import ContentQuery.Query.Record
import Mathlib.Data.List.Forall2

namespace ContentQuery

namespace Text

/-! ### Letters in two cases -/

/-- The characters are the same, or they are one letter of ASCII in two cases. -/
def SameButCase (first second : Char) : Prop :=
  first = second ∨
    first.isAlpha = true ∧ second.isAlpha = true ∧ first.toLower = second.toLower

instance (first second : Char) : Decidable (SameButCase first second) :=
  inferInstanceAs (Decidable (_ ∨ _ ∧ _ ∧ _))

theorem SameButCase.toLower_eq {first second : Char} (same : SameButCase first second) :
    first.toLower = second.toLower := by
  rcases same with rfl | ⟨_, _, small⟩
  · rfl
  · exact small

/-- Texts that differ only in the case of letters of ASCII are one text in small letters. -/
theorem map_toLower_eq {first second : List Char} (same : List.Forall₂ SameButCase first second) :
    first.map Char.toLower = second.map Char.toLower := by
  induction same with
  | nil => rfl
  | cons here _ inductionHypothesis =>
    rw [List.map_cons, List.map_cons, here.toLower_eq, inductionHypothesis]

/-- Beyond ASCII there are no letters to make small. -/
theorem toLower_of_not_ascii {character : Char} (beyond : ¬ character.toNat < 0x80) :
    character.toLower = character := by
  unfold Char.toLower
  refine dif_neg fun capital => beyond ?_
  have last := UInt32.le_iff_toNat_le.mp capital.2
  exact Nat.lt_of_le_of_lt last (by decide)

/-! ### Folding small letters -/

/-- What does not tell the letters of ASCII from their small letters tells no character from its
small letter. -/
theorem apply_toLower {Value : Type} (view : Char → Value)
    (checked : ∀ code < 0x80, view (Char.ofNat code).toLower = view (Char.ofNat code))
    (character : Char) : view character.toLower = view character := by
  by_cases ascii : character.toNat < 0x80
  · exact @forall_ascii (fun letter => view letter.toLower = view letter) checked character ascii
  · rw [toLower_of_not_ascii ascii]

theorem isCaseIgnorable_toLower (character : Char) :
    isCaseIgnorable character.toLower = isCaseIgnorable character :=
  apply_toLower isCaseIgnorable (by decide) character

theorem isCased_toLower (character : Char) : isCased character.toLower = isCased character :=
  apply_toLower isCased (by decide) character

theorem toLower_eq_sigma_iff (character : Char) : character.toLower = 'Σ' ↔ character = 'Σ' :=
  decide_eq_decide.mp (apply_toLower (fun letter => decide (letter = 'Σ')) (by decide) character)

theorem lowercase_toLower (character : Char) : lowercase character.toLower = lowercase character :=
  apply_toLower lowercase (by decide) character

/-- The search for a letter finds one where it found one before. -/
theorem startsCased_map_toLower (text : List Char) :
    startsCased (text.map Char.toLower) = startsCased text := by
  induction text with
  | nil => rfl
  | cons character rest inductionHypothesis =>
    rw [List.map_cons, startsCased_cons, startsCased_cons, isCaseIgnorable_toLower,
      isCased_toLower, inductionHypothesis]

theorem foldCharacter_toLower (before : List Char) (character : Char) (after : List Char) :
    foldCharacter (before.map Char.toLower) character.toLower (after.map Char.toLower) =
      foldCharacter before character after := by
  simp only [foldCharacter, toLower_eq_sigma_iff, startsCased_map_toLower, lowercase_toLower]

/-- What comes before the text is made small along with it, since a sigma looks at both sides. -/
theorem foldAfter_map_toLower (before text : List Char) :
    foldAfter (before.map Char.toLower) (text.map Char.toLower) = foldAfter before text := by
  induction text generalizing before with
  | nil => rfl
  | cons character after inductionHypothesis =>
    rw [List.map_cons, foldAfter, foldAfter, foldCharacter_toLower, ← List.map_cons,
      inductionHypothesis]

theorem fold_map_toLower (text : List Char) : fold (text.map Char.toLower) = fold text :=
  foldAfter_map_toLower [] text

theorem fold_eq_of_sameButCase {first second : List Char}
    (same : List.Forall₂ SameButCase first second) : fold first = fold second := by
  rw [← fold_map_toLower first, map_toLower_eq same, fold_map_toLower]

end Text

namespace Query

open Text

/-- Queries that differ only in the case of letters of ASCII denote the same term, or they are
rejected with the same error, and they leave the same record. -/
theorem parse_eq_of_sameButCase (first second : String)
    (same : List.Forall₂ SameButCase first.toList second.toList) :
    parse first = parse second ∧ parseRecorded first = parseRecorded second := by
  have folded := fold_eq_of_sameButCase same
  rw [parse, parse, parseRecorded, parseRecorded, folded]
  exact ⟨rfl, rfl⟩

/-- The sigmas have letters of either case beside them, and in the rejected query the failure is
behind a letter that is folded to two characters. -/
theorem parse_eq_of_sameButCase_instances :
    parse "Title = \"aΣ\" OR title = 'Σ.b'" = parse "TITLE = \"AΣ\" or tiTLe = 'Σ.B'" ∧
      parse "TITLE = \"AΣ\" or tiTLe = 'Σ.B'" =
        .ok (.or (Term.single .title .equals "aς") (Term.single .title .equals "σ.b")) ∧
      parse "title = \"İx\" Y" = .error ⟨15, "end of query", "title = \"i\u0307x\" y"⟩ := by
  have accepted := (parse_eq_of_sameButCase "Title = \"aΣ\" OR title = 'Σ.b'"
    "TITLE = \"AΣ\" or tiTLe = 'Σ.B'" (by decide)).1
  have rejected := (parse_eq_of_sameButCase "title = \"İx\" Y" "TITLE = \"İX\" y" (by decide)).1
  exact ⟨accepted, rfl, rejected.trans rfl⟩

end Query

end ContentQuery
