/-
This file proves that a text is folded piece by piece. Only a capital sigma looks at its
neighbours, and it looks no further than the first character on either side that is not
case-ignorable. A character that is neither cased nor case-ignorable, such as a space, a bracket
or a double quote, is therefore as good as the end of the text: what stands on one side of it
has no part in how the other side is folded.

A single quote is case-ignorable and no such break. What is folded in front of it depends on
whether a letter comes next behind it, and the dependence is on that alone.

Nor does folding move the signs of a query, since every character of ASCII that is no letter is
its own small form and that of no other character. For the letters beyond ASCII this is again
checked run by run.
-/

import ContentQuery.Proofs.Folding

namespace ContentQuery.Text

/-! ### What a sigma looks at -/

/-- The character ends the search for a letter, on either side, and is its own small form. -/
def IsBreak (character : Char) : Prop :=
  isCaseIgnorable character = false ∧ isCased character = false ∧
    lowercase character = [character]

instance (character : Char) : Decidable (IsBreak character) :=
  inferInstanceAs (Decidable (_ ∧ _ ∧ lowercase character = [character]))

/-- Signs that stand around the words and values of a query. -/
def querySigns : List Char := [' ', '(', ')', ',', '=', '~', '"']

theorem isBreak_of_mem {sign : Char} (member : sign ∈ querySigns) : IsBreak sign := by
  have breaks : querySigns.all (fun sign => decide (IsBreak sign)) = true := by decide +kernel
  exact of_decide_eq_true (List.all_eq_true.mp breaks sign member)

theorem startsCased_cons (character : Char) (text : List Char) :
    startsCased (character :: text) =
      if isCaseIgnorable character then startsCased text else isCased character := by
  unfold startsCased
  by_cases ignorable : isCaseIgnorable character = true
  · rw [List.dropWhile_cons_of_pos ignorable, if_pos ignorable]
  · rw [List.dropWhile_cons_of_neg ignorable, if_neg ignorable]
    rfl

/-- What follows a text matters only for whether a letter comes first in it, ... -/
theorem startsCased_append_congr {behind other : List Char}
    (same : startsCased behind = startsCased other) (text : List Char) :
    startsCased (text ++ behind) = startsCased (text ++ other) := by
  induction text with
  | nil => exact same
  | cons character rest inductionHypothesis =>
    rw [List.cons_append, List.cons_append, startsCased_cons, startsCased_cons,
      inductionHypothesis]

/-- ... and not at all where the text has a character that is not case-ignorable. -/
theorem startsCased_append_of_mem {text : List Char} {character : Char} (member : character ∈ text)
    (found : isCaseIgnorable character = false) (behind : List Char) :
    startsCased (text ++ behind) = startsCased text := by
  induction text with
  | nil => cases member
  | cons first rest inductionHypothesis =>
    rw [List.cons_append, startsCased_cons, startsCased_cons]
    rcases List.mem_cons.mp member with rfl | member
    · rw [found]
      rfl
    · rw [inductionHypothesis member]

theorem startsCased_append_of_all {text : List Char}
    (ignorable : ∀ character ∈ text, isCaseIgnorable character = true) (behind : List Char) :
    startsCased (text ++ behind) = startsCased behind := by
  induction text with
  | nil => rfl
  | cons first rest inductionHypothesis =>
    obtain ⟨here, further⟩ := List.forall_mem_cons.mp ignorable
    rw [List.cons_append, startsCased_cons, here, inductionHypothesis further]
    rfl

theorem startsCased_of_isBreak {character : Char} (isBreak : IsBreak character)
    (text : List Char) : startsCased (character :: text) = false := by
  rw [startsCased_cons, isBreak.1]
  exact isBreak.2.1

/-! ### Folding between two texts -/

/-- Folds a text of which `before`, read backwards, comes first and `behind` comes next. -/
def foldBetween (before : List Char) : List Char → List Char → List Char
  | [], _ => []
  | character :: after, behind =>
    foldCharacter before character (after ++ behind) ++
      foldBetween (character :: before) after behind

theorem foldAfter_append (before text behind : List Char) :
    foldAfter before (text ++ behind) =
      foldBetween before text behind ++ foldAfter (text.reverse ++ before) behind := by
  induction text generalizing before with
  | nil => rfl
  | cons character after inductionHypothesis =>
    rw [List.cons_append, foldAfter, foldBetween, inductionHypothesis, List.reverse_cons,
      List.append_assoc, List.append_assoc]
    rfl

theorem foldBetween_append (before front text behind : List Char) :
    foldBetween before (front ++ text) behind =
      foldBetween before front (text ++ behind) ++
        foldBetween (front.reverse ++ before) text behind := by
  induction front generalizing before with
  | nil => rfl
  | cons character front inductionHypothesis =>
    rw [List.cons_append, foldBetween, foldBetween, inductionHypothesis, List.reverse_cons,
      List.append_assoc, List.append_assoc, List.append_assoc]
    rfl

theorem foldAfter_eq_foldBetween (before text : List Char) :
    foldAfter before text = foldBetween before text [] := by
  have whole := foldAfter_append before text []
  rwa [List.append_nil, foldAfter, List.append_nil] at whole

/-- Only a sigma is folded by what stands around it, and then by whether letters come first on
the two sides. -/
theorem foldCharacter_congr {before otherBefore after otherAfter : List Char} (character : Char)
    (sameBefore : startsCased before = startsCased otherBefore)
    (sameAfter : startsCased after = startsCased otherAfter) :
    foldCharacter before character after = foldCharacter otherBefore character otherAfter := by
  rw [foldCharacter, foldCharacter, sameBefore, sameAfter]

theorem foldBetween_congr {before otherBefore behind otherBehind : List Char}
    (sameBefore : startsCased before = startsCased otherBefore)
    (sameBehind : startsCased behind = startsCased otherBehind) (text : List Char) :
    foldBetween before text behind = foldBetween otherBefore text otherBehind := by
  induction text generalizing before otherBefore with
  | nil => rfl
  | cons character after inductionHypothesis =>
    have sameNext : startsCased (character :: before) = startsCased (character :: otherBefore) :=
      startsCased_append_congr sameBefore [character]
    rw [foldBetween, foldBetween, inductionHypothesis sameNext,
      foldCharacter_congr character sameBefore (startsCased_append_congr sameBehind after)]

theorem foldAfter_congr {before other : List Char}
    (same : startsCased before = startsCased other) (text : List Char) :
    foldAfter before text = foldAfter other text := by
  rw [foldAfter_eq_foldBetween, foldAfter_eq_foldBetween, foldBetween_congr same rfl]

/-! ### Folding across a break -/

/-- A break stays where it is, and both sides are folded as texts of their own. -/
theorem fold_append_cons {character : Char} (isBreak : IsBreak character)
    (front back : List Char) :
    fold (front ++ character :: back) = fold front ++ character :: fold back := by
  have small := isBreak.2.2
  have notSigma : character ≠ 'Σ' := by
    rintro rfl
    exact absurd small (by decide)
  have frontEq : foldBetween [] front (character :: back) = foldAfter [] front := by
    rw [foldAfter_eq_foldBetween]
    exact foldBetween_congr rfl (startsCased_of_isBreak isBreak back) front
  have backEq : foldAfter (character :: (front.reverse ++ [])) back = foldAfter [] back :=
    foldAfter_congr (startsCased_of_isBreak isBreak _) back
  rw [fold, foldAfter_append, frontEq, foldAfter, backEq, foldCharacter, if_neg notSigma, small]
  rfl

theorem fold_cons {character : Char} (isBreak : IsBreak character) (text : List Char) :
    fold (character :: text) = character :: fold text :=
  fold_append_cons isBreak [] text

/-! ### Characters of ASCII -/

/-- The small letters of the run are characters beyond ASCII, or the small letter is the k of
the Kelvin sign. -/
def CapitalRun.avoidsAscii (run : CapitalRun) : Bool :=
  -- Boolean comparisons, as the kernel evaluates them for every run.
  (Nat.blt 0x7f (run.small run.first) && ((run.small run.last).blt 0xd800 ||
    Nat.blt 0xdfff (run.small run.first) && (run.small run.last).blt 0x110000)) ||
      run.first == run.last && run.small run.first == 0x6b

theorem capitalRuns_avoidAscii : capitalRuns.all CapitalRun.avoidsAscii = true := by
  decide +kernel

theorem toNat_ofNat {code : Nat} (valid : code.isValidChar) : (Char.ofNat code).toNat = code := by
  rw [Char.ofNat, dif_pos valid]
  rfl

/-- What a run gives for one of its capitals is beyond ASCII, or it is the letter k. -/
theorem CapitalRun.small_of_avoidsAscii {run : CapitalRun} {code : Nat}
    (avoids : run.avoidsAscii = true) (has : run.Has code) :
    0x80 ≤ (Char.ofNat (run.small code)).toNat ∨ Char.ofNat (run.small code) = 'k' := by
  obtain ⟨first, last, _⟩ := has
  simp only [avoidsAscii, small, Bool.or_eq_true, Bool.and_eq_true, Nat.blt_eq, beq_iff_eq]
    at avoids
  rcases avoids with ⟨beyond, valid⟩ | ⟨alone, kelvin⟩
  · have isValid : (run.small code).isValidChar := by
      unfold Nat.isValidChar small
      omega
    have beyondHere : 0x80 ≤ run.small code := by
      unfold small
      omega
    exact Or.inl (by rwa [toNat_ofNat isValid])
  · obtain rfl : code = run.first := by omega
    exact Or.inr (by rw [small, kelvin])

/-- Apart from k and i, which other letters give too, a character of ASCII comes from one. -/
theorem ascii_of_mem_lowercase {character small : Char} (member : small ∈ lowercase character)
    (ascii : small.toNat < 0x80) (notKelvin : small ≠ 'k') (notDotted : small ≠ 'i') :
    character.toNat < 0x80 ∧ small = character.toLower := by
  unfold lowercase at member
  split at member
  · rename_i asciiBefore
    exact ⟨asciiBefore, List.mem_singleton.mp member⟩
  · rename_i beyond
    refine absurd ascii (Nat.not_lt.mpr ?_)
    split at member
    · rcases List.mem_cons.mp member with rfl | member
      · exact absurd rfl notDotted
      · rw [List.mem_singleton.mp member]
        decide
    · rw [List.mem_singleton] at member
      rcases lowercaseCode_cases character.toNat capitalRuns with same | ⟨run, isRun, has, moved⟩
      · rw [same, Char.ofNat_toNat] at member
        exact member ▸ Nat.not_lt.mp beyond
      · have avoids := List.all_eq_true.mp capitalRuns_avoidAscii run isRun
        rw [moved] at member
        rcases CapitalRun.small_of_avoidsAscii avoids has with beyondAscii | kelvin
        · exact member ▸ beyondAscii
        · exact absurd (member.trans kelvin) notKelvin

/-- The character of ASCII is no letter. -/
def IsSymbol (character : Char) : Prop :=
  character.toNat < 0x80 ∧ ¬ ('A' ≤ character ∧ character ≤ 'Z') ∧
    ¬ ('a' ≤ character ∧ character ≤ 'z')

instance (character : Char) : Decidable (IsSymbol character) :=
  inferInstanceAs (Decidable (_ ∧ ¬ (_ ∧ _) ∧ ¬ (_ ∧ _)))

theorem isSymbol_of_mem {sign : Char} (member : sign ∈ querySigns) : IsSymbol sign := by
  have symbols : querySigns.all (fun sign => decide (IsSymbol sign)) = true := by decide
  exact of_decide_eq_true (List.all_eq_true.mp symbols sign member)

/-- A symbol is its own small form, ... -/
theorem IsSymbol.lowercase_eq {symbol : Char} (isSymbol : IsSymbol symbol) :
    lowercase symbol = [symbol] := by
  have alone : ∀ symbol : Char, symbol.toNat < 0x80 → IsSymbol symbol →
      symbol.toLower = symbol := forall_ascii (by decide)
  rw [lowercase_of_ascii isSymbol.1, alone symbol isSymbol.1 isSymbol]

/-- ... and that of no other character. -/
theorem IsSymbol.eq_of_mem_lowercase {character symbol : Char} (isSymbol : IsSymbol symbol)
    (member : symbol ∈ lowercase character) : character = symbol := by
  have notLetter : symbol ≠ 'k' ∧ symbol ≠ 'i' := by
    constructor
    · rintro rfl
      exact absurd isSymbol (by decide)
    · rintro rfl
      exact absurd isSymbol (by decide)
  obtain ⟨ascii, small⟩ := ascii_of_mem_lowercase member isSymbol.1 notLetter.1 notLetter.2
  have alone : ∀ character : Char, character.toNat < 0x80 → IsSymbol character.toLower →
      character = character.toLower := forall_ascii (by decide)
  rw [small] at isSymbol ⊢
  exact alone character ascii isSymbol

theorem IsSymbol.ne_sigma {symbol : Char} (isSymbol : IsSymbol symbol) :
    symbol ≠ 'Σ' ∧ symbol ≠ 'ς' ∧ symbol ≠ 'σ' := by
  have beyond : ¬ IsSymbol 'Σ' ∧ ¬ IsSymbol 'ς' ∧ ¬ IsSymbol 'σ' := by decide
  exact ⟨fun same => beyond.1 (same ▸ isSymbol), fun same => beyond.2.1 (same ▸ isSymbol),
    fun same => beyond.2.2 (same ▸ isSymbol)⟩

/-- Apart from the two small sigmas, a character is folded to its lowercase. -/
theorem mem_lowercase_of_mem_foldCharacter {before after : List Char} {character small : Char}
    (member : small ∈ foldCharacter before character after) (notFinal : small ≠ 'ς')
    (notInner : small ≠ 'σ') : small ∈ lowercase character := by
  unfold foldCharacter at member
  split at member
  · split at member
    · exact absurd (List.mem_singleton.mp member) notFinal
    · exact absurd (List.mem_singleton.mp member) notInner
  · exact member

theorem IsSymbol.foldCharacter_eq {symbol : Char} (isSymbol : IsSymbol symbol)
    (before after : List Char) : foldCharacter before symbol after = [symbol] := by
  rw [foldCharacter, if_neg isSymbol.ne_sigma.1, isSymbol.lowercase_eq]

/-- Where a symbol is folded to, it stood before. -/
theorem IsSymbol.mem_foldCharacter_iff {symbol : Char} (isSymbol : IsSymbol symbol)
    (before : List Char) (character : Char) (after : List Char) :
    symbol ∈ foldCharacter before character after ↔ character = symbol := by
  obtain ⟨_, notFinal, notInner⟩ := isSymbol.ne_sigma
  constructor
  · intro member
    exact isSymbol.eq_of_mem_lowercase
      (mem_lowercase_of_mem_foldCharacter member notFinal notInner)
  · rintro rfl
    rw [isSymbol.foldCharacter_eq]
    exact List.mem_singleton.mpr rfl

/-- Folding neither makes symbols nor takes any away. -/
theorem IsSymbol.mem_foldBetween_iff {symbol : Char} (isSymbol : IsSymbol symbol)
    (before text behind : List Char) :
    symbol ∈ foldBetween before text behind ↔ symbol ∈ text := by
  induction text generalizing before with
  | nil => exact Iff.rfl
  | cons character after inductionHypothesis =>
    rw [foldBetween, List.mem_append, inductionHypothesis, isSymbol.mem_foldCharacter_iff,
      List.mem_cons, eq_comm]

theorem IsSymbol.mem_fold_iff {symbol : Char} (isSymbol : IsSymbol symbol) (text : List Char) :
    symbol ∈ fold text ↔ symbol ∈ text := by
  rw [fold, foldAfter_eq_foldBetween]
  exact isSymbol.mem_foldBetween_iff [] text []

end ContentQuery.Text
