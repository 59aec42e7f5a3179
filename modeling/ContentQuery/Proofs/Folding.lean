/-
This file proves that folding settles: a folded text is in small letters, so folding it, or any
piece of it, changes nothing. The small letters that a run of capitals gives lie beside every
run, or between its capitals where these alternate with small letters. For each pair of runs
that is one comparison of their bounds, so the table is checked run by run and not letter by
letter. Nor is a capital case-ignorable, which is checked by going through the two tables together.
-/

import ContentQuery.Proofs.Writing

namespace ContentQuery.Text

/-! ### Capitals -/

/-- The small letter that the run gives for a code point. -/
def CapitalRun.small (run : CapitalRun) (code : Nat) : Nat := (code + run.shift).toNat

/-- The code point is a capital of the run. -/
def CapitalRun.Has (run : CapitalRun) (code : Nat) : Prop :=
  run.first ≤ code ∧ code ≤ run.last ∧ (code - run.first) % run.step = 0

instance (run : CapitalRun) (code : Nat) : Decidable (run.Has code) :=
  inferInstanceAs (Decidable (run.first ≤ code ∧ code ≤ run.last ∧
    (code - run.first) % run.step = 0))

/-- A code point is its own small letter, or it is a capital of some run. -/
theorem lowercaseCode_cases (code : Nat) (runs : List CapitalRun) :
    lowercaseCode code runs = code ∨
      ∃ run ∈ runs, run.Has code ∧ lowercaseCode code runs = run.small code := by
  induction runs with
  | nil => exact Or.inl rfl
  | cons run rest inductionHypothesis =>
    rw [lowercaseCode]
    split
    · exact Or.inl rfl
    · rename_i notBefore
      split
      · rename_i within
        rw [Bool.and_eq_true, decide_eq_true_eq, beq_iff_eq] at within
        exact Or.inr ⟨run, List.mem_cons_self, ⟨Nat.not_lt.mp notBefore, within⟩, rfl⟩
      · rcases inductionHypothesis with same | ⟨other, member, has, moved⟩
        · exact Or.inl same
        · exact Or.inr ⟨other, List.mem_cons_of_mem _ member, has, moved⟩

/-! ### Small letters are no capitals -/

/-- The small letters of the run lie apart from the capitals of the other run: before them,
behind them, or at odd distances where the capitals are two apart. -/
def CapitalRun.misses (run other : CapitalRun) : Bool :=
  -- The comparisons are boolean ones because the kernel evaluates them for every pair of runs.
  (run.small run.last).blt other.first || other.last.blt (run.small run.first) ||
    (other.step == 2 && (run.step == 2 || run.first == run.last) &&
      (run.small run.first - other.first) % 2 == 1)

theorem CapitalRun.not_has_of_misses {run other : CapitalRun} {code : Nat}
    (apart : run.misses other = true) (has : run.Has code) :
    ¬ other.Has (run.small code) := by
  rintro ⟨first, last, step⟩
  obtain ⟨runFirst, runLast, runStep⟩ := has
  simp only [misses, small, Bool.or_eq_true, Bool.and_eq_true, Nat.blt_eq, beq_iff_eq] at apart
  simp only [small] at first last step
  rcases apart with (before | behind) | ⟨⟨otherTwo, runTwo | alone⟩, odd⟩
  · omega
  · omega
  · rw [otherTwo] at step
    rw [runTwo] at runStep
    omega
  · rw [otherTwo] at step
    omega

/-- The capitals of ASCII. -/
def asciiCapitals : CapitalRun := ⟨0x41, 0x5a, 1, 32⟩

/-- The capital I with a dot above. -/
def dottedCapital : CapitalRun := ⟨0x130, 0x130, 1, 0⟩

theorem capitalRuns_miss :
    (capitalRuns.all fun run => (asciiCapitals :: dottedCapital :: capitalRuns).all run.misses) =
      true := by
  decide +kernel

/-- What a run of the table gives is no capital of any kind. -/
theorem not_has_of_capitalRuns {run other : CapitalRun} {code : Nat} (member : run ∈ capitalRuns)
    (otherMember : other ∈ asciiCapitals :: dottedCapital :: capitalRuns) (has : run.Has code) :
    ¬ other.Has (run.small code) :=
  CapitalRun.not_has_of_misses
    (List.all_eq_true.mp (List.all_eq_true.mp capitalRuns_miss run member) other otherMember) has

/-- A code point that is no capital of any kind is left alone. -/
theorem lowercase_ofNat {code : Nat}
    (small : ∀ run ∈ asciiCapitals :: dottedCapital :: capitalRuns, ¬ run.Has code) :
    lowercase (Char.ofNat code) = [Char.ofNat code] := by
  by_cases valid : code.isValidChar
  · have codeEq : (Char.ofNat code).toNat = code := by
      rw [Char.ofNat, dif_pos valid]
      rfl
    unfold lowercase
    rw [codeEq]
    split
    · rename_i ascii
      have notCapital := small asciiCapitals (by simp)
      have alone : ∀ code < 0x80, ¬ asciiCapitals.Has code →
          (Char.ofNat code).toLower = Char.ofNat code := by decide
      rw [alone code ascii notCapital]
    · split
      · rename_i dotted
        have same : code = 0x130 := by
          rw [← codeEq, dotted]
          rfl
        exact absurd (show dottedCapital.Has code by rw [same]; decide)
          (small dottedCapital (by simp))
      · rcases lowercaseCode_cases code capitalRuns with same | ⟨run, member, has, _⟩
        · rw [same]
        · exact absurd has (small run (by simp [member]))
  · have invalid : Char.ofNat code = Char.ofNat 0 := by
      rw [Char.ofNat, dif_neg valid]
      rfl
    rw [invalid]
    decide

/-- The dot that is left of the capital I with a dot above is left alone. -/
theorem lowercase_dotAbove : lowercase (Char.ofNat 0x307) = [Char.ofNat 0x307] := by
  have none : ((asciiCapitals :: dottedCapital :: capitalRuns).all fun run =>
      !decide (run.Has 0x307)) = true := by decide +kernel
  refine lowercase_ofNat fun run member => ?_
  simpa using List.all_eq_true.mp none run member

/-- A property of the characters of ASCII is checked code by code. -/
theorem forall_ascii {holds : Char → Prop} (checked : ∀ code < 0x80, holds (Char.ofNat code))
    (character : Char) (ascii : character.toNat < 0x80) : holds character := by
  have here := checked character.toNat ascii
  rwa [Char.ofNat_toNat] at here

theorem CapitalRun.has_capitalRanges {run : CapitalRun} {code : Nat} (member : run ∈ capitalRuns)
    (has : run.Has code) : capitalRanges.has code = true := by
  rw [RangeTable.has_iff]
  exact ⟨_, List.mem_map.mpr ⟨run, member, rfl⟩, has.1, has.2.1⟩

/-- No capital is case-ignorable. -/
theorem lowercase_of_isCaseIgnorable {character : Char}
    (ignorable : isCaseIgnorable character = true) : lowercase character = [character] := by
  by_cases ascii : character.toNat < 0x80
  · have settled : ∀ character : Char, character.toNat < 0x80 →
        isCaseIgnorable character = true → lowercase character = [character] :=
      forall_ascii (by decide)
    exact settled character ascii ignorable
  · rw [isCaseIgnorable, if_neg ascii] at ignorable
    have miss : capitalRanges.misses caseIgnorableRanges = true := by decide +kernel
    have dotted : caseIgnorableRanges.has 0x130 = false := by decide +kernel
    rw [← Char.ofNat_toNat character]
    refine lowercase_ofNat fun run member has => ?_
    rcases List.mem_cons.mp member with rfl | member
    · exact ascii (Nat.lt_of_le_of_lt has.2.1 (by decide))
    · rcases List.mem_cons.mp member with rfl | member
      · rw [show character.toNat = 0x130 from Nat.le_antisymm has.2.1 has.1, dotted] at ignorable
        cases ignorable
      · exact RangeTable.not_has_of_misses miss (CapitalRun.has_capitalRanges member has) ignorable

/-- The small letter of a character is left alone. -/
theorem lowercase_of_mem_lowercase {character small : Char} (member : small ∈ lowercase character) :
    lowercase small = [small] := by
  unfold lowercase at member
  split at member
  · rename_i ascii
    have settled : ∀ character : Char, character.toNat < 0x80 →
        lowercase character.toLower = [character.toLower] := forall_ascii (by decide)
    rw [List.mem_singleton.mp member]
    exact settled character ascii
  · split at member
    · rcases List.mem_cons.mp member with rfl | member
      · decide
      · rw [List.mem_singleton.mp member]
        exact lowercase_dotAbove
    · rename_i beyondAscii notDotted
      rw [List.mem_singleton.mp member]
      rcases lowercaseCode_cases character.toNat capitalRuns with same | ⟨run, isRun, has, moved⟩
      · rw [same, Char.ofNat_toNat, lowercase, if_neg beyondAscii, if_neg notDotted, same,
          Char.ofNat_toNat]
      · rw [moved]
        exact lowercase_ofNat fun other otherMember => not_has_of_capitalRuns isRun otherMember has

end ContentQuery.Text

namespace ContentQuery.Query

open Text

/-! ### Folded texts -/

theorem isSmall_foldCharacter (before : List Char) (character : Char) (after : List Char) :
    IsSmall (foldCharacter before character after) := by
  have sigmas : IsSmall ['ς'] ∧ IsSmall ['σ'] := by decide +kernel
  unfold foldCharacter
  split
  · split
    · exact sigmas.1
    · exact sigmas.2
  · exact fun small member => lowercase_of_mem_lowercase member

/-- A folded text is in small letters. -/
theorem isSmall_fold (text : List Char) : IsSmall (fold text) := by
  have after : ∀ before, IsSmall (foldAfter before text) := by
    induction text with
    | nil => exact fun _ _ impossible => nomatch impossible
    | cons character rest inductionHypothesis =>
      exact fun before => isSmall_append.mpr
        ⟨isSmall_foldCharacter before character rest, inductionHypothesis (character :: before)⟩
  exact after []

/-- Folding leaves every piece of a folded text alone. -/
theorem fold_of_infix {text piece : List Char} (within : piece <:+: fold text) :
    fold piece = piece :=
  fold_eq_self fun character member => isSmall_fold text character (within.subset member)

end ContentQuery.Query
