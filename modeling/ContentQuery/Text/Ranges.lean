/-
This file holds the search in a table of code point ranges. The character classes that
Unicode defines by enumeration are such tables, one to a file. The search ends at the first
range that begins past the code point, so it is right only for ranges that ascend; a table
therefore comes with the proof that they do.
-/

namespace ContentQuery.Text

/-- Whether every range ends before the next one begins, the first of them at `least` or
later. -/
def ascendFrom (least : Nat) : List (Nat × Nat) → Bool
  | [] => true
  | (first, last) :: rest => least ≤ first && first ≤ last && ascendFrom (last + 1) rest

/-- Ranges of code points from `least` on in ascending order, each given by its first and last
code point. -/
structure RangeTable (least : Nat) where
  /-- The ranges. -/
  ranges : List (Nat × Nat)
  /-- Every range ends before the next one begins. -/
  ascend : ascendFrom least ranges = true := by decide +kernel

/-- Whether a code point lies in one of the ranges, if they ascend. -/
def inRanges (ranges : List (Nat × Nat)) (code : Nat) : Bool :=
  match ranges with
  | [] => false
  | (first, last) :: rest =>
    if code < first then false
    else if code ≤ last then true
    else inRanges rest code

/-- Whether a code point lies in one of the ranges of a table. -/
def RangeTable.has {least : Nat} (table : RangeTable least) (code : Nat) : Bool :=
  inRanges table.ranges code

/-- A code point before the start of ascending ranges lies in none of them. -/
theorem not_mem_of_ascendFrom {ranges : List (Nat × Nat)} {least code : Nat}
    (ascend : ascendFrom least ranges = true) (before : code < least) :
    ∀ range ∈ ranges, ¬(range.1 ≤ code ∧ code ≤ range.2) := by
  induction ranges generalizing least with
  | nil => simp
  | cons head rest inductionHypothesis =>
    obtain ⟨first, last⟩ := head
    simp only [ascendFrom, Bool.and_eq_true, decide_eq_true_eq] at ascend
    intro range member
    rcases List.mem_cons.mp member with rfl | member
    · simp only
      omega
    · exact inductionHypothesis ascend.2 (by omega) range member

theorem le_of_ascendFrom {ranges : List (Nat × Nat)} {least code : Nat}
    (ascend : ascendFrom least ranges = true)
    (within : ∃ range ∈ ranges, range.1 ≤ code ∧ code ≤ range.2) : least ≤ code := by
  obtain ⟨range, member, inside⟩ := within
  exact Nat.not_lt.mp fun before => not_mem_of_ascendFrom ascend before range member inside

/-- The search finds the code points of ascending ranges, and no others. -/
theorem inRanges_eq_true_iff {ranges : List (Nat × Nat)} {least : Nat}
    (ascend : ascendFrom least ranges = true) (code : Nat) :
    inRanges ranges code = true ↔ ∃ range ∈ ranges, range.1 ≤ code ∧ code ≤ range.2 := by
  induction ranges generalizing least with
  | nil => simp [inRanges]
  | cons head rest inductionHypothesis =>
    obtain ⟨first, last⟩ := head
    simp only [ascendFrom, Bool.and_eq_true, decide_eq_true_eq] at ascend
    simp only [inRanges, List.mem_cons, exists_eq_or_imp]
    by_cases before : code < first
    · have outside := not_mem_of_ascendFrom ascend.2 (show code < last + 1 by omega)
      simp only [before, if_true, Bool.false_eq_true, false_iff, not_or, not_exists, not_and]
      exact ⟨by omega, fun range member => not_and.mp (outside range member)⟩
    · by_cases within : code ≤ last
      · simp only [before, within, if_false, if_true, true_iff]
        exact Or.inl ⟨by omega, trivial⟩
      · simp only [before, within, if_false, and_false, false_or]
        exact inductionHypothesis ascend.2

theorem RangeTable.has_iff {least : Nat} (table : RangeTable least) (code : Nat) :
    table.has code = true ↔ ∃ range ∈ table.ranges, range.1 ≤ code ∧ code ≤ range.2 :=
  inRanges_eq_true_iff table.ascend code

/-! ### Tables that share no code point -/

theorem ascendFrom_of_le {ranges : List (Nat × Nat)} {least lower : Nat} (le : lower ≤ least)
    (ascend : ascendFrom least ranges = true) : ascendFrom lower ranges = true := by
  cases ranges with
  | nil => rfl
  | cons head rest =>
    obtain ⟨first, last⟩ := head
    simp only [ascendFrom, Bool.and_eq_true, decide_eq_true_eq] at ascend ⊢
    exact ⟨⟨Nat.le_trans le ascend.1.1, ascend.1.2⟩, ascend.2⟩

theorem ascendFrom_first {head : Nat × Nat} {rest : List (Nat × Nat)} {least : Nat}
    (ascend : ascendFrom least (head :: rest) = true) :
    ascendFrom head.1 (head :: rest) = true := by
  obtain ⟨first, last⟩ := head
  simp only [ascendFrom, Bool.and_eq_true, decide_eq_true_eq] at ascend ⊢
  exact ⟨⟨Nat.le_refl first, ascend.1.2⟩, ascend.2⟩

theorem ascendFrom_dropWhile {ranges : List (Nat × Nat)} {least : Nat} (drops : Nat × Nat → Bool)
    (ascend : ascendFrom least ranges = true) :
    ascendFrom least (ranges.dropWhile drops) = true := by
  induction ranges generalizing least with
  | nil => rfl
  | cons head rest inductionHypothesis =>
    rw [List.dropWhile_cons]
    split
    · obtain ⟨first, last⟩ := head
      simp only [ascendFrom, Bool.and_eq_true, decide_eq_true_eq] at ascend
      exact ascendFrom_of_le (by omega) (inductionHypothesis ascend.2)
    · exact ascend

/-- Whether no range meets one of the other list, if both ascend. The other ranges that end before
a range begins are not looked at again. -/
def rangesMiss : List (Nat × Nat) → List (Nat × Nat) → Bool
  | [], _ => true
  | (first, last) :: rest, others =>
    let ahead := others.dropWhile fun range => decide (range.2 < first)
    ahead.head?.all (fun range => decide (last < range.1)) && rangesMiss rest ahead

/-- Ascending ranges that miss each other share no code point. -/
theorem not_mem_of_rangesMiss {ranges others : List (Nat × Nat)} {least otherLeast code : Nat}
    (ascend : ascendFrom least ranges = true) (othersAscend : ascendFrom otherLeast others = true)
    (miss : rangesMiss ranges others = true)
    (within : ∃ range ∈ ranges, range.1 ≤ code ∧ code ≤ range.2) :
    ∀ range ∈ others, ¬(range.1 ≤ code ∧ code ≤ range.2) := by
  induction ranges generalizing least others with
  | nil =>
    obtain ⟨_, impossible, _⟩ := within
    cases impossible
  | cons head rest inductionHypothesis =>
    have notBefore := le_of_ascendFrom (ascendFrom_first ascend) within
    obtain ⟨first, last⟩ := head
    simp only [ascendFrom, Bool.and_eq_true, decide_eq_true_eq] at ascend
    simp only [rangesMiss, Bool.and_eq_true] at miss
    have aheadAscends := ascendFrom_dropWhile (fun range => decide (range.2 < first)) othersAscend
    intro range member inside
    have parts := @List.takeWhile_append_dropWhile _ (fun range => decide (range.2 < first)) others
    rw [← parts, List.mem_append] at member
    -- A dropped range ends before the code point. If the head has it, those ahead begin behind it.
    rcases member with dropped | isAhead
    · have ends := List.all_eq_true.mp List.all_takeWhile range dropped
      rw [decide_eq_true_eq] at ends
      omega
    · obtain ⟨here, member, insideHere⟩ := within
      rcases List.mem_cons.mp member with rfl | member
      · generalize others.dropWhile (fun range => decide (range.2 < first)) = ahead at *
        cases ahead with
        | nil => cases isAhead
        | cons next further =>
          have before : code < next.1 :=
            Nat.lt_of_le_of_lt insideHere.2 (of_decide_eq_true miss.1)
          exact not_mem_of_ascendFrom (ascendFrom_first aheadAscends) before range isAhead inside
      · exact inductionHypothesis ascend.2 aheadAscends miss.2 ⟨here, member, insideHere⟩ range
          isAhead inside

/-- Whether no range of the one table meets one of the other. -/
def RangeTable.misses {least otherLeast : Nat} (table : RangeTable least)
    (other : RangeTable otherLeast) : Bool :=
  rangesMiss table.ranges other.ranges

theorem RangeTable.not_has_of_misses {least otherLeast code : Nat} {table : RangeTable least}
    {other : RangeTable otherLeast} (miss : table.misses other = true)
    (has : table.has code = true) : ¬ other.has code = true := by
  rw [has_iff] at has ⊢
  rintro ⟨range, member, inside⟩
  exact not_mem_of_rangesMiss table.ascend other.ascend miss has range member inside

end ContentQuery.Text
