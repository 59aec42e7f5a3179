/-
This file proves that the bounds which make the recursion of the grammar end are never used
up. Two runs of a rule with different bounds agree wherever fewer characters are left than
either bound counts. A group is entered behind its bracket and an operand behind its word, so
one character fewer is left each time that a bound goes down by one.

The rule for terms therefore satisfies the equation that the grammar gives for it, at any
nesting, and the limit on open groups is the only one that a query can run into.
-/

import ContentQuery.Proofs.Progress

namespace ContentQuery.Query

open Rule

variable {Value Other Leaf : Type} {count : Nat}

/-! ### Rules that agree -/

/-- The rules run alike wherever fewer characters are left than the given number. -/
def Rule.AgreeBelow (count : Nat) (rule other : Rule Value) : Prop :=
  ∀ ⦃cursor : Cursor⦄, cursor.rest.length < count → rule cursor = other cursor

namespace Rule

theorem AgreeBelow.refl (rule : Rule Value) : AgreeBelow count rule rule := fun _ _ => rfl

theorem AgreeBelow.of_le {fewer : Nat} {rule other : Rule Value} (le : fewer ≤ count)
    (agree : AgreeBelow count rule other) : AgreeBelow fewer rule other :=
  fun _ short => agree (Nat.lt_of_lt_of_le short le)

theorem AgreeBelow.bind {rule other : Rule Value} {next otherNext : Value → Rule Other}
    (agree : AgreeBelow count rule other) (tidy : rule.IsTidy)
    (nextAgree : ∀ value, AgreeBelow count (next value) (otherNext value)) :
    AgreeBelow count (rule >>= next) (other >>= otherNext) := by
  intro cursor short
  have further : (rule >>= next) cursor = (rule >>= otherNext) cursor :=
    bind_congr_of_ok fun {value _} runs =>
      nextAgree value (Nat.lt_of_le_of_lt (tidy.length_le runs) short)
  exact further.trans (bind_congr_of_eq otherNext (agree short))

/-- Behind a rule that takes something off the text, it is enough to agree below one less. -/
theorem AgreeBelow.bind_of_progresses {rule : Rule Value} {next otherNext : Value → Rule Other}
    (progresses : rule.Progresses)
    (nextAgree : ∀ value, AgreeBelow count (next value) (otherNext value)) :
    AgreeBelow (count + 1) (rule >>= next) (rule >>= otherNext) := by
  intro cursor short
  refine bind_congr_of_ok fun {value _} runs => nextAgree value ?_
  exact Nat.lt_of_lt_of_le (progresses runs) (Nat.le_of_lt_succ short)

theorem AgreeBelow.orElse {first other second otherSecond : Rule Value}
    (agree : AgreeBelow count first other) (secondAgree : AgreeBelow count second otherSecond) :
    AgreeBelow count (first.orElse second) (other.orElse otherSecond) := by
  intro cursor short
  unfold Rule.orElse
  rw [agree short, secondAgree short]

theorem AgreeBelow.nested {limit : Option Nat} {rule other : Rule Value}
    (agree : AgreeBelow count rule other) :
    AgreeBelow count (Rule.nested limit rule) (Rule.nested limit other) := by
  intro cursor short
  have same : rule (cursor.atDepth (cursor.depth + 1)) =
      other (cursor.atDepth (cursor.depth + 1)) := agree short
  unfold Rule.nested
  rw [same]

end Rule

/-! ### Bounds on operands -/

/-- Where nothing is left, no further operand is read. -/
theorem chainAfter_of_rest_nil (kind : Connective) (operand : Rule (Tree Leaf)) (bound : Nat)
    (left : Tree Leaf) {cursor : Cursor} (nothing : cursor.rest = []) :
    chainAfter kind operand bound left cursor = .ok (left, cursor) := by
  cases word : connective kind.word cursor with
  | error failure => exact chainAfter_of_error word
  | ok found =>
    have shorter := progresses_connective (word_ne_nil kind) word
    rw [nothing] at shorter
    exact absurd shorter (Nat.not_lt_zero _)

/-- Operands that run alike are joined alike, whatever the bounds on their number, if these
cover the characters left. -/
theorem agreeBelow_chainAfter (kind : Connective) {operand other : Rule (Tree Leaf)}
    (tidy : operand.IsTidy) (agree : AgreeBelow (count + 1) operand other)
    {bound otherBound : Nat} (covers : count ≤ bound) (otherCovers : count ≤ otherBound)
    (left : Tree Leaf) :
    AgreeBelow (count + 1) (chainAfter kind operand bound left)
      (chainAfter kind other otherBound left) := by
  induction count generalizing bound otherBound left with
  | zero =>
    intro cursor short
    have nothing : cursor.rest = [] := List.length_eq_zero_iff.mp (Nat.lt_one_iff.mp short)
    rw [chainAfter_of_rest_nil _ _ _ _ nothing, chainAfter_of_rest_nil _ _ _ _ nothing]
  | succ count inductionHypothesis =>
    intro cursor short
    cases word : connective kind.word cursor with
    | error failure => rw [chainAfter_of_error word, chainAfter_of_error word]
    | ok found =>
      obtain ⟨_, place⟩ := found
      obtain ⟨bound, rfl⟩ : ∃ fewer, bound = fewer + 1 := ⟨bound - 1, by omega⟩
      obtain ⟨otherBound, rfl⟩ : ∃ fewer, otherBound = fewer + 1 := ⟨otherBound - 1, by omega⟩
      rw [chainAfter_of_ok word, chainAfter_of_ok word]
      have shorter := progresses_connective (word_ne_nil kind) word
      have agreeBehind := agree.of_le (Nat.le_succ (count + 1))
      have joinAgree := fun right => inductionHypothesis agreeBehind (Nat.le_of_succ_le_succ covers)
        (Nat.le_of_succ_le_succ otherCovers) (.join kind left right)
      exact agreeBehind.bind tidy joinAgree (by omega)

theorem agreeBelow_chain (kind : Connective) {operand other : Rule (Tree Leaf)}
    (tidy : operand.IsTidy) (agree : AgreeBelow (count + 1) operand other)
    {bound otherBound : Nat} (covers : count ≤ bound) (otherCovers : count ≤ otherBound) :
    AgreeBelow (count + 1) (chain kind bound operand) (chain kind otherBound other) :=
  agree.bind tidy (agreeBelow_chainAfter kind tidy agree covers otherCovers)

/-- A bound on operands that covers the characters left is as good as their number. -/
theorem chainAfter_eq_of_covers (kind : Connective) {operand : Rule (Tree Leaf)}
    (tidy : operand.IsTidy) {cursor : Cursor} {bound : Nat}
    (covers : cursor.rest.length ≤ bound) (left : Tree Leaf) :
    chainAfter kind operand bound left cursor =
      chainAfter kind operand cursor.rest.length left cursor :=
  agreeBelow_chainAfter kind tidy (.refl operand) covers (Nat.le_refl _) left (Nat.lt_succ_self _)

/-! ### Bounds on items -/

/-- The loop over items goes on behind a comma. -/
theorem moreItems_of_ok {bound : Nat} {cursor place : Cursor}
    (comma : literal "," .comma cursor = .ok ((), place)) :
    moreItems (bound + 1) cursor = (do
      let next ← item
      let further ← moreItems bound
      pure (next :: further) : Rule (List (List Char))) place := by
  rw [moreItems, bind_ok (attempt_of_ok comma)]

/-- The loop over items ends where no comma stands. -/
theorem moreItems_of_error {bound : Nat} {cursor : Cursor} {failure : Failure}
    (noComma : literal "," .comma cursor = .error failure) :
    moreItems bound cursor = .ok ([], cursor) := by
  cases bound with
  | zero => rfl
  | succ bound =>
    rw [moreItems, bind_ok (attempt_of_error noComma)]
    rfl

/-- The bound on the number of items does not matter if it covers the characters left. -/
theorem agreeBelow_moreItems {bound otherBound : Nat} (covers : count ≤ bound)
    (otherCovers : count ≤ otherBound) :
    AgreeBelow (count + 1) (moreItems bound) (moreItems otherBound) := by
  induction count generalizing bound otherBound with
  | zero =>
    intro cursor short
    have nothing : cursor.rest = [] := List.length_eq_zero_iff.mp (Nat.lt_one_iff.mp short)
    have noComma : literal "," .comma cursor = .error (cursor.missing .comma) :=
      literal_eq_error_iff.mpr ⟨by rw [nothing]; decide, rfl⟩
    rw [moreItems_of_error noComma, moreItems_of_error noComma]
  | succ count inductionHypothesis =>
    intro cursor short
    cases comma : literal "," .comma cursor with
    | error failure => rw [moreItems_of_error comma, moreItems_of_error comma]
    | ok found =>
      obtain ⟨_, place⟩ := found
      obtain ⟨bound, rfl⟩ : ∃ fewer, bound = fewer + 1 := ⟨bound - 1, by omega⟩
      obtain ⟨otherBound, rfl⟩ : ∃ fewer, otherBound = fewer + 1 := ⟨otherBound - 1, by omega⟩
      have shorter := progresses_literal (by decide) comma
      rw [moreItems_of_ok comma, moreItems_of_ok comma]
      have further := inductionHypothesis (Nat.le_of_succ_le_succ covers)
        (Nat.le_of_succ_le_succ otherCovers)
      exact (AgreeBelow.refl item).bind isTidy_item
        (fun next => further.bind (isTidy_moreItems bound) fun _ => .refl _) (by omega)

theorem moreItems_eq_of_covers {cursor : Cursor} {bound : Nat}
    (covers : cursor.rest.length ≤ bound) :
    moreItems bound cursor = moreItems cursor.rest.length cursor :=
  agreeBelow_moreItems covers (Nat.le_refl _) (Nat.lt_succ_self _)

/-! ### Bounds on groups -/

theorem agreeBelow_primaryOf (limit : Option Nat) (leaf : Rule Leaf)
    {term other : Rule (Tree Leaf)} (tidy : term.IsTidy) (agree : AgreeBelow count term other) :
    AgreeBelow (count + 1) (primaryOf limit leaf term) (primaryOf limit leaf other) := by
  refine (AgreeBelow.refl _).orElse ?_
  refine AgreeBelow.bind_of_progresses (progresses_literal (by decide)).token fun _ => ?_
  exact (agree.bind tidy fun inner => AgreeBelow.refl _).nested

theorem agreeBelow_unaryOf {primary other : Rule (Tree Leaf)} (tidy : primary.IsTidy)
    (agree : AgreeBelow count primary other) :
    AgreeBelow count (unaryOf primary) (unaryOf other) := by
  refine (AgreeBelow.refl _).bind (fun start => (isTidy_connective _ start).attempt) fun found => ?_
  cases found with
  | none => exact agree
  | some _ => exact agree.bind tidy fun operand => AgreeBelow.refl _

/-- One step of the recursion turns terms that run alike into terms that run alike on texts
that are longer by one character. -/
theorem agreeBelow_step (limit : Option Nat) {leaf : Rule Leaf} (leafTidy : leaf.IsTidy)
    {term other : Rule (Tree Leaf)} (tidy : term.IsTidy) (agree : AgreeBelow count term other)
    {bound otherBound : Nat} (covers : count ≤ bound) (otherCovers : count ≤ otherBound) :
    AgreeBelow (count + 1)
      (chain .or bound (chain .and bound (unaryOf (primaryOf limit leaf term))))
      (chain .or otherBound (chain .and otherBound (unaryOf (primaryOf limit leaf other)))) := by
  have primaryTidy := isTidy_primaryOf limit leafTidy tidy
  have unaryTidy := isTidy_unaryOf primaryTidy
  have unaryAgree := agreeBelow_unaryOf primaryTidy (agreeBelow_primaryOf limit leaf tidy agree)
  exact agreeBelow_chain .or (isTidy_chain .and unaryTidy bound)
    (agreeBelow_chain .and unaryTidy unaryAgree covers otherCovers) covers otherCovers

/-- The bound of a term does not matter as long as it is above the characters left. -/
theorem agreeBelow_termWithin (limit : Option Nat) {leaf : Rule Leaf} (tidy : leaf.IsTidy)
    {bound otherBound : Nat} (covers : count ≤ bound) (otherCovers : count ≤ otherBound) :
    AgreeBelow count (termWithin limit leaf bound) (termWithin limit leaf otherBound) := by
  induction count generalizing bound otherBound with
  | zero => exact fun _ impossible => absurd impossible (Nat.not_lt_zero _)
  | succ count inductionHypothesis =>
    obtain ⟨bound, rfl⟩ : ∃ fewer, bound = fewer + 1 := ⟨bound - 1, by omega⟩
    obtain ⟨otherBound, rfl⟩ : ∃ fewer, otherBound = fewer + 1 := ⟨otherBound - 1, by omega⟩
    exact agreeBelow_step limit tidy (isTidy_termWithin limit tidy bound)
      (inductionHypothesis (by omega) (by omega)) (by omega) (by omega)

/-- The recursion equation of terms: a term is a chain of chains of operands whose groups hold
terms, and any bound on the operands will do that covers the characters left. -/
theorem term_eq (limit : Option Nat) {leaf : Rule Leaf} (tidy : leaf.IsTidy) {cursor : Cursor}
    {bound : Nat} (covers : cursor.rest.length ≤ bound) :
    term limit leaf cursor =
      chain .or bound (chain .and bound (unaryOf (primaryOf limit leaf (term limit leaf))))
        cursor := by
  have inner : AgreeBelow cursor.rest.length (termWithin limit leaf cursor.rest.length)
      (term limit leaf) :=
    fun place short => agreeBelow_termWithin limit tidy (Nat.succ_le_of_lt short)
      (Nat.le_refl _) (Nat.lt_succ_self _)
  exact agreeBelow_step limit tidy (isTidy_termWithin limit tidy _) inner (Nat.le_refl _) covers
    (Nat.lt_succ_self _)

end ContentQuery.Query
