/-
This file proves that one character decides between a leaf and a group. No leaf begins with a
bracket, so where a bracket stands the rule for leaves gives up without reading anything, and where
none stands the rule for groups does. The rule that is meant fails no nearer: a leaf fails at its
start or behind it, and a group behind its bracket, at whatever depth and in whatever list the
fault lies. Its failure is therefore the one that is kept, and the grammar may as well look at the
next character and try one rule only. At every place of every text that comes to the same.
-/

import ContentQuery.Proofs.Judged

namespace ContentQuery.Query

open Rule Text

variable {Leaf : Type}

/-! ### One rule or the other -/

/-- Where the first rule fails and the second one fails further on or not at all, the choice is
the second rule. -/
theorem Rule.orElse_of_error {Value : Type} {first second : Rule Value} {cursor : Cursor}
    {failure : Failure} (fails : first cursor = .error failure)
    (further : ∀ other, second cursor = .error other → failure.position < other.position) :
    first.orElse second cursor = second cursor := by
  unfold Rule.orElse
  rw [fails]
  cases outcome : second cursor with
  | ok found => rfl
  | error other => simp only [Failure.furthest_of_lt (further other outcome)]

/-- Where the second rule fails and the first one does not fail nearer, the choice is the first
rule. -/
theorem Rule.orElse_of_second_error {Value : Type} {first second : Rule Value} {cursor : Cursor}
    {failure : Failure} (fails : second cursor = .error failure)
    (notNearer : ∀ other, first cursor = .error other → failure.position ≤ other.position) :
    first.orElse second cursor = first cursor := by
  unfold Rule.orElse
  rw [fails]
  cases outcome : first cursor with
  | ok found => rfl
  | error other => simp only [Failure.furthest_of_le (notNearer other outcome)]

theorem groupOf_of_absent (limit : Option Nat) (term : Rule (Tree Leaf)) {cursor : Cursor}
    (absent : cursor.rest.head? ≠ some '(') :
    groupOf limit term cursor = .error (cursor.missing .openingBracket) :=
  Rule.bind_error (Recorded.token_bracket_of_head_ne absent)

/-- Reads a group where a bracket comes next, and else a leaf. -/
def primaryByHead (limit : Option Nat) (leaf : Rule Leaf) (term : Rule (Tree Leaf)) :
    Rule (Tree Leaf) := fun cursor =>
  if cursor.rest.head? = some '(' then groupOf limit term cursor else (Tree.leaf <$> leaf) cursor

theorem primaryOf_eq_byHead (limit : Option Nat) {leaf : Rule Leaf} {term : Rule (Tree Leaf)}
    (leafTidy : leaf.IsTidy) (apart : leaf.FailsAtBracket) (termTidy : term.IsTidy) :
    primaryOf limit leaf term = primaryByHead limit leaf term := by
  funext cursor
  unfold primaryOf primaryByHead
  split
  · rename_i stands
    obtain ⟨failure, fails, atStart⟩ := apart cursor stands
    refine Rule.orElse_of_error (Rule.bind_error fails) fun other groupFails => ?_
    rw [atStart]
    exact Recorded.offset_lt_of_groupOf termTidy stands groupFails
  · rename_i absent
    have groupFails := groupOf_of_absent limit term absent
    refine Rule.orElse_of_second_error groupFails fun other leafFails => ?_
    exact (IsTidy.isAhead (fun start => (leafTidy start).map Tree.leaf) leafFails).offset_le

/-! ### Terms without a choice -/

/-- Reads a term where fewer than `bound` characters are left, with one rule tried at each
place. -/
def termByHead (limit : Option Nat) (leaf : Rule Leaf) : (bound : Nat) → Rule (Tree Leaf)
  | 0 => fun cursor => .error (cursor.missing .fieldName)
  | bound + 1 =>
    chain .or bound <| chain .and bound <| unaryOf <|
      primaryByHead limit leaf (termByHead limit leaf bound)

theorem termWithin_eq_byHead (limit : Option Nat) {leaf : Rule Leaf} (tidy : leaf.IsTidy)
    (apart : leaf.FailsAtBracket) (bound : Nat) :
    termWithin limit leaf bound = termByHead limit leaf bound := by
  induction bound with
  | zero => rfl
  | succ bound inductionHypothesis =>
    rw [termWithin, termByHead, ← inductionHypothesis,
      primaryOf_eq_byHead limit tidy apart (isTidy_termWithin limit tidy bound)]

/-! ### Queries -/

/-- Reads an atom as a term. -/
def atomTerm : Rule Term := Tree.leaf <$> atom

/-- Reads a group of a query. -/
def group : Rule Term := groupOf (some depthLimit) (term (some depthLimit) atom)

/-- Reads an atom or a group of a query. -/
def primary : Rule Term := primaryOf (some depthLimit) atom (term (some depthLimit) atom)

/-- The term that a folded text denotes, read with one rule tried at each place. -/
def readByHead (text : List Char) : Except Failure Term :=
  let rule : Rule Term := do
    spaces
    let start ← here
    let tree ← termByHead (some depthLimit) atom (start.rest.length + 1)
    endOfText
    pure tree
  (rule (.start text)).map Prod.fst

theorem readTerm_eq_byHead (text : List Char) : readTerm text = readByHead text := by
  have restated : whole (some depthLimit) atom = (do
      spaces
      let start ← here
      let tree ← termWithin (some depthLimit) atom (start.rest.length + 1)
      endOfText
      pure tree : Rule Term) := rfl
  rw [readTerm, read, restated, readByHead]
  simp only [termWithin_eq_byHead (some depthLimit) isTidy_atom failsAtBracket_atom]
  split
  · rename_i tree _ reads
    rw [reads]
    rfl
  · rename_i failure fails
    rw [fails]
    rfl

/-- At every place and at every depth, the choice between an atom and a group is the group if a
bracket comes next and the atom otherwise, be it a value or a failure. The rule that is not meant
fails at the place itself, whatever stands behind the next character. A query therefore gives what
it gives when only one of the two rules is ever tried. -/
theorem primary_by_head (cursor : Cursor) (query : String) :
    (primary cursor = if cursor.rest.head? = some '(' then group cursor else atomTerm cursor) ∧
    (if cursor.rest.head? = some '(' then atomTerm cursor = .error (cursor.missing .fieldName)
      else group cursor = .error (cursor.missing .openingBracket)) ∧
    parse query = resultOf (fold query.toList) (readByHead (fold query.toList)) := by
  have termTidy := isTidy_term (some depthLimit) isTidy_atom
  refine ⟨?_, ?_, ?_⟩
  · rw [primary, primaryOf_eq_byHead (some depthLimit) isTidy_atom failsAtBracket_atom termTidy]
    rfl
  · split
    · rename_i stands
      exact Rule.bind_error (Rule.bind_error (Rule.bind_error (token_fieldName_of_bracket stands)))
    · rename_i absent
      exact groupOf_of_absent (some depthLimit) (term (some depthLimit) atom) absent
  · rw [parse, readTerm_eq_byHead]

/-- A list fails inside a group, and the failure is that of the group. -/
example : primary (.start "(label in (a b))".toList) = .error ⟨13, .endOfQuery⟩ := rfl

end ContentQuery.Query
