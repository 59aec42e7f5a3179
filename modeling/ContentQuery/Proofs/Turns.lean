/-
This file proves how the limit on open groups bounds the shape of terms. On the way from the root
of a term to a leaf, a step goes to the left operand of a connective, or it is a turn: to the right
operand, or under a negation. The brackets of a query leave no mark in its term. But a term is read
level by level, and between two brackets a way turns at most three times: to the right of an `or`,
then to the right of an `and`, then under a `not`. Whatever turns once more stands in a group.

Steps to the left come without end, because a connective joins its operands one by one to what
stands in front of them. The ways through the terms of queries are just those that go down so, and
the bound on turns is therefore met, on ways of any length.
-/

import ContentQuery.Proofs.Accepted
import ContentQuery.Proofs.Writing

namespace ContentQuery

/-! ### Paths -/

/-- A step from a node of a tree to a node right below it. -/
inductive Step where
  /-- To the left operand of a connective. -/
  | left (connective : Connective)
  /-- To the right operand of a connective. -/
  | right (connective : Connective)
  /-- To the operand of a negation. -/
  | under
deriving DecidableEq

/-- Whether a step goes to a left operand. -/
def Step.isLeft : Step → Bool
  | left _ => true
  | right _ => false
  | under => false

/-- Whether a step goes to a right operand or under a negation. -/
def Step.isTurn : Step → Bool
  | left _ => false
  | right _ => true
  | under => true

/-- Only steps to the left make a path longer than it has turns. -/
theorem length_eq_turns_add_lefts (path : List Step) :
    path.length = path.countP Step.isTurn + path.countP Step.isLeft := by
  have notTurn : ∀ step : Step, (¬ step.isTurn = true) ↔ step.isLeft = true := by
    intro step
    cases step <;> simp [Step.isTurn, Step.isLeft]
  rw [List.length_eq_countP_add_countP Step.isTurn]
  refine congrArg (path.countP Step.isTurn + ·) (List.countP_congr fun step _ => ?_)
  simp [notTurn step]

namespace Tree

variable {Leaf : Type} {path : List Step}

/-- The paths from the root of a tree to its leaves, from left to right. -/
def paths : Tree Leaf → List (List Step)
  | .join connective left right =>
    left.paths.map (.left connective :: ·) ++ right.paths.map (.right connective :: ·)
  | .negate operand => operand.paths.map (.under :: ·)
  | .leaf _ => [[]]

theorem mem_paths_join {connective : Connective} {left right : Tree Leaf} :
    path ∈ (join connective left right).paths ↔
      (∃ below ∈ left.paths, path = .left connective :: below) ∨
        ∃ below ∈ right.paths, path = .right connective :: below := by
  simp only [paths, List.mem_append, List.mem_map, eq_comm]

theorem mem_paths_negate {operand : Tree Leaf} :
    path ∈ (negate operand).paths ↔ ∃ below ∈ operand.paths, path = .under :: below := by
  simp only [paths, List.mem_map, eq_comm]

theorem mem_paths_leaf {content : Leaf} : path ∈ (leaf content).paths ↔ path = [] :=
  List.mem_singleton

end Tree

namespace Query

variable {Leaf : Type} {relation : List Char → Leaf → List Char → Prop} {level : Level}
  {room : Nat} {path : List Step}

/-! ### Paths level by level -/

/-- The path goes down from a node of a level to a leaf, through at most the given number of groups
inside each other. -/
inductive Descends : Level → Nat → List Step → Prop where
  /-- A leaf is reached. -/
  | leaf {room : Nat} : Descends .primary room []
  /-- A group is entered. -/
  | group {room : Nat} {path : List Step} (inside : Descends (.chain .or) room path) :
    Descends .primary (room + 1) path
  /-- There is no negation. -/
  | plain {room : Nat} {path : List Step} (primary : Descends .primary room path) :
    Descends .unary room path
  /-- The path goes under a negation. -/
  | under {room : Nat} {path : List Step} (primary : Descends .primary room path) :
    Descends .unary room (.under :: path)
  /-- The path goes to the first operand of a chain, and no other operand is left. -/
  | first {kind : Connective} {room : Nat} {path : List Step}
      (operand : Descends (.operand kind) room path) : Descends (.chain kind) room path
  /-- The path leaves out the last operand of a chain. -/
  | left {kind : Connective} {room : Nat} {path : List Step}
      (chain : Descends (.chain kind) room path) : Descends (.chain kind) room (.left kind :: path)
  /-- The path goes to the last operand of a chain. -/
  | right {kind : Connective} {room : Nat} {path : List Step}
      (operand : Descends (.operand kind) room path) :
    Descends (.chain kind) room (.right kind :: path)

/-- Every path through a tree that is derived goes down level by level. -/
theorem Derives.descends {text rest : List Char} {tree : Tree Leaf}
    (derives : Derives relation level room text tree rest) (leads : path ∈ tree.paths) :
    Descends level room path := by
  induction derives generalizing path with
  | leaf stands =>
    cases Tree.mem_paths_leaf.mp leads
    exact .leaf
  | group _ _ _ inductionHypothesis => exact .group (inductionHypothesis leads)
  | plain _ inductionHypothesis => exact .plain (inductionHypothesis leads)
  | negate _ _ inductionHypothesis =>
    obtain ⟨below, member, rfl⟩ := Tree.mem_paths_negate.mp leads
    exact .under (inductionHypothesis member)
  | first _ inductionHypothesis => exact .first (inductionHypothesis leads)
  | join _ _ _ chainHypothesis operandHypothesis =>
    rcases Tree.mem_paths_join.mp leads with ⟨below, member, rfl⟩ | ⟨below, member, rfl⟩
    · exact .left (chainHypothesis member)
    · exact .right (operandHypothesis member)

/-! ### Turns -/

/-- The turns that a path can take on its way from a level to a leaf or a group. -/
def Level.turns : Level → List Step
  | .primary => []
  | .unary => [.under]
  | .chain .and => [.right .and, .under]
  | .chain .or => [.right .or, .right .and, .under]

theorem Level.turns_chain (kind : Connective) :
    (Level.chain kind).turns = .right kind :: (Level.operand kind).turns := by
  cases kind <;> rfl

/-- A path falls into the steps on its own level, and those in each group that it enters. On each
level it takes some of the turns of the level, in their order. -/
theorem Descends.exists_parts (descends : Descends level room path) :
    ∃ (own : List Step) (parts : List (List Step)), path = own ++ parts.flatten ∧
      (own.filter Step.isTurn).Sublist level.turns ∧ parts.length ≤ room ∧
      ∀ part ∈ parts, (part.filter Step.isTurn).Sublist (Level.chain .or).turns := by
  induction descends with
  | leaf => exact ⟨[], [], rfl, List.nil_sublist _, Nat.zero_le _, by simp⟩
  | group _ inductionHypothesis =>
    obtain ⟨own, parts, rfl, ownTurns, few, turns⟩ := inductionHypothesis
    exact ⟨[], own :: parts, rfl, List.nil_sublist _, Nat.succ_le_succ few,
      List.forall_mem_cons.mpr ⟨ownTurns, turns⟩⟩
  | plain _ inductionHypothesis =>
    obtain ⟨own, parts, pathEq, ownTurns, few, turns⟩ := inductionHypothesis
    exact ⟨own, parts, pathEq, ownTurns.trans (List.nil_sublist _), few, turns⟩
  | under _ inductionHypothesis =>
    obtain ⟨own, parts, rfl, ownTurns, few, turns⟩ := inductionHypothesis
    exact ⟨.under :: own, parts, rfl, ownTurns.cons_cons _, few, turns⟩
  | @first kind _ _ _ inductionHypothesis =>
    obtain ⟨own, parts, pathEq, ownTurns, few, turns⟩ := inductionHypothesis
    refine ⟨own, parts, pathEq, ?_, few, turns⟩
    rw [Level.turns_chain]
    exact ownTurns.cons _
  | left _ inductionHypothesis =>
    obtain ⟨own, parts, rfl, ownTurns, few, turns⟩ := inductionHypothesis
    exact ⟨.left _ :: own, parts, rfl, ownTurns, few, turns⟩
  | @right kind _ _ _ inductionHypothesis =>
    obtain ⟨own, parts, rfl, ownTurns, few, turns⟩ := inductionHypothesis
    refine ⟨.right kind :: own, parts, rfl, ?_, few, turns⟩
    rw [Level.turns_chain]
    exact ownTurns.cons_cons _

/-- A path has as many turns as it takes on its own level, and three more for every group. -/
theorem Descends.turns_le (descends : Descends level room path) :
    path.countP Step.isTurn ≤ level.turns.length + 3 * room := by
  induction descends with
  | leaf => exact Nat.zero_le _
  | group _ inductionHypothesis =>
    simp only [Level.turns, List.length_cons, List.length_nil] at inductionHypothesis ⊢
    omega
  | plain _ inductionHypothesis =>
    simp only [Level.turns, List.length_cons, List.length_nil] at inductionHypothesis ⊢
    omega
  | under _ inductionHypothesis =>
    simp only [Level.turns, List.length_cons, List.length_nil, List.countP_cons, Step.isTurn,
      if_true] at inductionHypothesis ⊢
    omega
  | @first kind _ _ _ inductionHypothesis =>
    rw [Level.turns_chain, List.length_cons]
    omega
  | left _ inductionHypothesis =>
    simpa only [List.countP_cons, Step.isTurn, Bool.false_eq_true, if_false, Nat.add_zero] using
      inductionHypothesis
  | @right kind _ _ _ inductionHypothesis =>
    rw [Level.turns_chain, List.length_cons]
    simp only [List.countP_cons, Step.isTurn, if_true]
    omega

/-! ### Terms along a path -/

/-- A condition that any query can hold. -/
def blankAtom : Atom := .single .title .equals ""

/-- A term with the given path, and blank conditions beside it. -/
def termAlong : List Step → Term
  | [] => .leaf blankAtom
  | .left kind :: path => .join kind (termAlong path) (.leaf blankAtom)
  | .right kind :: path => .join kind (.leaf blankAtom) (termAlong path)
  | .under :: path => .negate (termAlong path)

theorem mem_paths_termAlong (path : List Step) : path ∈ (termAlong path).paths := by
  induction path with
  | nil => exact Tree.mem_paths_leaf.mpr rfl
  | cons step path inductionHypothesis =>
    cases step with
    | left kind => exact Tree.mem_paths_join.mpr (.inl ⟨path, inductionHypothesis, rfl⟩)
    | right kind => exact Tree.mem_paths_join.mpr (.inr ⟨path, inductionHypothesis, rfl⟩)
    | under => exact Tree.mem_paths_negate.mpr ⟨path, inductionHypothesis, rfl⟩

theorem isWritable_termAlong (path : List Step) : IsWritable (termAlong path) := by
  have blank : IsWritableAtom blankAtom := by decide
  have leaves : ∀ atom ∈ (termAlong path).leaves, atom = blankAtom := by
    induction path with
    | nil => simp [termAlong, Tree.leaves]
    | cons step path inductionHypothesis =>
      cases step with
      | left kind => simpa [termAlong, Tree.leaves, or_imp, forall_and] using inductionHypothesis
      | right kind => simpa [termAlong, Tree.leaves, or_imp, forall_and] using inductionHypothesis
      | under => exact inductionHypothesis
  exact fun atom member => leaves atom member ▸ blank

/-- A tree needs no more groups at a looser level. -/
theorem groupsAt_le_of_looseness {looser : Level} (loose : level.looseness ≤ looser.looseness)
    (tree : Tree Leaf) (count : Nat) : groupsAt looser tree count ≤ groupsAt level tree count := by
  unfold groupsAt needsBrackets
  simp only [decide_eq_true_eq]
  split <;> split <;> omega

/-- A tree stands at its own level without brackets. -/
theorem groupsAt_treeLevel (tree : Tree Leaf) (count : Nat) :
    groupsAt (treeLevel tree) tree count = count := by
  unfold groupsAt needsBrackets
  simp

/-- What goes down through few groups belongs to a term that needs few. -/
theorem Descends.groups_termAlong_le (descends : Descends level room path) :
    groupsAt level (termAlong path) (groups (termAlong path)) ≤ room := by
  induction descends with
  | leaf => exact Nat.zero_le _
  | @group room path _ inductionHypothesis =>
    have inside : groups (termAlong path) ≤ room :=
      calc groups (termAlong path)
        _ ≤ groupsAt (.chain .or) (termAlong path) (groups (termAlong path)) := by
          unfold groupsAt
          split <;> omega
        _ ≤ room := inductionHypothesis
    unfold groupsAt
    split <;> omega
  | plain _ inductionHypothesis =>
    exact Nat.le_trans (groupsAt_le_of_looseness (by decide) _ _) inductionHypothesis
  | @under room path _ inductionHypothesis =>
    exact Nat.le_trans (Nat.le_of_eq (groupsAt_treeLevel (.negate (termAlong path)) _))
      inductionHypothesis
  | @first kind _ _ _ inductionHypothesis =>
    have tighter := Nat.le_of_lt (Level.looseness_operand_lt kind)
    exact Nat.le_trans (groupsAt_le_of_looseness tighter _ _) inductionHypothesis
  | @left kind room path _ inductionHypothesis =>
    have blank : groupsAt (.operand kind) (Tree.leaf blankAtom) 0 ≤ room := Nat.zero_le _
    exact Nat.le_trans (Nat.le_of_eq (groupsAt_treeLevel (termAlong (.left kind :: path)) _))
      (Nat.max_le.mpr ⟨inductionHypothesis, blank⟩)
  | @right kind room path _ inductionHypothesis =>
    have blank : groupsAt (.chain kind) (Tree.leaf blankAtom) 0 ≤ room := Nat.zero_le _
    exact Nat.le_trans (Nat.le_of_eq (groupsAt_treeLevel (termAlong (.right kind :: path)) _))
      (Nat.max_le.mpr ⟨blank, inductionHypothesis⟩)

/-- The paths through the terms of queries are those that go down level by level, through at most
64 groups inside each other. -/
theorem exists_parse_iff_descends :
    (∃ query term, parse query = .ok term ∧ path ∈ term.paths) ↔
      Descends (.chain .or) depthLimit path := by
  constructor
  · rintro ⟨query, term, accepted, leads⟩
    obtain ⟨_, _, derives⟩ := readTerm_eq_ok_iff.mp (parse_eq_ok_iff.mp accepted)
    exact derives.descends leads
  · intro descends
    have writable := isWritable_termAlong path
    have derives := (denotes_write writable).bracketAt (.chain .or) descends.groups_termAlong_le
      (spaces_refl [])
    rw [List.append_nil, bracketAt, if_neg (by simp [needsBrackets, Level.looseness_le])] at derives
    refine ⟨String.ofList (write (termAlong path)), termAlong path, ?_, mem_paths_termAlong path⟩
    rw [parse_eq_ok_iff, String.toList_ofList, fold_eq_self (isSmall_write writable)]
    exact readTerm_eq_ok_iff.mpr ⟨_, spaces_refl _, derives⟩

/-- With all turns on every level, a path goes down through any number of groups. -/
theorem descends_replicate (room : Nat) :
    Descends (.chain .or) room (List.replicate (room + 1) (Level.chain .or).turns).flatten := by
  have onLevel : ∀ {room : Nat} {path : List Step}, Descends .primary room path →
      Descends (.chain .or) room ((Level.chain .or).turns ++ path) :=
    fun primary => .right (.right (.under primary))
  induction room with
  | zero => exact onLevel .leaf
  | succ room inductionHypothesis =>
    rw [List.replicate_succ, List.flatten_cons]
    exact onLevel (.group inductionHypothesis)

theorem Descends.replicate_left {kind : Connective} (count : Nat)
    (descends : Descends (.chain kind) room path) :
    Descends (.chain kind) room (List.replicate count (.left kind) ++ path) := by
  induction count with
  | zero => exact descends
  | succ count inductionHypothesis => exact .left inductionHypothesis

/-! ### Turns in the terms of queries -/

/-- On a path through the term of a query, at most 195 steps go to a right operand or under a
negation, and only steps to the left can make it longer. It falls into at most 65 parts, the first
of them outside all groups, and on each part it turns at most once to the right of an `or`, once to
the right of an `and`, and once under a negation. No smaller bound would do, however many steps to
the left there are as well. -/
theorem turns_le_and_reached :
    (∀ (query : String) (term : Term), parse query = .ok term → ∀ path ∈ term.paths,
      path.countP Step.isTurn ≤ 195 ∧
      path.length ≤ 195 + path.countP Step.isLeft ∧
      ∃ parts : List (List Step), path = parts.flatten ∧ parts.length ≤ 65 ∧
        ∀ part ∈ parts,
          (part.filter Step.isTurn).Sublist [.right .or, .right .and, .under]) ∧
    ∀ count : Nat, ∃ (query : String) (term : Term), parse query = .ok term ∧
      ∃ path ∈ term.paths, path.countP Step.isTurn = 195 ∧ path.countP Step.isLeft = count := by
  constructor
  · intro query term accepted path leads
    have descends := exists_parse_iff_descends.mp ⟨query, term, accepted, leads⟩
    have bound : path.countP Step.isTurn ≤ 195 := descends.turns_le
    obtain ⟨own, parts, pathEq, ownTurns, few, turns⟩ := descends.exists_parts
    refine ⟨bound, ?_, own :: parts, pathEq, Nat.succ_le_succ few,
      List.forall_mem_cons.mpr ⟨ownTurns, turns⟩⟩
    rw [length_eq_turns_add_lefts path]
    exact Nat.add_le_add_right bound _
  · intro count
    have descends := (descends_replicate depthLimit).replicate_left count
    obtain ⟨query, term, accepted, leads⟩ := exists_parse_iff_descends.mpr descends
    refine ⟨query, term, accepted, _, leads, ?_, ?_⟩
    · rw [List.countP_append, List.countP_replicate, List.countP_flatten, List.map_replicate,
        List.sum_replicate_nat, if_neg (by decide), Nat.zero_add]
      rfl
    · rw [List.countP_append, List.countP_replicate, List.countP_flatten, List.map_replicate,
        List.sum_replicate_nat, if_pos (by decide)]
      rfl

/-- A query with a group, whose deepest way turns under a negation and then twice to the right, and
a query with a way that turns as often as there can be turns, and goes to the left a thousand
times. -/
theorem turns_le_and_reached_instance :
    (∃ term : Term, parse "not (title ~ a or (label = b) and type = page)" = .ok term ∧
      ∃ path ∈ term.paths, path = [.under, .right .or, .right .and] ∧
        path.countP Step.isTurn ≤ 195 ∧
        ∃ parts : List (List Step), path = parts.flatten ∧ parts.length ≤ 65 ∧
          ∀ part ∈ parts,
            (part.filter Step.isTurn).Sublist [.right .or, .right .and, .under]) ∧
    ∃ (query : String) (term : Term), parse query = .ok term ∧
      ∃ path ∈ term.paths, path.countP Step.isTurn = 195 ∧ path.countP Step.isLeft = 1000 := by
  obtain ⟨bounded, reached⟩ := turns_le_and_reached
  obtain ⟨term, accepted, leads⟩ : ∃ term : Term,
      parse "not (title ~ a or (label = b) and type = page)" = .ok term ∧
        [.under, .right .or, .right .and] ∈ term.paths :=
    ⟨.negate (.or (Term.single .title .contains "a")
        (.and (Term.single .label .equals "b") (Term.single .type .equals "page"))),
      parse_of_toOption (by decide +kernel), by decide⟩
  obtain ⟨turns, _, parts⟩ := bounded _ _ accepted _ leads
  exact ⟨⟨_, accepted, _, leads, rfl, turns, parts⟩, reached 1000⟩

end Query

end ContentQuery
