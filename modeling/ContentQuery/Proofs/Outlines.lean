/-
This file proves that outlines are exact. An outline has one line for each node of the term, in
preorder, with two spaces for each level in front of what names the node, and no character of a
value breaks a line. The names alone identify the term: the name of a node settles how many
operands it has, and so in preorder the first of two operands ends where the second one begins.
The name of an atom settles its field, its operator and its values, since a space ends the field
and the operator and quotes end the values. So terms with the same outline are the same.
-/

import ContentQuery.Proofs.Escapes
import ContentQuery.Term.Outline

namespace ContentQuery

open Text

/-! ### Nodes -/

/-- The nodes of a tree in preorder, each with its level, if the root is at the given one. -/
def Tree.nodesFrom {Leaf : Type} (level : Nat) : Tree Leaf → List (Nat × Tree Leaf)
  | .join connective left right =>
    (level, .join connective left right) ::
      (left.nodesFrom (level + 1) ++ right.nodesFrom (level + 1))
  | .negate operand => (level, .negate operand) :: operand.nodesFrom (level + 1)
  | .leaf content => [(level, .leaf content)]

/-- What an outline calls a node. -/
def Term.label : Term → List Char
  | .join connective _ _ => connective.title.toList
  | .negate _ => "Not".toList
  | .leaf atom => atom.line

/-- The line of a node, without its end. -/
def Term.nodeLine (node : Nat × Term) : List Char :=
  List.replicate (2 * node.1) ' ' ++ node.2.label

theorem Term.lines_eq (level : Nat) (term : Term) :
    term.lines level = (term.nodesFrom level).map fun node => (node.1, Term.label node.2) := by
  induction term generalizing level with
  | join connective left right leftHypothesis rightHypothesis =>
    rw [Term.lines, Tree.nodesFrom, List.map_cons, List.map_append, leftHypothesis,
      rightHypothesis]
    rfl
  | negate operand inductionHypothesis =>
    rw [Term.lines, Tree.nodesFrom, List.map_cons, inductionHypothesis]
    rfl
  | leaf atom => rfl

/-- An outline is the lines of its nodes. -/
theorem Term.toList_outline (term : Term) :
    term.outline.toList = (term.nodesFrom 0).flatMap fun node => nodeLine node ++ ['\n'] := by
  rw [Term.outline, String.toList_ofList, Term.lines_eq, List.flatMap_map]
  rfl

/-! ### Lists of values -/

theorem flatten_intersperse_cons (separator first : List Char) (rest : List (List Char)) :
    ((first :: rest).intersperse separator).flatten =
      first ++ rest.flatMap (separator ++ ·) := by
  induction rest generalizing first with
  | nil => simp
  | cons second rest inductionHypothesis =>
    rw [List.intersperse_cons_cons, List.flatten_cons, List.flatten_cons, inductionHypothesis,
      List.flatMap_cons, List.append_assoc]

/-- The texts of a list after the first, each behind its comma. -/
def Text.furtherQuoted (texts : List (List Char)) : List Char :=
  texts.flatMap fun text => ',' :: ' ' :: quoted text

theorem Text.quotedList_nil : quotedList [] = ['[', ']'] := rfl

theorem Text.quotedList_cons (first : List Char) (rest : List (List Char)) :
    quotedList (first :: rest) = '[' :: (quoted first ++ (furtherQuoted rest ++ [']'])) := by
  rw [quotedList, List.map_cons, flatten_intersperse_cons, List.flatMap_map, List.cons_append,
    List.append_assoc]
  rfl

theorem Text.furtherQuoted_inj {texts others : List (List Char)}
    (same : furtherQuoted texts ++ [']'] = furtherQuoted others ++ [']']) : texts = others := by
  induction texts generalizing others with
  | nil =>
    cases others with
    | nil => rfl
    | cons other others => exact absurd (List.cons.inj same).1 (by decide)
  | cons text texts inductionHypothesis =>
    cases others with
    | nil => exact absurd (List.cons.inj same).1 (by decide)
    | cons other others =>
      simp only [furtherQuoted, List.flatMap_cons, List.cons_append, List.append_assoc,
        List.cons.injEq, true_and] at same
      obtain ⟨rfl, further⟩ := Text.escaping.quoted_append_inj same
      rw [inductionHypothesis further]

/-- The items of a list end where their quotes do, so lists written alike are the same. -/
theorem Text.quotedList_inj {texts others : List (List Char)}
    (same : quotedList texts = quotedList others) : texts = others := by
  cases texts with
  | nil =>
    cases others with
    | nil => rfl
    | cons other others =>
      rw [quotedList_nil, quotedList_cons] at same
      exact absurd (List.cons.inj (List.cons.inj same).2).1 (by decide)
  | cons text texts =>
    cases others with
    | nil =>
      rw [quotedList_nil, quotedList_cons] at same
      exact absurd (List.cons.inj (List.cons.inj same).2).1 (by decide)
    | cons other others =>
      rw [quotedList_cons, quotedList_cons] at same
      obtain ⟨rfl, further⟩ := Text.escaping.quoted_append_inj (List.cons.inj same).2
      rw [furtherQuoted_inj further]

theorem Text.newline_not_mem_quotedList (texts : List (List Char)) : '\n' ∉ quotedList texts := by
  cases texts with
  | nil => decide
  | cons first rest =>
    rw [quotedList_cons]
    have noneInFirst : '\n' ∉ quoted first := Text.escaping.newline_not_mem_quoted first
    have noneBehind : '\n' ∉ furtherQuoted rest := by
      intro member
      obtain ⟨text, _, inside⟩ := List.mem_flatMap.mp member
      have noneInText : '\n' ∉ quoted text := Text.escaping.newline_not_mem_quoted text
      simp [noneInText] at inside
    simp [noneInFirst, noneBehind]

/-! ### Lines of atoms -/

/-- Every operator. -/
def Operator.all : List Operator :=
  Comparison.all.map .comparison ++ Membership.all.map .membership

theorem Operator.mem_all (operator : Operator) : operator ∈ all := by
  cases operator with
  | comparison comparison => cases comparison <;> decide
  | membership membership => cases membership <;> decide

/-- With the space behind it, no spelling of an operator begins another one. -/
theorem Operator.eq_of_spelling_append {first second : Operator} {tail otherTail : List Char}
    (same : first.spelling.toList ++ ' ' :: tail = second.spelling.toList ++ ' ' :: otherTail) :
    first = second := by
  have distinct : ∀ first ∈ all, ∀ second ∈ all,
      first.spelling.toList ++ [' '] <+: second.spelling.toList ++ [' '] → first = second := by
    decide
  have stands : first.spelling.toList ++ [' '] <+: first.spelling.toList ++ ' ' :: tail :=
    ⟨tail, by simp⟩
  have standsToo : second.spelling.toList ++ [' '] <+: first.spelling.toList ++ ' ' :: tail :=
    ⟨otherTail, by rw [same]; simp⟩
  rcases List.prefix_or_prefix_of_prefix stands standsToo with begins | begins
  · exact distinct _ first.mem_all _ second.mem_all begins
  · exact (distinct _ second.mem_all _ first.mem_all begins).symm

theorem Field.eq_of_name_append {first second : Field} {tail otherTail : List Char}
    (same : first.name.toList ++ ' ' :: tail = second.name.toList ++ ' ' :: otherTail) :
    first = second := by
  have noSpace : ∀ field ∈ all, ' ' ∉ field.name.toList := by decide
  have sameName := eq_of_append_cons (noSpace _ first.mem_all) (noSpace _ second.mem_all) same
  have found := congrArg ofName? (String.toList_inj.mp sameName)
  rw [ofName?_name, ofName?_name] at found
  exact Option.some.inj found

/-- An atom can be read off its line. -/
theorem Atom.line_inj {first second : Atom} (same : first.line = second.line) :
    first = second := by
  simp only [line, List.append_assoc, List.cons_append] at same
  have sameField := Field.eq_of_name_append same
  rw [sameField] at same
  have behindField := (List.cons.inj (List.append_cancel_left same)).2
  have sameOperator := Operator.eq_of_spelling_append behindField
  rw [sameOperator] at behindField
  have sameValues := (List.cons.inj (List.append_cancel_left behindField)).2
  cases first with
  | single field comparison value =>
    cases second with
    | single otherField otherComparison otherValue =>
      cases sameField
      cases sameOperator
      rw [String.toList_inj.mp (Text.escaping.quoted_inj sameValues)]
    | list => cases sameOperator
  | list field membership values =>
    cases second with
    | single => cases sameOperator
    | list otherField otherMembership otherValues =>
      cases sameField
      cases sameOperator
      have toListInjective : Function.Injective String.toList := fun _ _ => String.toList_inj.mp
      rw [List.map_injective_iff.mpr toListInjective (quotedList_inj sameValues)]

theorem Atom.newline_not_mem_line (atom : Atom) : '\n' ∉ atom.line := by
  have inField : ∀ field ∈ Field.all, '\n' ∉ field.name.toList := by decide
  have inOperator : ∀ operator ∈ Operator.all, '\n' ∉ operator.spelling.toList := by decide
  have inValues : '\n' ∉ atom.quotedValues := by
    cases atom with
    | single field comparison value => exact Text.escaping.newline_not_mem_quoted value.toList
    | list field membership values => exact newline_not_mem_quotedList _
  simp [line, inField _ atom.field.mem_all, inOperator _ atom.operator.mem_all, inValues]

/-- The line of an atom begins with a small letter, since its field does. -/
theorem Atom.exists_line_eq_cons (atom : Atom) :
    ∃ letter rest, atom.line = letter :: rest ∧ letter.isLower = true := by
  have begins : ∀ field ∈ Field.all, field.name.toList.head?.any Char.isLower = true := by decide
  obtain ⟨letter, isFirst, isLower⟩ := (Option.any_eq_true _ _).mp (begins _ atom.field.mem_all)
  obtain ⟨rest, nameEq⟩ := List.head?_eq_some_iff.mp isFirst
  exact ⟨letter, _, by rw [line, nameEq]; rfl, isLower⟩

/-! ### Labels -/

/-- The words for nodes with operands. -/
def Term.nodeWords : List (List Char) :=
  "Not".toList :: Connective.all.map (·.title.toList)

theorem Connective.mem_all (connective : Connective) : connective ∈ all := by
  cases connective <;> decide

theorem Connective.title_mem_nodeWords (connective : Connective) :
    connective.title.toList ∈ Term.nodeWords :=
  List.mem_cons_of_mem _ (List.mem_map_of_mem connective.mem_all)

theorem Atom.line_not_mem_nodeWords (atom : Atom) : atom.line ∉ Term.nodeWords := by
  obtain ⟨letter, rest, lineEq, isLower⟩ := atom.exists_line_eq_cons
  have capital : ∀ word ∈ Term.nodeWords, word.head?.any Char.isLower = false := by decide
  intro member
  have isCapital := capital _ member
  rw [lineEq, List.head?_cons, Option.any_some, isLower] at isCapital
  cases isCapital

namespace Term

/-- Two terms that agree in their roots: the connective is the same, or both are negations, or
the atom is the same. -/
inductive SameRoot : Term → Term → Prop where
  /-- Both are joined by the connective. -/
  | join (connective : Connective) (left right otherLeft otherRight : Term) :
    SameRoot (.join connective left right) (.join connective otherLeft otherRight)
  /-- Both are negations. -/
  | negate (operand other : Term) : SameRoot (.negate operand) (.negate other)
  /-- Both are the same atom. -/
  | leaf (atom : Atom) : SameRoot (.leaf atom) (.leaf atom)

/-- The label of a term settles its root. -/
theorem sameRoot_of_label_eq {first second : Term} (same : first.label = second.label) :
    SameRoot first second := by
  have notTitle : ∀ connective : Connective, connective.title.toList ≠ "Not".toList := by
    intro connective
    cases connective <;> decide
  cases first with
  | join connective left right =>
    cases second with
    | join otherConnective otherLeft otherRight =>
      obtain rfl : connective = otherConnective := by
        have distinct : ∀ first ∈ Connective.all, ∀ second ∈ Connective.all,
            first.title.toList = second.title.toList → first = second := by decide
        exact distinct _ connective.mem_all _ otherConnective.mem_all same
      exact .join connective left right otherLeft otherRight
    | negate operand => exact absurd same (notTitle connective)
    | leaf atom =>
      have isLine : connective.title.toList = atom.line := same
      exact absurd (isLine ▸ connective.title_mem_nodeWords) atom.line_not_mem_nodeWords
  | negate operand =>
    cases second with
    | join connective left right => exact absurd same.symm (notTitle connective)
    | negate other => exact .negate operand other
    | leaf atom =>
      have isLine : "Not".toList = atom.line := same
      exact absurd (isLine ▸ List.mem_cons_self) atom.line_not_mem_nodeWords
  | leaf atom =>
    cases second with
    | join connective left right =>
      have isLine : atom.line = connective.title.toList := same
      exact absurd (isLine ▸ connective.title_mem_nodeWords) atom.line_not_mem_nodeWords
    | negate operand =>
      have isLine : atom.line = "Not".toList := same
      exact absurd (isLine ▸ List.mem_cons_self) atom.line_not_mem_nodeWords
    | leaf other =>
      obtain rfl := Atom.line_inj same
      exact .leaf atom

/-- The labels of a term in preorder. -/
def labels : Term → List (List Char)
  | .join connective left right => connective.title.toList :: (labels left ++ labels right)
  | .negate operand => "Not".toList :: labels operand
  | .leaf atom => [atom.line]

theorem map_label_nodesFrom (level : Nat) (term : Term) :
    (term.nodesFrom level).map (fun node => label node.2) = labels term := by
  induction term generalizing level with
  | join connective left right leftHypothesis rightHypothesis =>
    rw [Tree.nodesFrom, List.map_cons, List.map_append, leftHypothesis, rightHypothesis]
    rfl
  | negate operand inductionHypothesis =>
    rw [Tree.nodesFrom, List.map_cons, inductionHypothesis]
    rfl
  | leaf atom => rfl

theorem sameRoot_of_labels_append {first second : Term} {tail otherTail : List (List Char)}
    (same : labels first ++ tail = labels second ++ otherTail) : SameRoot first second := by
  have beginsWithLabel : ∀ term : Term, ∃ rest, labels term = term.label :: rest := by
    intro term
    cases term <;> exact ⟨_, rfl⟩
  obtain ⟨rest, firstEq⟩ := beginsWithLabel first
  obtain ⟨otherRest, secondEq⟩ := beginsWithLabel second
  rw [firstEq, secondEq] at same
  exact sameRoot_of_label_eq (List.cons.inj same).1

/-- Whatever stands behind the labels of a term, they identify it. The induction is on the term:
its first label settles its root, and so how many operands are read from the labels behind. -/
theorem eq_of_labels_append {first second : Term} {tail otherTail : List (List Char)}
    (same : labels first ++ tail = labels second ++ otherTail) : first = second := by
  induction first generalizing second tail otherTail with
  | join connective left right leftHypothesis rightHypothesis =>
    cases sameRoot_of_labels_append same with
    | join _ _ _ otherLeft otherRight =>
      have operands := (List.cons.inj same).2
      rw [List.append_eq, List.append_eq, List.append_assoc, List.append_assoc] at operands
      obtain rfl := leftHypothesis operands
      rw [rightHypothesis (List.append_cancel_left operands)]
  | negate operand inductionHypothesis =>
    cases sameRoot_of_labels_append same with
    | negate _ other => rw [inductionHypothesis (List.cons.inj same).2]
  | leaf atom =>
    cases sameRoot_of_labels_append same with
    | leaf => rfl

/-! ### Outlines -/

theorem newline_not_mem_label (term : Term) : '\n' ∉ term.label := by
  have inWords : ∀ word ∈ nodeWords, '\n' ∉ word := by decide
  cases term with
  | join connective left right => exact inWords _ connective.title_mem_nodeWords
  | negate operand => exact inWords _ List.mem_cons_self
  | leaf atom => exact atom.newline_not_mem_line

/-- A label does not begin with a space. -/
theorem exists_label_eq_cons (term : Term) :
    ∃ character rest, character ≠ ' ' ∧ term.label = character :: rest := by
  cases term with
  | join connective left right => cases connective <;> exact ⟨_, _, by decide, rfl⟩
  | negate operand => exact ⟨'N', ['o', 't'], by decide, rfl⟩
  | leaf atom =>
    obtain ⟨letter, rest, lineEq, isLower⟩ := atom.exists_line_eq_cons
    refine ⟨letter, rest, ?_, lineEq⟩
    rintro rfl
    cases isLower

theorem newline_not_mem_nodeLine (node : Nat × Term) : '\n' ∉ nodeLine node := by
  have noSpaceBreaks : '\n' ∉ List.replicate (2 * node.1) ' ' := fun member =>
    absurd (List.eq_of_mem_replicate member) (by decide)
  exact fun member => (List.mem_append.mp member).elim noSpaceBreaks node.2.newline_not_mem_label

theorem splitOn_lines (nodes : List (Nat × Term)) :
    (nodes.flatMap fun node => nodeLine node ++ ['\n']).splitOn '\n' =
      nodes.map nodeLine ++ [[]] := by
  induction nodes with
  | nil => rfl
  | cons node rest inductionHypothesis =>
    rw [List.flatMap_cons, List.append_assoc, List.singleton_append,
      List.splitOn_append_cons_self_of_not_mem (newline_not_mem_nodeLine node),
      inductionHypothesis, List.map_cons, List.cons_append]

theorem count_lines (nodes : List (Nat × Term)) :
    (nodes.flatMap fun node => nodeLine node ++ ['\n']).count '\n' = nodes.length := by
  induction nodes with
  | nil => rfl
  | cons node rest inductionHypothesis =>
    have inLine := List.count_eq_zero.mpr (newline_not_mem_nodeLine node)
    rw [List.flatMap_cons, List.count_append, List.count_append, inLine, inductionHypothesis,
      List.length_cons, List.count_singleton_self, Nat.zero_add, Nat.add_comm]

/-- Without the spaces that it begins with, the line of a node is its label. -/
theorem dropWhile_nodeLine (node : Nat × Term) :
    (nodeLine node).dropWhile (· == ' ') = node.2.label := by
  obtain ⟨character, rest, notSpace, labelEq⟩ := node.2.exists_label_eq_cons
  rw [nodeLine, List.dropWhile_append_of_pos, labelEq, List.dropWhile_cons_of_neg]
  · simpa using notSpace
  · intro space member
    rw [List.eq_of_mem_replicate member, beq_self_eq_true]

/-- Terms with the same outline have the same labels in preorder, and so they are the same. -/
theorem outline_inj {first second : Term} (same : first.outline = second.outline) :
    first = second := by
  have labelsOf : ∀ term : Term, ((term.nodesFrom 0).map nodeLine).map (·.dropWhile (· == ' ')) =
      labels term := by
    intro term
    rw [List.map_map, ← map_label_nodesFrom 0]
    exact List.map_congr_left fun node _ => dropWhile_nodeLine node
  have sameLines := congrArg (fun text : String => text.toList.splitOn '\n') same
  simp only [toList_outline, splitOn_lines] at sameLines
  have sameLabels := congrArg (List.map (·.dropWhile (· == ' ')))
    (List.append_cancel_right sameLines)
  rw [labelsOf, labelsOf] at sameLabels
  exact eq_of_labels_append (congrArg (· ++ []) sameLabels)

/-- An outline has a line for each node, in preorder, and ends with the last of them. A line
begins with two spaces for each level of its node, and no more. And terms with the same outline
are the same. -/
theorem outline_faithful (term : Term) :
    term.outline.toList.count '\n' = (term.nodesFrom 0).length ∧
    term.outline.toList.splitOn '\n' = (term.nodesFrom 0).map nodeLine ++ [[]] ∧
    (∀ node : Nat × Term, ∃ character rest, character ≠ ' ' ∧
      nodeLine node = List.replicate (2 * node.1) ' ' ++ character :: rest) ∧
    ∀ other : Term, term.outline = other.outline ↔ term = other := by
  rw [toList_outline]
  refine ⟨count_lines _, splitOn_lines _, fun node => ?_,
    fun other => ⟨outline_inj, congrArg outline⟩⟩
  obtain ⟨character, rest, notSpace, labelEq⟩ := node.2.exists_label_eq_cons
  exact ⟨character, rest, notSpace, by rw [nodeLine, labelEq]⟩

example : outline (.or (.negate (single .title .equals "a\nb")) (list .label .notIn ["c", "\""])) =
    "Or\n  Not\n    title = \"a\\nb\"\n  label not in [\"c\", \"\\\"\"]\n" := by
  decide +kernel

end Term

end ContentQuery
