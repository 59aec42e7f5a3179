/-
This file proves where the caret of an error stands. The first of its lines says what was expected,
and no wording breaks that line. The caret follows as many characters as there are in front of the
failure, and the two spaces that begin a line. So it is directly below the failure, and the error
has just three lines, if the query is on one line.

A query may hold line feeds, and they are not shown in any other way. Those in front of the failure
are counted as characters of its column although the text behind them begins a line of its own,
and those behind it put lines between the failure and the caret. The caret is then not below the
failure, however the line feeds lie.
-/

import ContentQuery.Proofs.Boundaries
import ContentQuery.Proofs.Breaks
import ContentQuery.Proofs.Heads
import Mathlib.Data.List.TakeWhile

namespace ContentQuery

open Text

/-! ### Rows and columns -/

/-- The row and the column of what stands behind a text, both counted from zero. -/
def placeBehind (text : List Char) : Nat × Nat :=
  (text.count '\n', (text.reverse.takeWhile (· != '\n')).length)

theorem placeBehind_append (front line : List Char) :
    placeBehind (front ++ '\n' :: line) =
      (front.count '\n' + 1 + (placeBehind line).1, (placeBehind line).2) := by
  have countEq : (front ++ '\n' :: line).count '\n' = front.count '\n' + 1 + line.count '\n' := by
    rw [List.count_append, List.count_cons_self]
    omega
  have reversed : (front ++ '\n' :: line).reverse = line.reverse ++ '\n' :: front.reverse := by
    simp
  have stops : ('\n' :: front.reverse).takeWhile (· != '\n') = [] := by simp
  unfold placeBehind
  rw [countEq, reversed, List.takeWhile_append, stops, List.append_nil]
  split
  · rename_i whole
    rw [whole]
  · rfl

/-- The column is the number of characters just if they are all on one line. -/
theorem placeBehind_snd_eq_length_iff {line : List Char} :
    (placeBehind line).2 = line.length ↔ '\n' ∉ line := by
  have whole_iff : (line.reverse.takeWhile (· != '\n')).length = line.reverse.length ↔
      line.reverse.takeWhile (· != '\n') = line.reverse :=
    ⟨(List.takeWhile_prefix _).eq_of_length, congrArg List.length⟩
  have lengthEq : line.length = line.reverse.length := List.length_reverse.symm
  rw [placeBehind, lengthEq, whole_iff, List.takeWhile_eq_self_iff]
  simp only [List.mem_reverse, bne_iff_ne]
  exact ⟨fun others member => others _ member rfl, fun free _ member same => free (same ▸ member)⟩

theorem placeBehind_of_not_mem {line : List Char} (free : '\n' ∉ line) :
    placeBehind line = (0, line.length) :=
  Prod.ext (List.count_eq_zero.mpr free) (placeBehind_snd_eq_length_iff.mpr free)

/-- A text is its only line just if there is no line feed in it. -/
theorem splitOn_eq_singleton_iff {text : List Char} :
    text.splitOn '\n' = [text] ↔ '\n' ∉ text := by
  refine ⟨fun alone member => ?_, List.splitOn_eq_singleton⟩
  obtain ⟨front, behind, rfl⟩ := List.append_of_mem member
  rw [List.splitOn_append_cons_self] at alone
  have frontLines := List.length_pos_iff.mpr (List.splitOn_ne_nil '\n' front)
  have behindLines := List.length_pos_iff.mpr (List.splitOn_ne_nil '\n' behind)
  have count := congrArg List.length alone
  rw [List.length_append, List.length_singleton] at count
  omega

/-! ### The lines of an error -/

namespace QueryError

/-- The first line of an error: that the query is rejected, and what was expected. -/
def headline (error : QueryError) : List Char :=
  (message ++ ": expected " ++ error.expected).toList

/-- The query of an error behind two spaces. -/
def queryLine (error : QueryError) : List Char := ' ' :: ' ' :: error.query.toList

/-- The last line of an error up to the caret. -/
def caretIndent (error : QueryError) : List Char :=
  ' ' :: ' ' :: List.replicate error.column ' '

theorem toList_context (error : QueryError) :
    error.context.toList =
      error.headline ++ '\n' :: (error.queryLine ++ '\n' :: error.caretIndent) ++ ['^'] := by
  simp [context, headline, queryLine, caretIndent]

theorem newline_not_mem_caretIndent (error : QueryError) : '\n' ∉ error.caretIndent := by
  simp [caretIndent, List.mem_replicate]

/-- The caret ends the error, directly below what stands behind the given beginning of its
query. -/
def HasCaretBelow (error : QueryError) (before : List Char) : Prop :=
  ∃ front, error.context.toList = front ++ ['^'] ∧
    placeBehind front =
      ((placeBehind (error.headline ++ '\n' :: ' ' :: ' ' :: before)).1 + 1,
        (placeBehind (error.headline ++ '\n' :: ' ' :: ' ' :: before)).2)

variable {error : QueryError}

/-- An error has three lines just if its query has only one. -/
theorem splitOn_context_iff (free : '\n' ∉ error.headline) :
    error.context.toList.splitOn '\n' =
        [error.headline, error.queryLine, error.caretIndent ++ ['^']] ↔
      '\n' ∉ error.query.toList := by
  have caretFree : '\n' ∉ error.caretIndent ++ ['^'] := by
    simp [newline_not_mem_caretIndent]
  rw [toList_context, List.append_assoc, List.cons_append, List.append_assoc, List.cons_append,
    List.splitOn_append_cons_self_of_not_mem free, List.splitOn_append_cons_self,
    List.splitOn_eq_singleton caretFree, List.cons.injEq]
  have lines_iff : error.queryLine.splitOn '\n' ++ [error.caretIndent ++ ['^']] =
      [error.queryLine, error.caretIndent ++ ['^']] ↔
        error.queryLine.splitOn '\n' = [error.queryLine] := by
    have lastApart : [error.queryLine, error.caretIndent ++ ['^']] =
        [error.queryLine] ++ [error.caretIndent ++ ['^']] := rfl
    rw [lastApart, List.append_left_inj]
  rw [lines_iff, splitOn_eq_singleton_iff]
  simp [queryLine]

/-- The caret is below the failure just if the query has only one line. -/
theorem hasCaretBelow_iff {before behind : List Char} (free : '\n' ∉ error.headline)
    (split : error.query.toList = before ++ behind) (columnEq : error.column = before.length) :
    error.HasCaretBelow before ↔ '\n' ∉ error.query.toList := by
  have headlineRow := List.count_eq_zero.mpr free
  have caretPlace : placeBehind
      (error.headline ++ '\n' :: (error.queryLine ++ '\n' :: error.caretIndent)) =
        ((before ++ behind).count '\n' + 2, before.length + 2) := by
    have queryRows : error.queryLine.count '\n' = (before ++ behind).count '\n' := by
      simp [queryLine, split]
    rw [placeBehind_append, placeBehind_append,
      placeBehind_of_not_mem error.newline_not_mem_caretIndent, headlineRow, queryRows]
    simp [caretIndent, columnEq]
    omega
  have below_iff : error.HasCaretBelow before ↔
      placeBehind (error.headline ++ '\n' :: (error.queryLine ++ '\n' :: error.caretIndent)) =
        ((placeBehind (error.headline ++ '\n' :: ' ' :: ' ' :: before)).1 + 1,
          (placeBehind (error.headline ++ '\n' :: ' ' :: ' ' :: before)).2) := by
    unfold HasCaretBelow
    rw [toList_context]
    constructor
    · rintro ⟨front, same, placeEq⟩
      rw [List.append_cancel_right same]
      exact placeEq
    · exact fun placeEq => ⟨_, rfl, placeEq⟩
  have rows : (placeBehind (' ' :: ' ' :: before)).1 = before.count '\n' := by
    simp [placeBehind]
  have onOneLine : before.length + 2 = (placeBehind (' ' :: ' ' :: before)).2 ↔
      before.count '\n' = 0 := by
    have onOneLine := @placeBehind_snd_eq_length_iff (' ' :: ' ' :: before)
    rw [List.length_cons, List.length_cons, eq_comm] at onOneLine
    rw [onOneLine, List.count_eq_zero]
    simp
  rw [below_iff, caretPlace, placeBehind_append, headlineRow, Prod.mk.injEq, split,
    ← List.count_eq_zero, rows, onOneLine, List.count_append]
  omega

/-! ### The errors of rejected queries -/

/-- No wording of what a query can be rejected for breaks the first line. -/
theorem newline_not_mem_headline {query : String} (rejected : parse query = .error error) :
    '\n' ∉ error.headline := by
  have wordings : ∀ expected ∈ Query.reportable, '\n' ∉ expected.text.toList := by decide
  have opening : '\n' ∉ (message ++ ": expected ").toList := by decide
  obtain ⟨failure, fails, rfl⟩ := Query.exists_readTerm_of_parse rejected
  rw [headline, String.toList_append]
  exact fun member => (List.mem_append.mp member).elim opening
    (wordings failure.expected (Query.expected_mem_reportable fails))

/-- The position of an error is behind a beginning of the folded query. In its last line, the caret
is behind as many spaces as that beginning and the two spaces in front of the query have
characters. It is directly below the failure just if no line feed is in the query. And just then
the error has three lines: what was expected, the folded query, and the caret. -/
theorem caret_below_iff {query : String} (rejected : parse query = .error error) :
    ∃ before behind, fold query.toList = before ++ behind ∧
      error.query.toList = before ++ behind ∧ error.position = utf8Length before ∧
      error.caretIndent = ' ' :: ' ' :: List.replicate before.length ' ' ∧
      (error.context.toList.splitOn '\n' =
          [error.headline, error.queryLine, error.caretIndent ++ ['^']] ↔ '\n' ∉ query.toList) ∧
      (error.HasCaretBelow before ↔ '\n' ∉ query.toList) := by
  have free := newline_not_mem_headline rejected
  obtain ⟨failure, fails, rfl⟩ := Query.exists_readTerm_of_parse rejected
  obtain ⟨before, behind, foldEq, positionEq⟩ := Query.exists_append_of_readTerm fails
  have lineFeed : Text.IsSymbol '\n' := by decide
  have split : (ofFailure failure (String.ofList (fold query.toList))).query.toList =
      before ++ behind := by
    rw [ofFailure, String.toList_ofList, foldEq]
  have columnEq : (ofFailure failure (String.ofList (fold query.toList))).column =
      before.length := by
    rw [ofFailure, foldEq]
    exact Query.column_of_append failure.expected.text positionEq behind
  refine ⟨before, behind, foldEq, split, positionEq, ?_, ?_, ?_⟩
  · rw [caretIndent, columnEq]
  · rw [splitOn_context_iff free, split, ← foldEq, lineFeed.mem_fold_iff]
  · rw [hasCaretBelow_iff free split columnEq, split, ← foldEq, lineFeed.mem_fold_iff]

/-- A query that fails at its end, behind a character of two bytes. -/
theorem caret_below_iff_instance :
    ∃ error, parse "Label = É or" = .error error ∧
      error.context.toList.splitOn '\n' = ["query could not be parsed: expected field name".toList,
        "  label = é or".toList, "              ^".toList] ∧
      error.position = utf8Length error.query.toList ∧
      error.HasCaretBelow error.query.toList := by
  have rejected : parse "Label = É or" = .error ⟨13, "field name", "label = é or"⟩ := rfl
  have free : '\n' ∉ "Label = É or".toList := by decide
  obtain ⟨before, behind, _, split, positionEq, _, lines, below⟩ := caret_below_iff rejected
  have atEnd : behind = [] := by
    have width : 13 = utf8Length (before ++ behind) := split ▸ rfl
    have widthBefore : 13 = utf8Length before := positionEq
    rw [utf8Length_append, ← widthBefore] at width
    by_contra nonempty
    have positive := Query.utf8Length_pos nonempty
    omega
  rw [atEnd, List.append_nil] at split
  exact ⟨_, rejected, lines.mpr free, split ▸ positionEq, split ▸ below.mpr free⟩

/-- A query that fails at a line feed. The caret is in the column of the failure, but there is a
line between them, and that line ends before the caret. -/
theorem caret_astray :
    ∃ error, parse "title = \"a\"\nor label = b" = .error error ∧ error.position = 11 ∧
      error.context.toList.splitOn '\n' =
        ["query could not be parsed: expected end of query".toList, "  title = \"a\"".toList,
          "or label = b".toList, "             ^".toList] ∧
      ¬ error.HasCaretBelow "title = \"a\"".toList := by
  have free : '\n' ∉ headline ⟨11, "end of query", "title = \"a\"\nor label = b"⟩ := by decide
  have split : "title = \"a\"\nor label = b".toList =
      "title = \"a\"".toList ++ "\nor label = b".toList := by decide
  refine ⟨⟨11, "end of query", "title = \"a\"\nor label = b"⟩, rfl, rfl, by decide +kernel, ?_⟩
  rw [hasCaretBelow_iff free split rfl]
  decide

end QueryError

end ContentQuery
