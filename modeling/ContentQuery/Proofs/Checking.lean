/-
This file proves that queries are checked alike whether they are given as arguments or in a file.
A file holds queries when each stands on a line of its own, with blank lines anywhere between
them; lines end at a line feed, with or without a carriage return before it. The queries that are
then read from the file are just these, because no query is blank, holds a line feed or ends with
a carriage return that would be taken for a part of the end of its line.

What is printed up to the level of warnings are the verdicts and the count of rejected queries,
since all records of a check are below that level.
-/

import ContentQuery.CommandLine.Run

namespace ContentQuery.CommandLine

open Text

/-! ### Lines -/

/-- The query can stand on a line of its own. -/
structure IsLine (query : String) : Prop where
  /-- The line is not blank. -/
  nonblank : isBlank query.toList = false
  /-- The line does not end within the query. -/
  oneLine : '\n' ∉ query.toList
  /-- The end of the line does not take away the last character of the query. -/
  noReturn : query.toList.getLast? ≠ some '\r'

/-- What ends a line. -/
def lineEnds : List (List Char) := [['\n'], ['\r', '\n']]

/-- The text holds the queries, each on a line of its own, with any blank lines. The last line
need not be ended. -/
inductive HoldsQueries : List String → List Char → Prop where
  /-- A last line that is blank; it may be empty. -/
  | lastBlank {blank : List Char} (isBlank : isBlank blank = true) (oneLine : '\n' ∉ blank) :
    HoldsQueries [] blank
  /-- A query on the last line. -/
  | lastQuery (query : String) : HoldsQueries [query] query.toList
  /-- A blank line before others. -/
  | blank {blank ending rest : List Char} {queries : List String} (isBlank : isBlank blank = true)
      (oneLine : '\n' ∉ blank) (ends : ending ∈ lineEnds) (further : HoldsQueries queries rest) :
    HoldsQueries queries (blank ++ (ending ++ rest))
  /-- A query on a line before others. -/
  | query (query : String) {ending rest : List Char} {queries : List String}
      (ends : ending ∈ lineEnds) (further : HoldsQueries queries rest) :
    HoldsQueries (query :: queries) (query.toList ++ (ending ++ rest))

/-- A text without line feeds is put on its line as it is. -/
theorem linesAfter_append {text : List Char} (oneLine : '\n' ∉ text) (line rest : List Char) :
    linesAfter line (text ++ rest) = linesAfter (text.reverse ++ line) rest := by
  induction text generalizing line with
  | nil => rfl
  | cons character text inductionHypothesis =>
    rw [List.cons_append, linesAfter, inductionHypothesis (List.not_mem_of_not_mem_cons oneLine),
      List.reverse_cons, List.append_assoc]
    · rfl
    · exact fun same => List.ne_of_not_mem_cons oneLine same.symm

theorem linesAfter_last {text : List Char} (oneLine : '\n' ∉ text) :
    linesAfter [] text = if text.isEmpty then [] else [text] := by
  have whole := linesAfter_append oneLine [] []
  rw [List.append_nil, List.append_nil, linesAfter, List.reverse_reverse,
    List.isEmpty_reverse] at whole
  exact whole

/-- A line feed ends a line that no carriage return ends already. -/
theorem linesAfter_lineFeed {line : List Char} (noReturn : line.head? ≠ some '\r')
    (rest : List Char) : linesAfter line ('\n' :: rest) = line.reverse :: linesAfter [] rest := by
  cases line with
  | nil => rfl
  | cons character line =>
    rw [linesAfter]
    rintro before same
    cases same
    exact noReturn rfl

/-- A carriage return before the line feed does not belong to the line. -/
theorem linesAfter_return (line rest : List Char) :
    linesAfter ('\r' :: line) ('\n' :: rest) = line.reverse :: linesAfter [] rest := by
  rw [linesAfter]

/-- An ended line that does not end with a carriage return is a line. -/
theorem linesAfter_line {text ending : List Char} (oneLine : '\n' ∉ text)
    (noReturn : text.getLast? ≠ some '\r') (ends : ending ∈ lineEnds) (rest : List Char) :
    linesAfter [] (text ++ (ending ++ rest)) = text :: linesAfter [] rest := by
  rw [linesAfter_append oneLine, List.append_nil]
  simp only [lineEnds, List.mem_cons, List.not_mem_nil, or_false] at ends
  rcases ends with rfl | rfl
  · have stop : text.reverse.head? ≠ some '\r' := by rwa [List.head?_reverse]
    exact (linesAfter_lineFeed stop rest).trans (by rw [List.reverse_reverse])
  · exact (linesAfter_return text.reverse rest).trans (by rw [List.reverse_reverse])

/-- An ended line that is blank is a blank line, even if it loses a carriage return. -/
theorem linesAfter_blank {blank ending : List Char} (isBlank : isBlank blank = true)
    (oneLine : '\n' ∉ blank) (ends : ending ∈ lineEnds) (rest : List Char) :
    ∃ line, Text.isBlank line = true ∧
      linesAfter [] (blank ++ (ending ++ rest)) = line :: linesAfter [] rest := by
  by_cases last : blank.getLast? = some '\r'
  · obtain ⟨front, rfl⟩ := List.getLast?_eq_some_iff.mp last
    have frontBlank : Text.isBlank front = true ∧ Text.isBlank (front ++ ['\r']) = true := by
      refine ⟨?_, isBlank⟩
      rw [Text.isBlank, List.all_append, Bool.and_eq_true] at isBlank
      exact isBlank.1
    rw [linesAfter_append oneLine, List.append_nil, List.reverse_append]
    simp only [lineEnds, List.mem_cons, List.not_mem_nil, or_false] at ends
    rcases ends with rfl | rfl
    · exact ⟨front, frontBlank.1,
        (linesAfter_return front.reverse rest).trans (by rw [List.reverse_reverse])⟩
    · refine ⟨front ++ ['\r'], frontBlank.2, (linesAfter_return _ rest).trans ?_⟩
      rw [← List.reverse_append, List.reverse_reverse]
  · exact ⟨blank, isBlank, linesAfter_line oneLine last ends rest⟩

/-! ### Queries in a file -/

/-- Of the lines of a text, the queries that it holds are those that are not blank. -/
theorem HoldsQueries.filter_lines {queries : List String} {text : List Char}
    (holds : HoldsQueries queries text) (lines : ∀ query ∈ queries, IsLine query) :
    (linesAfter [] text).filter (!isBlank ·) = queries.map String.toList := by
  induction holds with
  | lastBlank isBlank oneLine =>
    rw [linesAfter_last oneLine]
    split
    · rfl
    · simp [isBlank]
  | lastQuery query =>
    obtain ⟨nonblank, oneLine, _⟩ := lines query List.mem_cons_self
    have nonempty : ¬ query.toList.isEmpty = true := by
      intro empty
      rw [List.isEmpty_iff.mp empty] at nonblank
      cases nonblank
    rw [linesAfter_last oneLine, if_neg nonempty]
    simp [nonblank]
  | blank isBlank oneLine ends _ inductionHypothesis =>
    obtain ⟨line, lineBlank, linesEq⟩ := linesAfter_blank isBlank oneLine ends _
    rw [linesEq, List.filter_cons_of_neg (by simp [lineBlank]), inductionHypothesis lines]
  | query query ends _ inductionHypothesis =>
    obtain ⟨⟨nonblank, oneLine, noReturn⟩, further⟩ := List.forall_mem_cons.mp lines
    rw [linesAfter_line oneLine noReturn ends, List.filter_cons_of_pos (by simp [nonblank]),
      inductionHypothesis further]
    rfl

/-- The queries in a file are those that its content holds. -/
theorem queriesIn_of_holdsQueries {queries : List String} {content : String}
    (holds : HoldsQueries queries content.toList) (lines : ∀ query ∈ queries, IsLine query) :
    queriesIn content = queries := by
  rw [queriesIn, holds.filter_lines lines, List.map_map]
  simp

/-! ### Verdicts -/

/-- The line that is printed for a query. -/
def verdict (query : String) : String :=
  (if (parse query).isOk then "ok       " else "invalid  ") ++ query ++ "\n"

/-- What checking queries comes to: a verdict on each of them, and if some are rejected, their
number among all. -/
def verdicts (queries : List String) : Outcome :=
  let rejected := (queries.filter fun query => !(parse query).isOk).length
  if rejected = 0 then ⟨0, String.join (queries.map verdict), ""⟩
  else
    ⟨1, String.join (queries.map verdict),
      toString rejected ++ " of " ++ toString queries.length ++ " queries invalid\n"⟩

/-- Checking a query gives its verdict, and records that are not shown up to warnings. -/
theorem check_eq (query : String) :
    (check query).accepted = (parse query).isOk ∧ (check query).line = verdict query ∧
      ∀ record ∈ (check query).records, record.shown .warn = "" := by
  have recordShown : ∀ folded outcome, (Query.record folded outcome).shown .warn = "" := by
    intro folded outcome
    cases outcome <;> rfl
  rw [verdict, ← Query.parseRecorded_fst]
  unfold check
  have shown : (Query.parseRecorded query).2.shown .warn = "" := recordShown _ _
  generalize Query.parseRecorded query = recorded at shown
  obtain ⟨result, record⟩ := recorded
  cases result with
  | ok term => exact ⟨rfl, rfl, List.forall_mem_singleton.mpr shown⟩
  | error error =>
    exact ⟨rfl, rfl, List.forall_mem_cons.mpr ⟨shown, List.forall_mem_singleton.mpr rfl⟩⟩

theorem join_map_empty {Item : Type} {items : List Item} {text : Item → String}
    (empty : ∀ item ∈ items, text item = "") : String.join (items.map text) = "" := by
  induction items with
  | nil => rfl
  | cons item items inductionHypothesis =>
    obtain ⟨here, further⟩ := List.forall_mem_cons.mp empty
    rw [List.map_cons, String.join_cons, here, inductionHypothesis further]
    rfl

/-- Up to warnings, checking queries shows the verdicts and nothing else. -/
theorem checkAll_warn (queries : List String) : checkAll .warn queries = verdicts queries := by
  have log : String.join (((queries.map check).flatMap (·.records)).map (·.shown .warn)) = "" := by
    refine join_map_empty fun record member => ?_
    obtain ⟨_, isCheck, member⟩ := List.mem_flatMap.mp member
    obtain ⟨query, _, rfl⟩ := List.mem_map.mp isCheck
    exact (check_eq query).2.2 record member
  have output : (queries.map check).map (·.line) = queries.map verdict := by
    rw [List.map_map]
    exact List.map_congr_left fun query _ => (check_eq query).2.1
  have invalid : ((queries.map check).filter (!·.accepted)).length =
      (queries.filter fun query => !(parse query).isOk).length := by
    rw [List.filter_map, List.length_map]
    refine congrArg List.length (List.filter_congr fun query _ => ?_)
    exact congrArg not (check_eq query).1
  unfold checkAll verdicts
  simp only [log, output, invalid, String.empty_append]

/-! ### Command lines -/

/-- What the program prints for a command line, and the code it exits with; there is none where
the arguments ask for no command. -/
def runLine (most : LogLevel) (contentOf : String → Except ReadFailure String)
    (arguments : List String) : Option Outcome :=
  (Command.ofArguments? arguments).map (·.run most contentOf)

/-- The arguments name the file with queries. A path that would be taken for an option is given
in one argument with the name of the option. -/
inductive NamesFile (path : String) : List String → Prop where
  /-- The path is an argument of its own. -/
  | separate (isPlain : Argument.ofString path = .plain path) : NamesFile path ["--file", path]
  /-- The path is attached to the option. -/
  | attached : NamesFile path ["--file=" ++ path]

namespace CheckRequest

theorem takeArguments_queries (request : CheckRequest) (arguments : List String) :
    takeArguments true request arguments =
      some ⟨request.queries ++ arguments, request.file⟩ := by
  induction arguments generalizing request with
  | nil => rw [takeArguments, List.append_nil]
  | cons query rest inductionHypothesis =>
    rw [takeArguments.eq_def]
    simp only [if_true, inductionHypothesis, takeQuery, List.append_assoc, List.singleton_append]

/-- After the end of the options, all arguments are queries. -/
theorem takeArguments_endOfOptions (request : CheckRequest) (arguments : List String) :
    takeArguments false request ("--" :: arguments) =
      some ⟨request.queries ++ arguments, request.file⟩ := by
  have isEnd : Argument.ofString "--" = .endOfOptions := rfl
  rw [takeArguments.eq_def]
  simp only [Bool.false_eq_true, if_false, isEnd]
  exact takeArguments_queries request arguments

theorem takeFile_of_ne {path : String} (named : path ≠ "") (queries : List String) :
    takeFile ⟨queries, none⟩ path = some ⟨queries, some path⟩ := by
  have notEmpty : ¬ path.isEmpty = true := by simpa using named
  rw [takeFile, if_neg notEmpty]

theorem takeArguments_file {path : String} {naming : List String} (names : NamesFile path naming)
    (named : path ≠ "") (queries rest : List String) :
    takeArguments false ⟨queries, none⟩ (naming ++ rest) =
      takeArguments false ⟨queries, some path⟩ rest := by
  cases names with
  | separate isPlain =>
    have isFile : Argument.ofString "--file" = .long "file" none := rfl
    rw [List.cons_append, takeArguments.eq_def]
    simp only [Bool.false_eq_true, if_false, isFile, List.cons_append, List.nil_append,
      takeSeparateFile, isPlain, takeFile_of_ne named, Option.bind_some]
  | attached =>
    have isFile : Argument.ofString ("--file=" ++ path) = .long "file" (some path) := by
      have spelled : ("--file=" ++ path).toList =
          '-' :: '-' :: 'f' :: 'i' :: 'l' :: 'e' :: '=' :: path.toList := by simp
      rw [Argument.ofString, spelled]
      exact congrArg (Argument.long "file" ∘ some) String.ofList_toList
    rw [List.cons_append, takeArguments.eq_def]
    simp only [Bool.false_eq_true, if_false, isFile, List.nil_append, takeFile_of_ne named,
      Option.bind_some]

end CheckRequest

/-- Arguments behind the end of the options are checked as queries. -/
theorem runLine_arguments (contentOf : String → Except ReadFailure String) {queries : List String}
    (nonempty : queries ≠ []) :
    runLine .warn contentOf ("check" :: "--" :: queries) = some (verdicts queries) := by
  have command : Command.ofArguments? ("check" :: "--" :: queries) =
      some (.check queries none) := by
    rw [Command.ofArguments?, CheckRequest.takeArguments_endOfOptions]
    simp [CheckRequest.command?, nonempty]
  rw [runLine, command]
  exact congrArg some (checkAll_warn queries)

/-- Queries of a file are checked after those that are given as arguments. -/
theorem runLine_file {contentOf : String → Except ReadFailure String} {path content : String}
    {naming arguments queries : List String} (names : NamesFile path naming) (named : path ≠ "")
    (readable : contentOf path = .ok content) (holds : HoldsQueries queries content.toList)
    (lines : ∀ query ∈ queries, IsLine query) :
    runLine .warn contentOf ("check" :: (naming ++ "--" :: arguments)) =
      some (verdicts (arguments ++ queries)) := by
  have command : Command.ofArguments? ("check" :: (naming ++ "--" :: arguments)) =
      some (.check arguments (some path)) := by
    rw [Command.ofArguments?, CheckRequest.takeArguments_file names named,
      CheckRequest.takeArguments_endOfOptions]
    simp [CheckRequest.command?]
  have silent : (⟨.info, "cql", "read queries from " ++ path⟩ : LogRecord).shown .warn = "" := rfl
  rw [runLine, command, Option.map_some, Command.run, runCheck, readable]
  simp only [queriesIn_of_holdsQueries holds lines, checkAll_warn, silent, String.empty_append]

/-- To check queries of which the last ones stand in a file is to check them all as arguments,
and it comes to a verdict on each of them. -/
theorem runLine_check_file (contentOf : String → Except ReadFailure String) (path content : String)
    (naming arguments queries : List String) (names : NamesFile path naming) (named : path ≠ "")
    (readable : contentOf path = .ok content) (holds : HoldsQueries queries content.toList)
    (lines : ∀ query ∈ queries, IsLine query) (nonempty : arguments ++ queries ≠ []) :
    runLine .warn contentOf ("check" :: (naming ++ "--" :: arguments)) =
        runLine .warn contentOf ("check" :: "--" :: (arguments ++ queries)) ∧
      runLine .warn contentOf ("check" :: "--" :: (arguments ++ queries)) =
        some (verdicts (arguments ++ queries)) := by
  have asArguments := runLine_arguments contentOf nonempty
  exact ⟨(runLine_file names named readable holds lines).trans asArguments.symm, asArguments⟩

/-- A file with both ends of lines, a blank line, and a last line without an end. -/
theorem runLine_check_file_instance :
    runLine .warn (fun _ => .ok "title ~ a\r\n\t\u00a0\r\nparent in (1)")
        ["check", "--file", "queries", "--", "-- x"] =
      some ⟨1, "invalid  -- x\nok       title ~ a\ninvalid  parent in (1)\n",
        "2 of 3 queries invalid\n"⟩ := by
  have holds : HoldsQueries ["title ~ a", "parent in (1)"]
      ("title ~ a".toList ++ (['\r', '\n'] ++ (['\t', '\u00a0'] ++ (['\r', '\n'] ++
        "parent in (1)".toList)))) :=
    .query _ (by decide) (.blank (by decide) (by decide) (by decide) (.lastQuery _))
  have lines : ∀ query ∈ ["title ~ a", "parent in (1)"], IsLine query :=
    List.forall_mem_cons.mpr ⟨⟨by decide, by decide, by decide⟩,
      List.forall_mem_singleton.mpr ⟨by decide, by decide, by decide⟩⟩
  have asArguments := runLine_check_file
    (fun _ => .ok "title ~ a\r\n\t\u00a0\r\nparent in (1)") "queries" _ _ ["-- x"] _
    (.separate (by rfl)) (by decide) rfl holds lines (by simp)
  refine (asArguments.1.trans asArguments.2).trans (congrArg some ?_)
  decide +kernel

end ContentQuery.CommandLine
