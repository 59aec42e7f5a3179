/-
This file holds log records and how they are shown. A record is shown if its level is at most
the level that is asked for, on a line of its own; where its message has several lines, the
further ones are indented.
-/

namespace ContentQuery

/-- How urgent a log record is, from the most to the least urgent. -/
inductive LogLevel where
  /-- Something failed. -/
  | error
  /-- Something is suspect. -/
  | warn
  /-- A step was taken. -/
  | info
  /-- Why a step ended as it did. -/
  | debug
  /-- Every detail. -/
  | trace
deriving DecidableEq

namespace LogLevel

/-- Every level. -/
def all : List LogLevel := [error, warn, info, debug, trace]

/-- The name of a level, as it is shown. -/
def name : LogLevel → String
  | error => "ERROR"
  | warn => "WARN"
  | info => "INFO"
  | debug => "DEBUG"
  | trace => "TRACE"

/-- The level of the given name, in capitals or small letters. -/
def ofName? (name : String) : Option LogLevel :=
  all.find? (·.name.toList == name.toList.map Char.toUpper)

/-- The place of a level in the order of urgency. -/
def rank : LogLevel → Nat
  | error => 1
  | warn => 2
  | info => 3
  | debug => 4
  | trace => 5

end LogLevel

/-- A log record. -/
structure LogRecord where
  /-- How urgent the record is. -/
  level : LogLevel
  /-- The part of the program that speaks. -/
  source : String
  /-- What it says. -/
  message : String
deriving DecidableEq

namespace LogRecord

/-- A message with the lines after the first one indented. -/
def indentedMessage (message : List Char) : List Char :=
  message.flatMap fun character =>
    if character = '\n' then '\n' :: List.replicate 4 ' ' else [character]

/-- A record as it is shown. -/
def line (record : LogRecord) : String :=
  "[" ++ record.level.name ++
    String.ofList (List.replicate (5 - record.level.name.length) ' ') ++ " " ++
    record.source ++ "] " ++ String.ofList (indentedMessage record.message.toList) ++ "\n"

/-- What is shown of a record when records up to the given level are asked for. -/
def shown (most : LogLevel) (record : LogRecord) : String :=
  if record.level.rank ≤ most.rank then record.line else ""

end LogRecord

end ContentQuery
