/-
This file tells apart the arguments of a command line. An argument that begins with a hyphen
is an option, except for a hyphen by itself, and two hyphens by themselves end the options.
An option has a long name behind two hyphens, with its value behind an equals sign, or a
single letter behind one hyphen, with its value behind the letter.
-/

namespace ContentQuery.CommandLine

/-- An argument of a command line, as long as options have not ended. -/
inductive Argument where
  /-- The end of the options. -/
  | endOfOptions
  /-- An option by its long name, with the value attached to it. -/
  | long (name : String) (value : Option String)
  /-- An option by its letter, with the text attached to it. -/
  | short (letter : Char) (attached : List Char)
  /-- An argument that is no option. -/
  | plain (text : String)

namespace Argument

/-- The long option with the given text behind its hyphens. -/
def longOf (text : List Char) : Argument :=
  let name := String.ofList (text.takeWhile (· != '='))
  match text.dropWhile (· != '=') with
  | [] => long name none
  | _ :: value => long name (some (String.ofList value))

/-- What an argument is. -/
def ofString (text : String) : Argument :=
  match text.toList with
  | ['-', '-'] => endOfOptions
  | '-' :: '-' :: rest => longOf rest
  | '-' :: letter :: attached => short letter attached
  | _ => plain text

end Argument

end ContentQuery.CommandLine
