import TokenPattern.Matcher

namespace TokenPattern

/-!
# The command line

The program takes a pattern and a text and says whether the pattern matches the
text. Whatever keeps it from an answer is reported on the error stream.
-/

namespace CommandLine

/-- What a run of the program leaves behind. -/
structure Report where
  exitCode : Nat
  output : String
  errorOutput : String
  deriving Repr, DecidableEq

/-- How the program is called. -/
def usage : String := "usage: tokensregex <pattern> <input>"

/-- The report of a run that fails. -/
def failure (message : String) : Report :=
  ⟨1, "", "Error: " ++ message ++ "\n"⟩

/-- The report of a run that finds an answer. -/
def success (answer : Bool) : Report :=
  ⟨0, "Result is " ++ (if answer then "true" else "false") ++ "\n", ""⟩

/-- Whether a pattern matches a text under the standard settings. -/
def answer? (dialect : Dialect) (pattern text : String) : Except Error Bool :=
  match Matcher.ofSource dialect pattern "" .standard with
  | .error error => .error (.build error)
  | .ok matcher =>
      match matcher.matchesText dialect text with
      | .error error => .error (.search error)
      | .ok answer => .ok answer

/-- Run the program with the given arguments. -/
def run (dialect : Dialect) (arguments : List String) : Report :=
  match arguments with
  | [pattern, text] =>
      match answer? dialect pattern text with
      | .ok answer => success answer
      | .error error => failure error.message
  | _ => failure usage

end CommandLine

end TokenPattern
