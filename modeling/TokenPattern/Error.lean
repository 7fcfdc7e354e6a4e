import TokenPattern.Automaton.Assembly
import TokenPattern.SyntaxError

namespace TokenPattern

/-!
# Errors

Building from a pattern fails because the text is no pattern, or because its
program is none. Searching fails on its own terms. `Error` is any of these.
-/

/-- Why nothing can be built from a pattern. -/
inductive BuildError where
  | notAPattern (error : SyntaxError)
  | notAProgram (error : ProgramError)
  deriving Repr, DecidableEq

/-- The error in words. -/
def BuildError.message : BuildError → String
  | .notAPattern error => error.message
  | .notAProgram error => error.message

/-- Why there is no answer whether a pattern matches. -/
inductive Error where
  | build (error : BuildError)
  | search (error : SearchError)
  deriving Repr, DecidableEq

/-- The error in words. -/
def Error.message : Error → String
  | .build error => error.message
  | .search error => error.message

end TokenPattern
