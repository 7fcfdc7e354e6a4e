import TokenPattern.Text.Quoted

namespace TokenPattern

/-!
# Character patterns in token patterns

A token pattern holds a character pattern as its source; two character patterns
are the same if their sources are.
-/

/-- A character pattern, known by its source. -/
structure CharPattern where
  source : String
  deriving Repr, DecidableEq

namespace CharPattern

/-- The pattern between slashes. -/
def text (pattern : CharPattern) : String :=
  "/" ++ pattern.source ++ "/"

/-- The pattern's source, quoted and named. -/
def describe (pattern : CharPattern) : String :=
  s!"Pattern({Text.quoted pattern.source})"

end CharPattern

end TokenPattern
