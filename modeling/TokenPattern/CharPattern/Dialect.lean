import TokenPattern.CharPattern.Search

namespace TokenPattern

/-!
# Dialects of character patterns

Token patterns hold character patterns as text. What such a text means is up
to a dialect: whether it is a pattern at all, what is wrong with it if it is
none, and in which texts it is found. Nothing else depends on how character
patterns are read and searched for.
-/

/-- What the sources of character patterns mean. -/
structure Dialect where
  /-- Whether a source is a pattern. -/
  accepts : String → Bool
  /-- What is wrong with a source that is no pattern, in words. -/
  refusal : String → String
  /-- Whether the pattern of a source occurs anywhere in a text. -/
  finds : String → String → Bool

namespace Dialect

/-- The dialect of the library's own character patterns. -/
def standard : Dialect where
  accepts source := (CharPattern.read? source).isSome
  refusal _ := "not a character pattern"
  finds source text :=
    (CharPattern.readUnlimited? source).any fun pattern => CharPattern.occursIn pattern text

end Dialect

end TokenPattern
