import TokenPattern.Instruction
import TokenPattern.SyntaxError
import TokenPattern.Text.Width

namespace TokenPattern

/-!
# Lexemes

A lexeme is a part of a pattern's text together with what it stands for. Text
that cannot be read is a lexeme too, which says what is wrong with it.
-/

/-- The two shapes of groups. -/
inductive Delimiter where
  /-- Parentheses, around a sequence. -/
  | round
  /-- Brackets, in which operators may stand. -/
  | square
  deriving Repr, DecidableEq

/-- What a lexeme is. -/
inductive Symbol where
  | blank
  | atom (test : Atom)
  | opener (shape : Delimiter)
  | closer (shape : Delimiter)
  | connective (operator : Connective)
  | quantifier (operator : Quantifier)
  /-- A character that starts no other lexeme. -/
  | stray
  /-- A literal or a test whose reading stopped at a fault; the faulty part starts after `lead`. -/
  | broken (fault : Fault) (lead : List Char)
  deriving Repr, DecidableEq

/-- A symbol and the text that it was read from. -/
structure Lexeme where
  symbol : Symbol
  text : List Char
  deriving Repr, DecidableEq

/-- The number of bytes of a lexeme. -/
def Lexeme.width (lexeme : Lexeme) : Nat :=
  Text.width lexeme.text

end TokenPattern
