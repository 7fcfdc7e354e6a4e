import TokenPattern.CharPattern

namespace TokenPattern

/-!
# Instructions

A token pattern is written down as a postfix program: an atom puts an operand
on a stack, and an operator replaces the operands on top by its result.
-/

/-- What an attribute is compared with. -/
inductive Value where
  /-- The attribute equals the text. -/
  | literal (text : String)
  /-- The pattern is found in the attribute. -/
  | pattern (charPattern : CharPattern)
  deriving Repr, DecidableEq

/-- The value as it is written. -/
def Value.text : Value → String
  | .literal text => text
  | .pattern charPattern => charPattern.text

/-- A test of one token. -/
inductive Atom where
  /-- The default attribute equals the text. -/
  | word (text : String)
  /-- The pattern is found in the default attribute. -/
  | found (charPattern : CharPattern)
  /-- The named attribute has the value. -/
  | attributeIs (name : String) (value : Value)
  deriving Repr, DecidableEq

/-- The atom as it is written. -/
def Atom.text : Atom → String
  | .word text => text
  | .found charPattern => charPattern.text
  | .attributeIs name value => "\x7b" ++ name ++ ":" ++ value.text ++ "\x7d"

/-- The operators that stand between operands in brackets. -/
inductive Connective where
  | or
  | and
  deriving Repr, DecidableEq

/-- The operators that stand after an operand. -/
inductive Quantifier where
  | maybe
  | star
  | plus
  deriving Repr, DecidableEq

/-- The character that an operator between operands is written with. -/
def Connective.text : Connective → String
  | .or => "|"
  | .and => "&"

/-- How tightly an operator between operands binds. -/
def Connective.precedence : Connective → Nat
  | .or => 1
  | .and => 2

/-- The character that a quantifier is written with. -/
def Quantifier.text : Quantifier → String
  | .maybe => "?"
  | .star => "*"
  | .plus => "+"

/-- One step of a postfix program. -/
inductive Instruction where
  | atom (test : Atom)
  /-- The first operand, then the second. -/
  | concat
  /-- Either operand, or one token that satisfies both. -/
  | connect (operator : Connective)
  | quantify (operator : Quantifier)
  deriving Repr, DecidableEq

namespace Instruction

/-- The number of operands that an instruction takes from the stack. -/
def arity : Instruction → Nat
  | .atom _ => 0
  | .concat => 2
  | .connect _ => 2
  | .quantify _ => 1

/-- The instruction as it is written. -/
def text : Instruction → String
  | .atom test => test.text
  | .concat => "."
  | .connect operator => operator.text
  | .quantify operator => operator.text

end Instruction

end TokenPattern
