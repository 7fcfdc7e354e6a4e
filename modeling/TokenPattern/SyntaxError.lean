import TokenPattern.Span
import TokenPattern.Text.Quoted

namespace TokenPattern

/-!
# Syntax errors

A text that is no token pattern has a first place where this shows. A syntax
error tells what is wrong there, and which part of the text is at fault.
-/

/-- What can be wrong with a pattern. -/
inductive Fault where
  | unexpectedChar
  | emptyPattern
  | emptyGroup
  | groupUnopened
  | groupUnclosed
  | groupMismatch
  | missingOperand
  | operatorOutsideBracket
  | repetitionMissing
  | repetitionAfterWhitespace
  | repetitionStacked
  | attributeMalformed
  | patternUnclosed
  | patternInvalid (reason : String)
  deriving Repr, DecidableEq

/-- The fault in words. -/
def Fault.text : Fault → String
  | .unexpectedChar => "unexpected character"
  | .emptyPattern => "empty pattern"
  | .emptyGroup => "empty group"
  | .groupUnopened => "closing delimiter without an open group"
  | .groupUnclosed => "unclosed group"
  | .groupMismatch => "closing delimiter does not match the open group"
  | .missingOperand => "operator is missing an operand"
  | .operatorOutsideBracket => "'|' and '&' are only allowed directly inside [ ... ]"
  | .repetitionMissing => "quantifier without an operand"
  | .repetitionAfterWhitespace => "quantifier must directly follow its operand"
  | .repetitionStacked => "quantifier applied to a quantifier"
  | .attributeMalformed => "malformed attribute, expected \x7b name : value \x7d"
  | .patternUnclosed => "unterminated /.../ pattern"
  | .patternInvalid reason => s!"invalid pattern: {reason}"

/-- A fault, the pattern that has it and the part of the pattern where it shows. -/
structure SyntaxError where
  fault : Fault
  pattern : String
  span : Span
  deriving Repr, DecidableEq

/-- The error in words. -/
def SyntaxError.message (error : SyntaxError) : String :=
  s!"syntax error: {error.fault.text} at {error.span.text} in {Text.quoted error.pattern}"

end TokenPattern
