import TokenPattern.Unicode.BinaryProperty
import TokenPattern.Unicode.CaseFolding

namespace TokenPattern.CharPattern

/-!
# Character classes

A character class is built from items (a character, a range, a named set) by
unions and the operators `&&`, `--` and `~~`, in brackets that may be negated.
The expression is kept as written: membership is decided on it, and its
nesting is what the limit on nesting counts.
-/

open Unicode (RangeSet)

/-- Which characters count as the same letter. -/
inductive CaseRule where
  /-- Every character is only itself. -/
  | exact
  /-- The two cases of an ASCII letter are the same. -/
  | ascii
  /-- Characters that simple case folding identifies are the same. -/
  | simple
  deriving Repr, DecidableEq

/-- The characters that count as the given one. -/
def CaseRule.variants : CaseRule → Char → List Char
  | .exact, char => [char]
  | .ascii, char =>
      if char.isLower then [char, char.toUpper]
      else if char.isUpper then [char, char.toLower]
      else [char]
  | .simple, char => Unicode.CaseFolding.variants char

/-- The letters of ASCII. -/
def asciiLetters : List Char :=
  (RangeSet.ofText "41-5a 61-7a").codePoints.map Char.ofNat

/-- The code points that count as a member of the set. -/
def CaseRule.close : CaseRule → RangeSet → RangeSet
  | .exact, set => set
  | .ascii, set =>
      let added := asciiLetters.filter fun char =>
        (CaseRule.ascii.variants char).any set.contains
      .union set (.ofCodePoints (added.map Char.toNat))
  | .simple, set => Unicode.CaseFolding.close set

/-- The operators between the operands of a class. -/
inductive SetOperator where
  | intersection
  | difference
  | symmetricDifference
  deriving Repr, DecidableEq

/-- Membership in the result of an operator. -/
def SetOperator.holds : SetOperator → Bool → Bool → Bool
  | .intersection, left, right => left && right
  | .difference, left, right => left && !right
  | .symmetricDifference, left, right => left != right

/-- The members of the result of an operator. -/
def SetOperator.apply : SetOperator → RangeSet → RangeSet → RangeSet
  | .intersection, left, right => left.intersection right
  | .difference, left, right => left.difference right
  | .symmetricDifference, left, right =>
      .union (left.difference right) (right.difference left)

/-- A character class as written. -/
inductive CharClass where
  /-- A set of characters, closed under a case rule and then perhaps negated. -/
  | item (members : RangeSet) (rule : CaseRule) (negated : Bool)
  | union (items : List CharClass)
  | operation (operator : SetOperator) (left right : CharClass)
  | bracket (negated : Bool) (body : CharClass)
  deriving Repr

namespace CharClass

mutual

/-- Whether a character is in the class. -/
def contains : CharClass → Char → Bool
  | .item members rule negated, char =>
      (rule.variants char).any members.contains != negated
  | .union items, char => anyContains items char
  | .operation operator left right, char =>
      operator.holds (left.contains char) (right.contains char)
  | .bracket negated body, char => body.contains char != negated

/-- Whether a character is in one of the classes. -/
def anyContains : List CharClass → Char → Bool
  | [], _ => false
  | first :: rest, char => first.contains char || anyContains rest char

end

mutual

/-- The code points that the class holds, where surrogates may be among them. -/
def codePoints : CharClass → RangeSet
  | .item members rule negated =>
      if negated then (rule.close members).complement else rule.close members
  | .union items => codePointsOfAny items
  | .operation operator left right => operator.apply left.codePoints right.codePoints
  | .bracket negated body => if negated then body.codePoints.complement else body.codePoints

/-- The code points that some of the classes holds. -/
def codePointsOfAny : List CharClass → RangeSet
  | [] => .empty
  | first :: rest => .union first.codePoints (codePointsOfAny rest)

end

/-- The characters that the class holds. -/
def members (charClass : CharClass) : RangeSet :=
  charClass.codePoints.characters

mutual

/-- How deep brackets, operators and unions of two or more items are nested. -/
def depth : CharClass → Nat
  | .item .. => 0
  | .union items =>
      match items with
      | [] => 0
      | [only] => only.depth
      | first :: second :: rest => 1 + max first.depth (max second.depth (maxDepth rest))
  | .operation _ left right => 1 + max left.depth right.depth
  | .bracket _ body => 1 + body.depth

/-- The greatest depth of the classes. -/
def maxDepth : List CharClass → Nat
  | [] => 0
  | first :: rest => max first.depth (maxDepth rest)

end

/-- The class of all characters. -/
def all : CharClass :=
  .item .empty .exact true

/-- The class of one character. -/
def single (rule : CaseRule) (char : Char) : CharClass :=
  .item ⟨#[⟨char.toNat, char.toNat⟩]⟩ rule false

/-- The class of the characters from `first` to `last`. -/
def range (rule : CaseRule) (first last : Char) : CharClass :=
  .item ⟨#[⟨first.toNat, last.toNat⟩]⟩ rule false

end CharClass

end TokenPattern.CharPattern
