import TokenPattern.CharPattern.Expr

namespace TokenPattern.CharPattern.Machine

/-!
# Blueprints

Before a machine is laid out, its expression is simplified. Characters in a row
become a text, a choice among single characters becomes a set of them, what
needs no machine at all is dropped, and branches share a common beginning. The
size of the machine is that of the simplified expression.
-/

open Unicode (RangeSet)

/-- What a leaf of a blueprint consumes. -/
inductive Leaf where
  /-- One or more characters in a row. -/
  | text (characters : List Char)
  /-- One character of a set, which has no or at least two members. -/
  | oneOf (members : RangeSet)
  deriving Repr, DecidableEq

/-- A simplified expression. -/
abbrev Blueprint := Expr Leaf Assertion

/-- The number of bytes that characters take in a row. -/
def utf8Size (characters : List Char) : Nat :=
  characters.foldl (fun size char => size + char.utf8Size) 0

namespace Leaf

/-- The fewest bytes that a leaf consumes, unless it is a set without members. -/
def shortest : Leaf → Option Nat
  | .text characters => some (utf8Size characters)
  | .oneOf members => members.ranges[0]?.map fun range => (Char.ofNat range.first).utf8Size

/-- The most bytes that a leaf consumes, unless it is a set without members. -/
def longest : Leaf → Option Nat
  | .text characters => some (utf8Size characters)
  | .oneOf members => members.ranges.back?.map fun range => (Char.ofNat range.last).utf8Size

end Leaf

namespace Blueprint

/-- Whether a blueprint consumes nothing, wherever it matches. -/
def consumesNothing (blueprint : Blueprint) : Bool :=
  blueprint.longest Leaf.longest == some 0

/-- Whether a blueprint consumes something, wherever it matches, and is not bound to fail. -/
def alwaysConsumes (blueprint : Blueprint) : Bool :=
  (blueprint.shortest Leaf.shortest).any (0 < ·)

mutual

/-- Whether two blueprints are equal; no two groups that capture are. -/
def same : Blueprint → Blueprint → Bool
  | .empty, .empty => true
  | .consume left, .consume right => left = right
  | .assert left, .assert right => left = right
  | .repetition left least most lazy, .repetition right least' most' lazy' =>
      least = least' && most = most' && lazy = lazy' && same left right
  | .sequence left, .sequence right => sameInRow left right
  | .alternatives left, .alternatives right => sameInRow left right
  | _, _ => false

/-- Whether two rows of blueprints are equal. -/
def sameInRow : List Blueprint → List Blueprint → Bool
  | [], [] => true
  | left :: lefts, right :: rights => same left right && sameInRow lefts rights
  | _, _ => false

end

/-- The blueprint of a set of characters; a lone member is a text. -/
def ofMembers (members : RangeSet) : Blueprint :=
  match members.only? with
  | some code => .consume (.text [Char.ofNat code])
  | none => .consume (.oneOf members)

/-- Repeat a blueprint, but no more than once where it consumes nothing. -/
def repeated (body : Blueprint) (least : Nat) (most : Option Nat) (lazy : Bool) : Blueprint :=
  let useful := fun count => if body.consumesNothing then min count 1 else count
  let bound := if body.consumesNothing then some (useful (most.getD 1)) else most
  match useful least, bound with
  | 0, some 0 => .empty
  | 1, some 1 => body
  | least, most => .repetition body least most lazy

/-- What a blueprint adds to a row. -/
def itemsOf : Blueprint → List Blueprint
  | .empty => []
  | .sequence items => items
  | item => [item]

/-- Put texts that meet in a row together. -/
def joinTexts : List Blueprint → List Blueprint
  | [] => []
  | .consume (.text front) :: rest =>
      match joinTexts rest with
      | .consume (.text back) :: others => .consume (.text (front ++ back)) :: others
      | others => .consume (.text front) :: others
  | item :: rest => item :: joinTexts rest

/-- Blueprints in a row. -/
def inRow (items : List Blueprint) : Blueprint :=
  .ofSequence (joinTexts (items.flatMap itemsOf))

/-- What a blueprint adds to a choice. -/
def branchesOf : Blueprint → List Blueprint
  | .alternatives branches => branches
  | branch => [branch]

/-- The character of a blueprint that is a text of one. -/
def character? : Blueprint → Option Char
  | .consume (.text [char]) => some char
  | _ => none

/-- The set of a blueprint that is one. -/
def members? : Blueprint → Option RangeSet
  | .consume (.oneOf members) => some members
  | _ => none

/-- The set that branches amount to, if they are all characters or all sets. -/
def setOfBranches? (branches : List Blueprint) : Option RangeSet :=
  match branches.mapM character? with
  | some characters => some (.ofCodePoints (characters.map Char.toNat))
  | none => (branches.mapM members?).map RangeSet.unionAll

/-- The blueprints that two rows have in common at the front. -/
def commonFront : List Blueprint → List Blueprint → List Blueprint
  | left :: lefts, right :: rights =>
      if same left right then left :: commonFront lefts rights else []
  | _, _ => []

/-- The row of a blueprint that is one of two or more. -/
def row? : Blueprint → Option (List Blueprint)
  | .sequence items => some items
  | _ => none

/-- A choice among branches, without regard to what they have in common at the front. -/
def unsharedChoice (branches : List Blueprint) : Blueprint :=
  let branches := branches.flatMap branchesOf
  match branches with
  | [only] => only
  | _ =>
      match setOfBranches? branches with
      | some members => ofMembers members
      | none => .alternatives branches

/--
A choice among branches. Where all of them are rows, what they have in common
at the front comes before the choice; what is left of them has no more in
common.
-/
def choice (branches : List Blueprint) : Blueprint :=
  match unsharedChoice branches with
  | .alternatives branches =>
      match branches.mapM row? with
      | some (first :: others) =>
          match others.foldl commonFront first with
          | [] => .alternatives branches
          | front =>
              let rests := (first :: others).map fun items => inRow (items.drop front.length)
              inRow (front ++ [unsharedChoice rests])
      | _ => .alternatives branches
  | simpler => simpler

mutual

/-- The blueprint of an expression. -/
def ofExpr : Expr CharClass Assertion → Blueprint
  | .empty => .empty
  | .setting => .empty
  | .consume characters => ofMembers characters.members
  | .assert condition => .assert condition
  | .group capturing body => if capturing then .group true (ofExpr body) else ofExpr body
  | .repetition body least most lazy => repeated (ofExpr body) least most lazy
  | .sequence items => inRow (ofAll items)
  | .alternatives branches => choice (ofAll branches)

/-- The blueprints of expressions. -/
def ofAll : List (Expr CharClass Assertion) → List Blueprint
  | [] => []
  | first :: rest => ofExpr first :: ofAll rest

end

mutual

/-- Whether a match must start where the given condition holds, its first demand of all. -/
def opensWith (condition : Assertion) : Blueprint → Bool
  | .assert other => other = condition
  | .group _ body => opensWith condition body
  | .repetition body least _ _ => least ≠ 0 && opensWith condition body
  | .sequence items => rowOpensWith condition items
  | .alternatives branches => allOpenWith condition branches
  | _ => false

/-- Whether one of the blueprints before the first character of a row demands the condition. -/
def rowOpensWith (condition : Assertion) : List Blueprint → Bool
  | [] => false
  | first :: rest =>
      opensWith condition first || (first.consumesNothing && rowOpensWith condition rest)

/-- Whether every branch demands the condition first. -/
def allOpenWith (condition : Assertion) : List Blueprint → Bool
  | [] => true
  | first :: rest => opensWith condition first && allOpenWith condition rest

end

mutual

/-- The blueprint with every row turned round. -/
def reversed : Blueprint → Blueprint
  | .group capturing body => .group capturing (reversed body)
  | .repetition body least most lazy => .repetition (reversed body) least most lazy
  | .sequence items => .sequence (reversedRow items [])
  | .alternatives branches => .alternatives (reversedAll branches)
  | leaf => leaf

/-- The blueprints of a row in the opposite order, before those already turned round. -/
def reversedRow : List Blueprint → List Blueprint → List Blueprint
  | [], done => done
  | first :: rest, done => reversedRow rest (reversed first :: done)

/-- The branches, each of them turned round. -/
def reversedAll : List Blueprint → List Blueprint
  | [] => []
  | first :: rest => reversed first :: reversedAll rest

end

end Blueprint

end TokenPattern.CharPattern.Machine
