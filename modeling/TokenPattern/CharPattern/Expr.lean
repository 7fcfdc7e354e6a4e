import TokenPattern.CharPattern.CharClass

namespace TokenPattern.CharPattern

/-!
# Expressions of character patterns

An expression is kept apart from what its leaves are: `Expr CharClass
Assertion` is a pattern as read, and an expression whose leaves are sets of
positions is the same pattern laid over one text.
-/

/-- Conditions on a position between characters. -/
inductive Assertion where
  | textStart
  | textEnd
  | lineStart
  | lineEnd
  /-- Line start where carriage return, line feed and the pair of them end lines. -/
  | lineStartCrlf
  /-- Line end where carriage return, line feed and the pair of them end lines. -/
  | lineEndCrlf
  /-- A word starts or ends here; words are of ASCII characters or of all scripts. -/
  | wordBoundary (ascii : Bool)
  | noWordBoundary (ascii : Bool)
  | wordStart (ascii : Bool)
  | wordEnd (ascii : Bool)
  /-- No word character comes before. -/
  | wordStartHalf (ascii : Bool)
  /-- No word character comes after. -/
  | wordEndHalf (ascii : Bool)
  deriving Repr, DecidableEq

/-- An expression that consumes characters in `κ` and asserts conditions in `α`. -/
inductive Expr (κ α : Type) where
  | empty
  /-- An inline setting of flags, which matches the empty text. -/
  | setting
  | consume (characters : κ)
  | assert (condition : α)
  | group (capturing : Bool) (body : Expr κ α)
  /-- Some number of times; a lazy repetition prefers few. -/
  | repetition (body : Expr κ α) (least : Nat) (most : Option Nat) (lazy : Bool)
  | sequence (items : List (Expr κ α))
  | alternatives (branches : List (Expr κ α))
  deriving Repr

namespace Expr

variable {κ α κ' α' : Type}

mutual

/-- Replace the leaves. -/
def map (onCharacters : κ → κ') (onCondition : α → α') : Expr κ α → Expr κ' α'
  | .empty => .empty
  | .setting => .setting
  | .consume characters => .consume (onCharacters characters)
  | .assert condition => .assert (onCondition condition)
  | .group capturing body => .group capturing (body.map onCharacters onCondition)
  | .repetition body least most lazy =>
      .repetition (body.map onCharacters onCondition) least most lazy
  | .sequence items => .sequence (mapAll onCharacters onCondition items)
  | .alternatives branches => .alternatives (mapAll onCharacters onCondition branches)

/-- Replace the leaves of each expression. -/
def mapAll
    (onCharacters : κ → κ')
    (onCondition : α → α') :
    List (Expr κ α) →
    List (Expr κ' α')
  | [] => []
  | first :: rest =>
      first.map onCharacters onCondition :: mapAll onCharacters onCondition rest

end

mutual

/-- How deep groups, repetitions, sequences, alternatives and the parts of classes are nested. -/
def depth (leafDepth : κ → Nat) : Expr κ α → Nat
  | .empty => 0
  | .setting => 0
  | .consume characters => leafDepth characters
  | .assert _ => 0
  | .group _ body => 1 + body.depth leafDepth
  | .repetition body _ _ _ => 1 + body.depth leafDepth
  | .sequence items => 1 + maxDepth leafDepth items
  | .alternatives branches => 1 + maxDepth leafDepth branches

/-- The greatest depth of the expressions. -/
def maxDepth (leafDepth : κ → Nat) : List (Expr κ α) → Nat
  | [] => 0
  | first :: rest => max (first.depth leafDepth) (maxDepth leafDepth rest)

end

mutual

/-- The fewest units that an expression consumes, or nothing where a leaf consumes none ever. -/
def shortest (ofLeaf : κ → Option Nat) : Expr κ α → Option Nat
  | .empty => some 0
  | .setting => some 0
  | .consume characters => ofLeaf characters
  | .assert _ => some 0
  | .group _ body => body.shortest ofLeaf
  | .repetition body least _ _ => (body.shortest ofLeaf).map (least * ·)
  | .sequence items => shortestInRow ofLeaf items
  | .alternatives branches => shortestBranch ofLeaf branches

/-- The fewest units that expressions in a row consume. -/
def shortestInRow (ofLeaf : κ → Option Nat) : List (Expr κ α) → Option Nat
  | [] => some 0
  | first :: rest => do return (← first.shortest ofLeaf) + (← shortestInRow ofLeaf rest)

/-- The fewest units that one of several expressions consumes. -/
def shortestBranch (ofLeaf : κ → Option Nat) : List (Expr κ α) → Option Nat
  | [] => none
  | [only] => only.shortest ofLeaf
  | first :: rest => do return min (← first.shortest ofLeaf) (← shortestBranch ofLeaf rest)

end

mutual

/-- The most units that an expression consumes, or nothing where there is no bound. -/
def longest (ofLeaf : κ → Option Nat) : Expr κ α → Option Nat
  | .empty => some 0
  | .setting => some 0
  | .consume characters => ofLeaf characters
  | .assert _ => some 0
  | .group _ body => body.longest ofLeaf
  | .repetition body _ most _ => do return (← body.longest ofLeaf) * (← most)
  | .sequence items => longestInRow ofLeaf items
  | .alternatives branches => longestBranch ofLeaf branches

/-- The most units that expressions in a row consume. -/
def longestInRow (ofLeaf : κ → Option Nat) : List (Expr κ α) → Option Nat
  | [] => some 0
  | first :: rest => do return (← first.longest ofLeaf) + (← longestInRow ofLeaf rest)

/-- The most units that one of several expressions consumes. -/
def longestBranch (ofLeaf : κ → Option Nat) : List (Expr κ α) → Option Nat
  | [] => none
  | [only] => only.longest ofLeaf
  | first :: rest => do return max (← first.longest ofLeaf) (← longestBranch ofLeaf rest)

end

/-- One expression from the items read in a row. -/
def ofSequence : List (Expr κ α) → Expr κ α
  | [] => .empty
  | [only] => only
  | items => .sequence items

/-- One expression from the branches read between bars. -/
def ofAlternatives : List (Expr κ α) → Expr κ α
  | [] => .empty
  | [only] => only
  | branches => .alternatives branches

end Expr

end TokenPattern.CharPattern
