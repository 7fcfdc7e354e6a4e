import TokenPattern.CharPattern.Machine.Extent

namespace TokenPattern.CharPattern.Machine

/-!
# Trees of words

Branches that are plain words are laid out as a tree in which words share
their beginnings. Where a word ends inside of longer ones, the ways read before
and after it are kept apart, so that the order of the words is not lost.
-/

/-- The ways on from a node of a tree of words. -/
inductive WordTree where
  | leaf
  /-- A way on by a byte, beside ways by greater bytes. -/
  | branch (byte : UInt8) (below beside : WordTree)
  /-- The end of a word, after the ways on that were added before it. -/
  | stop (earlier : WordTree)
  deriving Repr, DecidableEq

namespace WordTree

/-- Note that a word ends at a node; a second end of a mere leaf changes nothing. -/
def addStop : WordTree → WordTree
  | .stop .leaf => .stop .leaf
  | node => .stop node

/-- Change what follows a byte, among the ways added since a word last ended. -/
def update (byte : UInt8) (change : WordTree → WordTree) : WordTree → WordTree
  | .leaf => .branch byte (change .leaf) .leaf
  | .stop earlier => .branch byte (change .leaf) (.stop earlier)
  | .branch other below beside =>
      if byte = other then .branch other (change below) beside
      else if byte < other then .branch byte (change .leaf) (.branch other below beside)
      else .branch other below (update byte change beside)

/-- Add a word. -/
def add : List UInt8 → WordTree → WordTree
  | [], node => node.addStop
  | byte :: rest, node => node.update byte (add rest)

/-- The tree of words in the given order. -/
def ofWords (words : List (List UInt8)) : WordTree :=
  words.foldl (fun tree word => add word tree) .leaf

/-- Whether no way leads on. -/
def isLeaf : WordTree → Bool
  | .leaf => true
  | .stop .leaf => true
  | _ => false

/-- A state with the given number of ways on by bytes, and the choice of it. -/
def extentOfWidth : Nat → Extent
  | 0 => ⟨0, 0⟩
  | 1 => ⟨1, choiceBytes⟩
  | width => ⟨1, choiceBytes + rangeBytes * width⟩

/--
What a node takes besides the state for the choice among its ways, where
`width` ways were read since a word last ended.
-/
def extentFrom : WordTree → Nat → Extent
  | .leaf, width => extentOfWidth width
  | .stop earlier, width =>
      ((extentOfWidth width).plus ⟨0, choiceBytes⟩).plus (extentFrom earlier 0)
  | .branch _ below beside, width =>
      let inside := if below.isLeaf then .zero else Extent.plus ⟨1, 0⟩ (extentFrom below 0)
      inside.plus (extentFrom beside (width + 1))

/-- Lay out a tree: a state behind all words, the choice at the root and what it takes besides. -/
def lay (tree : WordTree) (extent : Extent) : Option Extent :=
  let inside := tree.extentFrom 0
  extent.take (2 + inside.states) inside.links

end WordTree

end TokenPattern.CharPattern.Machine
