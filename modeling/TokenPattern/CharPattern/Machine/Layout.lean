import TokenPattern.CharPattern.Machine.Blueprint
import TokenPattern.CharPattern.Machine.ClassLayout
import TokenPattern.CharPattern.Machine.WordTree

namespace TokenPattern.CharPattern.Machine

/-!
# Laying out a machine

A blueprint is laid out part by part: states that read bytes, states that
choose among ways on, and states that only mark a place. Only the extent of the
machine is kept. A machine that reads backwards is laid out from the reversed
blueprint, and has no states that mark where groups begin and end.
-/

/-- The direction in which a machine reads a text. -/
inductive Direction where
  | forwards
  | backwards
  deriving Repr, DecidableEq

/-- Lay out a leaf; a set within ASCII needs two states, whatever its ranges are. -/
def Leaf.lay (direction : Direction) : Leaf → Extent → Option Extent
  | .text characters, extent => extent.take (utf8Size characters) 0
  | .oneOf members, extent =>
      if members.isAscii then
        extent.take 2 (rangeBytes * members.size)
      else
        match direction with
        | .forwards => Forwards.lay (sequencesOfSet members) extent
        | .backwards => Backwards.lay (sequencesOfSet members) extent

namespace Blueprint

/-- The bytes of a blueprint that is a text. -/
def word? : Blueprint → Option (List UInt8)
  | .consume (.text characters) => some (characters.flatMap String.utf8EncodeChar)
  | _ => none

/-- The tree of branches that are texts, read in the given direction. -/
def wordTree? (direction : Direction) (branches : List Blueprint) : Option WordTree :=
  (branches.mapM word?).map fun words =>
    match direction with
    | .forwards => .ofWords words
    | .backwards => .ofWords (words.map List.reverse)

/-- Lay out one part after another. -/
def chain
    (first second : Extent → Option Extent)
    (extent : Extent) :
    Option Extent :=
  match first extent with
  | some grown => second grown
  | none => none

/-- Lay out states whose ways out take the given number of bytes. -/
def place (states links : Nat) (extent : Extent) : Option Extent :=
  extent.take states links

/-- Lay out a fixed number of copies; a lone state stands for none of them. -/
def layExactly (once : Extent → Option Extent) : Nat → Extent → Option Extent
  | 0 => place 1 0
  | count + 1 => Extent.times once (count + 1)

/-- Lay out a repetition from the layout of its body. -/
def layRepetition
    (once : Extent → Option Extent)
    (consumes : Bool)
    (least : Nat)
    (most : Option Nat) :
    Extent →
    Option Extent :=
  let choose := place 1 (2 * choiceBytes)
  match least, most with
  | 0, none =>
      if consumes then chain choose once
      else chain once (place 3 (4 * choiceBytes))
  | least, none => chain (Extent.times once least) choose
  | 0, some 1 => chain choose (chain once (place 1 0))
  | least, some most =>
      if least = most then layExactly once least
      else
        chain (layExactly once least)
          (chain (place 1 0) (Extent.times (chain choose once) (most - least)))

mutual

/-- Lay out a blueprint that is in the order in which the machine reads. -/
def layInOrder (direction : Direction) : Blueprint → Extent → Option Extent
  | .empty, extent => extent.take 1 0
  | .setting, extent => extent.take 1 0
  | .consume leaf, extent => leaf.lay direction extent
  | .assert _, extent => extent.take 1 0
  | .group _ body, extent =>
      match direction with
      | .forwards => chain (place 1 0) (chain (layInOrder direction body) (place 1 0)) extent
      | .backwards => layInOrder direction body extent
  | .repetition body least most _, extent =>
      layRepetition (layInOrder direction body) (alwaysConsumes body) least most extent
  | .sequence items, extent => layRow direction items extent
  | .alternatives branches, extent =>
      match wordTree? direction branches with
      | some tree => tree.lay extent
      | none => layChoice direction branches extent

/-- Lay out blueprints one after another. -/
def layRow (direction : Direction) : List Blueprint → Extent → Option Extent
  | [], extent => some extent
  | first :: rest, extent => chain (layInOrder direction first) (layRow direction rest) extent

/-- Lay out a choice and the place behind it, after the first two of its branches. -/
def layChoice (direction : Direction) : List Blueprint → Extent → Option Extent
  | first :: second :: rest, extent =>
      chain
        (layInOrder direction first)
        (chain
          (layInOrder direction second)
          (chain (place 2 (2 * choiceBytes)) (layBranches direction rest)))
        extent
  | branches, extent => layBranches direction branches extent

/-- Lay out further branches of a choice. -/
def layBranches (direction : Direction) : List Blueprint → Extent → Option Extent
  | [], extent => some extent
  | first :: rest, extent =>
      chain
        (layInOrder direction first)
        (chain (place 0 choiceBytes) (layBranches direction rest))
        extent

end

/-- The condition that holds only where a text begins, as a machine reads it. -/
def startCondition : Direction → Assertion
  | .forwards => .textStart
  | .backwards => .textEnd

/-- The blueprint in the order in which a machine reads it. -/
def readBy (blueprint : Blueprint) : Direction → Blueprint
  | .forwards => blueprint
  | .backwards => blueprint.reversed

/--
Lay out the machine of a blueprint. Before it comes a loop that passes over any
bytes, unless a match must start where the text begins; behind it comes the
state that accepts. The whole match is marked like a group.
-/
def lay (direction : Direction) (blueprint : Blueprint) : Option Extent :=
  let blueprint := blueprint.readBy direction
  let lead :=
    if blueprint.opensWith (startCondition direction) then place 1 0
    else place 3 (2 * choiceBytes + rangeBytes)
  chain lead (chain (layInOrder direction (.group true blueprint)) (place 1 0)) .zero

/-- Whether the machine of a blueprint stays within the limit, whichever way it reads. -/
def isWithinLimit (blueprint : Blueprint) : Bool :=
  (blueprint.lay .forwards).isSome && (blueprint.lay .backwards).isSome

end Blueprint

end TokenPattern.CharPattern.Machine
