import TokenPattern.CharPattern.Machine.ByteSequence
import TokenPattern.CharPattern.Machine.Extent
import TokenPattern.CharPattern.Machine.Memo

namespace TokenPattern.CharPattern.Machine

/-!
# Laying out a set of characters

A set with members beyond ASCII is laid out from its byte sequences. Forwards,
sequences share what they have in common at the front, since they come in
ascending order, and states that lead on in the same way are shared as far as
the memory tells. Backwards, a sequence is followed from its first byte on, and
only what the memory tells is shared. States are numbered as they are laid out.
-/

/-- A layout in progress, with what it remembers. -/
structure Sharing (κ : Type) where
  extent : Extent
  memo : Memo κ

namespace Sharing

variable {κ : Type}

/-- Start to lay out a set, with nothing remembered. -/
def start (extent : Extent) : Sharing κ :=
  ⟨extent, .empty⟩

/-- The state that is remembered for a key, or else a new one whose ways out take some bytes. -/
def obtain [DecidableEq κ]
    (sharing : Sharing κ)
    (slot : UInt64)
    (key : κ)
    (links : Nat) :
    Option (Nat × Sharing κ) :=
  let ⟨extent, memo⟩ := sharing
  match memo.find? slot key with
  | some state => some (state, ⟨extent, memo⟩)
  | none =>
      match extent.take 1 links with
      | some grown => some (extent.states, ⟨grown, memo.keep slot key extent.states⟩)
      | none => none

end Sharing

/-- A way from a state to another on a range of bytes. -/
structure Transition where
  range : ByteRange
  target : Nat
  deriving Repr, DecidableEq

/-- A state that may still get ways on. -/
structure OpenState where
  /-- The ways on that are settled, newest first. -/
  settled : List Transition
  /-- The range of the way on whose target is still open. -/
  pending : ByteRange

namespace Forwards

/-- The number of slots for states that lead on in some way. -/
def slots : UInt64 := 10000

/-- The slot for a state with the given ways on. -/
def slotOf (transitions : List Transition) : UInt64 :=
  transitions.foldl
    (fun mixed transition =>
      mix
        (mix (mix mixed transition.range.first.toUInt64) transition.range.last.toUInt64)
        transition.target.toUInt64)
    unmixed % slots

/-- Lay out open states, the last one first; `behind` is the state behind the set. -/
def settle
    (behind : Nat) :
    List OpenState →
    Sharing (List Transition) →
    Option (Nat × Sharing (List Transition))
  | [], sharing => some (behind, sharing)
  | state :: deeper, sharing =>
      match settle behind deeper sharing with
      | some (target, sharing) =>
          let transitions := (⟨state.pending, target⟩ :: state.settled).reverse
          sharing.obtain (slotOf transitions) transitions (rangeBytes * transitions.length)
      | none => none

/-- Add a sequence to the open states of the sequence before it. -/
def add
    (behind : Nat) :
    List OpenState →
    List ByteRange →
    Sharing (List Transition) →
    Option (List OpenState × Sharing (List Transition))
  | state :: deeper, range :: ranges, sharing =>
      if state.pending = range then
        (add behind deeper ranges sharing).map fun (deeper, sharing) =>
          (state :: deeper, sharing)
      else
        (settle behind deeper sharing).map fun (target, sharing) =>
          (⟨⟨state.pending, target⟩ :: state.settled, range⟩ :: ranges.map (⟨[], ·⟩), sharing)
  | _, ranges, sharing => some (ranges.map (⟨[], ·⟩), sharing)

/-- Add sequences one after another, and lay out what is open in the end. -/
def addAll
    (behind : Nat) :
    List OpenState →
    List (List ByteRange) →
    Sharing (List Transition) →
    Option Extent
  | path, [], sharing => (settle behind path sharing).map (·.2.extent)
  | path, sequence :: rest, sharing =>
      match add behind path sequence sharing with
      | some (path, sharing) => addAll behind path rest sharing
      | none => none

/-- Lay out a state behind a set and the set before it. -/
def lay (sequences : List (List ByteRange)) (extent : Extent) : Option Extent :=
  match extent.take 1 0 with
  | some grown => addAll extent.states [] sequences (.start grown)
  | none => none

end Forwards

namespace Backwards

/-- The number of slots for states that lead to another on a range of bytes. -/
def slots : UInt64 := 1000

/-- The slot for a state that leads to another on a range of bytes. -/
def slotOf (transition : Transition) : UInt64 :=
  mix
    (mix (mix unmixed transition.target.toUInt64) transition.range.first.toUInt64)
    transition.range.last.toUInt64 % slots

/-- Lay out a sequence before a state, from its first range on. -/
def follow :
    List ByteRange →
    Nat →
    Sharing Transition →
    Option (Sharing Transition)
  | [], _, sharing => some sharing
  | range :: ranges, target, sharing =>
      let transition : Transition := ⟨range, target⟩
      match sharing.obtain (slotOf transition) transition 0 with
      | some (state, sharing) => follow ranges state sharing
      | none => none

/-- Lay out sequences one after another, each of them a branch of a choice. -/
def followAll
    (behind : Nat) :
    List (List ByteRange) →
    Sharing Transition →
    Option Extent
  | [], sharing => some sharing.extent
  | sequence :: rest, sharing =>
      match follow sequence behind sharing with
      | some ⟨extent, memo⟩ =>
          match extent.take 0 choiceBytes with
          | some grown => followAll behind rest ⟨grown, memo⟩
          | none => none
      | none => none

/-- Lay out a choice, a state behind the set, and the set between them. -/
def lay (sequences : List (List ByteRange)) (extent : Extent) : Option Extent :=
  match extent.take 2 0 with
  | some grown => followAll (extent.states + 1) sequences (.start grown)
  | none => none

end Backwards

end TokenPattern.CharPattern.Machine
