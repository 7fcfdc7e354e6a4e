namespace TokenPattern.CharPattern.Machine

/-!
# The extent of a machine

While a machine is laid out, its states are counted, together with the bytes
that the ways out of them take. The layout is given up as soon as the machine
outgrows the limit.
-/

/-- Bytes for one state. -/
def stateBytes : Nat := 32

/-- Bytes for a way out of a state on a range of bytes. -/
def rangeBytes : Nat := 8

/-- Bytes for a way out of a state on no byte, where the state has a choice of them. -/
def choiceBytes : Nat := 4

/-- The greatest size in bytes of a machine. -/
def limit : Nat := 10 * 1024 * 1024

/-- How far a machine has been laid out. -/
structure Extent where
  states : Nat
  /-- The bytes of the ways out. -/
  links : Nat
  deriving Repr, DecidableEq

namespace Extent

/-- Nothing has been laid out. -/
def zero : Extent :=
  ⟨0, 0⟩

/-- Two parts together. -/
def plus (left right : Extent) : Extent :=
  ⟨left.states + right.states, left.links + right.links⟩

/-- The size in bytes. -/
def bytes (extent : Extent) : Nat :=
  stateBytes * extent.states + extent.links

/-- Lay out states whose ways out take the given number of bytes, unless that exceeds the limit. -/
def take (extent : Extent) (states links : Nat) : Option Extent :=
  let grown := extent.plus ⟨states, links⟩
  if grown.bytes ≤ limit then some grown else none

/-- Take a step of the layout a number of times. -/
def times (step : Extent → Option Extent) : Nat → Extent → Option Extent
  | 0, extent => some extent
  | count + 1, extent =>
      match step extent with
      | some grown => times step count grown
      | none => none

end Extent

end TokenPattern.CharPattern.Machine
