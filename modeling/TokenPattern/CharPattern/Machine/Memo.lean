import Std.Data.HashMap

namespace TokenPattern.CharPattern.Machine

/-!
# A memory with slots

States that lead on in the same way are laid out once, as far as a memory of
fixed size tells. What is kept goes to a slot that its numbers determine, and
takes the place of whatever was kept there.
-/

/-- Mix a number into what determines a slot. -/
def mix (mixed : UInt64) (number : UInt64) : UInt64 :=
  (mixed ^^^ number) * 1099511628211

/-- What determines a slot before any number is mixed in. -/
def unmixed : UInt64 := 14695981039346656037

/-- The states that are remembered, each with what it was kept for, by their slots. -/
structure Memo (κ : Type) where
  entries : Std.HashMap UInt64 (κ × Nat)

namespace Memo

variable {κ : Type}

/-- Nothing is remembered. -/
def empty : Memo κ :=
  ⟨∅⟩

/-- The state that a slot remembers, if it was kept for the same thing. -/
def find? [DecidableEq κ] (memo : Memo κ) (slot : UInt64) (key : κ) : Option Nat :=
  match memo.entries[slot]? with
  | some (kept, state) => if kept = key then some state else none
  | none => none

/-- Keep a state in a slot. -/
def keep (memo : Memo κ) (slot : UInt64) (key : κ) (state : Nat) : Memo κ :=
  ⟨memo.entries.insert slot (key, state)⟩

end Memo

end TokenPattern.CharPattern.Machine
