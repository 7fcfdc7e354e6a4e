import TokenPattern.Automaton.Basic
import Std.Data.HashMap

namespace TokenPattern

/-!
# Numbering states

The states of an automaton are numbered in the order in which a breadth-first
walk from the entry meets them. States that the walk does not meet are left
out, so that the numbering depends on the graph alone.
-/

/-- The states met on a walk. -/
structure Numbering where
  /-- The states met, in the order in which they were. -/
  order : Array Nat
  /-- The place of each state in that order. -/
  places : Std.HashMap Nat Nat

namespace Numbering

/-- Nothing but the entry has been met. -/
def start (entry : Nat) : Numbering :=
  ⟨#[entry], {(entry, 0)}⟩

/-- Meet a state, for the first time or again. -/
def visit (numbering : Numbering) (state : Nat) : Numbering :=
  if numbering.places.contains state then
    numbering
  else
    ⟨numbering.order.push state, numbering.places.insert state numbering.order.size⟩

/-- The successors of a state. -/
def successorsOf (states : Array State) (state : Nat) : List Nat :=
  (states[state]?.map (·.successors)).getD []

/-- Visit the successors of the states met, from the given place in their order on. -/
def walk
    (states : Array State) :
    Nat →
    Nat →
    Numbering →
    Numbering
  | 0, _, numbering => numbering
  | fuel + 1, place, numbering =>
      match numbering.order[place]? with
      | some state =>
          walk states fuel (place + 1) ((successorsOf states state).foldl visit numbering)
      | none => numbering

/-- The numbering of the states that can be reached from an entry. -/
def ofEntry (states : Array State) (entry : Nat) : Numbering :=
  walk states states.size 0 (start entry)

/-- A state with the numbers of its successors replaced by their places. -/
def relabel (numbering : Numbering) (state : State) : State :=
  { state with successors := state.successors.filterMap (numbering.places[·]?) }

/-- The states met, in their order and with their new numbers. -/
def renumbered (numbering : Numbering) (states : Array State) : Array State :=
  numbering.order.filterMap fun state => states[state]?.map numbering.relabel

end Numbering

end TokenPattern
