import TokenPattern.Predicate

namespace TokenPattern

/-!
# Automata

An automaton is an array of states, each with a predicate and the numbers of
its successors. A token that passes a state's predicate leads to the successors
at the next token, an epsilon predicate to the successors at the same token.
-/

/-- A state of an automaton. -/
structure State where
  predicate : Predicate
  /-- The numbers of the successors, in the order in which they were attached. -/
  successors : List Nat
  accepting : Bool
  /-- What the state was built from, for listings. -/
  tag : String
  deriving Repr, DecidableEq

namespace State

/-- A state without successors. -/
def ofPredicate (predicate : Predicate) (tag : String) : State :=
  ⟨predicate, [], false, tag⟩

/-- An epsilon state with one successor so far. -/
def branching (tag : String) (successors : List Nat) : State :=
  ⟨.epsilon, successors, false, tag⟩

/-- The state in which a search succeeds. -/
def final : State :=
  ⟨.alwaysTrue, [], true, "$"⟩

end State

/-- An automaton that tests words on a default attribute. -/
structure Automaton where
  states : Array State
  start : Nat
  accept : Nat
  defaultAttribute : String
  deriving Repr, DecidableEq

namespace Automaton

/-- The number of states. -/
def size (automaton : Automaton) : Nat :=
  automaton.states.size

/-- Take from a state the successor with the given index. -/
def followEdge? (automaton : Automaton) (state index : Nat) : Option Nat :=
  automaton.states[state]?.bind fun found => found.successors[index]?

/-- The state that a path of successor indices leads to from the start. -/
def follow? (automaton : Automaton) (path : List Nat) : Option Nat :=
  path.foldlM automaton.followEdge? automaton.start

/-- A text filled up with spaces on its right. -/
def padRight (width : Nat) (text : String) : String :=
  text ++ String.ofList (List.replicate (width - text.length) ' ')

/-- A text filled up with spaces on its left. -/
def padLeft (width : Nat) (text : String) : String :=
  String.ofList (List.replicate (width - text.length) ' ') ++ text

/-- Numbers in brackets. -/
def listText (numbers : List Nat) : String :=
  "[" ++ String.intercalate ", " (numbers.map toString) ++ "]"

/-- The line of a listing for one state. -/
def stateLine (automaton : Automaton) (number : Nat) (state : State) : String :=
  let marker := if number = automaton.start then ">" else " "
  let acceptance := if state.accepting then " (match)" else ""
  let name := padLeft 3 (toString number) ++ " " ++ padRight 12 state.tag
  marker ++ name ++ acceptance ++ " -> " ++ listText state.successors ++ "\n"

/-- A listing of the states. -/
def listing (automaton : Automaton) : String :=
  String.join
    (automaton.states.toList.zipIdx.map fun (state, number) => automaton.stateLine number state)

end Automaton

end TokenPattern
