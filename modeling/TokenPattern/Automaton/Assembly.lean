import TokenPattern.Automaton.Basic

namespace TokenPattern

/-!
# Assembling fragments

A postfix program is turned into states on a stack of fragments. A fragment is
a part of an automaton with one entry and with holes: states that still lack
their last successor. An operator joins the fragments on top by filling holes
and adding at most one state of its own.
-/

/-- Why a list of instructions is no program. -/
inductive ProgramFault where
  | missingOperand
  | notOneOperand
  | unreachableAcceptance
  deriving Repr, DecidableEq

/-- The fault in words. -/
def ProgramFault.text : ProgramFault → String
  | .missingOperand => "missing operand"
  | .notOneOperand => "expected exactly one fragment"
  | .unreachableAcceptance => "accepting state is unreachable"

/-- Why no automaton can be built from a list of instructions, and at which of them this shows. -/
inductive ProgramError where
  | malformed (index : Nat) (fault : ProgramFault)
  /-- An operand of a conjunction is more than the test of one token. -/
  | conjunctionOperand (index : Nat)
  deriving Repr, DecidableEq

/-- The error in words. -/
def ProgramError.message : ProgramError → String
  | .malformed index fault => s!"malformed instruction sequence at {index}: {fault.text}"
  | .conjunctionOperand index =>
      s!"conjunction at instruction {index} needs two single-token operands"

/-- A part of an automaton that is not finished. -/
structure Fragment where
  entry : Nat
  /-- The states that lack their last successor. -/
  holes : List Nat
  deriving Repr, DecidableEq

/-- The states made so far and the fragments on the stack, top first. -/
structure Assembly where
  states : Array State
  stack : List Fragment
  deriving Repr, DecidableEq

namespace Assembly

/-- Nothing has been assembled. -/
def empty : Assembly :=
  ⟨#[], []⟩

/-- Give each of the holes the target as its last successor. -/
def fill (states : Array State) (holes : List Nat) (target : Nat) : Array State :=
  holes.foldl
    (fun states hole =>
      states.modify hole fun state =>
        { state with successors := state.successors ++ [target] })
    states

/-- Take the predicate away from a state that is left behind. -/
def clear (states : Array State) (state : Nat) : Array State :=
  states.modify state fun state => { state with predicate := .epsilon }

/-- The number that the next state will have. -/
def nextState (assembly : Assembly) : Nat :=
  assembly.states.size

/-- A fragment of one new state, put on a stack. -/
def pushTest
    (assembly : Assembly)
    (stack : List Fragment)
    (predicate : Predicate)
    (tag : String) :
    Assembly :=
  ⟨assembly.states.push (.ofPredicate predicate tag),
    ⟨assembly.nextState, [assembly.nextState]⟩ :: stack⟩

/-- The predicate of a fragment that is nothing but the test of one token. -/
def singleTest? (assembly : Assembly) (fragment : Fragment) : Option Predicate :=
  assembly.states[fragment.entry]?.bind fun state =>
    let alone := fragment.holes = [fragment.entry] ∧ state.successors = []
    if alone ∧ state.predicate ≠ .epsilon then
      some state.predicate
    else
      none

/-- The parts that a predicate contributes to a conjunction. -/
def conjuncts : Predicate → List Predicate
  | .conjunction parts => parts
  | predicate => [predicate]

/-- Put the second fragment behind the first. -/
def concatenate
    (assembly : Assembly)
    (first second : Fragment)
    (stack : List Fragment) :
    Assembly :=
  ⟨fill assembly.states first.holes second.entry,
    ⟨first.entry, second.holes⟩ :: stack⟩

/-- Put a state that branches to both fragments before them. -/
def alternate
    (assembly : Assembly)
    (first second : Fragment)
    (stack : List Fragment) :
    Assembly :=
  ⟨assembly.states.push (.branching "|" [first.entry, second.entry]),
    ⟨assembly.nextState, first.holes ++ second.holes⟩ :: stack⟩

/--
Replace two tests of one token by a test for both, unless one is something else.

The states of the two tests are left behind and lose their predicates to the new one.
-/
def conjoin?
    (assembly : Assembly)
    (first second : Fragment)
    (stack : List Fragment) :
    Option Assembly :=
  match assembly.singleTest? first, assembly.singleTest? second with
  | some left, some right =>
      let states := clear (clear assembly.states first.entry) second.entry
      let cleared : Assembly := { assembly with states }
      some (cleared.pushTest stack (.conjunction (conjuncts left ++ conjuncts right)) "&")
  | _, _ => none

/-- Let a fragment be passed by or repeated, by a state that branches into it and past it. -/
def quantify
    (assembly : Assembly)
    (operator : Quantifier)
    (body : Fragment)
    (stack : List Fragment) :
    Assembly :=
  let branch := assembly.nextState
  let states := assembly.states.push (.branching operator.text [body.entry])
  match operator with
  | .maybe => ⟨states, ⟨branch, body.holes ++ [branch]⟩ :: stack⟩
  | .star => ⟨fill states body.holes branch, ⟨branch, [branch]⟩ :: stack⟩
  | .plus => ⟨fill states body.holes branch, ⟨body.entry, [branch]⟩ :: stack⟩

/-- Carry out an instruction, which stands at the given index. -/
def execute
    (assembly : Assembly)
    (index : Nat)
    (instruction : Instruction) :
    Except ProgramError Assembly :=
  match instruction, assembly.stack with
  | .atom test, stack => .ok (assembly.pushTest stack (.atom test) test.text)
  | .concat, second :: first :: stack => .ok (assembly.concatenate first second stack)
  | .connect .or, second :: first :: stack => .ok (assembly.alternate first second stack)
  | .connect .and, second :: first :: stack =>
      match assembly.conjoin? first second stack with
      | some conjoined => .ok conjoined
      | none => .error (.conjunctionOperand index)
  | .quantify operator, body :: stack => .ok (assembly.quantify operator body stack)
  | _, _ => .error (.malformed index .missingOperand)

/-- Carry out the instructions from the given index on. -/
def executeAll
    (assembly : Assembly) :
    Nat →
    List Instruction →
    Except ProgramError Assembly
  | _, [] => .ok assembly
  | index, instruction :: rest =>
      match assembly.execute index instruction with
      | .ok assembly => assembly.executeAll (index + 1) rest
      | .error error => .error error

/-- The states of a program and the number of the one to start from. -/
structure Draft where
  states : Array State
  entry : Nat
  deriving Repr, DecidableEq

/-- Lead what is left of a program to the final state. -/
def complete (states : Array State) (fragment : Fragment) : Draft :=
  ⟨fill (states.push .final) fragment.holes states.size, fragment.entry⟩

/-- Assemble a program, which has to leave one fragment. -/
def ofProgram (program : List Instruction) : Except ProgramError Draft :=
  match empty.executeAll 0 program with
  | .error error => .error error
  | .ok assembly =>
      match assembly.stack with
      | [fragment] => .ok (complete assembly.states fragment)
      | _ => .error (.malformed program.length .notOneOperand)

end Assembly

end TokenPattern
