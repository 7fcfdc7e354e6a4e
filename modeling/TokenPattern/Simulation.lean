import TokenPattern.Automaton.Basic
import Std.Data.HashSet

namespace TokenPattern

/-!
# Searching a list of tokens

A thread is a state at a position in the tokens. A search runs all threads in
rounds: each live thread is replaced by the threads that it leads to, and a
thread that was live before is not started again. The search succeeds in the
round in which an accepting state is live, whatever tokens are left, and fails
when no thread is live any more.
-/

/-- A state at a position in the tokens. -/
structure Thread where
  position : Nat
  state : Nat
  deriving Repr, DecidableEq, Hashable

/-- The threads of a round and all that were live so far. -/
structure Frontier where
  live : Array Thread
  seen : Std.HashSet Thread

namespace Frontier

/-- The threads before the first round. -/
def start (automaton : Automaton) : Frontier :=
  let first : Thread := ⟨0, automaton.start⟩
  ⟨#[first], {first}⟩

/-- Start a thread unless it was live before. -/
def add (frontier : Frontier) (thread : Thread) : Frontier :=
  if frontier.seen.contains thread then frontier
  else ⟨frontier.live.push thread, frontier.seen.insert thread⟩

end Frontier

namespace Automaton

variable {ρ : Type} [Record ρ]

/-- Whether a state is accepting. -/
def isAccepting (automaton : Automaton) (state : Nat) : Bool :=
  automaton.states[state]?.any (·.accepting)

/--
The position at which a state's successors run, if they do.

Behind the last token only epsilon states lead on.
-/
def landing?
    (dialect : Dialect)
    (automaton : Automaton)
    (tokens : Array ρ)
    (position : Nat)
    (predicate : Predicate) :
    Option Nat :=
  match tokens[position]? with
  | none => if predicate.isEpsilon then some position else none
  | some token =>
      match predicate.outcome dialect automaton.defaultAttribute token with
      | .pass => some (position + 1)
      | .epsilon => some position
      | .fail => none

/-- The threads that a thread leads to. -/
def offspring
    (dialect : Dialect)
    (automaton : Automaton)
    (tokens : Array ρ)
    (thread : Thread) :
    List Thread :=
  match automaton.states[thread.state]? with
  | none => []
  | some state =>
      match automaton.landing? dialect tokens thread.position state.predicate with
      | none => []
      | some position => state.successors.map fun successor => ⟨position, successor⟩

/-- The threads of the next round. -/
def advance
    (dialect : Dialect)
    (automaton : Automaton)
    (tokens : Array ρ)
    (frontier : Frontier) :
    Frontier :=
  frontier.live.foldl
    (fun next thread => (automaton.offspring dialect tokens thread).foldl Frontier.add next)
    ⟨#[], frontier.seen⟩

/-- How a search ends. -/
inductive Verdict where
  | matched
  | unmatched
  /-- More rounds would have been needed than are allowed. -/
  | limitExceeded (limit : Nat)
  deriving Repr, DecidableEq

/-- The course of a search: the number of threads after each round, and the end. -/
structure Run where
  rounds : Array Nat
  verdict : Verdict
  deriving Repr, DecidableEq

/-- Whether a search may not take another round after the given number of them. -/
def limitReached (limit : Option Nat) (rounds : Nat) : Option Nat :=
  limit.filter (· ≤ rounds)

/-- Go on with a search whose rounds so far left the given numbers of threads. -/
def runFrom
    (dialect : Dialect)
    (automaton : Automaton)
    (limit : Option Nat)
    (tokens : Array ρ) :
    Nat →
    Array Nat →
    Frontier →
    Run
  | 0, rounds, _ => ⟨rounds, .unmatched⟩
  | fuel + 1, rounds, frontier =>
      if frontier.live.any fun thread => automaton.isAccepting thread.state then
        ⟨rounds, .matched⟩
      else if frontier.live.isEmpty then
        ⟨rounds, .unmatched⟩
      else
        match limitReached limit rounds.size with
        | some limit => ⟨rounds, .limitExceeded limit⟩
        | none =>
            let next := automaton.advance dialect tokens frontier
            runFrom dialect automaton limit tokens fuel (rounds.push next.live.size) next

/--
Rounds enough for every search: each but the last has a thread that no earlier
one had, and there are no more threads than states times positions.
-/
def roundBound (automaton : Automaton) (tokens : Array ρ) : Nat :=
  automaton.size * (tokens.size + 1) + 1

/-- Run a search over tokens from its start. -/
def run
    (dialect : Dialect)
    (automaton : Automaton)
    (limit : Option Nat)
    (tokens : Array ρ) :
    Run :=
  runFrom dialect automaton limit tokens (automaton.roundBound tokens) #[] (.start automaton)

/-- The answer that a search gives. -/
def Verdict.answer : Verdict → Except SearchError Bool
  | .matched => .ok true
  | .unmatched => .ok false
  | .limitExceeded limit => .error (.stepLimitExceeded limit)

/-- Whether some tokens from the first on lead to the accepting state. -/
def matchesTokens
    (dialect : Dialect)
    (automaton : Automaton)
    (limit : Option Nat)
    (tokens : Array ρ) :
    Except SearchError Bool :=
  (automaton.run dialect limit tokens).verdict.answer

end Automaton

end TokenPattern
