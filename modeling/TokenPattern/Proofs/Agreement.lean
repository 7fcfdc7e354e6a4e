import TokenPattern.Simulation

namespace TokenPattern

/-!
# Searches that cannot be told apart

A search looks at the tokens only through the outcomes of predicates.  So two
searches with the same states take the same rounds to the same end if the
predicates have the same outcomes at each position, whatever the tokens are.
-/

variable {ρ ρ' : Type} [Record ρ] [Record ρ']
variable {dialect : Dialect}

namespace Predicate

mutual

/-- The tests that a predicate is made of. -/
def tests : Predicate → List Atom
  | .atom test => [test]
  | .conjunction parts => testsOfParts parts
  | .alwaysTrue => []
  | .epsilon => []

/-- The tests that the parts of a conjunction are made of. -/
def testsOfParts : List Predicate → List Atom
  | [] => []
  | part :: rest => part.tests ++ testsOfParts rest

end

/-- The tests of a conjunction of atoms are these atoms. -/
theorem testsOfParts_atoms (tests : List Atom) : testsOfParts (tests.map .atom) = tests := by
  induction tests with
  | nil =>
      rfl
  | cons test rest inductionHypothesis =>
      rw [List.map_cons, testsOfParts, inductionHypothesis]
      rfl

variable {name otherName : String}
variable {record : ρ}
variable {otherRecord : ρ'}

mutual

/-- The outcome of a predicate depends on its tests alone. -/
theorem outcome_congr
    (predicate : Predicate)
    (same :
      ∀ test ∈ predicate.tests,
        test.passes dialect name record = test.passes dialect otherName otherRecord) :
    predicate.outcome dialect name record =
      predicate.outcome dialect otherName otherRecord := by
  cases predicate with
  | atom test =>
      rw [outcome, outcome, same test (by simp [tests])]
  | conjunction parts =>
      rw [outcome, outcome, allPass_congr parts same]
  | alwaysTrue | epsilon =>
      rfl

theorem allPass_congr
    (parts : List Predicate)
    (same :
      ∀ test ∈ testsOfParts parts,
        test.passes dialect name record = test.passes dialect otherName otherRecord) :
    allPass dialect name record parts =
      allPass dialect otherName otherRecord parts := by
  cases parts with
  | nil =>
      rfl
  | cons part rest =>
      have samePart := outcome_congr part fun test isTest =>
        same test (List.mem_append_left _ isTest)
      have sameRest := allPass_congr rest fun test isTest =>
        same test (List.mem_append_right _ isTest)
      rw [allPass, allPass, samePart, sameRest]

end

end Predicate

namespace Automaton

/-- Automata with the same states whose predicates have the same outcomes on some tokens. -/
structure Agree
    (dialect : Dialect)
    (automaton : Automaton)
    (tokens : Array ρ)
    (other : Automaton)
    (otherTokens : Array ρ') :
    Prop where
  states_eq : automaton.states = other.states
  start_eq : automaton.start = other.start
  size_eq : tokens.size = otherTokens.size
  outcome_eq :
    ∀ state ∈ automaton.states,
      ∀ (position : Nat) (token : ρ) (otherToken : ρ'),
        tokens[position]? = some token →
          otherTokens[position]? = some otherToken →
            state.predicate.outcome dialect automaton.defaultAttribute token =
              state.predicate.outcome dialect other.defaultAttribute otherToken

namespace Agree

variable {automaton other : Automaton}
variable {tokens : Array ρ}
variable {otherTokens : Array ρ'}

/-- The successors of a state run at the same position, if they do. -/
theorem landing?_eq
    (agree : Agree dialect automaton tokens other otherTokens)
    {state : State}
    (isState : state ∈ automaton.states)
    (position : Nat) :
    automaton.landing? dialect tokens position state.predicate =
      other.landing? dialect otherTokens position state.predicate := by
  unfold landing?
  by_cases inRange : position < tokens.size
  · have otherInRange : position < otherTokens.size := agree.size_eq ▸ inRange
    have found := Array.getElem?_eq_getElem inRange
    have otherFound := Array.getElem?_eq_getElem otherInRange
    rw [found, otherFound]
    dsimp only
    rw [agree.outcome_eq state isState position _ _ found otherFound]
  · have otherOutside : otherTokens.size ≤ position := agree.size_eq ▸ Nat.le_of_not_lt inRange
    rw [Array.getElem?_eq_none (Nat.le_of_not_lt inRange), Array.getElem?_eq_none otherOutside]

/-- A thread leads to the same threads. -/
theorem offspring_eq
    (agree : Agree dialect automaton tokens other otherTokens)
    (thread : Thread) :
    automaton.offspring dialect tokens thread = other.offspring dialect otherTokens thread := by
  unfold offspring
  rw [← agree.states_eq]
  cases found : automaton.states[thread.state]? with
  | none =>
      rfl
  | some state =>
      dsimp only
      rw [agree.landing?_eq (Array.mem_of_getElem? found)]

/-- A round leads to the same frontier. -/
theorem advance_eq
    (agree : Agree dialect automaton tokens other otherTokens)
    (frontier : Frontier) :
    automaton.advance dialect tokens frontier = other.advance dialect otherTokens frontier := by
  unfold advance
  rw [funext agree.offspring_eq]

/-- From the same rounds on the searches go on alike. -/
theorem runFrom_eq
    (agree : Agree dialect automaton tokens other otherTokens)
    (limit : Option Nat)
    (fuel : Nat)
    (rounds : Array Nat)
    (frontier : Frontier) :
    automaton.runFrom dialect limit tokens fuel rounds frontier =
      other.runFrom dialect limit otherTokens fuel rounds frontier := by
  have sameAccepting : automaton.isAccepting = other.isAccepting := by
    funext state
    rw [isAccepting, isAccepting, agree.states_eq]
  induction fuel generalizing rounds frontier with
  | zero =>
      rfl
  | succ fuel inductionHypothesis =>
      rw [runFrom, runFrom, sameAccepting, agree.advance_eq]
      simp only [inductionHypothesis]

/-- The searches take the same rounds to the same end. -/
theorem run_eq
    (agree : Agree dialect automaton tokens other otherTokens)
    (limit : Option Nat) :
    automaton.run dialect limit tokens = other.run dialect limit otherTokens := by
  have sameBound : automaton.roundBound tokens = other.roundBound otherTokens := by
    rw [roundBound, roundBound, size, size, agree.states_eq, agree.size_eq]
  have sameStart : Frontier.start automaton = Frontier.start other := by
    rw [Frontier.start, Frontier.start, agree.start_eq]
  rw [run, run, sameBound, sameStart, agree.runFrom_eq]

end Agree

end Automaton

end TokenPattern
