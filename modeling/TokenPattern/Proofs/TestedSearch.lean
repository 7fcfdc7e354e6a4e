import TokenPattern.Proofs.BreadthFirst

namespace TokenPattern

/-!
# Searches whose tests may fail

A test whose record is missing gives an error, which a search would pass on.
Here is the loop of a search with that error in it and with no bound on its
rounds but the limit.  A search ends as this loop does: it asks no test about a
record that is missing, and its bound on rounds never stops it.
-/

/-- The position at which the successors of a state run after the outcome of its test. -/
def Outcome.landing? (position : Nat) : Outcome → Option Nat
  | .pass => some (position + 1)
  | .epsilon => some position
  | .fail => none

namespace Automaton

variable {ρ : Type} [Record ρ]

/-- The position at which a state's successors run, if they do and its test gives no error. -/
def testedLanding?
    (dialect : Dialect)
    (automaton : Automaton)
    (tokens : Array ρ)
    (position : Nat)
    (predicate : Predicate) :
    Except SearchError (Option Nat) :=
  match tokens[position]? with
  | none => .ok (if predicate.isEpsilon then some position else none)
  | some token =>
      (predicate.test dialect automaton.defaultAttribute (some token)).map
        (Outcome.landing? position)

/-- The threads that a thread leads to, unless a test gives an error. -/
def testedOffspring
    (dialect : Dialect)
    (automaton : Automaton)
    (tokens : Array ρ)
    (thread : Thread) :
    Except SearchError (List Thread) :=
  match automaton.states[thread.state]? with
  | none => .ok []
  | some state =>
      (automaton.testedLanding? dialect tokens thread.position state.predicate).map
        fun landing =>
          landing.elim [] fun position =>
            state.successors.map fun successor => ⟨position, successor⟩

/-- The threads of the next round, unless a test gives an error. -/
def testedAdvance
    (dialect : Dialect)
    (automaton : Automaton)
    (tokens : Array ρ)
    (frontier : Frontier) :
    Except SearchError Frontier :=
  frontier.live.foldlM
    (fun next thread =>
      (automaton.testedOffspring dialect tokens thread).map
        fun threads => threads.foldl Frontier.add next)
    ⟨#[], frontier.seen⟩

/-- How a search ends before it takes another round, if it ends there. -/
def verdict?
    (automaton : Automaton)
    (limit : Option Nat)
    (rounds : Nat)
    (frontier : Frontier) :
    Option Verdict :=
  if frontier.live.any fun thread => automaton.isAccepting thread.state then
    some .matched
  else if frontier.live.isEmpty then
    some .unmatched
  else
    (limitReached limit rounds).map .limitExceeded

/-- The loop of a search after some rounds, and the answer or the error that it ends with. -/
inductive SearchLoop
    (dialect : Dialect)
    (automaton : Automaton)
    (limit : Option Nat)
    (tokens : Array ρ) :
    Nat →
    Frontier →
    Except SearchError Bool →
    Prop where
  | ends
      {rounds : Nat}
      {frontier : Frontier}
      {verdict : Verdict}
      (isOver : automaton.verdict? limit rounds frontier = some verdict) :
      SearchLoop dialect automaton limit tokens rounds frontier verdict.answer
  | fails
      {rounds : Nat}
      {frontier : Frontier}
      {error : SearchError}
      (goesOn : automaton.verdict? limit rounds frontier = none)
      (isError : automaton.testedAdvance dialect tokens frontier = .error error) :
      SearchLoop dialect automaton limit tokens rounds frontier (.error error)
  | round
      {rounds : Nat}
      {frontier next : Frontier}
      {result : Except SearchError Bool}
      (goesOn : automaton.verdict? limit rounds frontier = none)
      (advances : automaton.testedAdvance dialect tokens frontier = .ok next)
      (rest : SearchLoop dialect automaton limit tokens (rounds + 1) next result) :
      SearchLoop dialect automaton limit tokens rounds frontier result

/-- An answer, or the error of a limit that is set. -/
def AnswersWithin (limit : Option Nat) (result : Except SearchError Bool) : Prop :=
  (∃ answer, result = .ok answer) ∨
    ∃ most, limit = some most ∧ result = .error (.stepLimitExceeded most)

variable {dialect : Dialect}
variable {automaton : Automaton}
variable {limit : Option Nat}
variable {tokens : Array ρ}
variable {rounds : Nat}
variable {frontier : Frontier}
variable {result other : Except SearchError Bool}

/-- A state is not tested without a record. -/
theorem testedLanding?_eq
    (position : Nat)
    (predicate : Predicate) :
    automaton.testedLanding? dialect tokens position predicate =
      .ok (automaton.landing? dialect tokens position predicate) := by
  unfold testedLanding? landing?
  cases tokens[position]? with
  | none =>
      rfl
  | some token =>
      simp only [Predicate.test, Except.map]
      cases predicate.outcome dialect automaton.defaultAttribute token <;>
        rfl

theorem testedOffspring_eq (thread : Thread) :
    automaton.testedOffspring dialect tokens thread =
      .ok (automaton.offspring dialect tokens thread) := by
  unfold testedOffspring offspring
  cases automaton.states[thread.state]? with
  | none =>
      rfl
  | some state =>
      simp only [testedLanding?_eq, Except.map]
      cases automaton.landing? dialect tokens thread.position state.predicate <;>
        rfl

/-- No test gives an error. -/
theorem testedAdvance_eq (frontier : Frontier) :
    automaton.testedAdvance dialect tokens frontier =
      .ok (automaton.advance dialect tokens frontier) := by
  simp only [testedAdvance, advance, testedOffspring_eq, Except.map]
  exact Array.foldlM_pure

/-- A search takes a round unless it is over. -/
theorem runFrom_succ
    (fuel : Nat)
    (rounds : Array Nat)
    (frontier : Frontier) :
    automaton.runFrom dialect limit tokens (fuel + 1) rounds frontier =
      match automaton.verdict? limit rounds.size frontier with
      | some verdict => ⟨rounds, verdict⟩
      | none =>
          automaton.runFrom dialect limit tokens fuel
            (rounds.push (automaton.advance dialect tokens frontier).live.size)
            (automaton.advance dialect tokens frontier) := by
  rw [runFrom, verdict?]
  split
  · rfl
  · split
    · rfl
    · cases limitReached limit rounds.size <;>
        rfl

/-- A search that does not use up its bound on rounds ends as its loop does. -/
theorem searchLoop_runFrom
    (fuel : Nat)
    (rounds : Array Nat)
    (frontier : Frontier)
    (notUsedUp :
      (automaton.runFrom dialect limit tokens fuel rounds frontier).rounds.size <
        rounds.size + fuel) :
    automaton.SearchLoop dialect limit tokens rounds.size frontier
      (automaton.runFrom dialect limit tokens fuel rounds frontier).verdict.answer := by
  induction fuel generalizing rounds frontier with
  | zero =>
      exact (Nat.lt_irrefl _ notUsedUp).elim
  | succ fuel inductionHypothesis =>
      rw [runFrom_succ] at notUsedUp ⊢
      cases isOver : automaton.verdict? limit rounds.size frontier with
      | some verdict =>
          exact .ends isOver
      | none =>
          simp only [isOver] at notUsedUp
          apply SearchLoop.round isOver (testedAdvance_eq frontier)
          have later := inductionHypothesis
            (rounds.push (automaton.advance dialect tokens frontier).live.size)
            (automaton.advance dialect tokens frontier)
          simp only [Array.size_push, Nat.add_assoc, Nat.add_comm 1] at later
          exact later notUsedUp

/-- A loop ends in one way only. -/
theorem SearchLoop.unique
    (ends : automaton.SearchLoop dialect limit tokens rounds frontier result)
    (endsToo : automaton.SearchLoop dialect limit tokens rounds frontier other) :
    result = other := by
  induction ends with
  | ends isOver =>
      cases endsToo with
      | ends isOverToo =>
          rw [isOver] at isOverToo
          rw [Option.some.inj isOverToo]
      | fails goesOn | round goesOn =>
          simp only [isOver, reduceCtorEq] at goesOn
  | fails goesOn isError =>
      simp only [testedAdvance_eq, reduceCtorEq] at isError
  | round goesOn advances _ inductionHypothesis =>
      cases endsToo with
      | ends isOver =>
          simp only [goesOn, reduceCtorEq] at isOver
      | fails _ isError =>
          simp only [testedAdvance_eq, reduceCtorEq] at isError
      | round _ advancesToo rest =>
          rw [advances] at advancesToo
          cases advancesToo
          exact inductionHypothesis rest

/-- A loop ends with an answer or at its limit, and never with the error of a test. -/
theorem SearchLoop.answersWithin
    (ends : automaton.SearchLoop dialect limit tokens rounds frontier result) :
    AnswersWithin limit result := by
  induction ends with
  | @ends rounds frontier verdict isOver =>
      cases verdict with
      | matched =>
          exact .inl ⟨true, rfl⟩
      | unmatched =>
          exact .inl ⟨false, rfl⟩
      | limitExceeded most =>
          have reached : limitReached limit rounds = some most := by
            unfold verdict? at isOver
            split at isOver
            · cases isOver
            · split at isOver
              · cases isOver
              · simpa using isOver
          exact .inr ⟨most, (limitReached_eq_some_iff.1 reached).1, rfl⟩
  | fails _ isError =>
      simp only [testedAdvance_eq, reduceCtorEq] at isError
  | round _ _ _ inductionHypothesis =>
      exact inductionHypothesis

/-- The loop of a search ends with the answer of the search, and with nothing else. -/
theorem Closed.searchLoop_iff (closed : automaton.Closed) :
    automaton.SearchLoop dialect limit tokens 0 (.start automaton) result ↔
      result = automaton.matchesTokens dialect limit tokens := by
  have ends :
      automaton.SearchLoop dialect limit tokens 0 (.start automaton)
        (automaton.matchesTokens dialect limit tokens) := by
    apply searchLoop_runFrom _ #[]
    simpa only [run, Array.size_empty, Nat.zero_add] using
      closed.rounds_lt_roundBound dialect limit tokens
  constructor
  · intro endsToo
    exact endsToo.unique ends
  · rintro rfl
    exact ends

end Automaton

end TokenPattern
