import TokenPattern.Proofs.Embodiment
import TokenPattern.Proofs.Search

namespace TokenPattern.Automaton

/-!
# Searches are breadth first

In the automaton of a program a search meets the threads in the order of their
distances: the round in which a thread is live is its distance.  So the search
ends at the least distance of an accepting thread or, if none can be reached,
after the greatest distance of all, and a limit stops it exactly if it would
have to take more rounds.
-/

/-- The automaton of a program keeps its edges to itself. -/
theorem Embodies.closed
    {automaton : Automaton}
    {tree : PatternTree}
    {holes owned : List Nat}
    (embodies : automaton.Embodies tree holes owned) :
    automaton.Closed where
  start_lt := (embodies.mem_iff _).2 (.inr embodies.laidOut.entry_mem)
  edge_lt := by
    intro number target state found edge
    rcases embodies.final_or_owned found with ⟨_, rfl⟩ | ⟨_, isOwned⟩
    · simp [State.final] at edge
    · have leads := (leads_iff_of_getElem? found).2 edge
      rcases embodies.laidOut.leads_mem isOwned leads with stays | isExit
      · exact (embodies.mem_iff target).2 (.inr stays)
      · exact (embodies.mem_iff target).2 (.inl (List.mem_singleton.1 isExit))

variable {ρ : Type} [Record ρ]

/-- What it means that a search meets the threads in the order of their distances. -/
structure SearchesBreadthFirst
    (dialect : Dialect)
    (automaton : Automaton)
    (tokens : Array ρ) : Prop where
  /-- No thread is live twice in a round. -/
  live_nodup :
    ∀ round, (frontierAt dialect automaton tokens round).live.toList.Nodup
  /-- The threads that are live after some rounds are those at that distance. -/
  mem_live_iff :
    ∀ round thread,
      thread ∈ (frontierAt dialect automaton tokens round).live ↔
        automaton.Distance dialect tokens thread round
  /-- The search goes on with these threads from each round that it gets to. -/
  gets_to :
    ∀ limit round,
      round ≤ (automaton.run dialect limit tokens).rounds.size →
      automaton.run dialect limit tokens =
        automaton.runFrom dialect limit tokens
          (automaton.roundBound tokens - round)
          ((automaton.run dialect limit tokens).rounds.take round)
          (frontierAt dialect automaton tokens round)
  /-- The number that is kept of each round is the number of threads at its distance. -/
  rounds_eq :
    ∀ limit index count,
      (automaton.run dialect limit tokens).rounds[index]? = some count →
      count =
        Set.ncard {thread | automaton.Distance dialect tokens thread (index + 1)}
  /-- The search succeeds after as many rounds as the nearest accepting thread is far. -/
  matched :
    (∃ thread,
      automaton.isAccepting thread.state = true ∧
        automaton.Reachable dialect tokens thread) →
    ∃ nearest,
      IsLeast
          {moves | ∃ thread,
            automaton.isAccepting thread.state = true ∧
              automaton.Distance dialect tokens thread moves}
          nearest ∧
        (automaton.run dialect none tokens).rounds.size = nearest ∧
        automaton.matchesTokens dialect none tokens = .ok true ∧
        ∀ limit,
          automaton.matchesTokens dialect (some limit) tokens =
            if nearest ≤ limit then .ok true
            else .error (.stepLimitExceeded limit)
  /-- Without an accepting thread it fails one round after the farthest thread. -/
  unmatched :
    (¬∃ thread,
      automaton.isAccepting thread.state = true ∧
        automaton.Reachable dialect tokens thread) →
    ∃ farthest,
      IsGreatest
          {moves | ∃ thread, automaton.Distance dialect tokens thread moves}
          farthest ∧
        (automaton.run dialect none tokens).rounds.size = farthest + 1 ∧
        automaton.matchesTokens dialect none tokens = .ok false ∧
        ∀ limit,
          automaton.matchesTokens dialect (some limit) tokens =
            if farthest + 1 ≤ limit then .ok false
            else .error (.stepLimitExceeded limit)

variable {dialect : Dialect}
variable {automaton : Automaton}
variable {tokens : Array ρ}

/-- A search ends with the last round or is stopped by its limit before it. -/
theorem LastRound.run_cases
    {last : Nat}
    (isLast : automaton.LastRound dialect tokens last)
    (closed : automaton.Closed)
    (limit : Option Nat) :
    ∃ round ≤ last,
      (∀ earlier < round, limitReached limit earlier = none) ∧
        (automaton.run dialect limit tokens).rounds =
          threadCounts dialect automaton tokens round := by
  by_cases allowed : ∀ most, limit = some most → last ≤ most
  · refine ⟨last, Nat.le_refl last, fun earlier before => ?_, ?_⟩
    · exact limitReached_eq_none fun most isLimit =>
        Nat.lt_of_lt_of_le before (allowed most isLimit)
    · rw [isLast.run_eq closed allowed]
      rcases isLast.ended with accepting | noneLive
      · rw [runFrom_matched accepting]
      · rw [runFrom_unmatched noneLive]
  · push Not at allowed
    obtain ⟨most, rfl, tooSmall⟩ := allowed
    refine ⟨most, Nat.le_of_lt tooSmall, fun earlier before => ?_, ?_⟩
    · refine limitReached_eq_none ?_
      rintro _ ⟨⟩
      exact before
    · rw [isLast.run_limited closed tooSmall]

/-- A search does not use up its bound on rounds. -/
theorem Closed.rounds_lt_roundBound
    (closed : automaton.Closed)
    (dialect : Dialect)
    (limit : Option Nat)
    (tokens : Array ρ) :
    (automaton.run dialect limit tokens).rounds.size < automaton.roundBound tokens := by
  obtain ⟨last, isLast⟩ := closed.exists_lastRound dialect tokens
  obtain ⟨round, le, _, roundsEq⟩ := isLast.run_cases closed limit
  rw [roundsEq, size_threadCounts]
  exact le.trans_lt (isLast.lt_roundBound closed)

/-- With all rounds that it needs a search gives its answer, and else its limit. -/
theorem LastRound.matchesTokens_eq
    {last : Nat}
    (isLast : automaton.LastRound dialect tokens last)
    (closed : automaton.Closed)
    {verdict : Verdict}
    (ends :
      ∀ limit fuel,
        automaton.runFrom dialect limit tokens (fuel + 1)
            (threadCounts dialect automaton tokens last)
            (frontierAt dialect automaton tokens last) =
          ⟨threadCounts dialect automaton tokens last, verdict⟩) :
    (automaton.run dialect none tokens).rounds.size = last ∧
      automaton.matchesTokens dialect none tokens = verdict.answer ∧
      ∀ limit,
        automaton.matchesTokens dialect (some limit) tokens =
          if last ≤ limit then verdict.answer
          else .error (.stepLimitExceeded limit) := by
  have unlimited := isLast.run_eq closed
    (fun most isLimit => absurd isLimit (Option.some_ne_none most).symm)
  rw [ends] at unlimited
  refine ⟨by rw [unlimited, size_threadCounts],
    by rw [matchesTokens, unlimited], fun limit => ?_⟩
  split
  · rename_i enough
    have limited := isLast.run_eq closed
      (fun most isLimit => Option.some.inj isLimit ▸ enough)
    rw [matchesTokens, limited, ends]
  · rename_i tooSmall
    rw [matchesTokens, isLast.run_limited closed (Nat.not_le.1 tooSmall)]
    rfl

/-- A search goes on with the threads at the distance of each round it gets to. -/
theorem Closed.gets_to
    (closed : automaton.Closed)
    {limit : Option Nat}
    {round : Nat}
    (gets : round ≤ (automaton.run dialect limit tokens).rounds.size) :
    automaton.run dialect limit tokens =
      automaton.runFrom dialect limit tokens
        (automaton.roundBound tokens - round)
        ((automaton.run dialect limit tokens).rounds.take round)
        (frontierAt dialect automaton tokens round) := by
  obtain ⟨last, isLast⟩ := closed.exists_lastRound dialect tokens
  obtain ⟨rounds, le, notLimited, roundsEq⟩ := isLast.run_cases closed limit
  rw [roundsEq, size_threadCounts] at gets
  rw [roundsEq, take_threadCounts gets]
  refine run_gets_to (fun earlier before => ?_)
    (Nat.le_trans gets (Nat.le_trans le (Nat.le_of_lt (isLast.lt_roundBound closed))))
  exact ⟨isLast.first earlier (by omega), notLimited earlier (by omega)⟩

/-- The nearest accepting thread is met in the last round. -/
theorem lastRound_of_nearest
    {nearest : Nat}
    (isNearest :
      IsLeast
        {moves | ∃ thread,
          automaton.isAccepting thread.state = true ∧
            automaton.Distance dialect tokens thread moves}
        nearest) :
    automaton.LastRound dialect tokens nearest := by
  obtain ⟨⟨thread, accepting, distance⟩, least⟩ := isNearest
  refine ⟨.inl ⟨thread, accepting, distance⟩, fun earlier before => ?_⟩
  rintro (earlierAccepting | noneLive)
  · exact Nat.not_lt.2 (least earlierAccepting) before
  · exact noneLive (distance.exists_of_le (Nat.le_of_lt before))

/-- Before the last round of a search without an accepting thread is the farthest. -/
theorem LastRound.exists_farthest
    {last : Nat}
    (isLast : automaton.LastRound dialect tokens last)
    (noneLive : ¬∃ thread, automaton.Distance dialect tokens thread last) :
    ∃ farthest,
      last = farthest + 1 ∧
        IsGreatest
          {moves | ∃ thread, automaton.Distance dialect tokens thread moves}
          farthest := by
  cases last with
  | zero =>
      exact (noneLive ⟨_, Distance.zero_iff.2 rfl⟩).elim
  | succ farthest =>
      have notEnded := isLast.first farthest (Nat.lt_succ_self farthest)
      refine ⟨farthest, rfl, not_not.1 (not_or.1 notEnded).2, ?_⟩
      rintro moves ⟨thread, distance⟩
      by_contra farther
      exact noneLive (distance.exists_of_le (by omega))

/-- In an automaton whose edges stay in it each search is breadth first. -/
theorem Closed.searchesBreadthFirst
    (closed : automaton.Closed)
    (dialect : Dialect)
    (tokens : Array ρ) :
    automaton.SearchesBreadthFirst dialect tokens where
  live_nodup := live_nodup
  mem_live_iff _ _ := mem_live_iff
  gets_to _ _ := closed.gets_to
  rounds_eq := by
    intro limit index count kept
    obtain ⟨last, isLast⟩ := closed.exists_lastRound dialect tokens
    obtain ⟨rounds, _, _, roundsEq⟩ := isLast.run_cases closed limit
    rw [roundsEq] at kept
    exact getElem?_threadCounts kept
  matched := by
    rintro ⟨thread, accepting, reachable⟩
    obtain ⟨moves, distance⟩ := Distance.exists_of_reachable reachable
    have accepted :
        ∃ moves, ∃ thread,
          automaton.isAccepting thread.state = true ∧
            automaton.Distance dialect tokens thread moves :=
      ⟨moves, thread, accepting, distance⟩
    classical
    have isNearest := Nat.isLeast_find accepted
    exact ⟨_, isNearest,
      (lastRound_of_nearest isNearest).matchesTokens_eq closed
        (runFrom_matched isNearest.1)⟩
  unmatched := by
    intro noneAccepting
    obtain ⟨last, isLast⟩ := closed.exists_lastRound dialect tokens
    have noneLive : ¬∃ thread, automaton.Distance dialect tokens thread last := by
      refine isLast.ended.resolve_left ?_
      rintro ⟨thread, accepting, distance⟩
      exact noneAccepting ⟨thread, accepting, ⟨last, distance.1⟩⟩
    obtain ⟨farthest, rfl, isGreatest⟩ := isLast.exists_farthest noneLive
    exact ⟨farthest, isGreatest,
      isLast.matchesTokens_eq closed (runFrom_unmatched noneLive)⟩

/-- In the automaton of a program each search is breadth first. -/
theorem ofProgram_searchesBreadthFirst
    {defaultAttribute : String}
    {program : List Instruction}
    {automaton : Automaton}
    (built : Automaton.ofProgram defaultAttribute program = .ok automaton)
    (dialect : Dialect)
    (tokens : Array ρ) :
    automaton.SearchesBreadthFirst dialect tokens := by
  obtain ⟨tree, holes, owned, _, embodies, _⟩ := ofProgram_embodies built
  exact embodies.closed.searchesBreadthFirst dialect tokens

/-- A search that comes back to a state of the automaton is one of them. -/
theorem searchesBreadthFirst_repeatedTests :
    ∃ automaton,
      Automaton.ofProgram "word" repeatedTests = .ok automaton ∧
        automaton.SearchesBreadthFirst .standard
          #[Token.ofWord "a", Token.ofWord "b"] :=
  ⟨_, ofProgram_repeatedTests,
    ofProgram_searchesBreadthFirst ofProgram_repeatedTests .standard _⟩

end TokenPattern.Automaton
