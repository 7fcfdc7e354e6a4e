import Mathlib.Data.Finset.Card
import Mathlib.Data.Finset.Prod
import TokenPattern.Proofs.Frontier

namespace TokenPattern.Automaton

/-!
# The course of a search

A search goes from frontier to frontier until one of them has an accepting
thread or no thread at all, unless the limit stops it before.  In an automaton
whose edges stay in it, distances are bounded by the number of threads that
there are, so that the search gets to its end.
-/

variable {ρ : Type} [Record ρ]

/-- The start and all edges lead to states of the automaton. -/
structure Closed (automaton : Automaton) : Prop where
  start_lt : automaton.start < automaton.size
  edge_lt :
    ∀ {number target : Nat} {state : State},
      automaton.states[number]? = some state →
      target ∈ state.successors →
      target < automaton.size

/-- A live thread is accepting after the given number of rounds, or none is live. -/
def Ended
    (dialect : Dialect)
    (automaton : Automaton)
    (tokens : Array ρ)
    (round : Nat) : Prop :=
  (∃ thread,
    automaton.isAccepting thread.state = true ∧
      automaton.Distance dialect tokens thread round) ∨
    ¬∃ thread, automaton.Distance dialect tokens thread round

/-- The numbers of threads after the first rounds. -/
def threadCounts
    (dialect : Dialect)
    (automaton : Automaton)
    (tokens : Array ρ)
    (rounds : Nat) :
    Array Nat :=
  Array.ofFn fun round : Fin rounds =>
    (frontierAt dialect automaton tokens (round + 1)).live.size

variable {dialect : Dialect}
variable {automaton : Automaton}
variable {tokens : Array ρ}

/-- Moves stay among the states and the positions that there are. -/
theorem Closed.walk_inRange
    (closed : automaton.Closed)
    {moves : Nat}
    {thread : Thread}
    (walk :
      automaton.Walk dialect tokens moves ⟨0, automaton.start⟩ thread) :
    thread.state < automaton.size ∧ thread.position ≤ tokens.size := by
  induction moves generalizing thread with
  | zero =>
      cases walk
      exact ⟨closed.start_lt, Nat.zero_le _⟩
  | succ moves inductionHypothesis =>
      obtain ⟨before, front, final⟩ := walk.unsnoc
      have beforeInRange := inductionHypothesis front
      cases final with
      | epsilon found _ edge =>
          exact ⟨closed.edge_lt found edge, beforeInRange.2⟩
      | consume found next _ edge =>
          exact ⟨closed.edge_lt found edge,
            (Array.getElem?_eq_some_iff.1 next).1⟩

/-- A distance is less than the number of threads that there are. -/
theorem Closed.distance_lt
    (closed : automaton.Closed)
    {thread : Thread}
    {moves : Nat}
    (distance : automaton.Distance dialect tokens thread moves) :
    moves < automaton.size * (tokens.size + 1) := by
  -- The threads on the way have different distances, so they are different.
  have onTheWay :
      ∀ fewer ∈ Finset.range (moves + 1),
        ∃ before, automaton.Distance dialect tokens before fewer :=
    fun fewer member =>
      distance.exists_of_le (Nat.lt_succ_iff.1 (Finset.mem_range.1 member))
  have _ : Nonempty Thread := ⟨thread⟩
  choose! threadAt threadAt_distance using onTheWay
  have counted :
      (Finset.range (moves + 1)).card ≤
        (Finset.range automaton.size ×ˢ Finset.range (tokens.size + 1)).card := by
    refine Finset.card_le_card_of_injOn
      (fun fewer => ((threadAt fewer).state, (threadAt fewer).position)) ?_ ?_
    · intro fewer member
      have inRange := closed.walk_inRange (threadAt_distance fewer member).1
      simpa [Nat.lt_succ_iff] using inRange
    · intro first firstMember second secondMember same
      have sameThread : threadAt first = threadAt second := by
        cases firstThread : threadAt first
        cases secondThread : threadAt second
        simp_all
      have firstDistance := threadAt_distance first firstMember
      rw [sameThread] at firstDistance
      exact firstDistance.unique (threadAt_distance second secondMember)
  simpa [Nat.succ_le_iff] using counted

/-- One more round adds one more number. -/
theorem threadCounts_succ (rounds : Nat) :
    (threadCounts dialect automaton tokens rounds).push
        (frontierAt dialect automaton tokens (rounds + 1)).live.size =
      threadCounts dialect automaton tokens (rounds + 1) := by
  simp [threadCounts, Array.ofFn_succ]

@[simp] theorem size_threadCounts (rounds : Nat) :
    (threadCounts dialect automaton tokens rounds).size = rounds := by
  simp [threadCounts]

/-- The numbers for some of the rounds are the first ones of those for all. -/
theorem take_threadCounts
    {fewer rounds : Nat}
    (le : fewer ≤ rounds) :
    (threadCounts dialect automaton tokens rounds).take fewer =
      threadCounts dialect automaton tokens fewer := by
  apply Array.ext
  · simp [le]
  · simp [threadCounts]

/-- The number for a round is that of the threads at its distance. -/
theorem getElem?_threadCounts
    {rounds index count : Nat}
    (kept :
      (threadCounts dialect automaton tokens rounds)[index]? = some count) :
    count =
      Set.ncard {thread | automaton.Distance dialect tokens thread (index + 1)} := by
  obtain ⟨inRange, rfl⟩ := Array.getElem?_eq_some_iff.1 kept
  simp [threadCounts, size_live]

/-- An accepting thread is live. -/
theorem any_accepting_iff (round : Nat) :
    ((frontierAt dialect automaton tokens round).live.any
        fun thread => automaton.isAccepting thread.state) = true ↔
      ∃ thread,
        automaton.isAccepting thread.state = true ∧
          automaton.Distance dialect tokens thread round := by
  rw [Array.any_eq_true']
  simp only [mem_live_iff, and_comm]

/-- No thread is live. -/
theorem live_isEmpty_iff (round : Nat) :
    (frontierAt dialect automaton tokens round).live.isEmpty = true ↔
      ¬∃ thread, automaton.Distance dialect tokens thread round := by
  rw [Array.isEmpty_iff, Array.eq_empty_iff_forall_not_mem, not_exists]
  simp only [mem_live_iff]

/-- A limit is reached by as many rounds as it allows. -/
theorem limitReached_eq_some_iff
    {limit : Option Nat}
    {rounds reached : Nat} :
    limitReached limit rounds = some reached ↔
      limit = some reached ∧ reached ≤ rounds := by
  simp [limitReached, Option.filter_eq_some_iff]

/-- A limit that allows more rounds is not reached. -/
theorem limitReached_eq_none
    {limit : Option Nat}
    {rounds : Nat}
    (allowed : ∀ most, limit = some most → rounds < most) :
    limitReached limit rounds = none := by
  refine Option.eq_none_iff_forall_ne_some.2 fun most reached => ?_
  obtain ⟨isLimit, le⟩ := limitReached_eq_some_iff.1 reached
  exact Nat.not_lt.2 le (allowed most isLimit)

/-- A search that has not ended and may go on takes a round. -/
theorem runFrom_goes_on
    {limit : Option Nat}
    {round : Nat}
    (notEnded : ¬automaton.Ended dialect tokens round)
    (notLimited : limitReached limit round = none)
    (fuel : Nat) :
    automaton.runFrom dialect limit tokens (fuel + 1)
        (threadCounts dialect automaton tokens round)
        (frontierAt dialect automaton tokens round) =
      automaton.runFrom dialect limit tokens fuel
        (threadCounts dialect automaton tokens (round + 1))
        (frontierAt dialect automaton tokens (round + 1)) := by
  obtain ⟨notAccepting, someLive⟩ := not_or.1 notEnded
  rw [← any_accepting_iff] at notAccepting
  rw [← live_isEmpty_iff] at someLive
  rw [runFrom, if_neg notAccepting, if_neg someLive, size_threadCounts,
    notLimited]
  rw [← threadCounts_succ]
  rfl

/-- A search with an accepting thread succeeds. -/
theorem runFrom_matched
    {round : Nat}
    (accepting :
      ∃ thread,
        automaton.isAccepting thread.state = true ∧
          automaton.Distance dialect tokens thread round)
    (limit : Option Nat)
    (fuel : Nat) :
    automaton.runFrom dialect limit tokens (fuel + 1)
        (threadCounts dialect automaton tokens round)
        (frontierAt dialect automaton tokens round) =
      ⟨threadCounts dialect automaton tokens round, .matched⟩ := by
  rw [runFrom, if_pos ((any_accepting_iff round).2 accepting)]

/-- A search without a thread fails. -/
theorem runFrom_unmatched
    {round : Nat}
    (noneLive : ¬∃ thread, automaton.Distance dialect tokens thread round)
    (limit : Option Nat)
    (fuel : Nat) :
    automaton.runFrom dialect limit tokens (fuel + 1)
        (threadCounts dialect automaton tokens round)
        (frontierAt dialect automaton tokens round) =
      ⟨threadCounts dialect automaton tokens round, .unmatched⟩ := by
  have notAccepting :
      ¬∃ thread,
        automaton.isAccepting thread.state = true ∧
          automaton.Distance dialect tokens thread round :=
    fun ⟨thread, _, distance⟩ => noneLive ⟨thread, distance⟩
  rw [runFrom, if_neg (mt (any_accepting_iff round).1 notAccepting),
    if_pos ((live_isEmpty_iff round).2 noneLive)]

/-- A search that has not ended and may not go on fails for its limit. -/
theorem runFrom_limited
    {round limit : Nat}
    (notEnded : ¬automaton.Ended dialect tokens round)
    (limited : limit ≤ round)
    (fuel : Nat) :
    automaton.runFrom dialect (some limit) tokens (fuel + 1)
        (threadCounts dialect automaton tokens round)
        (frontierAt dialect automaton tokens round) =
      ⟨threadCounts dialect automaton tokens round, .limitExceeded limit⟩ := by
  obtain ⟨notAccepting, someLive⟩ := not_or.1 notEnded
  rw [← any_accepting_iff] at notAccepting
  rw [← live_isEmpty_iff] at someLive
  rw [runFrom, if_neg notAccepting, if_neg someLive, size_threadCounts,
    limitReached_eq_some_iff.2 ⟨rfl, limited⟩]

/-- A search gets to a round if it neither ends nor is stopped before. -/
theorem run_gets_to
    {limit : Option Nat}
    {round : Nat}
    (goesOn :
      ∀ earlier < round,
        ¬automaton.Ended dialect tokens earlier ∧
          limitReached limit earlier = none)
    (inBound : round ≤ automaton.roundBound tokens) :
    automaton.run dialect limit tokens =
      automaton.runFrom dialect limit tokens
        (automaton.roundBound tokens - round)
        (threadCounts dialect automaton tokens round)
        (frontierAt dialect automaton tokens round) := by
  induction round with
  | zero =>
      rfl
  | succ round inductionHypothesis =>
      have here := inductionHypothesis
        (fun earlier before => goesOn earlier (Nat.lt_succ_of_lt before))
        (Nat.le_of_succ_le inBound)
      obtain ⟨notEnded, notLimited⟩ := goesOn round (Nat.lt_succ_self round)
      have fuel :
          automaton.roundBound tokens - round =
            automaton.roundBound tokens - (round + 1) + 1 := by
        omega
      rw [here, fuel, runFrom_goes_on notEnded notLimited]

/-- The first round before which a search is over, if it has no limit. -/
structure LastRound
    (dialect : Dialect)
    (automaton : Automaton)
    (tokens : Array ρ)
    (last : Nat) : Prop where
  ended : automaton.Ended dialect tokens last
  first : ∀ earlier < last, ¬automaton.Ended dialect tokens earlier

/-- In an automaton whose edges stay in it each search is over some time. -/
theorem Closed.exists_lastRound
    (closed : automaton.Closed)
    (dialect : Dialect)
    (tokens : Array ρ) :
    ∃ last, automaton.LastRound dialect tokens last := by
  classical
  have ends : ∃ round, automaton.Ended dialect tokens round := by
    refine ⟨automaton.size * (tokens.size + 1), .inr ?_⟩
    rintro ⟨thread, distance⟩
    exact Nat.lt_irrefl _ (closed.distance_lt distance)
  exact ⟨Nat.find ends, Nat.find_spec ends, fun _ => Nat.find_min ends⟩

namespace LastRound

variable {last : Nat}

/-- The bound on rounds is beyond the last round. -/
theorem lt_roundBound
    (isLast : automaton.LastRound dialect tokens last)
    (closed : automaton.Closed) :
    last < automaton.roundBound tokens := by
  cases last with
  | zero =>
      exact Nat.succ_pos _
  | succ before =>
      have notEnded := isLast.first before (Nat.lt_succ_self before)
      obtain ⟨thread, distance⟩ := not_not.1 (not_or.1 notEnded).2
      exact Nat.succ_lt_succ (closed.distance_lt distance)

/-- Without reaching its limit a search gets to the last round. -/
theorem run_eq
    (isLast : automaton.LastRound dialect tokens last)
    (closed : automaton.Closed)
    {limit : Option Nat}
    (allowed : ∀ most, limit = some most → last ≤ most) :
    automaton.run dialect limit tokens =
      automaton.runFrom dialect limit tokens
        (automaton.roundBound tokens - last - 1 + 1)
        (threadCounts dialect automaton tokens last)
        (frontierAt dialect automaton tokens last) := by
  have inBound := isLast.lt_roundBound closed
  rw [show automaton.roundBound tokens - last - 1 + 1 =
    automaton.roundBound tokens - last by omega]
  refine run_gets_to (fun earlier before => ?_) (Nat.le_of_lt inBound)
  refine ⟨isLast.first earlier before, limitReached_eq_none ?_⟩
  intro most isLimit
  exact Nat.lt_of_lt_of_le before (allowed most isLimit)

/-- A limit less than the last round stops the search. -/
theorem run_limited
    (isLast : automaton.LastRound dialect tokens last)
    (closed : automaton.Closed)
    {limit : Nat}
    (tooSmall : limit < last) :
    automaton.run dialect (some limit) tokens =
      ⟨threadCounts dialect automaton tokens limit, .limitExceeded limit⟩ := by
  have inBound := isLast.lt_roundBound closed
  have stops :=
    runFrom_limited (isLast.first limit tooSmall) (Nat.le_refl limit)
      (automaton.roundBound tokens - limit - 1)
  rw [show automaton.roundBound tokens - limit - 1 + 1 =
    automaton.roundBound tokens - limit by omega] at stops
  rw [← stops]
  refine run_gets_to (fun earlier before => ?_) (by omega)
  refine ⟨isLast.first earlier (Nat.lt_trans before tooSmall),
    limitReached_eq_none ?_⟩
  rintro most ⟨⟩
  exact before

end LastRound

end TokenPattern.Automaton
