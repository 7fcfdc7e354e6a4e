import Mathlib.Data.Set.Card
import Mathlib.Order.Nat
import TokenPattern.Proofs.Threads

namespace TokenPattern.Automaton

/-!
# The frontier of a search

The threads that are live before a round are those whose distance from the
first thread is the number of rounds taken, and all threads seen so far are
those that are not farther away.
-/

variable {ρ : Type} [Record ρ]

/-- The least number of moves that lead from the first thread to a thread. -/
def Distance
    (dialect : Dialect)
    (automaton : Automaton)
    (tokens : Array ρ)
    (thread : Thread)
    (moves : Nat) : Prop :=
  IsLeast
    {moves | automaton.Walk dialect tokens moves ⟨0, automaton.start⟩ thread}
    moves

/-- The frontier after a number of rounds. -/
def frontierAt
    (dialect : Dialect)
    (automaton : Automaton)
    (tokens : Array ρ) :
    Nat → Frontier
  | 0 => .start automaton
  | round + 1 =>
      automaton.advance dialect tokens (frontierAt dialect automaton tokens round)

/--
While a round is under way: of the threads met in it, those that were not seen
before the round are live, each once, and all of them are seen.
-/
structure Gathers
    (seenBefore : Std.HashSet Thread)
    (met : Thread → Prop)
    (frontier : Frontier) : Prop where
  live_nodup : frontier.live.toList.Nodup
  mem_live_iff :
    ∀ thread,
      thread ∈ frontier.live ↔ met thread ∧ thread ∉ seenBefore
  mem_seen_iff :
    ∀ thread,
      thread ∈ frontier.seen ↔ thread ∈ seenBefore ∨ met thread

namespace Gathers

variable {seenBefore : Std.HashSet Thread}
variable {met : Thread → Prop}
variable {frontier : Frontier}

/-- Before a round no thread has been met in it. -/
theorem nothing (seenBefore : Std.HashSet Thread) :
    Gathers seenBefore (fun _ => False) ⟨#[], seenBefore⟩ where
  live_nodup := List.nodup_nil
  mem_live_iff _ := by simp
  mem_seen_iff _ := by simp

/-- Adding a thread meets it. -/
theorem add
    (gathers : Gathers seenBefore met frontier)
    (added : Thread) :
    Gathers seenBefore (fun thread => met thread ∨ thread = added)
      (frontier.add added) := by
  unfold Frontier.add
  split
  · rename_i contained
    have seen : added ∈ seenBefore ∨ met added :=
      (gathers.mem_seen_iff added).1 contained
    refine ⟨gathers.live_nodup, fun thread => ?_, fun thread => ?_⟩
    · rw [gathers.mem_live_iff]
      constructor
      · rintro ⟨isMet, fresh⟩
        exact ⟨.inl isMet, fresh⟩
      · rintro ⟨isMet | rfl, fresh⟩
        · exact ⟨isMet, fresh⟩
        · exact ⟨seen.resolve_left fresh, fresh⟩
    · rw [gathers.mem_seen_iff]
      constructor
      · exact Or.imp_right .inl
      · rintro (before | isMet | rfl)
        · exact .inl before
        · exact .inr isMet
        · exact seen
  · rename_i notContained
    have notSeen : ¬(added ∈ seenBefore ∨ met added) :=
      fun seen => notContained ((gathers.mem_seen_iff added).2 seen)
    rw [not_or] at notSeen
    refine ⟨?_, fun thread => ?_, fun thread => ?_⟩
    · rw [Array.toList_push]
      refine List.nodup_append.2 ⟨gathers.live_nodup, by simp, ?_⟩
      rintro thread live _ isAdded rfl
      rw [List.mem_singleton.1 isAdded, Array.mem_toList_iff,
        gathers.mem_live_iff] at live
      exact notSeen.2 live.1
    · rw [Array.mem_push, gathers.mem_live_iff]
      constructor
      · rintro (⟨isMet, fresh⟩ | rfl)
        · exact ⟨.inl isMet, fresh⟩
        · exact ⟨.inr rfl, notSeen.1⟩
      · rintro ⟨isMet | isAdded, fresh⟩
        · exact .inl ⟨isMet, fresh⟩
        · exact .inr isAdded
    · rw [Std.HashSet.mem_insert, gathers.mem_seen_iff, beq_iff_eq, or_comm,
        or_assoc, eq_comm]

/-- Adding threads meets them. -/
theorem foldl_add
    (gathers : Gathers seenBefore met frontier)
    (added : List Thread) :
    Gathers seenBefore (fun thread => met thread ∨ thread ∈ added)
      (added.foldl Frontier.add frontier) := by
  induction added generalizing met frontier with
  | nil =>
      simpa using gathers
  | cons first rest inductionHypothesis =>
      simpa [or_assoc] using inductionHypothesis (gathers.add first)

end Gathers

/-- A round meets the threads that the live ones lead to. -/
theorem advance_gathers
    (dialect : Dialect)
    (automaton : Automaton)
    (tokens : Array ρ)
    (frontier : Frontier) :
    Gathers frontier.seen
      (fun thread =>
        ∃ live ∈ frontier.live, automaton.Move dialect tokens live thread)
      (automaton.advance dialect tokens frontier) := by
  have flattened :
      automaton.advance dialect tokens frontier =
        (frontier.live.toList.flatMap (automaton.offspring dialect tokens)).foldl
          Frontier.add ⟨#[], frontier.seen⟩ := by
    rw [advance, ← Array.foldl_toList, List.foldl_flatMap]
  rw [flattened]
  simpa [mem_offspring_iff] using
    (Gathers.nothing frontier.seen).foldl_add
      (frontier.live.toList.flatMap (automaton.offspring dialect tokens))

variable {dialect : Dialect}
variable {automaton : Automaton}
variable {tokens : Array ρ}

namespace Distance

/-- A thread has one distance. -/
theorem unique
    {thread : Thread}
    {first second : Nat}
    (firstDistance : automaton.Distance dialect tokens thread first)
    (secondDistance : automaton.Distance dialect tokens thread second) :
    first = second :=
  IsLeast.unique firstDistance secondDistance

/-- A thread that can be reached has a distance. -/
theorem exists_of_reachable
    {thread : Thread}
    (reachable : automaton.Reachable dialect tokens thread) :
    ∃ moves, automaton.Distance dialect tokens thread moves := by
  classical
  exact ⟨_, Nat.isLeast_find reachable⟩

/-- Only the first thread has distance zero. -/
theorem zero_iff {thread : Thread} :
    automaton.Distance dialect tokens thread 0 ↔
      thread = ⟨0, automaton.start⟩ := by
  constructor
  · rintro ⟨walk, _⟩
    cases walk
    rfl
  · rintro rfl
    exact ⟨.here _, fun _ _ => Nat.zero_le _⟩

/-- The thread before the last move of a shortest walk is one move nearer. -/
theorem pred
    {thread : Thread}
    {moves : Nat}
    (distance : automaton.Distance dialect tokens thread (moves + 1)) :
    ∃ before,
      automaton.Distance dialect tokens before moves ∧
        automaton.Move dialect tokens before thread := by
  obtain ⟨before, walk, final⟩ := Walk.unsnoc distance.1
  refine ⟨before, ⟨walk, fun fewer shorterWalk => ?_⟩, final⟩
  exact Nat.le_of_succ_le_succ (distance.2 (Walk.snoc shorterWalk final))

/-- On the way to a thread there is one of each lesser distance. -/
theorem exists_of_le
    {thread : Thread}
    {moves fewer : Nat}
    (distance : automaton.Distance dialect tokens thread moves)
    (le : fewer ≤ moves) :
    ∃ before, automaton.Distance dialect tokens before fewer := by
  induction moves generalizing thread with
  | zero =>
      rw [Nat.le_zero.1 le]
      exact ⟨thread, distance⟩
  | succ moves inductionHypothesis =>
      rcases Nat.le_succ_iff.1 le with less | rfl
      · obtain ⟨before, beforeDistance, _⟩ := distance.pred
        exact inductionHypothesis beforeDistance less
      · exact ⟨thread, distance⟩

/-- A thread is one move farther away if it is led to and not nearer. -/
theorem succ_iff
    {thread : Thread}
    {moves : Nat} :
    automaton.Distance dialect tokens thread (moves + 1) ↔
      (∃ before,
        automaton.Distance dialect tokens before moves ∧
          automaton.Move dialect tokens before thread) ∧
        ¬∃ fewer ≤ moves,
          automaton.Walk dialect tokens fewer ⟨0, automaton.start⟩ thread := by
  constructor
  · intro distance
    refine ⟨distance.pred, ?_⟩
    rintro ⟨fewer, le, walk⟩
    exact absurd (distance.2 walk) (by omega)
  · rintro ⟨⟨before, beforeDistance, final⟩, notNearer⟩
    refine ⟨Walk.snoc beforeDistance.1 final, fun fewer walk => ?_⟩
    by_contra less
    exact notNearer ⟨fewer, by omega, walk⟩

end Distance

/-- What the frontier after a number of rounds consists of. -/
theorem frontierAt_spec (round : Nat) :
    (frontierAt dialect automaton tokens round).live.toList.Nodup ∧
      (∀ thread,
        thread ∈ (frontierAt dialect automaton tokens round).live ↔
          automaton.Distance dialect tokens thread round) ∧
      ∀ thread,
        thread ∈ (frontierAt dialect automaton tokens round).seen ↔
          ∃ moves ≤ round,
            automaton.Walk dialect tokens moves ⟨0, automaton.start⟩ thread := by
  -- Which threads are new in a round depends on all that were seen before it.
  induction round with
  | zero =>
      refine ⟨by simp [frontierAt, Frontier.start], fun thread => ?_,
        fun thread => ?_⟩
      · rw [Distance.zero_iff]
        simp [frontierAt, Frontier.start]
      · simp only [frontierAt, Frontier.start, Std.HashSet.singleton_eq_insert,
          Std.HashSet.mem_insert, Std.HashSet.not_mem_empty, beq_iff_eq,
          or_false]
        constructor
        · rintro rfl
          exact ⟨0, Nat.le_refl 0, .here _⟩
        · rintro ⟨moves, le, walk⟩
          rw [Nat.le_zero.1 le] at walk
          cases walk
          rfl
  | succ round inductionHypothesis =>
      obtain ⟨_, mem_live_iff, mem_seen_iff⟩ := inductionHypothesis
      have gathers := advance_gathers dialect automaton tokens
        (frontierAt dialect automaton tokens round)
      refine ⟨gathers.live_nodup, fun thread => ?_, fun thread => ?_⟩
      · rw [frontierAt, gathers.mem_live_iff, mem_seen_iff, Distance.succ_iff]
        simp only [mem_live_iff]
      · rw [frontierAt, gathers.mem_seen_iff, mem_seen_iff]
        simp only [mem_live_iff]
        constructor
        · rintro (⟨moves, le, walk⟩ | ⟨before, distance, final⟩)
          · exact ⟨moves, Nat.le_succ_of_le le, walk⟩
          · exact ⟨round + 1, Nat.le_refl _, Walk.snoc distance.1 final⟩
        · rintro ⟨moves, le, walk⟩
          by_cases nearer : ∃ fewer ≤ round,
              automaton.Walk dialect tokens fewer ⟨0, automaton.start⟩ thread
          · exact .inl nearer
          · rcases Nat.le_succ_iff.1 le with less | rfl
            · exact (nearer ⟨moves, less, walk⟩).elim
            · obtain ⟨before, front, final⟩ := Walk.unsnoc walk
              refine .inr ⟨before, ⟨front, fun fewer shorterWalk => ?_⟩, final⟩
              by_contra less
              exact nearer ⟨fewer + 1, by omega, Walk.snoc shorterWalk final⟩

/-- The live threads are those at the distance of the round. -/
theorem mem_live_iff
    {round : Nat}
    {thread : Thread} :
    thread ∈ (frontierAt dialect automaton tokens round).live ↔
      automaton.Distance dialect tokens thread round :=
  (frontierAt_spec round).2.1 thread

/-- No thread is live twice. -/
theorem live_nodup (round : Nat) :
    (frontierAt dialect automaton tokens round).live.toList.Nodup :=
  (frontierAt_spec round).1

/-- There are as many live threads as threads at the distance of the round. -/
theorem size_live (round : Nat) :
    (frontierAt dialect automaton tokens round).live.size =
      Set.ncard {thread | automaton.Distance dialect tokens thread round} := by
  classical
  have same :
      {thread | automaton.Distance dialect tokens thread round} =
        ↑(frontierAt dialect automaton tokens round).live.toList.toFinset := by
    ext thread
    simp [mem_live_iff]
  rw [same, Set.ncard_coe_finset, List.toFinset_card_of_nodup (live_nodup round),
    Array.length_toList]

end TokenPattern.Automaton
