import TokenPattern.Proofs.Language
import TokenPattern.Simulation

namespace TokenPattern.Automaton

/-!
# Moves of threads

A thread moves along the edges of its state: at the same position if the state
is an epsilon state, and past the token at its position if the state's
predicate passes that token.
-/

variable {ρ : Type} [Record ρ]

/-- One thread leads to another one. -/
inductive Move
    (dialect : Dialect)
    (automaton : Automaton)
    (tokens : Array ρ) :
    Thread → Thread → Prop where
  /-- An edge of an epsilon state, before any token and behind the last one. -/
  | epsilon
      {position source target : Nat}
      {state : State}
      (found : automaton.states[source]? = some state)
      (isEpsilon : state.predicate = .epsilon)
      (edge : target ∈ state.successors) :
      Move dialect automaton tokens ⟨position, source⟩ ⟨position, target⟩
  /-- An edge of a state whose predicate passes the next token. -/
  | consume
      {position source target : Nat}
      {state : State}
      {token : ρ}
      (found : automaton.states[source]? = some state)
      (next : tokens[position]? = some token)
      (passes :
        state.predicate.outcome dialect automaton.defaultAttribute token = .pass)
      (edge : target ∈ state.successors) :
      Move dialect automaton tokens ⟨position, source⟩ ⟨position + 1, target⟩

/-- One thread leads to another one in a number of moves. -/
inductive Walk
    (dialect : Dialect)
    (automaton : Automaton)
    (tokens : Array ρ) :
    Nat → Thread → Thread → Prop where
  | here (thread : Thread) :
      Walk dialect automaton tokens 0 thread thread
  | move
      {moves : Nat}
      {first second last : Thread}
      (head : Move dialect automaton tokens first second)
      (rest : Walk dialect automaton tokens moves second last) :
      Walk dialect automaton tokens (moves + 1) first last

/-- One thread leads to another one in some number of moves. -/
def Connects
    (dialect : Dialect)
    (automaton : Automaton)
    (tokens : Array ρ)
    (first last : Thread) : Prop :=
  ∃ moves, automaton.Walk dialect tokens moves first last

/-- A thread can be reached from the beginning of the tokens and the start. -/
def Reachable
    (dialect : Dialect)
    (automaton : Automaton)
    (tokens : Array ρ)
    (thread : Thread) : Prop :=
  automaton.Connects dialect tokens ⟨0, automaton.start⟩ thread

variable {dialect : Dialect}
variable {automaton : Automaton}
variable {tokens : Array ρ}

namespace Walk

/-- Walks can be put behind one another. -/
theorem append
    {firstMoves secondMoves : Nat}
    {first middle last : Thread}
    (front : automaton.Walk dialect tokens firstMoves first middle)
    (back : automaton.Walk dialect tokens secondMoves middle last) :
    automaton.Walk dialect tokens (firstMoves + secondMoves) first last := by
  induction front with
  | here =>
      rwa [Nat.zero_add]
  | @move moves _ _ _ head _ inductionHypothesis =>
      rw [Nat.add_right_comm]
      exact .move head (inductionHypothesis back)

/-- A walk can be prolonged by a move. -/
theorem snoc
    {moves : Nat}
    {first middle last : Thread}
    (front : automaton.Walk dialect tokens moves first middle)
    (final : automaton.Move dialect tokens middle last) :
    automaton.Walk dialect tokens (moves + 1) first last :=
  front.append (.move final (.here last))

/-- The last move of a walk. -/
theorem unsnoc
    {moves : Nat}
    {first last : Thread}
    (walk : automaton.Walk dialect tokens (moves + 1) first last) :
    ∃ middle,
      automaton.Walk dialect tokens moves first middle ∧
        automaton.Move dialect tokens middle last := by
  induction moves generalizing first with
  | zero =>
      cases walk with
      | move head rest =>
          cases rest
          exact ⟨first, .here first, head⟩
  | succ moves inductionHypothesis =>
      cases walk with
      | move head rest =>
          obtain ⟨middle, front, final⟩ := inductionHypothesis rest
          exact ⟨middle, .move head front, final⟩

end Walk

namespace Connects

/-- A thread is connected with itself. -/
theorem refl (thread : Thread) :
    automaton.Connects dialect tokens thread thread :=
  ⟨0, .here thread⟩

/-- Connections can be put behind one another. -/
theorem trans
    {first middle last : Thread}
    (front : automaton.Connects dialect tokens first middle)
    (back : automaton.Connects dialect tokens middle last) :
    automaton.Connects dialect tokens first last := by
  obtain ⟨frontMoves, front⟩ := front
  obtain ⟨backMoves, back⟩ := back
  exact ⟨frontMoves + backMoves, front.append back⟩

/-- A move is a connection. -/
theorem of_move
    {first last : Thread}
    (moves : automaton.Move dialect tokens first last) :
    automaton.Connects dialect tokens first last :=
  ⟨1, .move moves (.here last)⟩

end Connects

/-- A branching state leads to its successors at the same position. -/
theorem move_branching_iff
    {position source : Nat}
    {tag : String}
    {successors : List Nat}
    {next : Thread}
    (found : automaton.states[source]? = some (.branching tag successors)) :
    automaton.Move dialect tokens ⟨position, source⟩ next ↔
      ∃ target ∈ successors, next = ⟨position, target⟩ := by
  constructor
  · intro moves
    cases moves with
    | epsilon sameFound _ edge =>
        rw [found] at sameFound
        cases sameFound
        exact ⟨_, edge, rfl⟩
    | consume sameFound _ passes _ =>
        rw [found] at sameFound
        cases sameFound
        simp [State.branching, Predicate.outcome] at passes
  · rintro ⟨target, edge, rfl⟩
    exact .epsilon found rfl edge

/-- A branching state is connected with its successors at the same position. -/
theorem Connects.of_branching
    {position source target : Nat}
    {tag : String}
    {successors : List Nat}
    (found : automaton.states[source]? = some (.branching tag successors))
    (edge : target ∈ successors) :
    automaton.Connects dialect tokens ⟨position, source⟩ ⟨position, target⟩ :=
  .of_move ((move_branching_iff found).2 ⟨target, edge, rfl⟩)

/-- A consuming state leads past the tokens that its predicate passes. -/
theorem move_consuming_iff
    {position source : Nat}
    {state : State}
    {next : Thread}
    (found : automaton.states[source]? = some state)
    (notEpsilon : state.predicate ≠ .epsilon) :
    automaton.Move dialect tokens ⟨position, source⟩ next ↔
      ∃ token,
        tokens[position]? = some token ∧
          state.predicate.outcome dialect automaton.defaultAttribute token =
            .pass ∧
          ∃ target ∈ state.successors, next = ⟨position + 1, target⟩ := by
  constructor
  · intro moves
    cases moves with
    | epsilon sameFound isEpsilon _ =>
        rw [found] at sameFound
        cases sameFound
        exact (notEpsilon isEpsilon).elim
    | consume sameFound read passes edge =>
        rw [found] at sameFound
        cases sameFound
        exact ⟨_, read, passes, _, edge, rfl⟩
  · rintro ⟨token, read, passes, target, edge, rfl⟩
    exact .consume found read passes edge

/-- Where the successors of a state run, if they do. -/
theorem landing?_eq_some_iff
    {position landing : Nat}
    {predicate : Predicate} :
    automaton.landing? dialect tokens position predicate = some landing ↔
      (predicate = .epsilon ∧ landing = position) ∨
        ∃ token,
          tokens[position]? = some token ∧
            predicate.outcome dialect automaton.defaultAttribute token = .pass ∧
            landing = position + 1 := by
  unfold landing?
  cases next : tokens[position]? with
  | none =>
      by_cases isEpsilon : predicate = .epsilon
      · simp [isEpsilon, Predicate.isEpsilon, eq_comm]
      · simp [isEpsilon, Predicate.isEpsilon_iff]
  | some token =>
      cases outcome :
          predicate.outcome dialect automaton.defaultAttribute token with
      | pass =>
          have notEpsilon : predicate ≠ .epsilon := by
            rintro rfl
            cases outcome
          simp [notEpsilon, outcome, eq_comm]
      | fail =>
          have notEpsilon : predicate ≠ .epsilon := by
            rintro rfl
            cases outcome
          simp [notEpsilon, outcome]
      | epsilon =>
          have isEpsilon := Predicate.outcome_eq_epsilon_iff.1 outcome
          simp [isEpsilon, Predicate.outcome, eq_comm]

/-- The offspring of a thread are the threads that it leads to. -/
theorem mem_offspring_iff
    {thread next : Thread} :
    next ∈ automaton.offspring dialect tokens thread ↔
      automaton.Move dialect tokens thread next := by
  obtain ⟨position, source⟩ := thread
  unfold offspring
  constructor
  · intro member
    split at member
    · cases member
    · rename_i state found
      split at member
      · cases member
      · rename_i landing lands
        obtain ⟨target, edge, rfl⟩ := List.mem_map.1 member
        rcases landing?_eq_some_iff.1 lands with
          ⟨isEpsilon, rfl⟩ | ⟨token, read, passes, rfl⟩
        · exact .epsilon found isEpsilon edge
        · exact .consume found read passes edge
  · intro moves
    cases moves with
    | @epsilon _ _ _ state found isEpsilon edge =>
        have lands :
            automaton.landing? dialect tokens position state.predicate =
              some position :=
          landing?_eq_some_iff.2 (.inl ⟨isEpsilon, rfl⟩)
        simpa [found, lands] using edge
    | @consume _ _ _ state token found read passes edge =>
        have lands :
            automaton.landing? dialect tokens position state.predicate =
              some (position + 1) :=
          landing?_eq_some_iff.2 (.inr ⟨token, read, passes, rfl⟩)
        simpa [found, lands] using edge

end TokenPattern.Automaton
