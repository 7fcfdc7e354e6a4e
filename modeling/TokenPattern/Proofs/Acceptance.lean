import TokenPattern.Proofs.BreadthFirst
import TokenPattern.Proofs.Recognition

namespace TokenPattern.Automaton

/-!
# Automata accept the language of their program

The accepting state of a program's automaton can be reached at a position
exactly if the tokens before it are a word of the language of the program's
tree.  A search without a limit therefore tells whether some prefix of the
tokens is one.
-/

/-- The accepting states are the final one. -/
theorem Embodies.isAccepting_iff
    {automaton : Automaton}
    {tree : PatternTree}
    {holes owned : List Nat}
    (embodies : automaton.Embodies tree holes owned)
    (state : Nat) :
    automaton.isAccepting state = true ↔ state = automaton.accept := by
  unfold isAccepting
  constructor
  · intro accepting
    obtain ⟨found, isFound, isAccepting⟩ := (Option.any_eq_true _ _).1 accepting
    exact (embodies.accepting_iff isFound).1 isAccepting
  · rintro rfl
    rw [embodies.final]
    rfl

variable {ρ : Type} [Record ρ]

/-- What it means that the search through some tokens recognizes a language. -/
structure Recognizes
    (dialect : Dialect)
    (automaton : Automaton)
    (language : Language ρ)
    (tokens : Array ρ) : Prop where
  /-- The accepting state is reached behind the prefixes that are in the language. -/
  reachable_accept_iff :
    ∀ position ≤ tokens.size,
      automaton.Reachable dialect tokens ⟨position, automaton.accept⟩ ↔
        tokens.toList.take position ∈ language
  /-- The search succeeds if some prefix is in the language. -/
  matched :
    (∃ front, front <+: tokens.toList ∧ front ∈ language) →
    automaton.matchesTokens dialect none tokens = .ok true
  /-- The search fails if no prefix is in the language. -/
  unmatched :
    (¬∃ front, front <+: tokens.toList ∧ front ∈ language) →
    automaton.matchesTokens dialect none tokens = .ok false

namespace Embodies

variable {dialect : Dialect}
variable {automaton : Automaton}
variable {tokens : Array ρ}
variable {tree : PatternTree}
variable {holes owned : List Nat}

/-- Nothing moves on from the final state. -/
theorem walk_from_accept
    (embodies : automaton.Embodies tree holes owned)
    {moves position : Nat}
    {thread : Thread}
    (walk :
      automaton.Walk dialect tokens moves ⟨position, automaton.accept⟩ thread) :
    thread = ⟨position, automaton.accept⟩ := by
  cases walk with
  | here =>
      rfl
  | move head =>
      obtain ⟨_, _, _, target, edge, _⟩ :=
        (move_consuming_iff embodies.final (by simp [State.final])).1 head
      simp [State.final] at edge

/-- The final state is reached behind the prefixes in the language of the tree. -/
theorem reachable_accept_iff
    (embodies : automaton.Embodies tree holes owned)
    {position : Nat}
    (inRange : position ≤ tokens.size) :
    automaton.Reachable dialect tokens ⟨position, automaton.accept⟩ ↔
      tokens.toList.take position ∈
        tree.language ρ dialect automaton.defaultAttribute := by
  constructor
  · rintro ⟨moves, walk⟩
    obtain ⟨word, inLanguage, exit, isExit, stop, rest, _, spells, walkRest⟩ :=
      embodies.laidOut.readsTo (List.nodup_cons.1 embodies.nodup).1 walk
    -- No moves are left behind the exit, so the word ends at the position.
    rw [List.mem_singleton.1 isExit] at walkRest
    cases embodies.walk_from_accept walkRest
    rwa [← (Spells.zero_iff inRange).1 spells]
  · intro inLanguage
    exact embodies.laidOut.connects inLanguage
      ((Spells.zero_iff inRange).2 rfl) (List.mem_singleton_self _)

/-- An accepting thread can be reached if some prefix is in the language of the tree. -/
theorem exists_accepting_iff
    (embodies : automaton.Embodies tree holes owned) :
    (∃ thread,
      automaton.isAccepting thread.state = true ∧
        automaton.Reachable dialect tokens thread) ↔
      ∃ front,
        front <+: tokens.toList ∧
          front ∈ tree.language ρ dialect automaton.defaultAttribute := by
  constructor
  · rintro ⟨⟨position, state⟩, accepting, reachable⟩
    cases (embodies.isAccepting_iff state).1 accepting
    obtain ⟨moves, walk⟩ := reachable
    have inRange := (embodies.closed.walk_inRange walk).2
    exact ⟨_, List.take_prefix position _,
      (embodies.reachable_accept_iff inRange).1 ⟨moves, walk⟩⟩
  · rintro ⟨front, isPrefix, inLanguage⟩
    have inRange : front.length ≤ tokens.size := isPrefix.length_le
    rw [List.prefix_iff_eq_take.1 isPrefix] at inLanguage
    exact ⟨⟨front.length, automaton.accept⟩,
      (embodies.isAccepting_iff _).2 rfl,
      (embodies.reachable_accept_iff inRange).2 inLanguage⟩

/-- An automaton that embodies a tree recognizes the language of the tree. -/
theorem recognizes
    (embodies : automaton.Embodies tree holes owned)
    (dialect : Dialect)
    (tokens : Array ρ) :
    automaton.Recognizes dialect
      (tree.language ρ dialect automaton.defaultAttribute) tokens := by
  have search := embodies.closed.searchesBreadthFirst dialect tokens
  refine ⟨fun _ => embodies.reachable_accept_iff, fun inLanguage => ?_,
    fun notInLanguage => ?_⟩
  · obtain ⟨_, _, _, succeeds, _⟩ :=
      search.matched (embodies.exists_accepting_iff.2 inLanguage)
    exact succeeds
  · obtain ⟨_, _, _, fails, _⟩ :=
      search.unmatched (mt embodies.exists_accepting_iff.1 notInLanguage)
    exact fails

end Embodies

/-- The automaton of a program recognizes the language of the program's tree. -/
theorem ofProgram_recognizes
    {defaultAttribute : String}
    {program : List Instruction}
    {automaton : Automaton}
    (built : Automaton.ofProgram defaultAttribute program = .ok automaton) :
    ∃ tree,
      PatternTree.ofProgram? program = some tree ∧
        ∀ (ρ : Type) [Record ρ] (dialect : Dialect) (tokens : Array ρ),
          automaton.Recognizes dialect
            (tree.language ρ dialect defaultAttribute) tokens := by
  obtain ⟨tree, holes, owned, reads, embodies, sameAttribute⟩ :=
    ofProgram_embodies built
  refine ⟨tree, reads, fun ρ _ dialect tokens => ?_⟩
  rw [← sameAttribute]
  exact embodies.recognizes dialect tokens

/-- Any number of tokens that pass both tests are recognized so. -/
theorem recognizes_repeatedTests :
    ∃ automaton,
      Automaton.ofProgram "word" repeatedTests = .ok automaton ∧
        ∃ tree,
          PatternTree.ofProgram? repeatedTests = some tree ∧
            ∀ (ρ : Type) [Record ρ] (dialect : Dialect) (tokens : Array ρ),
              automaton.Recognizes dialect
                (tree.language ρ dialect "word") tokens :=
  ⟨_, ofProgram_repeatedTests, ofProgram_recognizes ofProgram_repeatedTests⟩

end TokenPattern.Automaton
