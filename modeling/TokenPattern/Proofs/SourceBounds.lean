import Mathlib
import TokenPattern.Proofs.MatcherHistory
import TokenPattern.Proofs.ParserCorrectness
import TokenPattern.Proofs.WellFormed

namespace TokenPattern

/-!
# Bounds by the source

Each instruction that has a state of its own is written with a symbol of its
own, and each symbol takes a byte.  So the bytes of a source bound the states of
its automaton, and with the tokens they bound the rounds of each search.
-/

/-- The instructions that have a state of their own are no more than the symbols. -/
theorem Derives.countP_le_length
    {category : Category}
    {symbols : List Symbol}
    {tree : PatternTree}
    (derives : Derives category symbols tree) :
    tree.program.countP Instruction.isAtom +
        tree.program.countP Instruction.isBranching ≤
      symbols.length := by
  induction derives with
  | atom =>
      exact Nat.le_refl 1
  | bare _ inner | single _ inner | oneRun _ inner | oneConjunction _ inner =>
      exact inner
  | leadingBlank _ run =>
      exact Nat.le_succ_of_le run
  | parentheses | brackets | trailingBlank =>
      simp only [List.length_cons, List.length_append]
      omega
  | quantified | juxtapose | conjoin | alternate =>
      -- A conjunction has no state of its own, though it is written with a symbol.
      simp only [PatternTree.program, List.countP_append, List.countP_singleton,
        Instruction.isAtom, Instruction.isBranching, Bool.false_eq_true, if_true, if_false,
        List.length_append, List.length_cons]
      omega

/-- A text has at least as many bytes as lexemes. -/
theorem Lexeme.length_ofText_le
    (dialect : Dialect)
    (text : List Char) :
    (ofText dialect text).length ≤ Text.width text := by
  fun_induction ofText dialect text with
  | case1 =>
      exact Nat.le_refl 0
  | case2 first rest reading inductionHypothesis =>
      have positive : 0 < Text.width reading.1.text :=
        Text.width_pos (text_cut_ne_nil dialect first rest)
      have whole :
          Text.width reading.1.text + Text.width reading.2 = Text.width (first :: rest) := by
        rw [← Text.width_append, text_append_cut]
      rw [List.length_cons]
      omega

namespace Automaton

variable {dialect : Dialect}
variable {automaton : Automaton}

/-- The automaton of a source has at most one state more than the source has bytes. -/
theorem size_le_of_ofPattern
    {source : String}
    {settings : Settings}
    (built : Automaton.ofPattern dialect settings source = .ok automaton) :
    automaton.size ≤ source.utf8ByteSize + 1 := by
  obtain ⟨tree, holes, owned, parses, embodies⟩ := exists_embodies_of_ofPattern built
  obtain ⟨symbols, derived, isCut, derives, sameProgram⟩ := exists_derivation_of_parse parses
  obtain ⟨rfl, _⟩ := Lexeme.cut_iff.1 isCut
  have states := embodies.size_eq
  have symbols := derives.countP_le_length
  have lexemes := Lexeme.length_ofText_le dialect source.toList
  rw [← sameProgram] at states
  rw [List.length_map] at symbols
  rw [Text.width_eq_utf8ByteSize, String.ofList_toList] at lexemes
  omega

variable {ρ : Type} [Record ρ]
variable {tokens : Array ρ}

/-- A limit that allows as many rounds as there are threads makes no difference. -/
theorem Closed.exists_answer
    (closed : automaton.Closed)
    {limit : Nat}
    (enough : automaton.size * (tokens.size + 1) ≤ limit) :
    ∃ answer,
      automaton.matchesTokens dialect (some limit) tokens = .ok answer ∧
        automaton.matchesTokens dialect none tokens = .ok answer := by
  have search := closed.searchesBreadthFirst dialect tokens
  have bound := closed.rounds_lt_roundBound dialect none tokens
  simp only [roundBound] at bound
  by_cases accepts :
      ∃ thread,
        automaton.isAccepting thread.state = true ∧
          automaton.Reachable dialect tokens thread
  · obtain ⟨nearest, _, rounds, unlimited, limited⟩ := search.matched accepts
    have within : nearest ≤ limit := by
      omega
    exact ⟨true, by rw [limited, if_pos within], unlimited⟩
  · obtain ⟨farthest, _, rounds, unlimited, limited⟩ := search.unmatched accepts
    have within : farthest + 1 ≤ limit := by
      omega
    exact ⟨false, by rw [limited, if_pos within], unlimited⟩

end Automaton

namespace Matcher

/-- What the bytes of a source bound in a matcher that was built from it. -/
structure BoundedBySource
    (dialect : Dialect)
    (source flags : String)
    (settings : Settings)
    (matcher : Matcher Token) :
    Prop where
  size_le : matcher.automaton.size ≤ source.utf8ByteSize + 1
  /-- Whatever the limit, a search takes no more rounds than there are threads. -/
  rounds_le :
    ∀ {ρ : Type} [Record ρ] (records : Array ρ),
      (matcher.runRecords dialect records).rounds.size ≤
        (source.utf8ByteSize + 1) * (records.size + 1)
  /-- With a limit of as many rounds the answer is the one without a limit. -/
  answers :
    ∀ {ρ : Type} [Record ρ] (records : Array ρ) (limit : Nat),
      (source.utf8ByteSize + 1) * (records.size + 1) ≤ limit →
        ∃ limited unlimited answer,
          ofSource dialect source flags (settings.withStepLimit (some limit)) = .ok limited ∧
            ofSource dialect source flags (settings.withStepLimit none) = .ok unlimited ∧
            limited.matchesRecords dialect records = .ok answer ∧
            unlimited.matchesRecords dialect records = .ok answer

/-- A matcher is bounded by its source. -/
theorem ofSource_boundedBySource
    {dialect : Dialect}
    {source flags : String}
    {settings : Settings}
    {matcher : Matcher Token}
    (built : ofSource dialect source flags settings = .ok matcher) :
    matcher.BoundedBySource dialect source flags settings := by
  obtain ⟨automaton, builds, rfl⟩ := map_eq_ok_iff.1 built
  have size := Automaton.size_le_of_ofPattern builds
  obtain ⟨_, _, _, _, embodies⟩ := Automaton.exists_embodies_of_ofPattern builds
  have threads (count : Nat) :
      automaton.size * (count + 1) ≤ (source.utf8ByteSize + 1) * (count + 1) :=
    Nat.mul_le_mul_right _ size
  refine ⟨size, ?_, ?_⟩
  · intro ρ _ records
    have rounds := embodies.closed.rounds_lt_roundBound dialect settings.stepLimit records
    exact (Nat.le_of_lt_succ rounds).trans (threads records.size)
  · intro ρ _ records limit enough
    obtain ⟨answer, limited, unlimited⟩ :=
      embodies.closed.exists_answer ((threads records.size).trans enough)
    -- Building does not look at the limit.
    have rebuilds (limit : Option Nat) :
        Automaton.ofPattern dialect (settings.withStepLimit limit) source = .ok automaton :=
      builds
    exact ⟨_, _, answer, map_eq_ok_iff.2 ⟨_, rebuilds (some limit), rfl⟩,
      map_eq_ok_iff.2 ⟨_, rebuilds none, rfl⟩, limited, unlimited⟩

/-- Quantifiers over quantifiers, which lead from state to state without a token. -/
def nestedQuantifiers : String :=
  "((a?)*)+"

theorem ofPattern_nestedQuantifiers :
    Automaton.ofPattern .standard .standard nestedQuantifiers =
      .ok
        ⟨#[.branching "*" [1, 2], .branching "?" [3, 0], .branching "+" [0, 4],
            ⟨.atom (.word "a"), [0], false, "a"⟩, .final],
          0, 4, "word"⟩ := by
  cbv

/-- A matcher whose automaton has loops without a token is bounded by its source. -/
theorem boundedBySource_nestedQuantifiers :
    ∃ matcher,
      ofSource .standard nestedQuantifiers "" .standard = .ok matcher ∧
        matcher.BoundedBySource .standard nestedQuantifiers "" .standard := by
  obtain ⟨matcher, built⟩ :
      ∃ matcher, ofSource .standard nestedQuantifiers "" .standard = .ok matcher :=
    ⟨_, map_eq_ok_iff.2 ⟨_, ofPattern_nestedQuantifiers, rfl⟩⟩
  exact ⟨matcher, built, ofSource_boundedBySource built⟩

end Matcher

end TokenPattern
