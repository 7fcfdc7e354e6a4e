import TokenPattern.CommandLine
import TokenPattern.Proofs.AbandonedOperands
import TokenPattern.Proofs.MatcherHistory
import TokenPattern.Proofs.TestedSearch

namespace TokenPattern

/-!
# Errors that a text can lead to

A text is no pattern, or it has a conjunction of more than tests: nothing else
keeps a matcher from being built from it.  A matcher that was built answers all
searches within its limit.  The other errors guard against programs and records
that no text leads to.
-/

/-- The errors that can keep a matcher from being built from a source. -/
inductive FaultOf (dialect : Dialect) (source : String) : BuildError → Prop where
  | notAPattern
      {error : SyntaxError}
      (fails : parse dialect source = .error error) :
      FaultOf dialect source (.notAPattern error)
  | conjunctionOperand
      {program : List Instruction}
      {index : Nat}
      (parses : parse dialect source = .ok program)
      (isConjunction : program[index]? = some (.connect .and)) :
      FaultOf dialect source (.notAProgram (.conjunctionOperand index))

variable {dialect : Dialect}
variable {source flags : String}
variable {settings : Settings}

/-- The program of a pattern leaves one operand. -/
theorem depthAfter?_of_parse
    {program : List Instruction}
    (parses : parse dialect source = .ok program) :
    depthAfter? program 0 = some 1 := by
  have starts := Parser.accounts_ofPattern dialect source
  rcases starts.parse with ⟨found, isFound, leaves, _⟩ | ⟨error, _, isError, _⟩
  · have same : Except.ok program = .ok found := parses.symm.trans isFound
    cases same
    exact leaves
  · have impossible : Except.ok program = .error error := parses.symm.trans isError
    cases impossible

/-- All ways in which building an automaton from a source ends. -/
theorem Automaton.ofPattern_cases
    (dialect : Dialect)
    (settings : Settings)
    (source : String) :
    (∃ automaton, Automaton.ofPattern dialect settings source = .ok automaton) ∨
      ∃ error,
        Automaton.ofPattern dialect settings source = .error error ∧
          FaultOf dialect source error := by
  unfold Automaton.ofPattern
  cases parses : parse dialect source with
  | error error =>
      exact .inr ⟨.notAPattern error, rfl, .notAPattern parses⟩
  | ok program =>
      have leaves := depthAfter?_of_parse parses
      rcases Automaton.ofProgram_of_depth settings.defaultAttribute leaves with
        ⟨automaton, built, _⟩ | ⟨index, isConjunction, refused⟩ | ⟨_, notOne⟩
      · exact .inl ⟨automaton, by simp only [built]⟩
      · exact .inr ⟨.notAProgram (.conjunctionOperand index), by simp only [refused],
          .conjunctionOperand parses isConjunction⟩
      · exact (notOne rfl).elim

namespace Matcher

variable {matcher : Matcher Token}

theorem ofSource_cases
    (dialect : Dialect)
    (source flags : String)
    (settings : Settings) :
    (∃ matcher, ofSource dialect source flags settings = .ok matcher) ∨
      ∃ error,
        ofSource dialect source flags settings = .error error ∧
          FaultOf dialect source error := by
  unfold ofSource
  rcases Automaton.ofPattern_cases dialect settings source with
    ⟨automaton, built⟩ | ⟨error, fails, isFault⟩
  · exact .inl ⟨_, map_eq_ok_iff.2 ⟨automaton, built, rfl⟩⟩
  · exact .inr ⟨error, by simp only [fails, Except.map], isFault⟩

/-- A matcher that was built answers as the loop of its search does, within its limit. -/
theorem matchesRecords_of_ofSource
    (built : ofSource dialect source flags settings = .ok matcher)
    {ρ : Type}
    [Record ρ]
    (records : Array ρ) :
    (∀ result,
      matcher.automaton.SearchLoop dialect settings.stepLimit records 0
          (.start matcher.automaton) result ↔
        result = matcher.matchesRecords dialect records) ∧
      Automaton.AnswersWithin settings.stepLimit (matcher.matchesRecords dialect records) := by
  obtain ⟨automaton, builds, rfl⟩ := map_eq_ok_iff.1 built
  obtain ⟨_, _, _, _, embodies⟩ := Automaton.exists_embodies_of_ofPattern builds
  refine ⟨fun result => embodies.closed.searchLoop_iff, ?_⟩
  exact (embodies.closed.searchLoop_iff.2 rfl).answersWithin

end Matcher

/-- Only faults of a text itself, and limits that are set, are ever reported of it. -/
structure ReportsOnlyFaults (dialect : Dialect) (source : String) : Prop where
  builds :
    ∀ flags settings,
      (∃ matcher, Matcher.ofSource dialect source flags settings = .ok matcher) ∨
        ∃ error,
          Matcher.ofSource dialect source flags settings = .error error ∧
            FaultOf dialect source error
  /-- The loop of a search ends with one result, which is an answer or the limit. -/
  searches :
    ∀ flags settings matcher,
      Matcher.ofSource dialect source flags settings = .ok matcher →
        ∀ {ρ : Type} [Record ρ] (records : Array ρ),
          (∀ result,
            matcher.automaton.SearchLoop dialect settings.stepLimit records 0
                (.start matcher.automaton) result ↔
              result = matcher.matchesRecords dialect records) ∧
            Automaton.AnswersWithin settings.stepLimit
              (matcher.matchesRecords dialect records)
  /-- Texts are searched likewise, whatever cuts them. -/
  searchesText :
    ∀ flags settings matcher,
      Matcher.ofSource dialect source flags settings = .ok matcher →
        ∀ text,
          Automaton.AnswersWithin settings.stepLimit (matcher.matchesText dialect text) ∧
            ∀ {ρ : Type} [Record ρ] (tokenizer : Tokenizer ρ),
              Automaton.AnswersWithin settings.stepLimit
                ((matcher.withTokenizer tokenizer).matchesText dialect text)
  /-- The program fails with the message of such a fault or not at all. -/
  runs :
    ∀ text,
      (∃ answer, CommandLine.run dialect [source, text] = CommandLine.success answer) ∨
        ∃ error,
          FaultOf dialect source error ∧
            CommandLine.run dialect [source, text] = CommandLine.failure error.message

/-- No text leads to an error that is not its own. -/
theorem reportsOnlyFaults
    (dialect : Dialect)
    (source : String) :
    ReportsOnlyFaults dialect source := by
  refine ⟨?_, ?_, ?_, ?_⟩
  · intro flags settings
    exact Matcher.ofSource_cases dialect source flags settings
  · intro flags settings matcher built ρ _ records
    exact Matcher.matchesRecords_of_ofSource built records
  · intro flags settings matcher built text
    constructor
    · exact (Matcher.matchesRecords_of_ofSource built _).2
    · intro ρ _ tokenizer
      exact (Matcher.matchesRecords_of_ofSource built (tokenizer.tokenize text).toArray).2
  · intro text
    simp only [CommandLine.run, CommandLine.answer?]
    rcases Matcher.ofSource_cases dialect source "" .standard with
      ⟨matcher, built⟩ | ⟨error, fails, isFault⟩
    · have within : Automaton.AnswersWithin none (matcher.matchesText dialect text) :=
        (Matcher.matchesRecords_of_ofSource built _).2
      rcases within with ⟨answer, answers⟩ | ⟨_, isLimit, _⟩
      · exact .inl ⟨answer, by simp only [built, answers]⟩
      · cases isLimit
    · exact .inr ⟨error, isFault, by simp only [fails, Error.message]⟩

end TokenPattern
