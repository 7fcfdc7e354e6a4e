import Mathlib.Computability.Language
import TokenPattern.Proofs.PatternTree
import TokenPattern.Predicate

namespace TokenPattern

/-!
# The language of a tree

A pattern describes sequences of records.  This is said here without any
automaton: an atom describes single records, and the operators are those of
regular languages, together with the conjunction of tests on one record.
-/

section

variable {ρ : Type} [Record ρ]

/-- What a test says of a record. -/
def Atom.Holds
    (dialect : Dialect)
    (defaultAttribute : String)
    (record : ρ) :
    Atom → Prop
  | .word text =>
      Record.attribute? record defaultAttribute = some text
  | .found charPattern =>
      ∃ text,
        Record.attribute? record defaultAttribute = some text ∧
          dialect.finds charPattern.source text = true
  | .attributeIs name (.literal text) =>
      Record.attribute? record name = some text
  | .attributeIs name (.pattern charPattern) =>
      ∃ text,
        Record.attribute? record name = some text ∧
          dialect.finds charPattern.source text = true

/-- The sequences of records that a tree describes. -/
def PatternTree.language
    (ρ : Type)
    [Record ρ]
    (dialect : Dialect)
    (defaultAttribute : String) :
    PatternTree → Language ρ
  | .atom test =>
      {word | ∃ record, word = [record] ∧
        test.Holds dialect defaultAttribute record}
  | .concat first second =>
      first.language ρ dialect defaultAttribute *
        second.language ρ dialect defaultAttribute
  | .connect .or left right =>
      left.language ρ dialect defaultAttribute +
        right.language ρ dialect defaultAttribute
  | .connect .and left right =>
      {word | (∃ record, word = [record]) ∧
        word ∈ left.language ρ dialect defaultAttribute ∧
        word ∈ right.language ρ dialect defaultAttribute}
  | .quantify .maybe body =>
      1 + body.language ρ dialect defaultAttribute
  | .quantify .star body =>
      KStar.kstar (body.language ρ dialect defaultAttribute)
  | .quantify .plus body =>
      body.language ρ dialect defaultAttribute *
        KStar.kstar (body.language ρ dialect defaultAttribute)

variable {dialect : Dialect}
variable {defaultAttribute : String}
variable {record : ρ}

/-- A literal fits exactly itself. -/
theorem Value.fits_literal_iff
    {expected : String}
    {found : Option String} :
    (Value.literal expected).fits dialect found = true ↔
      found = some expected := by
  cases found <;> simp [Value.fits]

/-- A character pattern fits the texts in which it is found. -/
theorem Value.fits_pattern_iff
    {charPattern : CharPattern}
    {found : Option String} :
    (Value.pattern charPattern).fits dialect found = true ↔
      ∃ text,
        found = some text ∧
          dialect.finds charPattern.source text = true := by
  cases found <;> simp [Value.fits]

/-- A record passes a test exactly if what the test says of it holds. -/
theorem Atom.passes_iff_holds {test : Atom} :
    test.passes dialect defaultAttribute record = true ↔
      test.Holds dialect defaultAttribute record := by
  cases test with
  | word text =>
      exact Value.fits_literal_iff
  | found charPattern =>
      exact Value.fits_pattern_iff
  | attributeIs name value =>
      cases value with
      | literal text =>
          exact Value.fits_literal_iff
      | pattern charPattern =>
          exact Value.fits_pattern_iff

namespace Predicate

/-- An atom's predicate passes the records of which its test holds. -/
theorem outcome_atom_eq_pass_iff {test : Atom} :
    (Predicate.atom test).outcome dialect defaultAttribute record = .pass ↔
      test.Holds dialect defaultAttribute record := by
  rw [← Atom.passes_iff_holds, outcome]
  cases test.passes dialect defaultAttribute record <;> simp [Outcome.ofBool]

/-- Atoms all pass if the tests of all of them hold. -/
theorem allPass_atoms_iff {tests : List Atom} :
    allPass dialect defaultAttribute record (tests.map .atom) = true ↔
      ∀ test ∈ tests, test.Holds dialect defaultAttribute record := by
  induction tests with
  | nil =>
      simp [allPass]
  | cons test rest inductionHypothesis =>
      simp [allPass, inductionHypothesis, outcome_atom_eq_pass_iff]

/-- A conjunction of atoms passes the records of which all tests hold. -/
theorem outcome_conjunction_eq_pass_iff {tests : List Atom} :
    (Predicate.conjunction (tests.map .atom)).outcome
        dialect defaultAttribute record = .pass ↔
      ∀ test ∈ tests, test.Holds dialect defaultAttribute record := by
  rw [← allPass_atoms_iff, outcome]
  cases allPass dialect defaultAttribute record (tests.map .atom) <;>
    simp [Outcome.ofBool]

/-- The outcome is epsilon for the epsilon predicate alone. -/
theorem outcome_eq_epsilon_iff {predicate : Predicate} :
    predicate.outcome dialect defaultAttribute record = .epsilon ↔
      predicate = .epsilon := by
  cases predicate with
  | atom test =>
      cases passes : test.passes dialect defaultAttribute record <;>
        simp [outcome, Outcome.ofBool, passes]
  | conjunction parts =>
      cases pass : allPass dialect defaultAttribute record parts <;>
        simp [outcome, Outcome.ofBool, pass]
  | alwaysTrue | epsilon =>
      simp [outcome]

/-- Whether a predicate is epsilon can be computed. -/
theorem isEpsilon_iff {predicate : Predicate} :
    predicate.isEpsilon = true ↔ predicate = .epsilon := by
  cases predicate <;> simp [isEpsilon]

end Predicate

/-- A tree that stands for one token describes the records of which its tests hold. -/
theorem PatternTree.mem_language_of_tests?
    {tree : PatternTree}
    {tests : List Atom}
    (single : tree.tests? = some tests)
    (word : List ρ) :
    word ∈ tree.language ρ dialect defaultAttribute ↔
      ∃ record,
        word = [record] ∧
          ∀ test ∈ tests, test.Holds dialect defaultAttribute record := by
  induction tree generalizing tests with
  | atom test =>
      cases single
      simp only [List.mem_singleton, forall_eq]
      rfl
  | concat =>
      cases single
  | connect operator left right leftHypothesis rightHypothesis =>
      cases operator with
      | or =>
          cases single
      | and =>
          obtain ⟨leftTests, rightTests, leftSingle, rightSingle, rfl⟩ :=
            tests?_and_eq_some_iff.1 single
          constructor
          · rintro ⟨⟨record, rfl⟩, inLeft, inRight⟩
            obtain ⟨_, sameLeft, leftHold⟩ :=
              (leftHypothesis leftSingle).1 inLeft
            obtain ⟨_, sameRight, rightHold⟩ :=
              (rightHypothesis rightSingle).1 inRight
            cases sameLeft
            cases sameRight
            exact ⟨record, rfl, List.forall_mem_append.2 ⟨leftHold, rightHold⟩⟩
          · rintro ⟨record, rfl, hold⟩
            obtain ⟨leftHold, rightHold⟩ := List.forall_mem_append.1 hold
            exact ⟨⟨record, rfl⟩,
              (leftHypothesis leftSingle).2 ⟨record, rfl, leftHold⟩,
              (rightHypothesis rightSingle).2 ⟨record, rfl, rightHold⟩⟩
  | quantify =>
      cases single

end

end TokenPattern
