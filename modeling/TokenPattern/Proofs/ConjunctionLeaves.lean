import TokenPattern.Automaton.Assembly
import TokenPattern.Proofs.Threads

namespace TokenPattern

/-!
# The leaves of conjunctions

Conjunctions may stand in conjunctions to any depth.  What a conjunction says of
a record depends on the leaves below it alone: whether each of them, tested by
itself, passes.  An epsilon predicate among them is no test and makes the
conjunction fail, although by itself it would let a thread go on.
-/

namespace Predicate

mutual

/-- The predicates below the conjunctions in a predicate, from the left. -/
def leaves : Predicate → List Predicate
  | .atom test => [.atom test]
  | .conjunction parts => leavesOfParts parts
  | .alwaysTrue => [.alwaysTrue]
  | .epsilon => [.epsilon]

/-- The leaves of the parts of a conjunction. -/
def leavesOfParts : List Predicate → List Predicate
  | [] => []
  | part :: rest => part.leaves ++ leavesOfParts rest

end

example :
    leaves (.conjunction
      [.conjunction [.epsilon, .conjunction []], .conjunction [.conjunction [.alwaysTrue]]]) =
      [.epsilon, .alwaysTrue] := by
  decide

theorem leavesOfParts_append (front back : List Predicate) :
    leavesOfParts (front ++ back) = leavesOfParts front ++ leavesOfParts back := by
  induction front with
  | nil =>
      rfl
  | cons part rest inductionHypothesis =>
      simp [leavesOfParts, inductionHypothesis]

mutual

/-- The leaves of a predicate are leaves themselves. -/
theorem leavesOfParts_leaves (predicate : Predicate) :
    leavesOfParts predicate.leaves = predicate.leaves := by
  cases predicate with
  | conjunction parts =>
      exact leavesOfParts_leavesOfParts parts
  | atom | alwaysTrue | epsilon =>
      rfl

theorem leavesOfParts_leavesOfParts (parts : List Predicate) :
    leavesOfParts (leavesOfParts parts) = leavesOfParts parts := by
  cases parts with
  | nil =>
      rfl
  | cons part rest =>
      simp [leavesOfParts, leavesOfParts_append, leavesOfParts_leaves part,
        leavesOfParts_leavesOfParts rest]

end

/-- What a predicate contributes to a conjunction has the leaves of the predicate. -/
theorem leavesOfParts_conjuncts (predicate : Predicate) :
    leavesOfParts (Assembly.conjuncts predicate) = predicate.leaves := by
  cases predicate <;> simp [Assembly.conjuncts, leaves, leavesOfParts]

end Predicate

variable {ρ : Type} [Record ρ]

/-- A record passes a predicate that is a test, tested by itself. -/
def Predicate.Fits
    (dialect : Dialect)
    (defaultAttribute : String)
    (record : ρ)
    (leaf : Predicate) : Prop :=
  leaf ≠ .epsilon ∧ leaf.outcome dialect defaultAttribute record = .pass

instance
    (dialect : Dialect)
    (defaultAttribute : String)
    (record : ρ) :
    DecidablePred (Predicate.Fits dialect defaultAttribute record) :=
  fun _ => instDecidableAnd

/-- What conjunctions and epsilon predicates say of a record. -/
structure MeansItsLeaves
    (dialect : Dialect)
    (defaultAttribute : String)
    (record : ρ) : Prop where
  /-- A conjunction passes if all its leaves fit by themselves, and fails otherwise. -/
  outcome_eq :
    ∀ parts,
      (Predicate.conjunction parts).outcome dialect defaultAttribute record =
        if ∀ leaf ∈ Predicate.leavesOfParts parts,
            leaf.Fits dialect defaultAttribute record then
          .pass
        else
          .fail
  /-- The order of the leaves, their grouping and their number make no difference. -/
  sameLeaves :
    ∀ parts others,
      (∀ leaf,
        leaf ∈ Predicate.leavesOfParts parts ↔
          leaf ∈ Predicate.leavesOfParts others) →
        (Predicate.conjunction parts).outcome dialect defaultAttribute record =
          (Predicate.conjunction others).outcome dialect defaultAttribute record
  /-- A conjunction can be replaced by that of its leaves. -/
  flatten :
    ∀ parts,
      (Predicate.conjunction (Predicate.leavesOfParts parts)).outcome
          dialect defaultAttribute record =
        (Predicate.conjunction parts).outcome dialect defaultAttribute record
  /-- Parts next to each other can be grouped. -/
  regroup :
    ∀ front middle back,
      (Predicate.conjunction (front ++ .conjunction middle :: back)).outcome
          dialect defaultAttribute record =
        (Predicate.conjunction (front ++ middle ++ back)).outcome dialect defaultAttribute record
  /-- What an automaton tests for two operands is their conjunction. -/
  conjuncts :
    ∀ left right,
      (Predicate.conjunction (Assembly.conjuncts left ++ Assembly.conjuncts right)).outcome
          dialect defaultAttribute record =
        (Predicate.conjunction [left, right]).outcome dialect defaultAttribute record
  test_epsilon_iff :
    ∀ predicate : Predicate,
      predicate.test dialect defaultAttribute (some record) = .ok .epsilon ↔
        predicate.isEpsilon = true
  /-- The successors of a state run at its own position for the same predicates at each
  position, be it before a token or behind the last one. -/
  stays_iff :
    ∀ (automaton : Automaton) (tokens : Array ρ) (position : Nat) (predicate : Predicate),
      automaton.landing? dialect tokens position predicate = some position ↔
        predicate.isEpsilon = true

variable {dialect : Dialect}
variable {defaultAttribute : String}
variable {record : ρ}

theorem Outcome.ofBool_eq_pass_iff {passes : Bool} :
    Outcome.ofBool passes = .pass ↔ passes = true := by
  cases passes <;> simp [ofBool]

namespace Predicate

mutual

/-- A predicate passes a record exactly if all its leaves fit the record. -/
theorem outcome_eq_pass_iff (predicate : Predicate) :
    predicate.outcome dialect defaultAttribute record = .pass ↔
      ∀ leaf ∈ predicate.leaves, leaf.Fits dialect defaultAttribute record := by
  cases predicate with
  | conjunction parts =>
      rw [outcome, Outcome.ofBool_eq_pass_iff]
      exact allPass_iff parts
  | atom | alwaysTrue | epsilon =>
      simp [leaves, Fits, outcome]

/-- Parts all pass a record exactly if all their leaves fit the record. -/
theorem allPass_iff (parts : List Predicate) :
    allPass dialect defaultAttribute record parts = true ↔
      ∀ leaf ∈ leavesOfParts parts, leaf.Fits dialect defaultAttribute record := by
  cases parts with
  | nil =>
      simp [allPass, leavesOfParts]
  | cons part rest =>
      simp only [allPass, leavesOfParts, List.forall_mem_append, Bool.and_eq_true,
        decide_eq_true_eq, outcome_eq_pass_iff part, allPass_iff rest]

end

/-- A conjunction passes or fails by its leaves. -/
theorem outcome_conjunction (parts : List Predicate) :
    (conjunction parts).outcome dialect defaultAttribute record =
      if ∀ leaf ∈ leavesOfParts parts, leaf.Fits dialect defaultAttribute record then
        .pass
      else
        .fail := by
  by_cases fit : ∀ leaf ∈ leavesOfParts parts, leaf.Fits dialect defaultAttribute record
  · have pass := (allPass_iff parts).mpr fit
    simp [outcome, pass, if_pos fit, Outcome.ofBool]
  · have notPass := mt (allPass_iff parts).mp fit
    simp [outcome, notPass, if_neg fit, Outcome.ofBool]

/-- Conjunctions with the same leaves have the same outcome. -/
theorem outcome_conjunction_congr
    {parts others : List Predicate}
    (same : ∀ leaf, leaf ∈ leavesOfParts parts ↔ leaf ∈ leavesOfParts others) :
    (conjunction parts).outcome dialect defaultAttribute record =
      (conjunction others).outcome dialect defaultAttribute record := by
  simp [outcome_conjunction, same]

end Predicate

/-- A predicate leads on at the same position exactly if it is the epsilon predicate. -/
theorem Automaton.landing?_eq_self_iff
    (automaton : Automaton)
    (tokens : Array ρ)
    (position : Nat)
    (predicate : Predicate) :
    automaton.landing? dialect tokens position predicate = some position ↔
      predicate.isEpsilon = true := by
  simp [landing?_eq_some_iff, Predicate.isEpsilon_iff]

/-- A conjunction means its leaves, and only the epsilon predicate leaves a token alone. -/
theorem meansItsLeaves
    (dialect : Dialect)
    (defaultAttribute : String)
    (record : ρ) :
    MeansItsLeaves dialect defaultAttribute record where
  outcome_eq :=
    Predicate.outcome_conjunction
  sameLeaves _ _ :=
    Predicate.outcome_conjunction_congr
  flatten parts := by
    apply Predicate.outcome_conjunction_congr
    simp [Predicate.leavesOfParts_leavesOfParts]
  regroup front middle back := by
    apply Predicate.outcome_conjunction_congr
    simp [Predicate.leavesOfParts_append, Predicate.leavesOfParts, Predicate.leaves]
  conjuncts left right := by
    apply Predicate.outcome_conjunction_congr
    simp [Predicate.leavesOfParts_append, Predicate.leavesOfParts_conjuncts,
      Predicate.leavesOfParts]
  test_epsilon_iff predicate := by
    simp [Predicate.test, Predicate.outcome_eq_epsilon_iff, Predicate.isEpsilon_iff]
  stays_iff :=
    Automaton.landing?_eq_self_iff

end TokenPattern
