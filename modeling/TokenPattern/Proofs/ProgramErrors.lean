import TokenPattern.Proofs.Embodiment

namespace TokenPattern

/-!
# Which lists of instructions are programs

Whether an automaton can be built, and at which instruction this fails, is seen
without building it: from a stack that only says which operands are the test of
a single token.
-/

/-- Carry out an instruction on a stack that says which operands test a single token, top first. -/
def Instruction.onSingles? :
    Instruction →
    List Bool →
    Option (List Bool)
  | .atom _, stack =>
      some (true :: stack)
  | .concat, _ :: _ :: stack =>
      some (false :: stack)
  | .connect .or, _ :: _ :: stack =>
      some (false :: stack)
  | .connect .and, second :: first :: stack =>
      if first = true ∧ second = true then some (true :: stack) else none
  | .quantify _, _ :: stack =>
      some (false :: stack)
  | _, _ =>
      none

/-- Carry out instructions on a stack that says which operands test a single token. -/
def singlesAfter? :
    List Instruction →
    List Bool →
    Option (List Bool)
  | [], stack => some stack
  | instruction :: rest, stack => (instruction.onSingles? stack).bind (singlesAfter? rest)

/-- An instruction cannot be carried out. -/
inductive Instruction.FailsOn
    (instruction : Instruction)
    (index : Nat)
    (stack : List Bool) :
    ProgramError → Prop where
  | missingOperand
      (few : stack.length < instruction.arity) :
      FailsOn instruction index stack (.malformed index .missingOperand)
  | conjunctionOperand
      {second first : Bool}
      {rest : List Bool}
      (isAnd : instruction = .connect .and)
      (operands : stack = second :: first :: rest)
      (notBoth : ¬ (first = true ∧ second = true)) :
      FailsOn instruction index stack (.conjunctionOperand index)

namespace Instruction

variable {instruction : Instruction}
variable {index : Nat}
variable {stack : List Bool}
variable {error other : ProgramError}

theorem FailsOn.onSingles?_eq (fails : instruction.FailsOn index stack error) :
    instruction.onSingles? stack = none := by
  cases fails with
  | missingOperand few =>
      cases instruction with
      | atom =>
          exact (Nat.not_lt_zero _ few).elim
      | concat =>
          match stack with
          | [] | [_] => rfl
      | connect operator =>
          match stack with
          | [] | [_] => cases operator <;> rfl
      | quantify operator =>
          match stack with
          | [] => rfl
  | conjunctionOperand isAnd operands notBoth =>
      rw [isAnd, operands, onSingles?, if_neg notBoth]

/-- An instruction fails in one way only. -/
theorem FailsOn.unique
    (fails : instruction.FailsOn index stack error)
    (failsToo : instruction.FailsOn index stack other) :
    error = other := by
  have enough
      {second first : Bool}
      {rest : List Bool}
      (isAnd : instruction = .connect .and)
      (operands : stack = second :: first :: rest) :
      ¬ stack.length < instruction.arity := by
    rw [isAnd, operands]
    simp [arity]
  cases fails with
  | missingOperand few =>
      cases failsToo with
      | missingOperand =>
          rfl
      | conjunctionOperand isAnd operands =>
          exact (enough isAnd operands few).elim
  | conjunctionOperand isAnd operands =>
      cases failsToo with
      | missingOperand few =>
          exact (enough isAnd operands few).elim
      | conjunctionOperand =>
          rfl

end Instruction

/-- Whether a tree is the test of a single token. -/
def PatternTree.isSingle (tree : PatternTree) : Bool :=
  tree.tests?.isSome

theorem PatternTree.isSome_predicate? (tree : PatternTree) :
    tree.predicate?.isSome = tree.isSingle := by
  cases tree <;> simp [predicate?, isSingle, tests?]

theorem PatternTree.isSingle_and (left right : PatternTree) :
    (connect .and left right).isSingle = (left.isSingle && right.isSingle) := by
  cases leftFound : left.tests? <;> cases rightFound : right.tests? <;>
    simp [isSingle, tests?, leftFound, rightFound]

/-- Which of the pieces on a stack test a single token. -/
def Piece.singles (pieces : List Piece) : List Bool :=
  pieces.map (·.tree.isSingle)

namespace Assembly

variable {assembly : Assembly}
variable {pieces : List Piece}

/-- Two pieces are joined to a conjunction exactly if both test a single token. -/
theorem isSome_conjoin?
    {first second : Piece}
    {rest : List Piece}
    (placed : Placed assembly.states (second :: first :: rest))
    (stack : List Fragment) :
    (assembly.conjoin? first.fragment second.fragment stack).isSome =
      (first.tree.isSingle && second.tree.isSingle) := by
  rw [← PatternTree.isSome_predicate?, ← PatternTree.isSome_predicate?,
    ← placed.tail.head.singleTest?_eq placed.tail.head_nodup,
    ← placed.head.singleTest?_eq placed.head_nodup, conjoin?]
  cases assembly.singleTest? first.fragment <;>
    cases assembly.singleTest? second.fragment <;> rfl

/-- A conjunction of two pieces is carried out if both test a single token. -/
theorem conjoin_cases
    {first second : Piece}
    {rest : List Piece}
    (holds : assembly.Holds (second :: first :: rest))
    (index : Nat) :
    (∃ executed left,
      assembly.execute index (.connect .and) = .ok executed ∧
        executed.Holds left ∧
        (Instruction.connect .and).onSingles? (Piece.singles (second :: first :: rest)) =
          some (Piece.singles left)) ∨
      ∃ error,
        assembly.execute index (.connect .and) = .error error ∧
          (Instruction.connect .and).FailsOn index
            (Piece.singles (second :: first :: rest)) error := by
  have stack := holds.stack
  -- Joining asks of the states what the trees say.
  have decides := isSome_conjoin? holds.placed (rest.map (·.fragment))
  cases conjoins : assembly.conjoin? first.fragment second.fragment
      (rest.map (·.fragment)) with
  | some joined =>
      rw [conjoins, Option.isSome_some, eq_comm, Bool.and_eq_true] at decides
      obtain ⟨piece, shape, _, left⟩ := conjoin?_holds holds.placed conjoins
      exact .inl ⟨joined, piece :: rest, by simp [execute, stack, conjoins], left,
        by simp [Piece.singles, Instruction.onSingles?, shape, PatternTree.isSingle_and,
          decides]⟩
  | none =>
      rw [conjoins, Option.isSome_none, eq_comm, Bool.and_eq_false_iff] at decides
      refine .inr ⟨.conjunctionOperand index, by simp [execute, stack, conjoins],
        .conjunctionOperand rfl rfl ?_⟩
      rintro ⟨firstSingle, secondSingle⟩
      simp [firstSingle, secondSingle] at decides

/-- An instruction is carried out as the stack of singles says, or fails as it says. -/
theorem execute_cases
    (holds : assembly.Holds pieces)
    (index : Nat)
    (instruction : Instruction) :
    (∃ executed left,
      assembly.execute index instruction = .ok executed ∧
        executed.Holds left ∧
        instruction.onSingles? (Piece.singles pieces) = some (Piece.singles left)) ∨
      ∃ error,
        assembly.execute index instruction = .error error ∧
          instruction.FailsOn index (Piece.singles pieces) error := by
  have stack := holds.stack
  have missing
      (fails :
        assembly.execute index instruction = .error (.malformed index .missingOperand))
      (few : pieces.length < instruction.arity) :
      ∃ error,
        assembly.execute index instruction = .error error ∧
          instruction.FailsOn index (Piece.singles pieces) error :=
    ⟨_, fails, .missingOperand (by simpa [Piece.singles] using few)⟩
  cases instruction with
  | atom test =>
      obtain ⟨piece, shape, _, left⟩ := atom_holds holds test
      exact .inl ⟨_, piece :: pieces, rfl, left,
        by simp [Piece.singles, Instruction.onSingles?, shape, PatternTree.isSingle,
          PatternTree.tests?]⟩
  | concat =>
      cases pieces with
      | nil =>
          exact .inr (missing (by simp [execute, stack]) (by simp [Instruction.arity]))
      | cons second others =>
          cases others with
          | nil =>
              exact .inr (missing (by simp [execute, stack]) (by simp [Instruction.arity]))
          | cons first rest =>
              obtain ⟨piece, shape, _, left⟩ := concatenate_holds holds.placed
              exact .inl ⟨_, piece :: rest, by simp [execute, stack], left,
                by simp [Piece.singles, Instruction.onSingles?, shape,
                  PatternTree.isSingle, PatternTree.tests?]⟩
  | connect operator =>
      cases pieces with
      | nil =>
          cases operator <;>
            exact .inr (missing (by simp [execute, stack]) (by simp [Instruction.arity]))
      | cons second others =>
          cases others with
          | nil =>
              cases operator <;>
                exact .inr (missing (by simp [execute, stack]) (by simp [Instruction.arity]))
          | cons first rest =>
              cases operator with
              | or =>
                  obtain ⟨piece, shape, _, left⟩ := alternate_holds holds.placed
                  exact .inl ⟨_, piece :: rest, by simp [execute, stack], left,
                    by simp [Piece.singles, Instruction.onSingles?, shape,
                      PatternTree.isSingle, PatternTree.tests?]⟩
              | and =>
                  exact conjoin_cases holds index
  | quantify operator =>
      cases pieces with
      | nil =>
          exact .inr (missing (by simp [execute, stack]) (by simp [Instruction.arity]))
      | cons body rest =>
          obtain ⟨piece, shape, _, left⟩ := quantify_holds holds.placed operator
          exact .inl ⟨_, piece :: rest, by simp [execute, stack], left,
            by simp [Piece.singles, Instruction.onSingles?, shape, PatternTree.isSingle,
              PatternTree.tests?]⟩

end Assembly

/-- The first instruction of a program that cannot be carried out fails with an error. -/
def FailsIn
    (index : Nat)
    (program : List Instruction)
    (stack : List Bool)
    (error : ProgramError) :
    Prop :=
  ∃ front instruction back reached,
    program = front ++ instruction :: back ∧
      singlesAfter? front stack = some reached ∧
      instruction.FailsOn (index + front.length) reached error

theorem singlesAfter?_append
    (front back : List Instruction)
    (stack : List Bool) :
    singlesAfter? (front ++ back) stack =
      (singlesAfter? front stack).bind (singlesAfter? back) := by
  induction front generalizing stack with
  | nil =>
      rfl
  | cons instruction rest inductionHypothesis =>
      rw [List.cons_append, singlesAfter?, singlesAfter?, Option.bind_assoc]
      exact congrArg _ (funext inductionHypothesis)

namespace FailsIn

variable {index : Nat}
variable {program : List Instruction}
variable {stack : List Bool}
variable {error other : ProgramError}

theorem singlesAfter?_eq (fails : FailsIn index program stack error) :
    singlesAfter? program stack = none := by
  obtain ⟨front, instruction, back, reached, rfl, passes, failsThere⟩ := fails
  rw [singlesAfter?_append, passes, Option.bind_some, singlesAfter?,
    failsThere.onSingles?_eq, Option.bind_none]

/-- Nothing is carried out behind an instruction that fails. -/
theorem length_le
    {front frontToo back backToo : List Instruction}
    {instruction : Instruction}
    {reached reachedToo : List Bool}
    (passes : singlesAfter? front stack = some reached)
    (failsThere : instruction.FailsOn (index + front.length) reached error)
    (passesToo : singlesAfter? frontToo stack = some reachedToo)
    (same : front ++ instruction :: back = frontToo ++ backToo) :
    frontToo.length ≤ front.length := by
  rcases List.append_eq_append_iff.1 same with
    ⟨between, longer, starts⟩ | ⟨between, shorter, _⟩
  · cases between with
    | nil =>
        have sameFront : frontToo = front := longer.trans (List.append_nil _)
        exact Nat.le_of_eq (congrArg List.length sameFront)
    | cons first others =>
        obtain ⟨rfl, _⟩ := List.cons.inj starts
        have stuck :=
          singlesAfter?_eq ⟨front, instruction, others, reached, longer, passes, failsThere⟩
        rw [passesToo] at stuck
        cases stuck
  · rw [shorter, List.length_append]
    exact Nat.le_add_right _ _

/-- A program fails in one way only. -/
theorem unique
    (fails : FailsIn index program stack error)
    (failsToo : FailsIn index program stack other) :
    error = other := by
  obtain ⟨front, instruction, back, reached, rfl, passes, failsThere⟩ := fails
  obtain ⟨frontToo, instructionToo, backToo, reachedToo, same, passesToo, failsThereToo⟩ :=
    failsToo
  -- Neither failure comes before the other.
  have sameLength : front.length = frontToo.length :=
    Nat.le_antisymm
      (length_le passesToo failsThereToo passes same.symm)
      (length_le passes failsThere passesToo same)
  obtain ⟨rfl, sameBack⟩ := List.append_inj same sameLength
  rw [passes] at passesToo
  cases passesToo
  obtain ⟨rfl, _⟩ := List.cons.inj sameBack
  exact failsThere.unique failsThereToo

end FailsIn

theorem failsIn_malformed_iff
    {program : List Instruction}
    {index : Nat}
    {fault : ProgramFault} :
    FailsIn 0 program [] (.malformed index fault) ↔
      fault = .missingOperand ∧
        ∃ front instruction back stack,
          program = front ++ instruction :: back ∧
            front.length = index ∧
            singlesAfter? front [] = some stack ∧
            stack.length < instruction.arity := by
  constructor
  · rintro ⟨front, instruction, back, stack, split, passes, failsOn⟩
    cases failsOn with
    | missingOperand few =>
        exact ⟨rfl, front, instruction, back, stack, split, (Nat.zero_add _).symm, passes, few⟩
  · rintro ⟨rfl, front, instruction, back, stack, split, rfl, passes, few⟩
    refine ⟨front, instruction, back, stack, split, passes, ?_⟩
    rw [Nat.zero_add]
    exact .missingOperand few

theorem failsIn_conjunctionOperand_iff
    {program : List Instruction}
    {index : Nat} :
    FailsIn 0 program [] (.conjunctionOperand index) ↔
      ∃ front back second first rest,
        program = front ++ .connect .and :: back ∧
          front.length = index ∧
          singlesAfter? front [] = some (second :: first :: rest) ∧
          ¬ (first = true ∧ second = true) := by
  constructor
  · rintro ⟨front, instruction, back, stack, split, passes, failsOn⟩
    cases failsOn with
    | conjunctionOperand isAnd operands notBoth =>
        subst isAnd operands
        exact ⟨front, back, _, _, _, split, (Nat.zero_add _).symm, passes, notBoth⟩
  · rintro ⟨front, back, second, first, rest, split, rfl, passes, notBoth⟩
    refine ⟨front, _, back, _, split, passes, ?_⟩
    rw [Nat.zero_add]
    exact .conjunctionOperand rfl rfl notBoth

namespace Assembly

variable {assembly : Assembly}
variable {pieces : List Piece}

/-- Instructions are carried out as the stack of singles says, or fail as it says. -/
theorem executeAll_cases
    (holds : assembly.Holds pieces)
    (index : Nat)
    (instructions : List Instruction) :
    (∃ executed left,
      assembly.executeAll index instructions = .ok executed ∧
        executed.Holds left ∧
        singlesAfter? instructions (Piece.singles pieces) = some (Piece.singles left)) ∨
      ∃ error,
        assembly.executeAll index instructions = .error error ∧
          FailsIn index instructions (Piece.singles pieces) error := by
  induction instructions generalizing assembly pieces index with
  | nil =>
      exact .inl ⟨assembly, pieces, rfl, holds, rfl⟩
  | cons instruction rest inductionHypothesis =>
      rw [executeAll]
      rcases execute_cases holds index instruction with
        ⟨between, betweenPieces, executes, betweenHolds, singles⟩ | ⟨error, fails, failsOn⟩
      · rw [executes, singlesAfter?, singles]
        rcases inductionHypothesis betweenHolds (index + 1) with
          runs | ⟨error, fails, front, failing, back, reached, rfl, passes, failsOn⟩
        · exact .inl runs
        · refine .inr ⟨error, fails, instruction :: front, failing, back, reached, rfl, ?_, ?_⟩
          · rw [singlesAfter?, singles]
            exact passes
          · rwa [List.length_cons, Nat.add_comm front.length, ← Nat.add_assoc]
      · rw [fails]
        exact .inr ⟨error, rfl, [], instruction, rest, _, rfl, rfl, failsOn⟩

end Assembly

namespace Automaton

variable {defaultAttribute : String}
variable {program : List Instruction}

/-- From a draft an automaton can be built: its final state is reached. -/
theorem exists_ofProgram
    (defaultAttribute : String)
    {draft : Assembly.Draft}
    (assembles : Assembly.ofProgram program = .ok draft) :
    ∃ automaton, ofProgram defaultAttribute program = .ok automaton := by
  obtain ⟨tree, holes, owned, final, _, laid, noDuplicates, found⟩ :=
    Assembly.ofProgram_laidOut assembles
  have embodies := laid.embodies found noDuplicates defaultAttribute
  rw [ofProgram, assembles]
  dsimp only
  split
  · exact ⟨_, rfl⟩
  · rename_i noAccepting
    have isFinal := embodies.final
    obtain ⟨inRange, isState⟩ := Array.getElem?_eq_some_iff.1 isFinal
    have notAccepting := Array.findIdx?_eq_none_iff.1 noAccepting _ (Array.getElem_mem inRange)
    rw [isState] at notAccepting
    cases notAccepting

/-- All ways in which building an automaton ends, as the stack of singles says. -/
theorem ofProgram_cases
    (defaultAttribute : String)
    (program : List Instruction) :
    (∃ automaton single,
      ofProgram defaultAttribute program = .ok automaton ∧
        singlesAfter? program [] = some [single]) ∨
      (∃ left,
        ofProgram defaultAttribute program =
            .error (.malformed program.length .notOneOperand) ∧
          singlesAfter? program [] = some left ∧
          left.length ≠ 1) ∨
      ∃ error,
        ofProgram defaultAttribute program = .error error ∧
          FailsIn 0 program [] error := by
  rcases Assembly.executeAll_cases Assembly.empty_holds 0 program with
    ⟨executed, left, executes, holds, singles⟩ | ⟨error, fails, failsIn⟩
  · have stack := holds.stack
    match left with
    | [piece] =>
        have assembles :
            Assembly.ofProgram program =
              .ok (Assembly.complete executed.states piece.fragment) := by
          simp [Assembly.ofProgram, executes, stack]
        obtain ⟨automaton, built⟩ := exists_ofProgram defaultAttribute assembles
        exact .inl ⟨automaton, _, built, singles⟩
    | [] =>
        refine .inr (.inl ⟨_, ?_, singles, by simp [Piece.singles]⟩)
        simp [ofProgram, Assembly.ofProgram, executes, stack]
    | first :: second :: rest =>
        refine .inr (.inl ⟨_, ?_, singles, by simp [Piece.singles]⟩)
        simp [ofProgram, Assembly.ofProgram, executes, stack]
  · refine .inr (.inr ⟨error, ?_, failsIn⟩)
    simp [ofProgram, Assembly.ofProgram, fails]

theorem exists_ofProgram_iff :
    (∃ automaton, ofProgram defaultAttribute program = .ok automaton) ↔
      ∃ single, singlesAfter? program [] = some [single] := by
  rcases ofProgram_cases defaultAttribute program with
    ⟨automaton, single, isOk, singles⟩ | ⟨left, isError, singles, notOne⟩ |
      ⟨error, isError, failsIn⟩
  · simp [isOk, singles]
  · simp only [isError, reduceCtorEq, exists_false, singles, Option.some.injEq, false_iff]
    rintro ⟨single, rfl⟩
    exact notOne rfl
  · simp [isError, failsIn.singlesAfter?_eq]

theorem ofProgram_eq_error_iff {error : ProgramError} :
    ofProgram defaultAttribute program = .error error ↔
      FailsIn 0 program [] error ∨
        error = .malformed program.length .notOneOperand ∧
          ∃ stack, singlesAfter? program [] = some stack ∧ stack.length ≠ 1 := by
  have passes
      {stack : List Bool}
      (singles : singlesAfter? program [] = some stack) :
      ¬ FailsIn 0 program [] error := by
    intro failsIn
    rw [failsIn.singlesAfter?_eq] at singles
    cases singles
  rcases ofProgram_cases defaultAttribute program with
    ⟨automaton, single, isOk, singles⟩ | ⟨left, isError, singles, notOne⟩ |
      ⟨found, isError, failsIn⟩
  · simp [isOk, singles, passes singles]
  · simp [isError, singles, passes singles, notOne, eq_comm]
  · simp only [isError, Except.error.injEq, failsIn.singlesAfter?_eq, reduceCtorEq, false_and,
      exists_false, and_false, or_false]
    constructor
    · rintro rfl
      exact failsIn
    · exact failsIn.unique

/-- The stack of singles says whether an automaton is built and, if not, where and why. -/
structure DecidedBySingles
    (defaultAttribute : String)
    (program : List Instruction) :
    Prop where
  /-- Some instruction is the first that cannot be carried out, and finds too few operands. -/
  missingOperand_iff :
    ∀ index,
      (∃ fault,
        fault.text = "missing operand" ∧
          ofProgram defaultAttribute program = .error (.malformed index fault)) ↔
        ∃ front instruction back stack,
          program = front ++ instruction :: back ∧
            front.length = index ∧
            singlesAfter? front [] = some stack ∧
            stack.length < instruction.arity
  /-- Some instruction is the first that cannot be carried out, and joins more than tests. -/
  conjunctionOperand_iff :
    ∀ index,
      ofProgram defaultAttribute program = .error (.conjunctionOperand index) ↔
        ∃ front back second first rest,
          program = front ++ .connect .and :: back ∧
            front.length = index ∧
            singlesAfter? front [] = some (second :: first :: rest) ∧
            ¬ (first = true ∧ second = true)
  notOneOperand_iff :
    ∀ index,
      (∃ fault,
        fault.text = "expected exactly one fragment" ∧
          ofProgram defaultAttribute program = .error (.malformed index fault)) ↔
        index = program.length ∧
          ∃ stack, singlesAfter? program [] = some stack ∧ stack.length ≠ 1
  ok_iff :
    (∃ automaton, ofProgram defaultAttribute program = .ok automaton) ↔
      ∃ single, singlesAfter? program [] = some [single]
  acceptance_reachable :
    ∀ index fault,
      ofProgram defaultAttribute program = .error (.malformed index fault) →
        fault.text ≠ "accepting state is unreachable"

/-- The stack of singles decides on every list of instructions. -/
theorem ofProgram_decidedBySingles
    (defaultAttribute : String)
    (program : List Instruction) :
    DecidedBySingles defaultAttribute program where
  missingOperand_iff index := by
    simp only [ofProgram_eq_error_iff, failsIn_malformed_iff, ProgramError.malformed.injEq]
    constructor
    · rintro ⟨fault, text, ⟨-, missing⟩ | ⟨⟨-, rfl⟩, -⟩⟩
      · exact missing
      · exact absurd text (by decide)
    · intro missing
      exact ⟨.missingOperand, rfl, .inl ⟨rfl, missing⟩⟩
  conjunctionOperand_iff index := by
    simp only [ofProgram_eq_error_iff, failsIn_conjunctionOperand_iff, reduceCtorEq, false_and,
      or_false]
  notOneOperand_iff index := by
    simp only [ofProgram_eq_error_iff, failsIn_malformed_iff, ProgramError.malformed.injEq]
    constructor
    · rintro ⟨fault, text, ⟨rfl, -⟩ | ⟨⟨atEnd, -⟩, notOne⟩⟩
      · exact absurd text (by decide)
      · exact ⟨atEnd, notOne⟩
    · rintro ⟨atEnd, notOne⟩
      exact ⟨.notOneOperand, rfl, .inr ⟨⟨atEnd, rfl⟩, notOne⟩⟩
  ok_iff := exists_ofProgram_iff
  acceptance_reachable index fault isError := by
    rw [ofProgram_eq_error_iff, failsIn_malformed_iff, ProgramError.malformed.injEq] at isError
    rcases isError with ⟨rfl, -⟩ | ⟨⟨-, rfl⟩, -⟩ <;> decide

end Automaton

end TokenPattern
