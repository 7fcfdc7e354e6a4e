import TokenPattern.Proofs.ProgramErrors

namespace TokenPattern

/-!
# How many operands a program leaves

Each instruction takes operands from a stack and puts its result there, so the
arities alone tell how many operands a program leaves.  A list of instructions
that leaves one operand is never malformed: a conjunction of more than tests is
all that can be wrong with it.
-/

/-- Carry out an instruction on a stack with the given number of operands. -/
def Instruction.onDepth? (instruction : Instruction) (depth : Nat) : Option Nat :=
  if instruction.arity ≤ depth then some (depth - instruction.arity + 1) else none

/-- Carry out instructions, from the left, on a stack with the given number of operands. -/
def depthAfter? :
    List Instruction →
    Nat →
    Option Nat
  | [], depth => some depth
  | instruction :: rest, depth => (instruction.onDepth? depth).bind (depthAfter? rest)

theorem depthAfter?_append
    (front back : List Instruction)
    (depth : Nat) :
    depthAfter? (front ++ back) depth =
      (depthAfter? front depth).bind (depthAfter? back) := by
  induction front generalizing depth with
  | nil =>
      rfl
  | cons instruction rest inductionHypothesis =>
      simp only [List.cons_append, depthAfter?, Option.bind_assoc]
      exact congrArg _ (funext inductionHypothesis)

/-- What follows instructions is carried out on the operands that they leave. -/
theorem depthAfter?_append_of_some
    {front : List Instruction}
    {depth reached : Nat}
    (leaves : depthAfter? front depth = some reached)
    (back : List Instruction) :
    depthAfter? (front ++ back) depth = depthAfter? back reached := by
  simp only [depthAfter?_append, leaves, Option.bind_some]

@[simp] theorem depthAfter?_singleton
    (instruction : Instruction)
    (depth : Nat) :
    depthAfter? [instruction] depth = instruction.onDepth? depth := by
  cases onDepth : instruction.onDepth? depth <;>
    simp [depthAfter?, onDepth]

/-- Operators take one more operand than they are and leave one. -/
theorem depthAfter?_connect
    (operators : List Connective)
    (below : Nat) :
    depthAfter? (operators.map .connect) (below + operators.length + 1) =
      some (below + 1) := by
  induction operators with
  | nil =>
      rfl
  | cons operator rest inductionHypothesis =>
      have enough : 2 ≤ below + (rest.length + 1) + 1 := by
        omega
      have taken :
          below + (rest.length + 1) + 1 - 2 + 1 = below + rest.length + 1 := by
        omega
      simp only [List.map_cons, List.length_cons, depthAfter?,
        Instruction.onDepth?, Instruction.arity, if_pos enough, taken,
        Option.bind_some]
      exact inductionHypothesis

/-- An instruction that can be carried out on a stack of singles finds its operands. -/
theorem Instruction.onDepth?_of_onSingles?
    {instruction : Instruction}
    {stack left : List Bool}
    (carries : instruction.onSingles? stack = some left) :
    instruction.onDepth? stack.length = some left.length := by
  unfold Instruction.onSingles? at carries
  split at carries
  case h_4 =>
    -- A conjunction takes its operands only if both test a single token.
    split at carries
    · cases carries
      simp [onDepth?, arity]
    · cases carries
  case h_6 =>
    cases carries
  all_goals
    cases carries
    simp [onDepth?, arity]

theorem depthAfter?_of_singlesAfter?
    {program : List Instruction}
    {stack left : List Bool}
    (carries : singlesAfter? program stack = some left) :
    depthAfter? program stack.length = some left.length := by
  induction program generalizing stack with
  | nil =>
      cases carries
      rfl
  | cons instruction rest inductionHypothesis =>
      obtain ⟨between, first, others⟩ := Option.bind_eq_some_iff.1 carries
      simp only [depthAfter?, Instruction.onDepth?_of_onSingles? first, Option.bind_some]
      exact inductionHypothesis others

/-- Instructions of which one lacks an operand leave nothing. -/
theorem depthAfter?_of_failsIn
    {program : List Instruction}
    {index : Nat}
    {fault : ProgramFault}
    (fails : FailsIn 0 program [] (.malformed index fault)) :
    depthAfter? program 0 = none := by
  obtain ⟨_, front, instruction, back, stack, rfl, _, passes, few⟩ :=
    failsIn_malformed_iff.1 fails
  have reached : depthAfter? front 0 = some stack.length :=
    depthAfter?_of_singlesAfter? passes
  have missing : instruction.onDepth? stack.length = none :=
    if_neg (Nat.not_le.2 few)
  simp only [depthAfter?_append_of_some reached, depthAfter?, missing, Option.bind_none]

/-- All ways in which building an automaton ends if no instruction lacks an operand. -/
theorem Automaton.ofProgram_of_depth
    (defaultAttribute : String)
    {program : List Instruction}
    {depth : Nat}
    (leaves : depthAfter? program 0 = some depth) :
    (∃ automaton,
      Automaton.ofProgram defaultAttribute program = .ok automaton ∧ depth = 1) ∨
      (∃ index,
        program[index]? = some (.connect .and) ∧
          Automaton.ofProgram defaultAttribute program =
            .error (.conjunctionOperand index)) ∨
      Automaton.ofProgram defaultAttribute program =
          .error (.malformed program.length .notOneOperand) ∧
        depth ≠ 1 := by
  rcases ofProgram_cases defaultAttribute program with
    ⟨automaton, single, built, singles⟩ | ⟨left, refused, singles, notOne⟩ |
      ⟨error, refused, fails⟩
  · have one : depthAfter? program 0 = some 1 := depthAfter?_of_singlesAfter? singles
    rw [leaves] at one
    exact .inl ⟨automaton, built, Option.some.inj one⟩
  · have many : depthAfter? program 0 = some left.length :=
      depthAfter?_of_singlesAfter? singles
    rw [leaves] at many
    exact .inr (.inr ⟨refused, Option.some.inj many ▸ notOne⟩)
  · cases error with
    | malformed index fault =>
        rw [depthAfter?_of_failsIn fails] at leaves
        cases leaves
    | conjunctionOperand index =>
        obtain ⟨front, back, _, _, _, rfl, rfl, _⟩ := failsIn_conjunctionOperand_iff.1 fails
        exact .inr (.inl ⟨front.length, by simp, refused⟩)

end TokenPattern
