import Mathlib
import TokenPattern.Proofs.OperandDepth
import TokenPattern.Proofs.ParserPlace

namespace TokenPattern

/-!
# Operands that failed calls abandon

The operands on the stack are counted by the sequences that are being read: the
one at hand and those around the open groups.  A call that fails forgets the
sequence at hand, and perhaps a group, but takes back nothing that it emitted.
What no sequence counts any more stays on the stack, and a later call that
succeeds returns it together with the operand of its own.
-/

/-- The operands of a sequence that stand before its pending term. -/
def Sequence.operandsBefore (sequence : Sequence) : Nat :=
  sequence.operators.length + min sequence.terms 1

/-- The operands that a sequence has on the stack. -/
def Sequence.operands (sequence : Sequence) : Nat :=
  sequence.operandsBefore + sequence.pendingTerm.toNat

/-- The operands that the sequences around open groups have on the stack. -/
def operandsAround : List OpenGroup → Nat
  | [] => 0
  | group :: outerGroups => group.outer.operandsBefore + operandsAround outerGroups

@[simp] theorem operandsAround_cons
    (group : OpenGroup)
    (outerGroups : List OpenGroup) :
    operandsAround (group :: outerGroups) =
      group.outer.operandsBefore + operandsAround outerGroups :=
  rfl

namespace Sequence

variable {sequence : Sequence}
variable {emitted : List Instruction}
variable {below : Nat}

@[simp] theorem operands_empty : Sequence.empty.operands = 0 :=
  rfl

/-- A sequence without a pending term gets one more operand with it. -/
@[simp] theorem operands_of_pending (sequence : Sequence) :
    ({ sequence with pendingTerm := true } : Sequence).operands =
      sequence.operandsBefore + 1 :=
  rfl

/-- A sequence with a term counts its run and the left operands of its operators. -/
theorem operandsBefore_of_terms (nonempty : sequence.terms ≠ 0) :
    sequence.operandsBefore = sequence.operators.length + 1 := by
  unfold operandsBefore
  omega

/-- Finishing the pending term joins it to the run before it. -/
theorem depthAfter?_joint
    (leaves : depthAfter? emitted 0 = some (below + sequence.operands)) :
    depthAfter? (emitted ++ sequence.joint) 0 =
      some (below + sequence.finished.operandsBefore) := by
  simp only [depthAfter?_append_of_some leaves]
  obtain ⟨terms, pendingTerm, operators⟩ := sequence
  cases pendingTerm with
  | false =>
      rfl
  | true =>
      cases terms with
      | zero =>
          rfl
      | succ terms =>
          -- Both the run and the pending term are on the stack.
          have separate :
              (Sequence.mk (terms + 1) true operators).operands =
                operators.length + 2 := by
            simp [operands, operandsBefore]
          have joined :
              (Sequence.mk (terms + 1) true operators).finished.operandsBefore =
                operators.length + 1 :=
            operandsBefore_of_terms (Nat.succ_ne_zero _)
          have enough : 2 ≤ below + (operators.length + 2) := by
            omega
          simp [separate, joined, joint, Instruction.onDepth?, Instruction.arity, enough]
          omega

/-- Finishing the pending term leaves an operand if there was one. -/
theorem one_le_finished
    (counted : 1 ≤ below + sequence.operands) :
    1 ≤ below + sequence.finished.operandsBefore := by
  obtain ⟨terms, pendingTerm, operators⟩ := sequence
  simp only [operands, operandsBefore, finished] at counted ⊢
  omega

/-- Operators that are applied take the operands between those of the operators that wait. -/
theorem depthAfter?_operators
    (leaves : depthAfter? emitted 0 = some (below + sequence.operands))
    (nonempty : sequence.finished.terms ≠ 0)
    {applied waiting : List Connective}
    (split : applied ++ waiting = sequence.operators) :
    depthAfter? (emitted ++ sequence.joint ++ applied.map .connect) 0 =
      some (below + waiting.length + 1) := by
  have counted :
      below + sequence.finished.operandsBefore =
        below + waiting.length + applied.length + 1 := by
    have operators : sequence.finished.operators = applied ++ waiting := split.symm
    simp only [operandsBefore_of_terms nonempty, operators, List.length_append]
    omega
  have finished := depthAfter?_joint leaves
  simp only [counted] at finished
  simp only [depthAfter?_append_of_some finished]
  exact depthAfter?_connect applied (below + waiting.length)

end Sequence

namespace Parser

/-- The operands on the stack that no sequence around an open group counts. -/
def abandonedOperands (parser : Parser) : Nat :=
  (depthAfter? parser.emitted.reverse 0).getD 0 - operandsAround parser.groups

/-- The stack holds what the sequences count, and besides what no sequence counts any more. -/
structure Accounts
    (parser : Parser)
    (sequence : Sequence)
    (abandoned : Nat) : Prop where
  depth_eq :
    depthAfter? parser.emitted.reverse 0 =
      some (abandoned + operandsAround parser.groups + sequence.operands)
  /-- A quantifier that may stand next finds an operand. -/
  operand_exists :
    parser.preceding = .operand →
      parser.pending ≠ [] →
        1 ≤ abandoned + operandsAround parser.groups + sequence.operands

theorem accounts_ofPattern (dialect : Dialect) (pattern : String) :
    (ofPattern dialect pattern).Accounts .empty 0 where
  depth_eq := rfl
  operand_exists := by
    intro isOperand
    cases isOperand

namespace Accounts

variable {parser next left : Parser}
variable {sequence nextSequence : Sequence}
variable {lexeme : Lexeme}
variable {back : List Lexeme}
variable {error : SyntaxError}
variable {abandoned : Nat}

/-- An account that counts an operand has one for a quantifier. -/
theorem of_depth
    (leaves :
      depthAfter? next.emitted.reverse 0 =
        some (abandoned + operandsAround next.groups + nextSequence.operands))
    (counted : next.preceding = .operand → 1 ≤ nextSequence.operands) :
    next.Accounts nextSequence abandoned where
  depth_eq := leaves
  operand_exists isOperand _ :=
    Nat.le_add_left_of_le (counted isOperand)

variable (accounts : parser.Accounts sequence abandoned)

include accounts

/-- No operand is abandoned while a parser goes on. -/
theorem advances
    (isNext : parser.pending = lexeme :: back)
    (advances : parser.Advances sequence lexeme next nextSequence) :
    next.Accounts nextSequence abandoned := by
  have finished := Sequence.depthAfter?_joint accounts.depth_eq
  cases advances with
  | blank =>
      exact ⟨accounts.depth_eq, by simp [behind]⟩
  | @atom test =>
      have pushed :
          depthAfter? (parser.emitted.reverse ++ sequence.joint ++ [.atom test]) 0 =
            some (abandoned + operandsAround parser.groups +
              (sequence.finished.operandsBefore + 1)) := by
        simp only [depthAfter?_append_of_some finished]
        rfl
      apply of_depth
      · simpa [behind] using pushed
      · simp
  | opener =>
      have around :
          abandoned + operandsAround parser.groups + sequence.finished.operandsBefore =
            abandoned + (sequence.finished.operandsBefore + operandsAround parser.groups) := by
        omega
      simp only [around] at finished
      apply of_depth
      · simpa [behind] using finished
      · simp [behind]
  | @closer group outerGroups _ innermost nonempty =>
      have closed :=
        Sequence.depthAfter?_operators accounts.depth_eq nonempty (List.append_nil _)
      have around :
          abandoned + operandsAround parser.groups + 0 + 1 =
            abandoned + operandsAround outerGroups + (group.outer.operandsBefore + 1) := by
        simp only [innermost, operandsAround_cons]
        omega
      simp only [List.length_nil, around] at closed
      apply of_depth
      · simpa [behind] using closed
      · simp
  | @connective operator _ _ nonempty =>
      have applied :=
        Sequence.depthAfter?_operators accounts.depth_eq nonempty
          (List.takeWhile_append_dropWhile (p := operator.binds))
      apply of_depth
      · simpa [behind, Sequence.operands, Sequence.operandsBefore, Nat.add_assoc] using applied
      · simp [behind]
  | @quantifier operator _ direct =>
      have operand := accounts.operand_exists direct (by simp [isNext])
      have kept :
          depthAfter? (parser.emitted.reverse ++ [.quantify operator]) 0 =
            some (abandoned + operandsAround parser.groups + sequence.operands) := by
        simp only [depthAfter?_append_of_some accounts.depth_eq, depthAfter?_singleton,
          Instruction.onDepth?, Instruction.arity, if_pos operand, Nat.sub_add_cancel operand]
      apply of_depth
      · simpa [behind] using kept
      · simp [behind]

omit accounts in
/-- A parser that failed accounts for its open groups only. -/
theorem exists_of_depth
    {depth : Nat}
    (leaves : depthAfter? left.emitted.reverse 0 = some depth)
    (counted : abandoned + operandsAround left.groups ≤ depth)
    (operand : left.preceding = .operand → left.pending ≠ [] → 1 ≤ depth) :
    ∃ more, left.Accounts .empty (abandoned + more) := by
  have same :
      abandoned + (depth - (abandoned + operandsAround left.groups)) +
        operandsAround left.groups = depth := by
    omega
  refine ⟨depth - (abandoned + operandsAround left.groups), ?_, ?_⟩
  · simpa [same] using leaves
  · simpa [same] using operand

/-- A parser that gives up its sequence without finishing it abandons its operands. -/
theorem give_up : ∃ more, parser.Accounts .empty (abandoned + more) :=
  exists_of_depth accounts.depth_eq (Nat.le_add_right _ _) accounts.operand_exists

/-- A parser that stops at a lexeme abandons the operands of its sequence. -/
theorem stopsAt
    (isNext : parser.pending = lexeme :: back)
    (stops : parser.StopsAt sequence lexeme error left) :
    ∃ more, left.Accounts .empty (abandoned + more) := by
  have finished := Sequence.depthAfter?_joint accounts.depth_eq
  have operand (isOperand : parser.preceding = .operand) :
      1 ≤ abandoned + operandsAround parser.groups + sequence.operands :=
    accounts.operand_exists isOperand (by simp [isNext])
  cases stops with
  | stray | quantifier | outsideBracket | noLeftOperand =>
      exact accounts.give_up
  | broken =>
      have leaves : depthAfter? (parser.skip lexeme).emitted.reverse 0 = some _ :=
        accounts.depth_eq
      apply exists_of_depth leaves (Nat.le_add_right _ _)
      exact fun isOperand _ => operand isOperand
  | unopened =>
      apply exists_of_depth (by simpa using finished) (Nat.le_add_right _ _)
      exact fun isOperand _ => Sequence.one_le_finished (operand isOperand)
  | mismatch _ innermost =>
      apply exists_of_depth (by simpa using finished)
      · simp only [innermost, operandsAround_cons]
        omega
      · exact fun isOperand _ => Sequence.one_le_finished (operand isOperand)
  | @emptyGroup group outerGroups _ innermost =>
      have leaves :
          depthAfter?
              (parser.behind lexeme outerGroups parser.emitted
                parser.preceding).emitted.reverse 0 = some _ :=
        accounts.depth_eq
      apply exists_of_depth leaves
      · simp only [behind, innermost, operandsAround_cons]
        omega
      · exact fun isOperand _ => operand isOperand

/-- A parser that fails at the end of the text abandons the operands of its sequence. -/
theorem endsWith_error
    (ends : parser.EndsWith sequence (.error error) left) :
    ∃ more, left.Accounts .empty (abandoned + more) := by
  have finished := Sequence.depthAfter?_joint accounts.depth_eq
  cases ends with
  | unclosed innermost =>
      apply exists_of_depth (by simpa using finished)
      · simp only [innermost, operandsAround_cons]
        omega
      · exact fun isOperand unread =>
          Sequence.one_le_finished (accounts.operand_exists isOperand unread)
  | empty =>
      exact accounts.give_up

/-- A call that succeeds returns one operand and those that were abandoned. -/
theorem endsWith_ok
    {program : List Instruction}
    (allRead : parser.pending = [])
    (ends : parser.EndsWith sequence (.ok program) left) :
    depthAfter? program 0 = some (abandoned + 1) ∧ left.Accounts .empty 0 := by
  cases ends with
  | complete noGroup nonempty =>
      have closed :=
        Sequence.depthAfter?_operators accounts.depth_eq nonempty (List.append_nil _)
      have none : operandsAround ([] : List OpenGroup) = 0 := rfl
      simp only [noGroup, none] at closed
      refine ⟨by simpa using closed, ?_, ?_⟩
      · simp [noGroup, none, depthAfter?]
      · exact fun _ unread => (unread allRead).elim

end Accounts

variable {parser last : Parser}
variable {lastSequence : Sequence}
variable {abandoned : Nat}

theorem Passes.accounts
    (passes : parser.Passes last lastSequence)
    (starts : parser.Accounts .empty abandoned) :
    last.Accounts lastSequence abandoned := by
  induction passes with
  | start =>
      exact starts
  | step _ isNext goesOn inductionHypothesis =>
      exact inductionHypothesis.advances isNext (advances_of_step goesOn)

/-- A call succeeds with one operand more than was abandoned, or fails and may abandon more. -/
theorem Accounts.parse (accounts : parser.Accounts .empty abandoned) :
    (∃ program,
      parser.parse.1 = .ok program ∧
        depthAfter? program 0 = some (abandoned + 1) ∧
        parser.parse.2.Accounts .empty 0) ∨
      ∃ error more,
        parser.parse.1 = .error error ∧
          parser.parse.2.Accounts .empty (abandoned + more) := by
  obtain ⟨final, finalSequence, passes, ends⟩ := parser.parse_ends
  have reached := passes.accounts accounts
  rcases ends with ⟨allRead, ends⟩ | ⟨lexeme, back, error, isNext, isError, stops⟩
  · cases result : parser.parse.1 with
    | ok program =>
        rw [result] at ends
        obtain ⟨leaves, after⟩ := reached.endsWith_ok allRead ends
        exact .inl ⟨program, rfl, leaves, after⟩
    | error error =>
        rw [result] at ends
        obtain ⟨more, after⟩ := reached.endsWith_error ends
        exact .inr ⟨error, more, rfl, after⟩
  · obtain ⟨more, after⟩ := reached.stopsAt isNext stops
    exact .inr ⟨error, more, isError, after⟩

theorem Accounts.exists_afterCalls
    (accounts : parser.Accounts .empty abandoned)
    (calls : Nat) :
    ∃ later, (parser.afterCalls calls).Accounts .empty later := by
  induction calls with
  | zero =>
      exact ⟨abandoned, accounts⟩
  | succ calls inductionHypothesis =>
      obtain ⟨before, accountsBefore⟩ := inductionHypothesis
      simp only [afterCalls_succ]
      rcases accountsBefore.parse with ⟨_, _, _, after⟩ | ⟨_, _, _, after⟩
      · exact ⟨_, after⟩
      · exact ⟨_, after⟩

theorem Accounts.abandonedOperands_eq (accounts : parser.Accounts .empty abandoned) :
    parser.abandonedOperands = abandoned := by
  simp [abandonedOperands, accounts.depth_eq]

/-- What a call returns, and what the calls before it abandoned, go together. -/
structure ReturnsOperands (parser : Parser) : Prop where
  /-- A call that succeeds returns one operand besides those that were abandoned. -/
  returned :
    ∀ program,
      parser.parse.1 = .ok program →
        depthAfter? program 0 = some (parser.abandonedOperands + 1)
  /-- If none was abandoned the returned program is not malformed. -/
  accepted :
    ∀ program,
      parser.parse.1 = .ok program →
        parser.abandonedOperands = 0 →
          ∀ defaultAttribute index fault,
            Automaton.ofProgram defaultAttribute program ≠ .error (.malformed index fault)
  /-- If one was, no automaton is built, though no instruction lacks an operand. -/
  refused :
    ∀ program,
      parser.parse.1 = .ok program →
        parser.abandonedOperands ≠ 0 →
          ∀ defaultAttribute, ∃ error,
            Automaton.ofProgram defaultAttribute program = .error error ∧
              ∀ index fault,
                error = .malformed index fault →
                  index = program.length ∧ fault = .notOneOperand
  /-- A call that fails takes back no operand that was abandoned before. -/
  grows :
    ∀ error,
      parser.parse.1 = .error error →
        parser.abandonedOperands ≤ parser.parse.2.abandonedOperands

theorem Accounts.returnsOperands (accounts : parser.Accounts .empty abandoned) :
    parser.ReturnsOperands := by
  have leaves
      {program : List Instruction}
      (succeeds : parser.parse.1 = .ok program) :
      depthAfter? program 0 = some (abandoned + 1) := by
    rcases accounts.parse with ⟨found, isFound, leaves, _⟩ | ⟨error, _, isError, _⟩
    · simp only [isFound, Except.ok.injEq] at succeeds
      exact succeeds ▸ leaves
    · simp only [isError, reduceCtorEq] at succeeds
  have counted := accounts.abandonedOperands_eq
  refine ⟨?_, ?_, ?_, ?_⟩
  · intro program succeeds
    simpa only [counted] using leaves succeeds
  · intro program succeeds nothing defaultAttribute index fault malformed
    have one : abandoned + 1 = 1 := by
      omega
    rcases Automaton.ofProgram_of_depth defaultAttribute (leaves succeeds) with
      ⟨_, built, _⟩ | ⟨_, _, refused⟩ | ⟨_, many⟩
    · simp [built] at malformed
    · simp [refused] at malformed
    · exact many one
  · intro program succeeds something defaultAttribute
    have many : abandoned + 1 ≠ 1 := by
      omega
    rcases Automaton.ofProgram_of_depth defaultAttribute (leaves succeeds) with
      ⟨_, _, one⟩ | ⟨index, _, refused⟩ | ⟨refused, _⟩
    · exact (many one).elim
    · exact ⟨_, refused, by simp⟩
    · exact ⟨_, refused, by simp +contextual⟩
  · intro error fails
    rcases accounts.parse with ⟨_, succeeds, _⟩ | ⟨_, more, _, after⟩
    · simp only [succeeds, reduceCtorEq] at fails
    · simp only [counted, after.abandonedOperands_eq]
      exact Nat.le_add_right _ _

/-- The calls of a parser return what they should, but for operands abandoned before. -/
theorem afterCalls_returnsOperands
    (dialect : Dialect)
    (pattern : String)
    (calls : Nat) :
    (ofPattern dialect pattern).abandonedOperands = 0 ∧
      ((ofPattern dialect pattern).afterCalls calls).ReturnsOperands := by
  have starts := accounts_ofPattern dialect pattern
  obtain ⟨abandoned, accounts⟩ := starts.exists_afterCalls calls
  exact ⟨starts.abandonedOperands_eq, accounts.returnsOperands⟩

/-- A term before an empty group is abandoned there, and the next call returns it too. -/
theorem parse_abandonedTerm :
    ((ofPattern .standard "a()b").afterCalls 1).parse.1 =
        .ok [.atom (.word "a"), .atom (.word "b")] ∧
      depthAfter? [.atom (.word "a"), .atom (.word "b")] 0 = some 2 ∧
      Automaton.ofProgram "word" [.atom (.word "a"), .atom (.word "b")] =
        .error (.malformed 2 .notOneOperand) := by
  refine ⟨?_, ?_, ?_⟩
  · cbv
  · rfl
  · rfl

end Parser

end TokenPattern
