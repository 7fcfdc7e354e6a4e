import Mathlib.Data.List.TakeWhile
import TokenPattern.Parser

namespace TokenPattern

/-!
# What the parser does with a lexeme

The parser reads a lexeme or stops at it.  All that it can do with a lexeme
that it reads is said once, by the relation of a parser with the next one.
-/

/-- What finishing a term emits that follows some others of its run. -/
def jointAfter (others : Nat) : List Instruction :=
  if others = 0 then [] else [.concat]

@[simp] theorem jointAfter_zero : jointAfter 0 = [] :=
  rfl

@[simp] theorem jointAfter_succ (others : Nat) :
    jointAfter (others + 1) = [.concat] :=
  rfl

/-- What finishing the pending term of a sequence emits. -/
def Sequence.joint (sequence : Sequence) : List Instruction :=
  if sequence.pendingTerm = true then jointAfter sequence.terms else []

@[simp] theorem Sequence.reverse_joint (sequence : Sequence) :
    sequence.joint.reverse = sequence.joint := by
  obtain ⟨terms, pendingTerm, operators⟩ := sequence
  cases pendingTerm with
  | false =>
      rfl
  | true =>
      cases terms <;> rfl

/-- A sequence whose pending term is finished. -/
def Sequence.finished (sequence : Sequence) : Sequence :=
  ⟨sequence.terms + sequence.pendingTerm.toNat, false, sequence.operators⟩

/-- The operators that are applied before one that is read. -/
def Connective.binds (operator earlier : Connective) : Bool :=
  operator.precedence ≤ earlier.precedence

/-- A conjunction applies the conjunctions that wait, and none but them. -/
theorem Connective.split_at_and
    {ands others : List Connective}
    (noOr : .or ∉ ands)
    (noAnd : .and ∉ others) :
    (ands ++ others).takeWhile (binds .and) = ands ∧
      (ands ++ others).dropWhile (binds .and) = others := by
  have bind : ∀ operator ∈ ands, binds .and operator = true := by
    intro operator member
    cases operator with
    | or =>
        exact (noOr member).elim
    | and =>
        rfl
  rw [List.takeWhile_append_of_pos bind, List.dropWhile_append_of_pos bind]
  cases others with
  | nil =>
      simp
  | cons first rest =>
      cases first with
      | or =>
          simp [binds, precedence]
      | and =>
          exact (noAnd List.mem_cons_self).elim

/-- An alternative applies all operators that wait. -/
theorem Connective.split_at_or (operators : List Connective) :
    operators.takeWhile (binds .or) = operators ∧
      operators.dropWhile (binds .or) = [] := by
  have bind : ∀ operator ∈ operators, binds .or operator = true := by
    intro operator _
    cases operator <;> rfl
  exact ⟨List.takeWhile_eq_self_iff.2 bind, List.dropWhile_eq_nil_iff.2 bind⟩

/-- Operators as they are emitted, the last one that is emitted first. -/
def emittedOperators (operators : List Connective) : List Instruction :=
  (operators.map .connect).reverse

@[simp] theorem reverse_emittedOperators (operators : List Connective) :
    (emittedOperators operators).reverse = operators.map .connect :=
  List.reverse_reverse _

namespace Parser

variable (parser : Parser)

/-- A parser behind a lexeme that it has read. -/
def behind
    (lexeme : Lexeme)
    (groups : List OpenGroup)
    (emitted : List Instruction)
    (preceding : Preceding) :
    Parser :=
  ⟨parser.pattern, parser.offset + lexeme.width, parser.pending.tail, groups,
    emitted, preceding⟩

/-- Finishing a term emits at most a concatenation. -/
theorem finishTerm_eq (sequence : Sequence) :
    parser.finishTerm sequence =
      ({ parser with emitted := sequence.joint ++ parser.emitted },
        sequence.finished) := by
  obtain ⟨terms, pendingTerm, operators⟩ := sequence
  cases pendingTerm with
  | false =>
      simp [finishTerm, Sequence.joint, Sequence.finished]
  | true =>
      cases terms with
      | zero =>
          simp [finishTerm, Sequence.joint, Sequence.finished]
      | succ terms =>
          simp [finishTerm, Sequence.joint, Sequence.finished, emit]

/-- Operators are emitted one after the other. -/
theorem emitOperators_eq (operators : List Connective) :
    parser.emitOperators operators =
      { parser with emitted := emittedOperators operators ++ parser.emitted } := by
  unfold emitOperators emittedOperators
  induction operators generalizing parser with
  | nil =>
      rfl
  | cons first rest inductionHypothesis =>
      rw [List.foldl_cons, inductionHypothesis]
      simp [emit]

/-- A parser reads a lexeme. -/
inductive Advances
    (parser : Parser)
    (sequence : Sequence)
    (lexeme : Lexeme) :
    Parser → Sequence → Prop where
  | blank
      (symbol : lexeme.symbol = .blank) :
      Advances parser sequence lexeme
        (parser.behind lexeme parser.groups parser.emitted .blank)
        sequence
  /-- An atom becomes the pending term. -/
  | atom
      {test : Atom}
      (symbol : lexeme.symbol = .atom test) :
      Advances parser sequence lexeme
        (parser.behind lexeme parser.groups
          (.atom test :: (sequence.joint ++ parser.emitted)) .operand)
        { sequence.finished with pendingTerm := true }
  /-- A group starts a sequence of its own. -/
  | opener
      {shape : Delimiter}
      (symbol : lexeme.symbol = .opener shape) :
      Advances parser sequence lexeme
        (parser.behind lexeme
          (⟨shape, parser.spanOf lexeme, sequence.finished⟩ :: parser.groups)
          (sequence.joint ++ parser.emitted) .nothing)
        .empty
  /-- The group becomes the pending term of the sequence around it. -/
  | closer
      {group : OpenGroup}
      {outerGroups : List OpenGroup}
      (symbol : lexeme.symbol = .closer group.shape)
      (innermost : parser.groups = group :: outerGroups)
      (nonempty : sequence.finished.terms ≠ 0) :
      Advances parser sequence lexeme
        (parser.behind lexeme outerGroups
          (emittedOperators sequence.operators ++
            (sequence.joint ++ parser.emitted)) .operand)
        { group.outer with pendingTerm := true }
  /-- The operators that bind no less tightly have both operands. -/
  | connective
      {operator : Connective}
      (symbol : lexeme.symbol = .connective operator)
      (inside : parser.insideBrackets = true)
      (nonempty : sequence.finished.terms ≠ 0) :
      Advances parser sequence lexeme
        (parser.behind lexeme parser.groups
          (emittedOperators (sequence.operators.takeWhile operator.binds) ++
            (sequence.joint ++ parser.emitted)) .nothing)
        ⟨0, false, operator :: sequence.operators.dropWhile operator.binds⟩
  | quantifier
      {operator : Quantifier}
      (symbol : lexeme.symbol = .quantifier operator)
      (direct : parser.preceding = .operand) :
      Advances parser sequence lexeme
        (parser.behind lexeme parser.groups
          (.quantify operator :: parser.emitted) .quantifier)
        sequence

variable {parser}
variable {sequence nextSequence : Sequence}
variable {lexeme : Lexeme}
variable {next : Parser}

/-- A parser that goes on has read the lexeme. -/
theorem advances_of_step
    (goesOn : parser.step sequence lexeme = .next next nextSequence) :
    parser.Advances sequence lexeme next nextSequence := by
  unfold step at goesOn
  split at goesOn
  case h_1 symbol =>
    cases goesOn
    exact .blank symbol
  case h_2 test symbol =>
    rw [readAtom, finishTerm_eq] at goesOn
    cases goesOn
    exact .atom symbol
  case h_3 shape symbol =>
    rw [readOpener, finishTerm_eq] at goesOn
    cases goesOn
    exact .opener symbol
  case h_4 shape symbol =>
    rw [readCloser, finishTerm_eq] at goesOn
    dsimp only at goesOn
    split at goesOn
    · cases goesOn
    · rename_i group outerGroups innermost
      split at goesOn
      · cases goesOn
      · rename_i sameShape
        split at goesOn
        · cases goesOn
        · rename_i nonempty
          have sameShape := Decidable.not_not.1 sameShape
          rw [emitOperators_eq] at goesOn
          cases goesOn
          exact .closer (sameShape ▸ symbol) innermost nonempty
  case h_5 operator symbol =>
    rw [readConnective, finishTerm_eq] at goesOn
    split at goesOn
    · rename_i inside
      dsimp only at goesOn
      split at goesOn
      · cases goesOn
      · rename_i nonempty
        rw [emitOperators_eq] at goesOn
        cases goesOn
        exact .connective symbol inside nonempty
    · cases goesOn
  case h_6 operator symbol =>
    unfold readQuantifier at goesOn
    split at goesOn
    · cases goesOn
    · rename_i noFault
      cases goesOn
      refine .quantifier symbol ?_
      unfold quantifierFault? at noFault
      split at noFault
      · assumption
      · cases noFault
      · split at noFault <;> cases noFault
      · cases noFault
  case h_7 =>
    cases goesOn
  case h_8 =>
    cases goesOn

/-- A parser that reads the lexeme goes on. -/
theorem Advances.step_eq
    (advances : parser.Advances sequence lexeme next nextSequence) :
    parser.step sequence lexeme = .next next nextSequence := by
  cases advances with
  | blank symbol =>
      rw [step, symbol]
      rfl
  | atom symbol =>
      rw [step, symbol]
      simp only [readAtom, finishTerm_eq]
      rfl
  | opener symbol =>
      rw [step, symbol]
      simp only [readOpener, finishTerm_eq]
      rfl
  | closer symbol innermost nonempty =>
      rw [step, symbol]
      simp only [readCloser, finishTerm_eq, innermost, ne_eq, not_true_eq_false,
        if_false, if_neg nonempty, emitOperators_eq]
      rfl
  | connective symbol inside nonempty =>
      rw [step, symbol]
      simp only [readConnective, finishTerm_eq, if_pos inside, if_neg nonempty,
        emitOperators_eq]
      rfl
  | quantifier symbol direct =>
      rw [step, symbol]
      simp only [readQuantifier, quantifierFault?, direct]
      rfl

/-- A parser reads lexemes. -/
inductive Reads : Parser → Sequence → List Lexeme → Parser → Sequence → Prop where
  | nothing
      (parser : Parser)
      (sequence : Sequence) :
      Reads parser sequence [] parser sequence
  | lexeme
      {parser middle last : Parser}
      {sequence middleSequence lastSequence : Sequence}
      {lexeme : Lexeme}
      {rest : List Lexeme}
      (advances : parser.Advances sequence lexeme middle middleSequence)
      (reads : Reads middle middleSequence rest last lastSequence) :
      Reads parser sequence (lexeme :: rest) last lastSequence

namespace Reads

variable {middle last : Parser}
variable {middleSequence lastSequence : Sequence}
variable {front back lexemes : List Lexeme}

/-- Lexemes can be read one part after the other. -/
theorem append
    (readsFront : Reads parser sequence front middle middleSequence)
    (readsBack : Reads middle middleSequence back last lastSequence) :
    Reads parser sequence (front ++ back) last lastSequence := by
  induction readsFront with
  | nothing =>
      exact readsBack
  | lexeme advances _ inductionHypothesis =>
      exact .lexeme advances (inductionHypothesis readsBack)

/-- One more lexeme can be read. -/
theorem snoc
    (reads : Reads parser sequence front middle middleSequence)
    (advances : middle.Advances middleSequence lexeme last lastSequence) :
    Reads parser sequence (front ++ [lexeme]) last lastSequence :=
  reads.append (.lexeme advances (.nothing last lastSequence))

/-- A call that reads all lexemes ends where they do. -/
theorem readAll_eq (reads : Reads parser sequence lexemes last lastSequence) :
    readAll lexemes parser sequence = last.finish lastSequence := by
  induction reads with
  | nothing =>
      rfl
  | lexeme advances _ inductionHypothesis =>
      rw [readAll, advances.step_eq]
      exact inductionHypothesis

end Reads

/-- A call that succeeds has read all lexemes. -/
theorem exists_reads_of_readAll
    {lexemes : List Lexeme}
    {program : List Instruction}
    (succeeds : (readAll lexemes parser sequence).1 = .ok program) :
    ∃ last lastSequence,
      Reads parser sequence lexemes last lastSequence ∧
        (last.finish lastSequence).1 = .ok program := by
  induction lexemes generalizing parser sequence with
  | nil =>
      exact ⟨parser, sequence, .nothing parser sequence, succeeds⟩
  | cons lexeme rest inductionHypothesis =>
      rw [readAll] at succeeds
      split at succeeds
      · rename_i middle middleSequence goesOn
        obtain ⟨last, lastSequence, reads, finishes⟩ :=
          inductionHypothesis succeeds
        exact ⟨last, lastSequence,
          .lexeme (advances_of_step goesOn) reads, finishes⟩
      · cases succeeds

/-- A call succeeds at the end of the text if no group is open and a term was read. -/
theorem finish_eq_ok_iff
    {program : List Instruction} :
    (parser.finish sequence).1 = .ok program ↔
      parser.groups = [] ∧
        sequence.finished.terms ≠ 0 ∧
        program =
          (emittedOperators sequence.operators ++
            (sequence.joint ++ parser.emitted)).reverse := by
  rw [finish, finishTerm_eq]
  dsimp only
  split
  · rename_i group outerGroups innermost
    simp [innermost]
  · rename_i noGroup
    split
    · rename_i isEmpty
      simp [isEmpty]
    · rename_i nonempty
      rw [emitOperators_eq]
      simp only [Except.ok.injEq, noGroup, true_and, eq_comm]
      exact (and_iff_right nonempty).symm

end Parser

end TokenPattern
