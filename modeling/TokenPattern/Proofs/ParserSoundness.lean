import TokenPattern.Proofs.Grammar
import TokenPattern.Proofs.ParserStep

namespace TokenPattern

/-!
# What is parsed derives from the grammar

While the parser goes on, the symbols that it has read fall into parts: for each
open group what stands before it in the sequence around it, then the operands
whose operators wait, and then the run at hand.  Each part derives from the
grammar as far as it goes, and what has been emitted are the programs of the
parts.  At the end of a sequence its parts derive from the grammar together.
-/

/-- The operands of a sequence that wait for a right operand, with their operators. -/
inductive Awaiting : List Connective → List Symbol → List Instruction → Prop where
  | nothing :
      Awaiting [] [] []
  | or
      {front : List Symbol}
      {left : PatternTree}
      (disjunction : Derives .disjunction front left) :
      Awaiting [.or] (front ++ [.connective .or]) left.program
  | and
      {front : List Symbol}
      {left : PatternTree}
      (conjunction : Derives .conjunction front left) :
      Awaiting [.and] (front ++ [.connective .and]) left.program
  | andOr
      {front between : List Symbol}
      {left middle : PatternTree}
      (disjunction : Derives .disjunction front left)
      (conjunction : Derives .conjunction between middle) :
      Awaiting [.and, .or]
        (front ++ .connective .or :: (between ++ [.connective .and]))
        (left.program ++ middle.program)

/-- A run without a pending term, which may still have no term. -/
inductive Finished : Nat → List Symbol → List Instruction → Prop where
  | blanks
      {symbols : List Symbol}
      (allBlank : AllBlank symbols) :
      Finished 0 symbols []
  | run
      {terms : Nat}
      {symbols : List Symbol}
      {tree : PatternTree}
      (derives : Derives .run symbols tree) :
      Finished (terms + 1) symbols tree.program

/-- A run that is being read, with its pending term if it has one. -/
inductive Running :
    Nat → Bool → Preceding → List Symbol → List Instruction → Prop where
  | outset
      {preceding : Preceding}
      {symbols : List Symbol}
      (notDirect : preceding ≠ .operand)
      (allBlank : AllBlank symbols) :
      Running 0 false preceding symbols []
  /-- The pending term may get a quantifier. -/
  | operand
      {terms : Nat}
      {front back : List Symbol}
      {program : List Instruction}
      {tree : PatternTree}
      (before : Finished terms front program)
      (operand : Derives .operand back tree) :
      Running terms true .operand (front ++ back) (program ++ tree.program)
  /-- The pending term is complete. -/
  | term
      {terms : Nat}
      {preceding : Preceding}
      {front back blanks : List Symbol}
      {program : List Instruction}
      {tree : PatternTree}
      (notDirect : preceding ≠ .operand)
      (before : Finished terms front program)
      (term : Derives .term back tree)
      (allBlank : AllBlank blanks) :
      Running terms true preceding (front ++ (back ++ blanks))
        (program ++ tree.program)

/-- What stands before the innermost open group and opens it. -/
inductive Enclosed :
    List OpenGroup → List Symbol → List Instruction → Prop where
  | nowhere :
      Enclosed [] [] []
  | within
      {group : OpenGroup}
      {groups : List OpenGroup}
      {symbols waitingSymbols runSymbols : List Symbol}
      {program waitingProgram runProgram : List Instruction}
      (around : Enclosed groups symbols program)
      (awaiting :
        Awaiting group.outer.operators waitingSymbols waitingProgram)
      (legal :
        group.outer.operators ≠ [] →
        groups.head?.any (fun outer => outer.shape = .square) = true)
      (finished : Finished group.outer.terms runSymbols runProgram) :
      Enclosed (group :: groups)
        (symbols ++ (waitingSymbols ++ (runSymbols ++ [.opener group.shape])))
        (program ++ (waitingProgram ++ runProgram))

/-- What the parser has read and emitted belongs together. -/
inductive Parsed
    (parser : Parser)
    (sequence : Sequence)
    (symbols : List Symbol) : Prop where
  | intro
      {outerSymbols waitingSymbols runSymbols : List Symbol}
      {outerProgram waitingProgram runProgram : List Instruction}
      (around : Enclosed parser.groups outerSymbols outerProgram)
      (awaiting : Awaiting sequence.operators waitingSymbols waitingProgram)
      (legal : sequence.operators ≠ [] → parser.insideBrackets = true)
      (running :
        Running sequence.terms sequence.pendingTerm parser.preceding
          runSymbols runProgram)
      (read : symbols = outerSymbols ++ (waitingSymbols ++ runSymbols))
      (emitted :
        parser.emitted.reverse =
          outerProgram ++ (waitingProgram ++ runProgram)) :
      Parsed parser sequence symbols

namespace Awaiting

variable {operators : List Connective}
variable {waitingSymbols runSymbols : List Symbol}
variable {waitingProgram : List Instruction}
variable {tree : PatternTree}

/-- With a last run the operands that wait are a disjunction. -/
theorem close
    (awaiting : Awaiting operators waitingSymbols waitingProgram)
    (run : Derives .run runSymbols tree) :
    ∃ whole,
      Derives .disjunction (waitingSymbols ++ runSymbols) whole ∧
        whole.program =
          waitingProgram ++ (tree.program ++ operators.map .connect) := by
  cases awaiting with
  | nothing =>
      exact ⟨tree, run.oneRun.oneConjunction, by simp⟩
  | @or front left disjunction =>
      refine ⟨.connect .or left tree, ?_, by simp [PatternTree.program]⟩
      simpa using disjunction.alternate run.oneRun
  | @and front left conjunction =>
      refine ⟨.connect .and left tree, ?_, by simp [PatternTree.program]⟩
      simpa using (conjunction.conjoin run).oneConjunction
  | @andOr front between left middle disjunction conjunction =>
      refine ⟨.connect .or left (.connect .and middle tree), ?_,
        by simp [PatternTree.program]⟩
      simpa using disjunction.alternate (conjunction.conjoin run)

/-- With a last run and their delimiters the operands are an operand. -/
theorem enclose
    (awaiting : Awaiting operators waitingSymbols waitingProgram)
    (run : Derives .run runSymbols tree)
    {shape : Delimiter}
    (legal : operators ≠ [] → shape = .square) :
    ∃ whole,
      Derives .operand
          (.opener shape :: (waitingSymbols ++ runSymbols ++ [.closer shape]))
          whole ∧
        whole.program =
          waitingProgram ++ (tree.program ++ operators.map .connect) := by
  cases shape with
  | square =>
      obtain ⟨whole, derives, program⟩ := awaiting.close run
      exact ⟨whole, derives.brackets, program⟩
  | round =>
      cases awaiting with
      | nothing =>
          exact ⟨tree, run.parentheses, by simp⟩
      | or | and | andOr =>
          cases legal (by simp)

/-- With a last run and an operator the operands wait for the next run. -/
theorem connective
    (awaiting : Awaiting operators waitingSymbols waitingProgram)
    (run : Derives .run runSymbols tree)
    (operator : Connective) :
    Awaiting (operator :: operators.dropWhile operator.binds)
      (waitingSymbols ++ (runSymbols ++ [.connective operator]))
      (waitingProgram ++
        (tree.program ++
          (operators.takeWhile operator.binds).map .connect)) := by
  cases operator with
  | or =>
      obtain ⟨whole, derives, program⟩ := awaiting.close run
      obtain ⟨applied, waiting⟩ := Connective.split_at_or operators
      rw [applied, waiting, ← program, ← List.append_assoc]
      exact .or derives
  | and =>
      cases awaiting with
      | nothing =>
          simpa [Connective.binds] using Awaiting.and run.oneRun
      | or disjunction =>
          simpa [Connective.binds, Connective.precedence] using
            Awaiting.andOr disjunction run.oneRun
      | and conjunction =>
          simpa [Connective.binds, PatternTree.program] using
            Awaiting.and (conjunction.conjoin run)
      | andOr disjunction conjunction =>
          simpa [Connective.binds, Connective.precedence, PatternTree.program]
            using Awaiting.andOr disjunction (conjunction.conjoin run)

end Awaiting

namespace Finished

variable {terms : Nat}
variable {front back : List Symbol}
variable {program : List Instruction}
variable {tree : PatternTree}

/-- A run with some term derives from the grammar. -/
theorem exists_run
    (finished : Finished terms front program)
    (nonempty : terms ≠ 0) :
    ∃ whole, Derives .run front whole ∧ whole.program = program := by
  cases finished with
  | blanks =>
      exact (nonempty rfl).elim
  | run derives =>
      exact ⟨_, derives, rfl⟩

/-- A term behind a run is concatenated to it. -/
theorem exists_run_term
    (finished : Finished terms front program)
    (term : Derives .term back tree) :
    ∃ whole,
      Derives .run (front ++ back) whole ∧
        whole.program = program ++ (tree.program ++ jointAfter terms) := by
  cases finished with
  | blanks allBlank =>
      exact ⟨tree, term.single.leadingBlanks allBlank, by simp⟩
  | @run terms _ first derives =>
      exact ⟨.concat first tree, derives.juxtapose term,
        by simp [PatternTree.program]⟩

end Finished

namespace Running

variable {sequence : Sequence}
variable {terms : Nat}
variable {pendingTerm : Bool}
variable {preceding : Preceding}
variable {symbols : List Symbol}
variable {program : List Instruction}

/-- A run whose pending term is finished. -/
theorem finish
    (running :
      Running sequence.terms sequence.pendingTerm preceding symbols program) :
    Finished sequence.finished.terms symbols (program ++ sequence.joint) := by
  obtain ⟨terms, pendingTerm, operators⟩ := sequence
  cases running with
  | outset _ allBlank =>
      exact .blanks allBlank
  | operand before operand =>
      obtain ⟨whole, derives, wholeProgram⟩ := before.exists_run_term operand.bare
      have finished : Finished (terms + 1) _ _ := .run derives
      rw [wholeProgram] at finished
      simpa [Sequence.finished, Sequence.joint] using finished
  | term _ before term allBlank =>
      obtain ⟨whole, derives, wholeProgram⟩ := before.exists_run_term term
      have finished : Finished (terms + 1) _ _ :=
        .run (derives.trailingBlanks allBlank)
      rw [wholeProgram] at finished
      simpa [Sequence.finished, Sequence.joint] using finished

/-- A blank belongs to the run. -/
theorem blank
    (running : Running terms pendingTerm preceding symbols program) :
    Running terms pendingTerm .blank (symbols ++ [.blank]) program := by
  cases running with
  | outset _ allBlank =>
      exact .outset (by simp) allBlank.snoc
  | operand before operand =>
      simpa using Running.term (by simp) before operand.bare allBlank_nil.snoc
  | term _ before term allBlank =>
      simpa using Running.term (by simp) before term allBlank.snoc

/-- A quantifier belongs to the operand directly before it. -/
theorem quantifier
    (running : Running terms pendingTerm .operand symbols program)
    (operator : Quantifier) :
    Running terms pendingTerm .quantifier
      (symbols ++ [.quantifier operator])
      (program ++ [.quantify operator]) := by
  cases running with
  | outset notDirect | term notDirect =>
      exact (notDirect rfl).elim
  | operand before operand =>
      simpa [PatternTree.program] using
        Running.term (by simp) before (operand.quantified operator)
          allBlank_nil

end Running

namespace Parsed

variable {parser next : Parser}
variable {sequence nextSequence : Sequence}
variable {lexeme : Lexeme}
variable {symbols : List Symbol}

/-- Reading a lexeme keeps what has been read and emitted together. -/
theorem advance
    (parsed : Parsed parser sequence symbols)
    (advances : parser.Advances sequence lexeme next nextSequence) :
    Parsed next nextSequence (symbols ++ [lexeme.symbol]) := by
  obtain ⟨around, awaiting, legal, running, rfl, emitted⟩ := parsed
  cases advances with
  | blank symbol =>
      exact .intro around awaiting legal running.blank (by simp [symbol]) emitted
  | @atom test symbol =>
      exact .intro around awaiting legal (.operand running.finish (.atom test))
        (by simp [symbol]) (by simp [Parser.behind, emitted, PatternTree.program])
  | opener symbol =>
      exact .intro (.within around awaiting legal running.finish) .nothing
        (by simp [Sequence.empty]) (.outset (by simp [Parser.behind]) allBlank_nil)
        (by simp [symbol]) (by simp [Parser.behind, emitted])
  | @closer group outerGroups symbol innermost nonempty =>
      rw [innermost] at around
      obtain ⟨tree, run, runProgram⟩ := running.finish.exists_run nonempty
      -- Operators can only have been read directly inside brackets.
      have inSquare : sequence.operators ≠ [] → group.shape = .square := by
        intro waits
        simpa [Parser.insideBrackets, innermost] using legal waits
      obtain ⟨whole, operand, wholeProgram⟩ := awaiting.enclose run inSquare
      cases around with
      | within outerAround outerAwaiting outerLegal before =>
          exact .intro outerAround outerAwaiting outerLegal
            (.operand before operand) (by simp [symbol])
            (by simp [Parser.behind, emitted, wholeProgram, runProgram])
  | @connective operator symbol inside nonempty =>
      obtain ⟨tree, run, runProgram⟩ := running.finish.exists_run nonempty
      exact .intro around (awaiting.connective run operator) (fun _ => inside)
        (.outset (by simp [Parser.behind]) allBlank_nil) (by simp [symbol])
        (by simp [Parser.behind, emitted, runProgram])
  | @quantifier operator symbol direct =>
      rw [direct] at running
      exact .intro around awaiting legal (running.quantifier operator)
        (by simp [symbol]) (by simp [Parser.behind, emitted])

/-- Reading lexemes keeps what has been read and emitted together. -/
theorem reads
    {lexemes : List Lexeme}
    (parsed : Parsed parser sequence symbols)
    (reads : parser.Reads sequence lexemes next nextSequence) :
    Parsed next nextSequence (symbols ++ lexemes.map Lexeme.symbol) := by
  induction reads generalizing symbols with
  | nothing =>
      simpa using parsed
  | lexeme advances _ inductionHypothesis =>
      simpa using inductionHypothesis (parsed.advance advances)

/-- At the end of the text all that was read is a run, and its program is emitted. -/
theorem exists_run
    (parsed : Parsed parser sequence symbols)
    (noGroup : parser.groups = [])
    (nonempty : sequence.finished.terms ≠ 0) :
    ∃ tree,
      Derives .run symbols tree ∧
        tree.program =
          (emittedOperators sequence.operators ++
            (sequence.joint ++ parser.emitted)).reverse := by
  obtain ⟨around, awaiting, legal, running, rfl, emitted⟩ := parsed
  obtain ⟨tree, run, runProgram⟩ := running.finish.exists_run nonempty
  have noOperator : sequence.operators = [] := by
    by_contra waits
    simpa [Parser.insideBrackets, noGroup] using legal waits
  rw [noGroup] at around
  rw [noOperator] at awaiting
  cases around
  cases awaiting
  exact ⟨tree, by simpa using run, by simp [noOperator, emitted, runProgram]⟩

end Parsed

end TokenPattern
