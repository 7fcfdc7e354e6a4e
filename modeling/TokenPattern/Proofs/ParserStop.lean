import TokenPattern.Proofs.ParserStep

namespace TokenPattern.Parser

/-!
# Where the parser stops

The parser stops at a lexeme that it does not read, or at the end of the text.
All ways in which it stops at a lexeme are said once, by a relation with the
error and with the parser that is left.
-/

variable {parser next left : Parser}
variable {sequence nextSequence : Sequence}
variable {lexeme : Lexeme}
variable {error : SyntaxError}

/-- The parser at another place: before other lexemes, in another pattern. -/
def elsewhere
    (parser : Parser)
    (pattern : String)
    (pending : List Lexeme) :
    Parser :=
  { parser with pattern := pattern, pending := pending }

/-- A parser stops at a lexeme. -/
inductive StopsAt
    (parser : Parser)
    (sequence : Sequence)
    (lexeme : Lexeme) :
    SyntaxError → Parser → Prop where
  | stray
      (symbol : lexeme.symbol = .stray) :
      StopsAt parser sequence lexeme
        (parser.errorAt .unexpectedChar (parser.spanOf lexeme)) parser
  /-- A broken lexeme is left behind. -/
  | broken
      {fault : Fault}
      {lead : List Char}
      (symbol : lexeme.symbol = .broken fault lead) :
      StopsAt parser sequence lexeme
        (parser.errorAt fault
          ⟨parser.offset + Text.width lead, parser.offset + lexeme.width⟩)
        (parser.skip lexeme)
  | quantifier
      {operator : Quantifier}
      {fault : Fault}
      (symbol : lexeme.symbol = .quantifier operator)
      (isFault : parser.quantifierFault? sequence = some fault) :
      StopsAt parser sequence lexeme
        (parser.errorAt fault (parser.spanOf lexeme)) parser
  | outsideBracket
      {operator : Connective}
      (symbol : lexeme.symbol = .connective operator)
      (outside : parser.insideBrackets = false) :
      StopsAt parser sequence lexeme
        (parser.errorAt .operatorOutsideBracket (parser.spanOf lexeme)) parser
  | noLeftOperand
      {operator : Connective}
      (symbol : lexeme.symbol = .connective operator)
      (inside : parser.insideBrackets = true)
      (isEmpty : sequence.finished.terms = 0) :
      StopsAt parser sequence lexeme
        (parser.errorAt .missingOperand (parser.spanOf lexeme)) parser
  | unopened
      {shape : Delimiter}
      (symbol : lexeme.symbol = .closer shape)
      (noGroup : parser.groups = []) :
      StopsAt parser sequence lexeme
        (parser.errorAt .groupUnopened (parser.spanOf lexeme))
        { parser with emitted := sequence.joint ++ parser.emitted }
  /-- The group of the other shape is given up. -/
  | mismatch
      {shape : Delimiter}
      {group : OpenGroup}
      {outerGroups : List OpenGroup}
      (symbol : lexeme.symbol = .closer shape)
      (innermost : parser.groups = group :: outerGroups)
      (otherShape : group.shape ≠ shape) :
      StopsAt parser sequence lexeme
        (parser.errorAt .groupMismatch (parser.spanOf lexeme))
        { parser with
          groups := outerGroups
          emitted := sequence.joint ++ parser.emitted }
  /-- The group and its closing delimiter are left behind. -/
  | emptyGroup
      {group : OpenGroup}
      {outerGroups : List OpenGroup}
      (symbol : lexeme.symbol = .closer group.shape)
      (innermost : parser.groups = group :: outerGroups)
      (isEmpty : sequence.finished.terms = 0) :
      StopsAt parser sequence lexeme
        (parser.errorAt (unfinishedFault sequence .emptyGroup)
          ⟨group.opener.start, parser.offset + lexeme.width⟩)
        (parser.behind lexeme outerGroups parser.emitted parser.preceding)

theorem joint_of_isEmpty (isEmpty : sequence.finished.terms = 0) :
    sequence.joint = [] := by
  obtain ⟨terms, pendingTerm, operators⟩ := sequence
  cases pendingTerm with
  | false =>
      rfl
  | true =>
      simp [Sequence.finished] at isEmpty

/-- A parser that does not go on stops. -/
theorem stops_of_step
    (stop : parser.step sequence lexeme = .stop error left) :
    parser.StopsAt sequence lexeme error left := by
  unfold step at stop
  split at stop
  case h_1 =>
    cases stop
  case h_2 test symbol =>
    rw [readAtom, finishTerm_eq] at stop
    cases stop
  case h_3 shape symbol =>
    rw [readOpener, finishTerm_eq] at stop
    cases stop
  case h_4 shape symbol =>
    rw [readCloser, finishTerm_eq] at stop
    dsimp only at stop
    split at stop
    · rename_i noGroup
      cases stop
      exact .unopened symbol noGroup
    · rename_i group outerGroups innermost
      split at stop
      · rename_i otherShape
        cases stop
        exact .mismatch symbol innermost otherShape
      · rename_i sameShape
        split at stop
        · rename_i isEmpty
          have sameShape := Decidable.not_not.1 sameShape
          cases stop
          have stops : parser.StopsAt sequence lexeme
              (parser.errorAt (unfinishedFault sequence.finished .emptyGroup) _) _ :=
            .emptyGroup (sameShape ▸ symbol) innermost isEmpty
          simpa [joint_of_isEmpty isEmpty, skip, behind, errorAt] using stops
        · cases stop
  case h_5 operator symbol =>
    rw [readConnective, finishTerm_eq] at stop
    split at stop
    · rename_i inside
      dsimp only at stop
      split at stop
      · rename_i isEmpty
        cases stop
        simpa [joint_of_isEmpty isEmpty] using
          StopsAt.noLeftOperand symbol inside isEmpty
      · cases stop
    · rename_i outside
      cases stop
      exact .outsideBracket symbol (by simpa using outside)
  case h_6 operator symbol =>
    unfold readQuantifier at stop
    split at stop
    · rename_i fault isFault
      cases stop
      exact .quantifier symbol isFault
    · cases stop
  case h_7 symbol =>
    cases stop
    exact .stray symbol
  case h_8 fault lead symbol =>
    cases stop
    exact .broken symbol

theorem StopsAt.step_eq (stops : parser.StopsAt sequence lexeme error left) :
    parser.step sequence lexeme = .stop error left := by
  cases stops with
  | stray symbol =>
      rw [step, symbol]
  | broken symbol =>
      rw [step, symbol]
  | quantifier symbol isFault =>
      rw [step, symbol]
      simp only [readQuantifier, isFault]
  | outsideBracket symbol outside =>
      rw [step, symbol]
      simp [readConnective, outside]
  | noLeftOperand symbol inside isEmpty =>
      rw [step, symbol]
      simp [readConnective, inside, finishTerm_eq, isEmpty, joint_of_isEmpty isEmpty]
  | unopened symbol noGroup =>
      rw [step, symbol]
      simp only [readCloser, finishTerm_eq, noGroup]
      rfl
  | mismatch symbol innermost otherShape =>
      rw [step, symbol]
      simp only [readCloser, finishTerm_eq, innermost, if_pos otherShape]
      rfl
  | emptyGroup symbol innermost isEmpty =>
      rw [step, symbol]
      simp only [readCloser, finishTerm_eq, innermost, ne_eq, not_true_eq_false,
        if_false, if_pos isEmpty, joint_of_isEmpty isEmpty]
      rfl

theorem StopsAt.pattern_eq (stops : parser.StopsAt sequence lexeme error left) :
    error.pattern = parser.pattern := by
  cases stops <;> rfl

theorem StopsAt.span_stop (stops : parser.StopsAt sequence lexeme error left) :
    error.span.stop = parser.offset + lexeme.width := by
  cases stops <;> rfl

/-- A parser stops in the same way in another pattern. -/
theorem StopsAt.elsewhere
    (stops : parser.StopsAt sequence lexeme error left)
    (pattern : String)
    (pending : List Lexeme) :
    ∃ leftThere,
      (parser.elsewhere pattern pending).StopsAt sequence lexeme
        { error with pattern := pattern } leftThere := by
  cases stops with
  | stray symbol =>
      exact ⟨_, .stray symbol⟩
  | broken symbol =>
      exact ⟨_, .broken symbol⟩
  | quantifier symbol isFault =>
      exact ⟨_, .quantifier symbol isFault⟩
  | outsideBracket symbol outside =>
      exact ⟨_, .outsideBracket symbol outside⟩
  | noLeftOperand symbol inside isEmpty =>
      exact ⟨_, .noLeftOperand symbol inside isEmpty⟩
  | unopened symbol noGroup =>
      exact ⟨_, .unopened symbol noGroup⟩
  | mismatch symbol innermost otherShape =>
      exact ⟨_, .mismatch symbol innermost otherShape⟩
  | emptyGroup symbol innermost isEmpty =>
      exact ⟨_, .emptyGroup symbol innermost isEmpty⟩

theorem Advances.elsewhere
    (advances : parser.Advances sequence lexeme next nextSequence)
    (pattern : String)
    (pending : List Lexeme) :
    (parser.elsewhere pattern (lexeme :: pending)).Advances sequence lexeme
      (next.elsewhere pattern pending) nextSequence := by
  cases advances with
  | blank symbol =>
      exact .blank symbol
  | atom symbol =>
      exact .atom symbol
  | opener symbol =>
      exact .opener symbol
  | closer symbol innermost nonempty =>
      exact .closer symbol innermost nonempty
  | connective symbol inside nonempty =>
      exact .connective symbol inside nonempty
  | quantifier symbol direct =>
      exact .quantifier symbol direct

theorem Reads.elsewhere
    {lexemes : List Lexeme}
    (reads : parser.Reads sequence lexemes next nextSequence)
    (pattern : String)
    (pending : List Lexeme) :
    (parser.elsewhere pattern (lexemes ++ pending)).Reads sequence lexemes
      (next.elsewhere pattern pending) nextSequence := by
  induction reads with
  | nothing =>
      exact .nothing _ _
  | lexeme advances _ inductionHypothesis =>
      exact .lexeme (advances.elsewhere pattern _) inductionHypothesis

theorem Advances.next_place (advances : parser.Advances sequence lexeme next nextSequence) :
    next.pattern = parser.pattern ∧
      next.offset = parser.offset + lexeme.width ∧
      next.pending = parser.pending.tail := by
  cases advances <;> exact ⟨rfl, rfl, rfl⟩

theorem Reads.last_place
    {lexemes : List Lexeme}
    (reads : parser.Reads sequence lexemes next nextSequence) :
    next.pattern = parser.pattern ∧
      next.offset = parser.offset + Text.width (lexemes.flatMap Lexeme.text) ∧
      next.pending = parser.pending.drop lexemes.length := by
  induction reads with
  | nothing =>
      simp
  | lexeme advances _ inductionHypothesis =>
      obtain ⟨pattern, offset, pending⟩ := inductionHypothesis
      obtain ⟨nextPattern, nextOffset, nextPending⟩ := advances.next_place
      refine ⟨pattern.trans nextPattern, ?_, ?_⟩
      · rw [offset, nextOffset, List.flatMap_cons, Text.width_append, Lexeme.width,
          Nat.add_assoc]
      · rw [pending, nextPending, List.length_cons, List.drop_tail]

/-- A call reads lexemes until it stops at one or comes to the end of the text. -/
theorem readAll_cases
    (lexemes : List Lexeme)
    (parser : Parser)
    (sequence : Sequence) :
    ∃ front last lastSequence,
      parser.Reads sequence front last lastSequence ∧
        ((lexemes = front ∧
            readAll lexemes parser sequence = last.finish lastSequence) ∨
          ∃ lexeme back error left,
            lexemes = front ++ lexeme :: back ∧
              last.StopsAt lastSequence lexeme error left ∧
              readAll lexemes parser sequence = (.error error, left)) := by
  induction lexemes generalizing parser sequence with
  | nil =>
      exact ⟨[], parser, sequence, .nothing _ _, .inl ⟨rfl, rfl⟩⟩
  | cons lexeme rest inductionHypothesis =>
      rw [readAll]
      cases stepEq : parser.step sequence lexeme with
      | next middle middleSequence =>
          have advances := advances_of_step stepEq
          obtain ⟨front, last, lastSequence, reads, ends⟩ :=
            inductionHypothesis middle middleSequence
          refine ⟨lexeme :: front, last, lastSequence, .lexeme advances reads, ?_⟩
          rcases ends with ⟨rfl, finishes⟩ | ⟨stopLexeme, back, error, left, rfl, stops, same⟩
          · exact .inl ⟨rfl, finishes⟩
          · exact .inr ⟨stopLexeme, back, error, left, rfl, stops, same⟩
      | stop error left =>
          exact ⟨[], parser, sequence, .nothing _ _,
            .inr ⟨lexeme, rest, error, left, rfl, stops_of_step stepEq, rfl⟩⟩

/-- A call that reads lexemes up to one at which it stops ends with that error. -/
theorem Reads.readAll_stop
    {front back : List Lexeme}
    (reads : parser.Reads sequence front next nextSequence)
    (stops : next.StopsAt nextSequence lexeme error left) :
    readAll (front ++ lexeme :: back) parser sequence = (.error error, left) := by
  induction reads with
  | nothing =>
      rw [List.nil_append, readAll, stops.step_eq]
  | lexeme advances _ inductionHypothesis =>
      rw [List.cons_append, readAll, advances.step_eq]
      exact inductionHypothesis stops

/-- What is open was open before or was opened by a lexeme that was read. -/
theorem Reads.opened
    {lexemes : List Lexeme}
    (reads : parser.Reads sequence lexemes next nextSequence)
    {group : OpenGroup}
    (isOpen : group ∈ next.groups) :
    group ∈ parser.groups ∨
      ∃ front opener back middle middleSequence,
        lexemes = front ++ opener :: back ∧
          parser.Reads sequence front middle middleSequence ∧
          group.opener = middle.spanOf opener := by
  induction reads with
  | nothing =>
      exact .inl isOpen
  | @lexeme parser middle last sequence middleSequence lastSequence lexeme rest
      advances _ inductionHypothesis =>
      rcases inductionHypothesis isOpen with
        before | ⟨front, opener, back, at', atSequence, rfl, reads, span⟩
      · cases advances with
        | blank | atom | connective | quantifier =>
            exact .inl before
        | closer _ innermost =>
            rw [innermost]
            exact .inl (List.mem_cons_of_mem _ before)
        | opener =>
            rcases List.mem_cons.1 before with rfl | wasOpen
            · exact .inr ⟨[], lexeme, rest, parser, sequence, rfl, .nothing _ _, rfl⟩
            · exact .inl wasOpen
      · exact .inr ⟨lexeme :: front, opener, back, at', atSequence, rfl,
          .lexeme advances reads, span⟩

/-- A call comes to the end of the text. -/
inductive EndsWith
    (parser : Parser)
    (sequence : Sequence) :
    Except SyntaxError (List Instruction) → Parser → Prop where
  /-- The innermost open group is given up. -/
  | unclosed
      {group : OpenGroup}
      {outerGroups : List OpenGroup}
      (innermost : parser.groups = group :: outerGroups) :
      EndsWith parser sequence
        (.error (parser.errorAt .groupUnclosed group.opener))
        { parser with
          groups := outerGroups
          emitted := sequence.joint ++ parser.emitted }
  | empty
      (noGroup : parser.groups = [])
      (isEmpty : sequence.finished.terms = 0) :
      EndsWith parser sequence
        (.error
          (parser.errorAt (unfinishedFault sequence .emptyPattern)
            (.point parser.offset)))
        parser
  | complete
      (noGroup : parser.groups = [])
      (nonempty : sequence.finished.terms ≠ 0) :
      EndsWith parser sequence
        (.ok
          (emittedOperators sequence.operators ++
            (sequence.joint ++ parser.emitted)).reverse)
        { parser with emitted := [] }

theorem EndsWith.pattern_eq
    (ends : parser.EndsWith sequence (.error error) left) :
    error.pattern = parser.pattern := by
  cases ends <;> rfl

/-- All ways in which a call comes to the end of the text. -/
theorem endsWith_finish (parser : Parser) (sequence : Sequence) :
    parser.EndsWith sequence (parser.finish sequence).1 (parser.finish sequence).2 := by
  rw [finish, finishTerm_eq]
  dsimp only
  split
  · rename_i group outerGroups innermost
    exact .unclosed innermost
  · rename_i noGroup
    split
    · rename_i isEmpty
      rw [joint_of_isEmpty isEmpty]
      exact .empty noGroup isEmpty
    · rename_i nonempty
      rw [emitOperators_eq]
      exact .complete noGroup nonempty

end TokenPattern.Parser
