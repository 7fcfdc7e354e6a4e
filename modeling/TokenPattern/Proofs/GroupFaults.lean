import TokenPattern.Proofs.LastToken

namespace TokenPattern

/-!
# Faults of groups and operators

What a fresh parse does at a closing delimiter, at an operator between operands
and at the end of the text follows from the text before it: from the group that
is innermost there, from what stands in it and from the last token.
-/

/-- What a fresh parse does at a closing delimiter. -/
structure CloserDiagnosed
    (dialect : Dialect)
    (pattern : String)
    (front : List Lexeme)
    (closer : Lexeme)
    (rest : List Lexeme)
    (shape : Delimiter) : Prop where
  /-- No group is open. -/
  unopened :
    FailsWith dialect pattern .groupUnopened (closer.spanBehind front) ↔
      Balanced front
  /-- The innermost open group has the other shape, whatever stands in it. -/
  mismatch :
    FailsWith dialect pattern .groupMismatch (closer.spanBehind front) ↔
      ∃ other before opener inside,
        InnermostGroup front other before opener inside ∧ other ≠ shape
  /-- Nothing but blanks stands in the group, which is at fault as a whole. -/
  emptyGroup :
    ∀ start,
      FailsWith dialect pattern .emptyGroup ⟨start, (closer.spanBehind front).stop⟩ ↔
        ∃ before opener inside,
          InnermostGroup front shape before opener inside ∧
            IsBlanks (inside.flatMap Lexeme.text) ∧
            start = (opener.spanBehind before).start
  /-- The last operator in the group has no right operand. -/
  missingOperand :
    ∀ start,
      FailsWith dialect pattern .missingOperand ⟨start, (closer.spanBehind front).stop⟩ ↔
        ∃ before opener inside,
          InnermostGroup front shape before opener inside ∧
            EndsWithConnective front ∧
            start = (opener.spanBehind before).start
  goesOn :
    GetsTo dialect pattern (front ++ [closer]) rest ↔
      ∃ before opener inside,
        InnermostGroup front shape before opener inside ∧
          ¬ IsBlanks (inside.flatMap Lexeme.text) ∧
          ¬ EndsWithConnective front

/-- What a fresh parse does at an operator between operands. -/
structure ConnectiveDiagnosed
    (dialect : Dialect)
    (pattern : String)
    (front : List Lexeme)
    (connective : Lexeme)
    (rest : List Lexeme) : Prop where
  /-- The innermost open group, if there is one, is not in brackets. -/
  outsideBracket :
    FailsWith dialect pattern .operatorOutsideBracket (connective.spanBehind front) ↔
      ¬∃ before opener inside, InnermostGroup front .square before opener inside
  /-- The operator stands directly behind the bracket or another operator, blanks aside. -/
  missingOperand :
    FailsWith dialect pattern .missingOperand (connective.spanBehind front) ↔
      ∃ before opener inside,
        InnermostGroup front .square before opener inside ∧
          (IsBlanks (inside.flatMap Lexeme.text) ∨ EndsWithConnective front)
  goesOn :
    GetsTo dialect pattern (front ++ [connective]) rest ↔
      ∃ before opener inside,
        InnermostGroup front .square before opener inside ∧
          ¬ IsBlanks (inside.flatMap Lexeme.text) ∧
          ¬ EndsWithConnective front

/-- What a fresh parse does at the end of the text. -/
structure EndDiagnosed
    (dialect : Dialect)
    (pattern : String)
    (front : List Lexeme) : Prop where
  /-- The innermost open group has no closing delimiter. -/
  unclosed :
    ∀ span,
      FailsWith dialect pattern .groupUnclosed span ↔
        ∃ shape before opener inside,
          InnermostGroup front shape before opener inside ∧
            span = opener.spanBehind before
  empty :
    ∀ span,
      FailsWith dialect pattern .emptyPattern span ↔
        IsBlanks pattern.toList ∧ span = .point pattern.utf8ByteSize
  succeeds :
    (∃ program, parse dialect pattern = .ok program) ↔
      Balanced front ∧ ¬ IsBlanks pattern.toList

/-- What a fresh parse that gets to lexemes does at the first of them or at the end. -/
structure GroupsDiagnosed
    (dialect : Dialect)
    (pattern : String)
    (front back : List Lexeme) : Prop where
  closer :
    ∀ closer rest shape,
      back = closer :: rest →
      closer.symbol = .closer shape →
      CloserDiagnosed dialect pattern front closer rest shape
  connective :
    ∀ connective rest operator,
      back = connective :: rest →
      connective.symbol = .connective operator →
      ConnectiveDiagnosed dialect pattern front connective rest
  atEnd :
    back = [] →
    EndDiagnosed dialect pattern front

namespace Parser

variable {parser : Parser}
variable {sequence : Sequence}
variable {lexeme : Lexeme}
variable {error : SyntaxError}

/-- A parser stops at a closing delimiter if no group is open, or the wrong one, or an empty one. -/
theorem stopsAt_closer_iff
    {shape : Delimiter}
    (symbol : lexeme.symbol = .closer shape) :
    (∃ left, parser.StopsAt sequence lexeme error left) ↔
      (parser.groups = [] ∧
        error = parser.errorAt .groupUnopened (parser.spanOf lexeme)) ∨
      ∃ group outerGroups,
        parser.groups = group :: outerGroups ∧
          (group.shape ≠ shape ∧
              error = parser.errorAt .groupMismatch (parser.spanOf lexeme) ∨
            group.shape = shape ∧
              sequence.finished.terms = 0 ∧
              error =
                parser.errorAt (unfinishedFault sequence .emptyGroup)
                  ⟨group.opener.start, parser.offset + lexeme.width⟩) := by
  constructor
  · rintro ⟨left, stops⟩
    cases stops with
    | unopened _ noGroup =>
        exact .inl ⟨noGroup, rfl⟩
    | mismatch symbolToo innermost otherShape =>
        cases symbol.symm.trans symbolToo
        exact .inr ⟨_, _, innermost, .inl ⟨otherShape, rfl⟩⟩
    | emptyGroup symbolToo innermost isEmpty =>
        cases symbol.symm.trans symbolToo
        exact .inr ⟨_, _, innermost, .inr ⟨rfl, isEmpty, rfl⟩⟩
    | stray symbolToo | broken symbolToo | quantifier symbolToo | outsideBracket symbolToo
    | noLeftOperand symbolToo =>
        cases symbol.symm.trans symbolToo
  · rintro (⟨noGroup, rfl⟩ |
      ⟨group, outerGroups, innermost, ⟨otherShape, rfl⟩ | ⟨rfl, isEmpty, rfl⟩⟩)
    · exact ⟨_, .unopened symbol noGroup⟩
    · exact ⟨_, .mismatch symbol innermost otherShape⟩
    · exact ⟨_, .emptyGroup symbol innermost isEmpty⟩

/-- A parser reads a closing delimiter of a group that has a term in its last run. -/
theorem advances_closer_iff
    {shape : Delimiter}
    (symbol : lexeme.symbol = .closer shape) :
    (∃ next nextSequence, parser.Advances sequence lexeme next nextSequence) ↔
      ∃ group outerGroups,
        parser.groups = group :: outerGroups ∧
          group.shape = shape ∧ sequence.finished.terms ≠ 0 := by
  constructor
  · rintro ⟨next, nextSequence, advances⟩
    cases advances with
    | closer symbolToo innermost nonempty =>
        cases symbol.symm.trans symbolToo
        exact ⟨_, _, innermost, rfl, nonempty⟩
    | blank symbolToo | atom symbolToo | opener symbolToo | connective symbolToo
    | quantifier symbolToo =>
        cases symbol.symm.trans symbolToo
  · rintro ⟨group, outerGroups, innermost, rfl, nonempty⟩
    exact ⟨_, _, .closer symbol innermost nonempty⟩

/-- A parser stops at an operator outside brackets and at one without a left operand. -/
theorem stopsAt_connective_iff
    {operator : Connective}
    (symbol : lexeme.symbol = .connective operator) :
    (∃ left, parser.StopsAt sequence lexeme error left) ↔
      (parser.insideBrackets = false ∧
        error = parser.errorAt .operatorOutsideBracket (parser.spanOf lexeme)) ∨
      (parser.insideBrackets = true ∧
        sequence.finished.terms = 0 ∧
        error = parser.errorAt .missingOperand (parser.spanOf lexeme)) := by
  constructor
  · rintro ⟨left, stops⟩
    cases stops with
    | outsideBracket _ outside =>
        exact .inl ⟨outside, rfl⟩
    | noLeftOperand _ inside isEmpty =>
        exact .inr ⟨inside, isEmpty, rfl⟩
    | stray symbolToo | broken symbolToo | quantifier symbolToo | unopened symbolToo
    | mismatch symbolToo | emptyGroup symbolToo =>
        cases symbol.symm.trans symbolToo
  · rintro (⟨outside, rfl⟩ | ⟨inside, isEmpty, rfl⟩)
    · exact ⟨_, .outsideBracket symbol outside⟩
    · exact ⟨_, .noLeftOperand symbol inside isEmpty⟩

/-- A parser reads an operator inside brackets that has a left operand. -/
theorem advances_connective_iff
    {operator : Connective}
    (symbol : lexeme.symbol = .connective operator) :
    (∃ next nextSequence, parser.Advances sequence lexeme next nextSequence) ↔
      parser.insideBrackets = true ∧ sequence.finished.terms ≠ 0 := by
  constructor
  · rintro ⟨next, nextSequence, advances⟩
    cases advances with
    | connective _ inside nonempty =>
        exact ⟨inside, nonempty⟩
    | blank symbolToo | atom symbolToo | opener symbolToo | closer symbolToo
    | quantifier symbolToo =>
        cases symbol.symm.trans symbolToo
  · rintro ⟨inside, nonempty⟩
    exact ⟨_, _, .connective symbol inside nonempty⟩

variable {dialect : Dialect}
variable {pattern : String}
variable {front back : List Lexeme}
variable {last : Parser}
variable {lastSequence : Sequence}

/-- Nothing has been read of a group exactly if only blanks stand in it. -/
theorem nothingRead_iff
    (reads : (ofPattern dialect pattern).Reads .empty front last lastSequence)
    (isCut : Lexeme.ofText dialect pattern.toList = front ++ back)
    {shape : Delimiter}
    {before inside : List Lexeme}
    {opener : Lexeme}
    (innermost : InnermostGroup front shape before opener inside) :
    lastSequence.finished.terms = 0 ∧ lastSequence.operators = [] ↔
      IsBlanks (inside.flatMap Lexeme.text) := by
  have written : ∀ lexeme ∈ inside, lexeme.symbol.Written dialect lexeme.text := by
    intro lexeme member
    apply written_of_reads isCut reads
    simp [innermost.parts, member]
  rw [(standing_of_reads reads).known.isEmpty_iff, Lexeme.isBlanks_text_iff written,
    ← lastToken?_eq_none_iff]
  obtain ⟨rfl, opens, balanced⟩ := innermost
  rw [lastToken?_append, lastToken?_cons, lastToken?_of_token (by simp [opens])]
  cases isLast : lastToken? inside with
  | none =>
      simp [opens]
  | some token =>
      simpa using balanced.ne_opener isLast

variable {shape : Delimiter}
variable {before inside : List Lexeme}
variable {opener : Lexeme}

/-- Where an operand is missing, nothing but blanks stands in the group or an operator is last. -/
theorem noTerm_iff
    (reads : (ofPattern dialect pattern).Reads .empty front last lastSequence)
    (isCut : Lexeme.ofText dialect pattern.toList = front ++ back)
    (innermost : InnermostGroup front shape before opener inside) :
    lastSequence.finished.terms = 0 ↔
      IsBlanks (inside.flatMap Lexeme.text) ∨ EndsWithConnective front := by
  rw [← nothingRead_iff reads isCut innermost, EndsWithConnective,
    ← (standing_of_reads reads).known.awaits_iff, ← and_or_left]
  simp [Decidable.em]

/-- Which of these it is decides the fault. -/
theorem unfinishedFault_iff
    (reads : (ofPattern dialect pattern).Reads .empty front last lastSequence)
    (isCut : Lexeme.ofText dialect pattern.toList = front ++ back)
    (innermost : InnermostGroup front shape before opener inside)
    {fault whenEmpty : Fault} :
    lastSequence.finished.terms = 0 ∧ fault = unfinishedFault lastSequence whenEmpty ↔
      IsBlanks (inside.flatMap Lexeme.text) ∧ fault = whenEmpty ∨
        EndsWithConnective front ∧ fault = .missingOperand := by
  rw [← nothingRead_iff reads isCut innermost, EndsWithConnective,
    ← (standing_of_reads reads).known.awaits_iff, unfinishedFault]
  cases lastSequence.operators <;> simp

/-- The faults at a closing delimiter in terms of the text before it. -/
theorem failsWith_closer_iff
    (reads : (ofPattern dialect pattern).Reads .empty front last lastSequence)
    (isCut : Lexeme.ofText dialect pattern.toList = front ++ lexeme :: back)
    (closes : lexeme.symbol = .closer shape)
    (fault : Fault)
    (notUnclosed : fault ≠ .groupUnclosed)
    (notEmpty : fault ≠ .emptyPattern)
    (span : Span)
    (stop : span.stop = (lexeme.spanBehind front).stop) :
    FailsWith dialect pattern fault span ↔
      (Balanced front ∧ fault = .groupUnopened ∧ span = lexeme.spanBehind front) ∨
      ∃ other before opener inside,
        InnermostGroup front other before opener inside ∧
          (other ≠ shape ∧ fault = .groupMismatch ∧ span = lexeme.spanBehind front ∨
            other = shape ∧
              (IsBlanks (inside.flatMap Lexeme.text) ∧ fault = .emptyGroup ∨
                EndsWithConnective front ∧ fault = .missingOperand) ∧
              span.start = (opener.spanBehind before).start) := by
  rw [GetsTo.failsWith_iff isCut reads notUnclosed notEmpty stop, stopsAt_closer_iff closes,
    groups_eq_nil_iff reads]
  simp only [errorAt_of_reads reads, spanOf_of_reads reads, SyntaxError.mk.injEq, true_and]
  constructor
  · rintro (unopened | ⟨group, outerGroups, isFirst, atGroup⟩)
    · exact .inl unopened
    · obtain ⟨before, opener, inside, innermost, openerSpan⟩ :=
        exists_innermost_of_groups reads isFirst
      refine .inr ⟨_, before, opener, inside, innermost, atGroup.imp_right ?_⟩
      rintro ⟨sameShape, isEmpty, isFault, rfl⟩
      exact ⟨sameShape, (unfinishedFault_iff reads isCut innermost).1 ⟨isEmpty, isFault⟩,
        by rw [openerSpan]⟩
  · rintro (unopened | ⟨other, before, opener, inside, innermost, atGroup⟩)
    · exact .inl unopened
    · obtain ⟨group, outerGroups, isFirst, rfl, openerSpan⟩ :=
        exists_groups_of_innermost reads innermost
      refine .inr ⟨group, outerGroups, isFirst, atGroup.imp_right ?_⟩
      rintro ⟨sameShape, isUnfinished, start⟩
      obtain ⟨isEmpty, isFault⟩ := (unfinishedFault_iff reads isCut innermost).2 isUnfinished
      refine ⟨sameShape, isEmpty, isFault, ?_⟩
      rw [openerSpan, ← start, offset_of_reads reads]
      exact congrArg (Span.mk span.start) stop

/-- What a fresh parse does at a closing delimiter follows from the text before it. -/
theorem closerDiagnosed
    (reads : (ofPattern dialect pattern).Reads .empty front last lastSequence)
    (isCut : Lexeme.ofText dialect pattern.toList = front ++ lexeme :: back)
    (closes : lexeme.symbol = .closer shape) :
    CloserDiagnosed dialect pattern front lexeme back shape where
  unopened := by
    rw [failsWith_closer_iff reads isCut closes .groupUnopened (by decide) (by decide) _ rfl]
    simp
  mismatch := by
    rw [failsWith_closer_iff reads isCut closes .groupMismatch (by decide) (by decide) _ rfl]
    simp
  emptyGroup start := by
    rw [failsWith_closer_iff reads isCut closes .emptyGroup (by decide) (by decide)
      ⟨start, (lexeme.spanBehind front).stop⟩ rfl]
    simp
  missingOperand start := by
    rw [failsWith_closer_iff reads isCut closes .missingOperand (by decide) (by decide)
      ⟨start, (lexeme.spanBehind front).stop⟩ rfl]
    simp
  goesOn := by
    rw [GetsTo.snoc_iff isCut reads, advances_closer_iff closes]
    constructor
    · rintro ⟨group, outerGroups, isFirst, rfl, nonempty⟩
      obtain ⟨before, opener, inside, innermost, _⟩ := exists_innermost_of_groups reads isFirst
      rw [Ne, noTerm_iff reads isCut innermost, not_or] at nonempty
      exact ⟨before, opener, inside, innermost, nonempty⟩
    · rintro ⟨before, opener, inside, innermost, nonempty⟩
      obtain ⟨group, outerGroups, isFirst, sameShape, _⟩ :=
        exists_groups_of_innermost reads innermost
      rw [← not_or, ← noTerm_iff reads isCut innermost] at nonempty
      exact ⟨group, outerGroups, isFirst, sameShape, nonempty⟩

/-- Operators may stand where the innermost open group is in brackets. -/
theorem insideBrackets_iff
    (reads : (ofPattern dialect pattern).Reads .empty front last lastSequence) :
    last.insideBrackets = true ↔
      ∃ before opener inside, InnermostGroup front .square before opener inside := by
  constructor
  · intro isInside
    cases isFirst : last.groups with
    | nil =>
        simp [insideBrackets, isFirst] at isInside
    | cons group outerGroups =>
        have isSquare : group.shape = .square := by
          simpa [insideBrackets, isFirst] using isInside
        obtain ⟨before, opener, inside, innermost, _⟩ := exists_innermost_of_groups reads isFirst
        exact ⟨before, opener, inside, isSquare ▸ innermost⟩
  · rintro ⟨before, opener, inside, innermost⟩
    obtain ⟨group, outerGroups, isFirst, isSquare, _⟩ :=
      exists_groups_of_innermost reads innermost
    simp [insideBrackets, isFirst, isSquare]

/-- What a fresh parse does at an operator follows from the text before it. -/
theorem connectiveDiagnosed
    (reads : (ofPattern dialect pattern).Reads .empty front last lastSequence)
    (isCut : Lexeme.ofText dialect pattern.toList = front ++ lexeme :: back)
    {operator : Connective}
    (isOperator : lexeme.symbol = .connective operator) :
    ConnectiveDiagnosed dialect pattern front lexeme back where
  outsideBracket := by
    rw [GetsTo.failsWith_iff isCut reads (by decide) (by decide) rfl,
      stopsAt_connective_iff isOperator, ← insideBrackets_iff reads]
    simp [errorAt_of_reads reads, spanOf_of_reads reads]
  missingOperand := by
    rw [GetsTo.failsWith_iff isCut reads (by decide) (by decide) rfl,
      stopsAt_connective_iff isOperator, insideBrackets_iff reads]
    simp only [errorAt_of_reads reads, spanOf_of_reads reads, SyntaxError.mk.injEq,
      and_true, reduceCtorEq, and_false, false_or]
    constructor
    · rintro ⟨⟨before, opener, inside, innermost⟩, isEmpty⟩
      exact ⟨before, opener, inside, innermost, (noTerm_iff reads isCut innermost).1 isEmpty⟩
    · rintro ⟨before, opener, inside, innermost, isEmpty⟩
      exact ⟨⟨before, opener, inside, innermost⟩, (noTerm_iff reads isCut innermost).2 isEmpty⟩
  goesOn := by
    rw [GetsTo.snoc_iff isCut reads, advances_connective_iff isOperator, insideBrackets_iff reads]
    constructor
    · rintro ⟨⟨before, opener, inside, innermost⟩, nonempty⟩
      rw [Ne, noTerm_iff reads isCut innermost, not_or] at nonempty
      exact ⟨before, opener, inside, innermost, nonempty⟩
    · rintro ⟨before, opener, inside, innermost, nonempty⟩
      rw [← not_or, ← noTerm_iff reads isCut innermost] at nonempty
      exact ⟨⟨before, opener, inside, innermost⟩, nonempty⟩

/-- A pattern that is read to its end has nothing but blanks if it has no token. -/
theorem isBlanks_pattern_iff
    (reads : (ofPattern dialect pattern).Reads .empty front last lastSequence)
    (isCut : Lexeme.ofText dialect pattern.toList = front) :
    IsBlanks pattern.toList ↔ lastToken? front = none := by
  have isCutToo : Lexeme.ofText dialect pattern.toList = front ++ [] := by
    rw [isCut, List.append_nil]
  have written := written_of_reads isCutToo reads
  rw [← Lexeme.text_lexemes dialect pattern.toList, isCut, Lexeme.isBlanks_text_iff written,
    lastToken?_eq_none_iff]

/-- Without an open group nothing but blanks was read where no term was. -/
theorem noTerm_iff_isBlanks
    (reads : (ofPattern dialect pattern).Reads .empty front last lastSequence)
    (isCut : Lexeme.ofText dialect pattern.toList = front)
    (noGroup : last.groups = []) :
    lastSequence.finished.terms = 0 ↔ IsBlanks pattern.toList := by
  have noOperator :=
    ((parsed_ofPattern dialect pattern).reads reads).operators_eq_nil noGroup
  have isEmpty := (standing_of_reads reads).known.isEmpty_iff
  have balanced := (groups_eq_nil_iff reads).1 noGroup
  rw [noOperator, eq_self, and_true] at isEmpty
  rw [isEmpty, isBlanks_pattern_iff reads isCut]
  cases isLast : lastToken? front with
  | none =>
      simp
  | some token =>
      simpa using balanced.ne_opener isLast

/-- A call that gets to the end of the text fails for an open group or for want of a term. -/
theorem parse_cases_of_reads
    (reads : (ofPattern dialect pattern).Reads .empty front last lastSequence)
    (isCut : Lexeme.ofText dialect pattern.toList = front) :
    (∃ group outerGroups,
        last.groups = group :: outerGroups ∧
          FailsWith dialect pattern .groupUnclosed group.opener) ∨
      (last.groups = [] ∧
        IsBlanks pattern.toList ∧
        FailsWith dialect pattern .emptyPattern (.point pattern.utf8ByteSize)) ∨
      (last.groups = [] ∧
        ¬ IsBlanks pattern.toList ∧
        ∃ program, TokenPattern.parse dialect pattern = .ok program) := by
  have result :
      TokenPattern.parse dialect pattern = (last.finish lastSequence).1 := by
    rw [← reads.readAll_eq, ← isCut]
    rfl
  have ends := last.endsWith_finish lastSequence
  rw [← result] at ends
  generalize isResult : TokenPattern.parse dialect pattern = parsed at ends
  generalize (last.finish lastSequence).2 = left at ends
  cases ends with
  | unclosed innermost =>
      rw [errorAt_of_reads reads] at isResult
      exact .inl ⟨_, _, innermost, isResult⟩
  | empty noGroup isEmpty =>
      have noOperator :=
        ((parsed_ofPattern dialect pattern).reads reads).operators_eq_nil noGroup
      have isBlank := (noTerm_iff_isBlanks reads isCut noGroup).1 isEmpty
      have offset : last.offset = pattern.utf8ByteSize := by
        rw [offset_of_reads reads, ← isCut, Lexeme.text_lexemes, Text.width_eq_utf8ByteSize,
          String.ofList_toList]
      have isEmptyPattern : unfinishedFault lastSequence .emptyPattern = .emptyPattern := by
        simp [unfinishedFault, noOperator]
      rw [errorAt_of_reads reads, isEmptyPattern, offset] at isResult
      exact .inr (.inl ⟨noGroup, isBlank, isResult⟩)
  | complete noGroup nonempty =>
      rw [Ne, noTerm_iff_isBlanks reads isCut noGroup] at nonempty
      exact .inr (.inr ⟨noGroup, nonempty, _, rfl⟩)

/-- What a fresh parse does at the end of the text follows from the text. -/
theorem endDiagnosed
    (reads : (ofPattern dialect pattern).Reads .empty front last lastSequence)
    (isCut : Lexeme.ofText dialect pattern.toList = front) :
    EndDiagnosed dialect pattern front where
  unclosed span := by
    constructor
    · intro fails
      obtain ⟨group, outerGroups, isFirst, failsToo⟩ | ⟨_, _, failsToo⟩ |
        ⟨_, _, program, succeeds⟩ := parse_cases_of_reads reads isCut
      · obtain ⟨before, opener, inside, innermost, openerSpan⟩ :=
          exists_innermost_of_groups reads isFirst
        cases failsToo.symm.trans fails
        exact ⟨_, before, opener, inside, innermost, openerSpan⟩
      · cases failsToo.symm.trans fails
      · cases succeeds.symm.trans fails
    · rintro ⟨shape, before, opener, inside, innermost, rfl⟩
      obtain ⟨group, outerGroups, isFirst, _, openerSpan⟩ :=
        exists_groups_of_innermost reads innermost
      obtain ⟨_, _, isFirstToo, fails⟩ | ⟨noGroup, _⟩ | ⟨noGroup, _⟩ :=
        parse_cases_of_reads reads isCut
      · cases isFirst.symm.trans isFirstToo
        rwa [openerSpan] at fails
      · cases isFirst.symm.trans noGroup
      · cases isFirst.symm.trans noGroup
  empty span := by
    constructor
    · intro fails
      obtain ⟨group, outerGroups, _, failsToo⟩ | ⟨_, isBlank, failsToo⟩ |
        ⟨_, _, program, succeeds⟩ := parse_cases_of_reads reads isCut
      · cases failsToo.symm.trans fails
      · cases failsToo.symm.trans fails
        exact ⟨isBlank, rfl⟩
      · cases succeeds.symm.trans fails
    · rintro ⟨isBlank, rfl⟩
      obtain ⟨group, outerGroups, isFirst, _⟩ | ⟨_, _, fails⟩ | ⟨_, notBlank, _⟩ :=
        parse_cases_of_reads reads isCut
      · have areBlank := lastToken?_eq_none_iff.1 ((isBlanks_pattern_iff reads isCut).1 isBlank)
        have noGroup := (groups_eq_nil_iff reads).2 (.of_blanks areBlank)
        cases noGroup.symm.trans isFirst
      · exact fails
      · exact (notBlank isBlank).elim
  succeeds := by
    rw [← groups_eq_nil_iff reads]
    constructor
    · rintro ⟨program, succeeds⟩
      obtain ⟨group, outerGroups, _, fails⟩ | ⟨_, _, fails⟩ | ⟨noGroup, notBlank, _⟩ :=
        parse_cases_of_reads reads isCut
      · cases fails.symm.trans succeeds
      · cases fails.symm.trans succeeds
      · exact ⟨noGroup, notBlank⟩
    · rintro ⟨noGroup, notBlank⟩
      obtain ⟨group, outerGroups, isFirst, _⟩ | ⟨_, isBlank, _⟩ | ⟨_, _, succeeds⟩ :=
        parse_cases_of_reads reads isCut
      · cases noGroup.symm.trans isFirst
      · exact (notBlank isBlank).elim
      · exact succeeds

end Parser

/-- What a fresh parse does where groups and operators can go wrong follows from the text. -/
theorem groupsDiagnosed_of_getsTo
    {dialect : Dialect}
    {pattern : String}
    {front back : List Lexeme}
    (gets : GetsTo dialect pattern front back) :
    GroupsDiagnosed dialect pattern front back := by
  obtain ⟨last, lastSequence, reads⟩ := gets.exists_reads
  have isCut := gets.isCut
  refine ⟨?_, ?_, ?_⟩
  · rintro closer rest shape rfl closes
    exact Parser.closerDiagnosed reads isCut closes
  · rintro connective rest operator rfl isOperator
    exact Parser.connectiveDiagnosed reads isCut isOperator
  · rintro rfl
    rw [List.append_nil] at isCut
    exact Parser.endDiagnosed reads isCut

/-- A group in parentheses, and within it one in brackets that ends with an operator. -/
def halfChoice : List Lexeme :=
  [.ofOpener .round, ⟨.atom (.word "a"), ['a']⟩, ⟨.blank, [' ']⟩, .ofOpener .square,
    ⟨.atom (.word "b"), ['b']⟩, ⟨.connective .or, ['|']⟩]

/-- At the closing bracket the operand is missing, from the bracket that opens the group on. -/
theorem groupsDiagnosed_halfChoice :
    GetsTo .standard "(a [b|]" halfChoice [.ofCloser .square] ∧
      GroupsDiagnosed .standard "(a [b|]" halfChoice [.ofCloser .square] ∧
      FailsWith .standard "(a [b|]" .missingOperand ⟨3, 7⟩ := by
  have isCut :
      Lexeme.ofText .standard "(a [b|]".toList = halfChoice ++ [.ofCloser .square] := by
    cbv
  have gets : GetsTo .standard "(a [b|]" halfChoice [.ofCloser .square] :=
    .of_reads isCut
      (.lexeme (.opener rfl) (.lexeme (.atom rfl)
        (.lexeme (.blank rfl) (.lexeme (.opener rfl)
          (.lexeme (.atom rfl) (.lexeme (.connective rfl rfl (by decide)) (.nothing _ _)))))))
  have diagnosed := groupsDiagnosed_of_getsTo gets
  have innermost :
      InnermostGroup halfChoice .square (halfChoice.take 3) (.ofOpener .square)
        (halfChoice.drop 4) := by
    refine ⟨rfl, rfl, ?_⟩
    exact .other (by simp) (by simp) (.other (by simp) (by simp) .nothing)
  refine ⟨gets, diagnosed, ((diagnosed.closer _ _ _ rfl rfl).missingOperand 3).2 ?_⟩
  exact ⟨_, _, _, innermost, ⟨.or, by decide⟩, rfl⟩

end TokenPattern
