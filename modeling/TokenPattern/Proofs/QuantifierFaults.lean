import TokenPattern.Proofs.LastToken

namespace TokenPattern

/-!
# Faults of quantifiers

Whether a quantifier may stand at a place follows from two things about the text
before it: its last character that is no blank, and whether blanks stand behind
that character.
-/

/-- The last character of a text that is no blank. -/
def lastVisible? (text : List Char) : Option Char :=
  (text.filter fun char => !Lexeme.isBlank char).getLast?

/-- Whether a text ends with a blank. -/
def endsBlank (text : List Char) : Bool :=
  text.getLast?.any Lexeme.isBlank

/-- What is wrong with a quantifier behind a text, if anything. -/
def quantifierFaultBehind? (before : List Char) : Option Fault :=
  match lastVisible? before with
  | none => some .repetitionMissing
  | some char =>
      if char ∈ leadingSigns then some .repetitionMissing
      else if endsBlank before then some .repetitionAfterWhitespace
      else if char ∈ quantifierSigns then some .repetitionStacked
      else none

/-- What a fresh parse does at a quantifier behind a text. -/
structure QuantifierDiagnosed
    (dialect : Dialect)
    (pattern : String)
    (front : List Lexeme)
    (quantifier : Lexeme)
    (rest : List Lexeme)
    (before : List Char) : Prop where
  goesOn :
    GetsTo dialect pattern (front ++ [quantifier]) rest ↔
      endsBlank before = false ∧
        ∃ char,
          lastVisible? before = some char ∧
            char ∉ leadingSigns ∧ char ∉ quantifierSigns
  missing :
    FailsWith dialect pattern .repetitionMissing
        ⟨Text.width before, Text.width before + 1⟩ ↔
      lastVisible? before = none ∨
        ∃ char, lastVisible? before = some char ∧ char ∈ leadingSigns
  stacked :
    FailsWith dialect pattern .repetitionStacked
        ⟨Text.width before, Text.width before + 1⟩ ↔
      endsBlank before = false ∧
        ∃ char, lastVisible? before = some char ∧ char ∈ quantifierSigns
  afterWhitespace :
    FailsWith dialect pattern .repetitionAfterWhitespace
        ⟨Text.width before, Text.width before + 1⟩ ↔
      endsBlank before = true ∧
        ∃ char, lastVisible? before = some char ∧ char ∉ leadingSigns

section Characters

variable {char : Char}
variable {text : List Char}

theorem notMem_quantifierSigns (isLeading : char ∈ leadingSigns) :
    char ∉ quantifierSigns := by
  simp only [leadingSigns, List.mem_cons, List.not_mem_nil, or_false] at isLeading
  rcases isLeading with rfl | rfl | rfl | rfl <;> decide

theorem precedingOf_eq_nothing_iff (isVisible : Lexeme.isBlank char = false) :
    precedingOf char = .nothing ↔ char ∈ leadingSigns := by
  unfold precedingOf
  split_ifs <;> simp_all

theorem lastVisible?_append (front back : List Char) :
    lastVisible? (front ++ back) = (lastVisible? back).or (lastVisible? front) := by
  simp [lastVisible?, List.getLast?_append]

theorem isBlank_of_lastVisible (isLast : lastVisible? text = some char) :
    Lexeme.isBlank char = false := by
  have member := List.mem_of_getLast? isLast
  simpa using (List.mem_filter.1 member).2

/-- Unless a text ends with a blank, its last character is no blank. -/
theorem lastVisible?_eq_getLast? (notBlank : endsBlank text = false) :
    lastVisible? text = text.getLast? := by
  obtain rfl | ⟨start, last, rfl⟩ := List.eq_nil_or_concat' text
  · rfl
  · have isVisible : Lexeme.isBlank last = false := by
      simpa [endsBlank] using notBlank
    simp [lastVisible?, isVisible]

end Characters

namespace Lexeme

variable {dialect : Dialect}
variable {lexemes : List Lexeme}

/-- What the last lexeme is to a quantifier shows in the last character of the text. -/
theorem map_precedingOf_getLast?
    (written : ∀ lexeme ∈ lexemes, lexeme.symbol.Written dialect lexeme.text) :
    (lexemes.flatMap Lexeme.text).getLast?.map precedingOf =
      lexemes.getLast?.map fun lexeme => lexeme.symbol.preceding := by
  obtain rfl | ⟨others, lexeme, rfl⟩ := List.eq_nil_or_concat' lexemes
  · rfl
  · obtain ⟨start, last, text, precedingEq⟩ := (written lexeme (by simp)).exists_last
    rw [List.flatMap_append, List.flatMap_singleton, text, ← List.append_assoc]
    simp [precedingEq]

theorem map_precedingOf_lastVisible?_text
    {lexeme : Lexeme}
    (written : lexeme.symbol.Written dialect lexeme.text) :
    (lastVisible? lexeme.text).map precedingOf =
      (lastToken? [lexeme]).map fun lexeme => lexeme.symbol.preceding := by
  by_cases isBlank : lexeme.symbol = .blank
  · have noVisible : lastVisible? lexeme.text = none := by
      have areBlank := written.isBlanks_iff.2 isBlank
      simpa [lastVisible?, IsBlanks] using areBlank
    rw [noVisible, lastToken?_of_blank isBlank]
    rfl
  · obtain ⟨start, last, text, precedingEq⟩ := written.exists_last
    have isVisible : Lexeme.isBlank last = false := by
      rw [← Bool.not_eq_true, ← precedingOf_eq_blank_iff, precedingEq,
        Symbol.preceding_eq_blank_iff]
      exact isBlank
    have isLast : lastVisible? lexeme.text = some last := by
      simp [text, lastVisible?, isVisible]
    rw [isLast, lastToken?_of_token isBlank]
    exact congrArg some precedingEq

/-- What the last token is to a quantifier shows in the last character that is no blank. -/
theorem map_precedingOf_lastVisible?
    (written : ∀ lexeme ∈ lexemes, lexeme.symbol.Written dialect lexeme.text) :
    (lastVisible? (lexemes.flatMap Lexeme.text)).map precedingOf =
      (lastToken? lexemes).map fun lexeme => lexeme.symbol.preceding := by
  induction lexemes with
  | nil =>
      rfl
  | cons lexeme rest inductionHypothesis =>
      obtain ⟨isWritten, restWritten⟩ := List.forall_mem_cons.1 written
      rw [List.flatMap_cons, lastVisible?_append, lastToken?_cons, Option.map_or, Option.map_or,
        inductionHypothesis restWritten, map_precedingOf_lastVisible?_text isWritten]

end Lexeme

/-- The last token of a text leaves its term pending unless it ends with a leading sign. -/
theorem KnownBehind.pending_iff_lastVisible?
    {dialect : Dialect}
    {lexemes : List Lexeme}
    {sequence : Sequence}
    (known : KnownBehind ((lastToken? lexemes).map Lexeme.symbol) sequence)
    (written : ∀ lexeme ∈ lexemes, lexeme.symbol.Written dialect lexeme.text) :
    sequence.pendingTerm = true ↔
      ∃ char, lastVisible? (lexemes.flatMap Lexeme.text) = some char ∧ char ∉ leadingSigns := by
  have samePreceding := Lexeme.map_precedingOf_lastVisible? written
  rw [known.pending_iff]
  cases isLast : lastVisible? (lexemes.flatMap Lexeme.text) with
  | none =>
      rw [isLast] at samePreceding
      simp [Option.map_eq_none_iff.1 samePreceding.symm]
  | some char =>
      rw [isLast, Option.map_some, eq_comm, Option.map_eq_some_iff] at samePreceding
      obtain ⟨token, isToken, precedingEq⟩ := samePreceding
      have isVisible := isBlank_of_lastVisible isLast
      simp [isToken, precedingEq, precedingOf_eq_nothing_iff isVisible]

namespace Parser

variable {dialect : Dialect}
variable {pattern : String}
variable {front back : List Lexeme}
variable {parser last : Parser}
variable {sequence lastSequence : Sequence}
variable {lexeme : Lexeme}
variable {operator : Quantifier}

/-- A parser stops at a quantifier with what is wrong with it. -/
theorem stopsAt_quantifier_iff
    (symbol : lexeme.symbol = .quantifier operator)
    {error : SyntaxError} :
    (∃ left, parser.StopsAt sequence lexeme error left) ↔
      ∃ fault,
        parser.quantifierFault? sequence = some fault ∧
          error = parser.errorAt fault (parser.spanOf lexeme) := by
  constructor
  · rintro ⟨left, stops⟩
    cases stops with
    | quantifier _ isFault =>
        exact ⟨_, isFault, rfl⟩
    | stray symbolToo | broken symbolToo | outsideBracket symbolToo | noLeftOperand symbolToo
    | unopened symbolToo | mismatch symbolToo | emptyGroup symbolToo =>
        cases symbol.symm.trans symbolToo
  · rintro ⟨fault, isFault, rfl⟩
    exact ⟨_, .quantifier symbol isFault⟩

/-- A parser reads a quantifier if nothing is wrong with it. -/
theorem advances_quantifier_iff
    (symbol : lexeme.symbol = .quantifier operator) :
    (∃ next nextSequence, parser.Advances sequence lexeme next nextSequence) ↔
      parser.quantifierFault? sequence = none := by
  constructor
  · rintro ⟨next, nextSequence, advances⟩
    cases advances with
    | quantifier _ direct =>
        rw [quantifierFault?, direct]
    | blank symbolToo | atom symbolToo | opener symbolToo | closer symbolToo
    | connective symbolToo =>
        cases symbol.symm.trans symbolToo
  · intro noFault
    have goesOn :
        parser.step sequence lexeme =
          .next (((parser.emit (.quantify operator)).skip lexeme).after .quantifier) sequence := by
      rw [step, symbol]
      simp only [readQuantifier, noFault]
    exact ⟨_, _, advances_of_step goesOn⟩

/-- What the parser remembers of the text before a quantifier decides as the text does. -/
theorem quantifierFault?_eq
    (reads : (ofPattern dialect pattern).Reads .empty front last lastSequence)
    (isCut : Lexeme.ofText dialect pattern.toList = front ++ back) :
    last.quantifierFault? lastSequence =
      quantifierFaultBehind? (front.flatMap Lexeme.text) := by
  have written := written_of_reads isCut reads
  obtain ⟨precedingEq, known⟩ := standing_of_reads reads
  have pendingIff := known.pending_iff_lastVisible? written
  rw [← Lexeme.map_precedingOf_getLast? written] at precedingEq
  generalize front.flatMap Lexeme.text = before at precedingEq pendingIff
  unfold quantifierFault? quantifierFaultBehind?
  cases blankBehind : endsBlank before with
  | true =>
      obtain ⟨char, isLast, isBlank⟩ := (Option.any_eq_true _ _).1 blankBehind
      have isBehind : last.preceding = .blank := by
        simp [precedingEq, isLast, precedingOf, isBlank]
      rw [isBehind]
      cases isVisible : lastVisible? before with
      | none =>
          simp [pendingIff, isVisible]
      | some char =>
          simp [pendingIff, isVisible]
  | false =>
      have sameLast := lastVisible?_eq_getLast? blankBehind
      rw [← sameLast] at precedingEq
      cases isLast : lastVisible? before with
      | none =>
          simp [precedingEq, isLast]
      | some char =>
          have isVisible := isBlank_of_lastVisible isLast
          by_cases isLeading : char ∈ leadingSigns
          · simp [precedingEq, isLast, precedingOf, isVisible, isLeading]
          · by_cases isQuantifier : char ∈ quantifierSigns
            · simp [precedingEq, isLast, precedingOf, isVisible, isLeading, isQuantifier]
            · simp [precedingEq, isLast, precedingOf, isVisible, isLeading, isQuantifier]

/-- A fresh parse finds at a quantifier what is wrong with it by the text before it. -/
theorem failsWith_quantifier_iff
    (reads : (ofPattern dialect pattern).Reads .empty front last lastSequence)
    (isCut : Lexeme.ofText dialect pattern.toList = front ++ lexeme :: back)
    (symbol : lexeme.symbol = .quantifier operator)
    {fault : Fault}
    (notUnclosed : fault ≠ .groupUnclosed)
    (notEmpty : fault ≠ .emptyPattern) :
    FailsWith dialect pattern fault (lexeme.spanBehind front) ↔
      quantifierFaultBehind? (front.flatMap Lexeme.text) = some fault := by
  rw [GetsTo.failsWith_iff isCut reads notUnclosed notEmpty rfl, stopsAt_quantifier_iff symbol,
    quantifierFault?_eq reads isCut]
  simp [errorAt_of_reads reads, spanOf_of_reads reads]

end Parser

/-- A quantifier is one character of one byte. -/
theorem Symbol.Written.width_quantifier
    {dialect : Dialect}
    {operator : Quantifier}
    {text : List Char}
    (written : Symbol.Written dialect (.quantifier operator) text) :
    Text.width text = 1 := by
  cases written with
  | sign isSign =>
      simp only [signs, List.mem_cons, Prod.mk.injEq, reduceCtorEq, and_false,
        List.not_mem_nil, or_false, false_or] at isSign
      rcases isSign with ⟨rfl, _⟩ | ⟨rfl, _⟩ | ⟨rfl, _⟩ <;> rfl

/-- When each fault of a quantifier is found, and when none is. -/
theorem quantifierFaultBehind?_iff (before : List Char) :
    (quantifierFaultBehind? before = none ↔
      endsBlank before = false ∧
        ∃ char,
          lastVisible? before = some char ∧
            char ∉ leadingSigns ∧ char ∉ quantifierSigns) ∧
    (quantifierFaultBehind? before = some .repetitionMissing ↔
      lastVisible? before = none ∨
        ∃ char, lastVisible? before = some char ∧ char ∈ leadingSigns) ∧
    (quantifierFaultBehind? before = some .repetitionStacked ↔
      endsBlank before = false ∧
        ∃ char, lastVisible? before = some char ∧ char ∈ quantifierSigns) ∧
    (quantifierFaultBehind? before = some .repetitionAfterWhitespace ↔
      endsBlank before = true ∧
        ∃ char, lastVisible? before = some char ∧ char ∉ leadingSigns) := by
  unfold quantifierFaultBehind?
  cases lastVisible? before with
  | none =>
      simp
  | some char =>
      have notBoth : char ∈ leadingSigns → char ∉ quantifierSigns := notMem_quantifierSigns
      dsimp only
      split_ifs <;> simp_all

/-- What a fresh parse does at a quantifier follows from the text before it. -/
theorem quantifierDiagnosed_of_getsTo
    {dialect : Dialect}
    {pattern : String}
    {front rest : List Lexeme}
    {quantifier : Lexeme}
    {operator : Quantifier}
    (gets : GetsTo dialect pattern front (quantifier :: rest))
    (symbol : quantifier.symbol = .quantifier operator) :
    QuantifierDiagnosed dialect pattern front quantifier rest
      (front.flatMap Lexeme.text) := by
  obtain ⟨last, lastSequence, reads⟩ := gets.exists_reads
  have isCut := gets.isCut
  have oneByte : quantifier.width = 1 := by
    have isRead : quantifier ∈ Lexeme.ofText dialect pattern.toList := by
      rw [isCut]
      exact List.mem_append_right front List.mem_cons_self
    have written := Lexeme.written_of_mem isRead (by rw [symbol]; trivial)
    rw [symbol] at written
    exact written.width_quantifier
  have fails
      {fault : Fault}
      (notUnclosed : fault ≠ .groupUnclosed)
      (notEmpty : fault ≠ .emptyPattern) :=
    Parser.failsWith_quantifier_iff reads isCut symbol notUnclosed notEmpty
  rw [Lexeme.spanBehind, oneByte] at fails
  obtain ⟨noFault, isMissing, isStacked, isAfterWhitespace⟩ :=
    quantifierFaultBehind?_iff (front.flatMap Lexeme.text)
  refine ⟨?_, ?_, ?_, ?_⟩
  · rw [GetsTo.snoc_iff isCut reads, Parser.advances_quantifier_iff symbol,
      Parser.quantifierFault?_eq reads isCut, noFault]
  · rw [fails (by decide) (by decide), isMissing]
  · rw [fails (by decide) (by decide), isStacked]
  · rw [fails (by decide) (by decide), isAfterWhitespace]

/-- A group with a quantifier, and a blank. -/
def quantifiedGroup : List Lexeme :=
  [.ofOpener .round, ⟨.atom (.word "a"), ['a']⟩, .ofCloser .round,
    ⟨.quantifier .star, ['*']⟩, ⟨.blank, [' ']⟩]

/-- A second quantifier behind a blank is at fault for the blank. -/
theorem quantifierDiagnosed_behindBlank :
    GetsTo .standard "(a)* +" quantifiedGroup [⟨.quantifier .plus, ['+']⟩] ∧
      QuantifierDiagnosed .standard "(a)* +" quantifiedGroup ⟨.quantifier .plus, ['+']⟩ []
        ['(', 'a', ')', '*', ' '] ∧
      FailsWith .standard "(a)* +" .repetitionAfterWhitespace ⟨5, 6⟩ := by
  have isCut :
      Lexeme.ofText .standard "(a)* +".toList =
        quantifiedGroup ++ [⟨.quantifier .plus, ['+']⟩] := by
    cbv
  have gets : GetsTo .standard "(a)* +" quantifiedGroup [⟨.quantifier .plus, ['+']⟩] :=
    .of_reads isCut
      (.lexeme (.opener rfl) (.lexeme (.atom rfl)
        (.lexeme (.closer rfl rfl (by decide)) (.lexeme (.quantifier rfl rfl)
          (.lexeme (.blank rfl) (.nothing _ _))))))
  have diagnosed := quantifierDiagnosed_of_getsTo gets rfl
  refine ⟨gets, diagnosed, diagnosed.afterWhitespace.2 ?_⟩
  exact ⟨by decide, '*', by decide, by decide⟩

end TokenPattern
