import TokenPattern.Proofs.EarliestError
import TokenPattern.Proofs.GroupContext
import TokenPattern.Proofs.ParserPlace

namespace TokenPattern

/-!
# How far a fresh parse gets

A fresh parse gets to a lexeme if it reads all lexemes before it.  There it reads
the lexeme or fails, and an error whose part of the text ends with the lexeme
tells that it failed there: all errors behind it end later, but for those at the
end of the text, which are of other kinds.
-/

/-- The span of a lexeme behind others. -/
def Lexeme.spanBehind (front : List Lexeme) (lexeme : Lexeme) : Span :=
  ⟨Text.width (front.flatMap Lexeme.text),
    Text.width (front.flatMap Lexeme.text) + lexeme.width⟩

/-- A fresh parse of a pattern reads its first lexemes and so gets to the others. -/
structure GetsTo
    (dialect : Dialect)
    (pattern : String)
    (front back : List Lexeme) : Prop where
  isCut : Lexeme.ofText dialect pattern.toList = front ++ back
  passes :
    ∃ parser sequence,
      (Parser.ofPattern dialect pattern).Passes parser sequence ∧
        parser.pending = back

/-- A fresh parse of a pattern fails with a fault at a part of the text. -/
def FailsWith
    (dialect : Dialect)
    (pattern : String)
    (fault : Fault)
    (span : Span) : Prop :=
  parse dialect pattern = .error ⟨fault, pattern, span⟩

namespace Parser

variable {dialect : Dialect}
variable {pattern : String}
variable {parser last : Parser}
variable {sequence lastSequence : Sequence}
variable {front back : List Lexeme}
variable {lexeme : Lexeme}

/-- A call that reads lexemes goes on behind them. -/
theorem Reads.readAll_append
    (reads : parser.Reads sequence front last lastSequence)
    (back : List Lexeme) :
    readAll (front ++ back) parser sequence = readAll back last lastSequence := by
  induction reads with
  | nothing =>
      rfl
  | lexeme advances _ inductionHypothesis =>
      rw [List.cons_append, readAll, advances.step_eq]
      exact inductionHypothesis

theorem errorAt_of_reads
    (reads : (ofPattern dialect pattern).Reads .empty front last lastSequence)
    (fault : Fault)
    (span : Span) :
    last.errorAt fault span = ⟨fault, pattern, span⟩ := by
  rw [errorAt, reads.last_place.1]
  rfl

theorem spanOf_of_reads
    (reads : (ofPattern dialect pattern).Reads .empty front last lastSequence)
    (lexeme : Lexeme) :
    last.spanOf lexeme = lexeme.spanBehind front := by
  rw [spanOf, offset_of_reads reads]
  rfl

/-- The lexemes that a fresh parse reads are spelled as their symbols demand. -/
theorem written_of_reads
    (isCut : Lexeme.ofText dialect pattern.toList = front ++ back)
    (reads : (ofPattern dialect pattern).Reads .empty front last lastSequence) :
    ∀ lexeme ∈ front, lexeme.symbol.Written dialect lexeme.text := by
  intro lexeme member
  have isRead : lexeme ∈ Lexeme.ofText dialect pattern.toList := by
    rw [isCut]
    exact List.mem_append_left back member
  exact Lexeme.written_of_mem isRead (sound_of_reads reads lexeme member)

/-- Reading lexemes passes through the states behind them. -/
theorem Reads.passes
    (reads : parser.Reads sequence front last lastSequence)
    (isNext : parser.pending = front ++ back)
    {start : Parser}
    (passes : start.Passes parser sequence) :
    start.Passes last lastSequence ∧ last.pending = back := by
  induction reads with
  | nothing =>
      exact ⟨passes, isNext⟩
  | lexeme advances _ inductionHypothesis =>
      rw [List.cons_append] at isNext
      refine inductionHypothesis ?_ (passes.step isNext advances.step_eq)
      rw [advances.next_place.2.2, isNext, List.tail_cons]

/-- A state that a fresh parse passes through has read what it has left behind. -/
theorem Passes.exists_reads
    (passes : (ofPattern dialect pattern).Passes last lastSequence) :
    ∃ front,
      Lexeme.ofText dialect pattern.toList = front ++ last.pending ∧
        (ofPattern dialect pattern).Reads .empty front last lastSequence := by
  induction passes with
  | start =>
      exact ⟨[], rfl, .nothing _ _⟩
  | @step middle next middleSequence nextSequence lexeme back _ isNext goesOn
      inductionHypothesis =>
      obtain ⟨front, isCut, reads⟩ := inductionHypothesis
      have advances := advances_of_step goesOn
      refine ⟨front ++ [lexeme], ?_, reads.snoc advances⟩
      rw [isCut, isNext, advances.next_place.2.2, isNext, List.append_assoc,
        List.tail_cons, List.singleton_append]

end Parser

namespace GetsTo

variable {dialect : Dialect}
variable {pattern : String}
variable {last : Parser}
variable {lastSequence : Sequence}
variable {front back : List Lexeme}
variable {lexeme : Lexeme}

/-- A parse that gets to lexemes has read those before them. -/
theorem exists_reads (gets : GetsTo dialect pattern front back) :
    ∃ last lastSequence,
      (Parser.ofPattern dialect pattern).Reads .empty front last lastSequence := by
  obtain ⟨isCut, last, lastSequence, passes, rfl⟩ := gets
  obtain ⟨others, isCutToo, reads⟩ := passes.exists_reads
  have sameFront : front = others := List.append_cancel_right (isCut.symm.trans isCutToo)
  rw [sameFront]
  exact ⟨last, lastSequence, reads⟩

/-- A parse that reads lexemes gets to those behind them. -/
theorem of_reads
    (isCut : Lexeme.ofText dialect pattern.toList = front ++ back)
    (reads : (Parser.ofPattern dialect pattern).Reads .empty front last lastSequence) :
    GetsTo dialect pattern front back :=
  ⟨isCut, last, lastSequence, reads.passes isCut .start⟩

/-- A parse goes on behind a lexeme exactly if it reads the lexeme. -/
theorem snoc_iff
    (isCut : Lexeme.ofText dialect pattern.toList = front ++ lexeme :: back)
    (reads : (Parser.ofPattern dialect pattern).Reads .empty front last lastSequence) :
    GetsTo dialect pattern (front ++ [lexeme]) back ↔
      ∃ next nextSequence, last.Advances lastSequence lexeme next nextSequence := by
  constructor
  · intro gets
    obtain ⟨next, nextSequence, readsOn⟩ := gets.exists_reads
    obtain ⟨middle, middleSequence, readsFront, readsLexeme⟩ := readsOn.split
    obtain ⟨rfl, rfl⟩ := readsFront.unique reads
    cases readsLexeme with
    | lexeme advances =>
        exact ⟨_, _, advances⟩
  · rintro ⟨next, nextSequence, advances⟩
    refine of_reads ?_ (reads.snoc advances)
    rw [isCut, List.append_assoc, List.singleton_append]

/-- An error that is not found at the end of the text ends behind what was read before it. -/
theorem lt_span_stop
    (gets : GetsTo dialect pattern front back)
    {error : SyntaxError}
    (fails : parse dialect pattern = .error error)
    (notUnclosed : error.fault ≠ .groupUnclosed)
    (notEmpty : error.fault ≠ .emptyPattern) :
    Text.width (front.flatMap Lexeme.text) < error.span.stop := by
  obtain ⟨last, lastSequence, reads⟩ := gets.exists_reads
  obtain ⟨others, final, finalSequence, readsOn, ends⟩ :=
    Parser.readAll_cases back last lastSequence
  have readsAll := reads.append readsOn
  have result : (Parser.readAll back last lastSequence).1 = .error error := by
    rw [← reads.readAll_append, ← gets.isCut]
    exact fails
  rcases ends with ⟨rfl, finishes⟩ | ⟨lexeme, rest, found, left, rfl, stops, stopped⟩
  · rw [finishes] at result
    have ends := final.endsWith_finish finalSequence
    rw [result] at ends
    generalize (final.finish finalSequence).2 = left at ends
    cases ends with
    | unclosed =>
        exact (notUnclosed rfl).elim
    | empty noGroup =>
        have noOperator :=
          ((Parser.parsed_ofPattern dialect pattern).reads readsAll).operators_eq_nil noGroup
        have isEmptyPattern :
            Parser.unfinishedFault finalSequence .emptyPattern = .emptyPattern := by
          simp [Parser.unfinishedFault, noOperator]
        exact (notEmpty isEmptyPattern).elim
  · rw [stopped] at result
    cases result
    have isCut := gets.isCut
    rw [← List.append_assoc] at isCut
    obtain ⟨first, tail, rfl, _⟩ := Lexeme.exists_cut_of_ofText isCut
    have wide := Text.width_pos (Lexeme.text_cut_ne_nil dialect first tail)
    rw [stops.span_stop, Parser.offset_of_reads readsAll, List.flatMap_append,
      Text.width_append, Lexeme.width]
    omega

/-- A parse that stops at a lexeme fails. -/
theorem parse_eq_error
    (isCut : Lexeme.ofText dialect pattern.toList = front ++ lexeme :: back)
    (reads : (Parser.ofPattern dialect pattern).Reads .empty front last lastSequence)
    {error : SyntaxError}
    {left : Parser}
    (stops : last.StopsAt lastSequence lexeme error left) :
    parse dialect pattern = .error error := by
  have result :
      (Parser.readAll (front ++ lexeme :: back) (.ofPattern dialect pattern) .empty).1 =
        .error error :=
    congrArg Prod.fst (reads.readAll_stop stops)
  rwa [← isCut] at result

/--
A fault at a part of the text that ends with a lexeme is found exactly if the
parse stops at the lexeme with it.
-/
theorem failsWith_iff
    (isCut : Lexeme.ofText dialect pattern.toList = front ++ lexeme :: back)
    (reads : (Parser.ofPattern dialect pattern).Reads .empty front last lastSequence)
    {fault : Fault}
    (notUnclosed : fault ≠ .groupUnclosed)
    (notEmpty : fault ≠ .emptyPattern)
    {span : Span}
    (stop : span.stop = (lexeme.spanBehind front).stop) :
    FailsWith dialect pattern fault span ↔
      ∃ left, last.StopsAt lastSequence lexeme ⟨fault, pattern, span⟩ left := by
  constructor
  · intro fails
    cases stepEq : last.step lastSequence lexeme with
    | stop error left =>
        have stops := Parser.stops_of_step stepEq
        cases (parse_eq_error isCut reads stops).symm.trans fails
        exact ⟨left, stops⟩
    | next next nextSequence =>
        -- An error behind the lexeme ends later.
        have getsOn := (snoc_iff isCut reads).2 ⟨_, _, Parser.advances_of_step stepEq⟩
        have later := getsOn.lt_span_stop fails notUnclosed notEmpty
        simp [stop, Lexeme.spanBehind, Lexeme.width] at later
  · rintro ⟨left, stops⟩
    exact parse_eq_error isCut reads stops

end GetsTo

end TokenPattern
