import Mathlib
import TokenPattern.Proofs.Completion

namespace TokenPattern

/-!
# Errors are found as early as possible

The text before the faulty part of a pattern can be completed.  With the faulty
part it cannot, and whatever follows, the same error is found at the same place;
the exceptions are faults that lie in what is missing: a test of an attribute
that breaks off, a literal or a group that is not closed, and an empty pattern.
-/

/-- The faults that lie in what is missing behind the faulty part. -/
def Fault.isOpen : Fault → Bool
  | .attributeMalformed | .patternUnclosed | .groupUnclosed | .emptyPattern => true
  | _ => false

/-- An error is found at the earliest place in its pattern. -/
structure SyntaxError.IsEarliest
    (dialect : Dialect)
    (error : SyntaxError)
    (before part after : String) : Prop where
  pattern_eq : error.pattern = before ++ part ++ after
  start_eq : error.span.start = before.utf8ByteSize
  stop_eq : error.span.stop = (before ++ part).utf8ByteSize
  completable_before : Completable dialect before
  /-- The error shows in all texts that start like the pattern. -/
  shows :
    error.fault.isOpen = false →
      ∀ more,
        parse dialect (before ++ part ++ more) =
          .error { error with pattern := before ++ part ++ more }
  /-- What was read of a test can be completed, but not with the next character. -/
  breaksOff :
    error.fault = .attributeMalformed →
      Completable dialect (before ++ part) ∧
        ∀ next others,
          after.toList = next :: others →
            ¬ Completable dialect (before ++ part ++ String.singleton next)
  /-- More text makes a pattern of an empty one and of one with an open group. -/
  completable :
    error.fault = .groupUnclosed ∨ error.fault = .emptyPattern →
      Completable dialect error.pattern

theorem Parsed.operators_eq_nil
    {parser : Parser}
    {sequence : Sequence}
    {symbols : List Symbol}
    (parsed : Parsed parser sequence symbols)
    (noGroup : parser.groups = []) :
    sequence.operators = [] := by
  obtain ⟨_, _, legal, _, _, _⟩ := parsed
  by_contra waits
  simpa [Parser.insideBrackets, noGroup] using legal waits

namespace Parser

variable {dialect : Dialect}
variable {pattern : String}
variable {front back : List Lexeme}
variable {lexeme : Lexeme}
variable {last left : Parser}
variable {lastSequence : Sequence}
variable {error : SyntaxError}

theorem offset_of_reads
    (reads : (ofPattern dialect pattern).Reads .empty front last lastSequence) :
    last.offset = Text.width (front.flatMap Lexeme.text) := by
  rw [reads.last_place.2.1]
  exact Nat.zero_add _

/-- The error at a lexeme shows in all patterns with the same lexemes up to it. -/
theorem parse_eq_error
    (reads : (ofPattern dialect pattern).Reads .empty front last lastSequence)
    (stops : last.StopsAt lastSequence lexeme error left)
    {other : String}
    (isCut : Lexeme.ofText dialect other.toList = front ++ lexeme :: back) :
    TokenPattern.parse dialect other = .error { error with pattern := other } := by
  obtain ⟨leftThere, stopsThere⟩ := stops.elsewhere other (lexeme :: back)
  have result :
      readAll (front ++ lexeme :: back) (ofPattern dialect other) .empty =
        (.error { error with pattern := other }, leftThere) :=
    (reads_elsewhere reads isCut).readAll_stop stopsThere
  rw [← isCut] at result
  exact congrArg Prod.fst result

/-- The error at a settled lexeme shows whatever follows it. -/
theorem parse_eq_error_of_settled
    (reads : (ofPattern dialect pattern).Reads .empty front last lastSequence)
    (stops : last.StopsAt lastSequence lexeme error left)
    (isCut : Lexeme.ofText dialect pattern.toList = front ++ lexeme :: back)
    (settled : Lexeme.Settled dialect lexeme)
    {text : String}
    (readText : text.toList = front.flatMap Lexeme.text ++ lexeme.text)
    (more : String) :
    TokenPattern.parse dialect (text ++ more) =
      .error { error with pattern := text ++ more } := by
  obtain ⟨first, rest, isLexeme, _⟩ := Lexeme.exists_cut_of_ofText isCut
  obtain ⟨tail, starts⟩ := Lexeme.text_cut_eq_cons dialect first rest
  rw [isLexeme] at starts
  have isCutAgain :
      Lexeme.ofText dialect (text ++ more).toList =
        front ++ lexeme :: Lexeme.ofText dialect more.toList := by
    rw [String.toList_append, readText, List.append_assoc,
      Lexeme.ofText_append isCut (sound_of_reads reads) ?_, settled]
    rintro char isFirst -
    simpa [starts] using isFirst
  exact parse_eq_error reads stops isCutAgain

/-- Only a broken lexeme has a fault that lies in what is missing, or in a refused source. -/
theorem StopsAt.fault_cases
    (stops : last.StopsAt lastSequence lexeme error left) :
    (error.fault.isOpen = false ∧ ∀ reason, error.fault ≠ .patternInvalid reason) ∨
      ∃ lead, lexeme.symbol = .broken error.fault lead := by
  cases stops with
  | broken symbol =>
      exact .inr ⟨_, symbol⟩
  | quantifier _ isFault =>
      refine .inl ?_
      unfold quantifierFault? at isFault
      split at isFault
      · cases isFault
      · cases isFault
        simp [errorAt, Fault.isOpen]
      · split at isFault <;> cases isFault <;> simp [errorAt, Fault.isOpen]
      · cases isFault
        simp [errorAt, Fault.isOpen]
  | emptyGroup =>
      refine .inl ?_
      simp only [errorAt, unfinishedFault]
      split <;> simp [Fault.isOpen]
  | stray | outsideBracket | noLeftOperand | unopened | mismatch =>
      exact .inl (by simp [errorAt, Fault.isOpen])

theorem StopsAt.fault_of_broken
    (stops : last.StopsAt lastSequence lexeme error left)
    {fault : Fault}
    {lead : List Char}
    (broken : lexeme.symbol = .broken fault lead) :
    error.fault = fault := by
  cases stops with
  | broken symbol =>
      rw [symbol] at broken
      cases broken
      rfl
  | stray symbol | quantifier symbol | outsideBracket symbol | noLeftOperand symbol
  | unopened symbol | mismatch symbol | emptyGroup symbol =>
      rw [symbol] at broken
      cases broken

theorem StopsAt.ne_atom
    (stops : last.StopsAt lastSequence lexeme error left)
    (test : Atom) :
    lexeme.symbol ≠ .atom test := by
  intro isAtom
  cases stops with
  | stray symbol | broken symbol | quantifier symbol | outsideBracket symbol
  | noLeftOperand symbol | unopened symbol | mismatch symbol | emptyGroup symbol =>
      rw [symbol] at isAtom
      cases isAtom

/-- What was read of a test that breaks off can be completed, but not with the next character. -/
theorem completable_of_malformed
    (reads : (ofPattern dialect pattern).Reads .empty front last lastSequence)
    (stops : last.StopsAt lastSequence lexeme error left)
    (isCut : Lexeme.ofText dialect pattern.toList = front ++ lexeme :: back)
    (isMalformed : error.fault = .attributeMalformed)
    {text : String}
    (readText : text.toList = front.flatMap Lexeme.text ++ lexeme.text) :
    Completable dialect text ∧
      ∀ next others,
        back.flatMap Lexeme.text = next :: others →
          ¬ Completable dialect (text ++ String.singleton next) := by
  obtain ⟨isClosed, _⟩ | ⟨lead, broken⟩ := stops.fault_cases
  · rw [isMalformed] at isClosed
    cases isClosed
  rw [isMalformed] at broken
  obtain ⟨first, rest, isLexeme, _, behind⟩ := Lexeme.exists_cut_of_ofText isCut
  rw [← isLexeme] at broken
  -- A literal is refused or not closed, so that the test itself breaks off.
  have noLiteral (afterSlash : List Char) :
      (Lexeme.cutLiteral dialect afterSlash).pattern ≠ .error .attributeMalformed := by
    intro faulty
    rcases Lexeme.cutLiteral_faulty faulty with isFault | ⟨⟨_, _, isFault⟩, _⟩ <;>
      cases isFault
  rcases Lexeme.broken_cases broken with ⟨_, faulty, _⟩ | ⟨rfl, faulty⟩
  · exact (noLiteral _ faulty).elim
  generalize Lexeme.cut dialect '\x7b' rest = result at faulty isLexeme behind
  cases faulty with
  | literal _ faulty =>
      exact (noLiteral _ faulty).elim
  | @breaksOff read rest breaks =>
      subst isLexeme
      have sameText : text = String.ofList (front.flatMap Lexeme.text ++ '\x7b' :: read) := by
        rw [← String.ofList_toList (s := text), readText]
        rfl
      obtain ⟨test, more, completes⟩ := breaks.exists_completion
      refine ⟨sameText ▸ completable_in_attribute reads isCut completes, ?_⟩
      rintro next others goesOn ⟨more, program, succeeds⟩
      rw [← behind] at goesOn
      have breaksAgain : Lexeme.BreaksOff dialect read (next :: more.toList) :=
        breaks.congr (by simp [show rest = next :: others from goesOn])
      have isCutAgain :
          Lexeme.ofText dialect (text ++ String.singleton next ++ more).toList =
            front ++ (Lexeme.malformed ('\x7b' :: read) rest).1 ::
              Lexeme.ofText dialect (next :: more.toList) := by
        rw [sameText, String.toList_append, String.toList_append, String.toList_ofList]
        simp only [String.toList_singleton, List.append_assoc, List.cons_append,
          List.nil_append]
        rw [Lexeme.ofText_append_of_stops isCut (sound_of_reads reads)
          (Lexeme.stops_cons (by decide) _), Lexeme.ofText, Lexeme.cut_brace,
          breaksAgain.cutAttribute_eq]
        rfl
      rw [parse_eq_error reads stops isCutAgain] at succeeds
      cases succeeds

theorem settled_of_stops
    (stops : last.StopsAt lastSequence lexeme error left)
    (isCut : Lexeme.ofText dialect pattern.toList = front ++ lexeme :: back)
    (isClosed : error.fault.isOpen = false) :
    Lexeme.Settled dialect lexeme := by
  obtain ⟨first, rest, rfl, _⟩ := Lexeme.exists_cut_of_ofText isCut
  refine Lexeme.settled_cut stops.ne_atom fun fault lead broken => ?_
  rw [stops.fault_of_broken broken] at isClosed
  rcases Lexeme.broken_fault broken with rfl | rfl | isRefused
  · cases isClosed
  · cases isClosed
  · exact isRefused

/-- An error at a lexeme is the earliest if the text before its faulty part can be completed. -/
theorem isEarliest_of_completable
    (reads : (ofPattern dialect pattern).Reads .empty front last lastSequence)
    (stops : last.StopsAt lastSequence lexeme error left)
    (isCut : Lexeme.ofText dialect pattern.toList = front ++ lexeme :: back)
    {before part : List Char}
    (whole : before ++ part = front.flatMap Lexeme.text ++ lexeme.text)
    (start : error.span.start = Text.width before)
    (completable : Completable dialect (String.ofList before)) :
    error.IsEarliest dialect (String.ofList before) (String.ofList part)
      (String.ofList (back.flatMap Lexeme.text)) := by
  have readText :
      (String.ofList before ++ String.ofList part).toList =
        front.flatMap Lexeme.text ++ lexeme.text := by
    rw [← String.ofList_append, String.toList_ofList, whole]
  have kept := Lexeme.text_lexemes dialect pattern.toList
  rw [isCut, List.flatMap_append, List.flatMap_cons, ← List.append_assoc, ← whole] at kept
  refine ⟨?_, ?_, ?_, completable, fun isClosed more => ?_, fun isMalformed => ?_, ?_⟩
  · rw [stops.pattern_eq, reads.last_place.1, ← String.ofList_append,
      ← String.ofList_append, kept, String.ofList_toList]
    rfl
  · rw [start, Text.width_eq_utf8ByteSize]
  · rw [stops.span_stop, offset_of_reads reads, Lexeme.width, ← Text.width_append,
      ← whole, Text.width_eq_utf8ByteSize, String.ofList_append]
  · exact parse_eq_error_of_settled reads stops isCut
      (settled_of_stops stops isCut isClosed) readText more
  · rw [String.toList_ofList]
    exact completable_of_malformed reads stops isCut isMalformed readText
  · -- No lexeme has a fault of the kinds that are found at the end of the text.
    intro isOpen
    obtain ⟨isClosed, _⟩ | ⟨lead, broken⟩ := stops.fault_cases
    · rcases isOpen with isFault | isFault <;> rw [isFault] at isClosed <;> cases isClosed
    · obtain ⟨first, rest, rfl, _⟩ := Lexeme.exists_cut_of_ofText isCut
      have isBroken := Lexeme.broken_fault broken
      rcases isOpen with isFault | isFault <;> simp [isFault, Lexeme.Refuses] at isBroken

/-- The text before a broken part of a lexeme can be completed. -/
theorem completable_before_broken
    (reads : (ofPattern dialect pattern).Reads .empty front last lastSequence)
    (isCut : Lexeme.ofText dialect pattern.toList = front ++ lexeme :: back)
    {fault : Fault}
    {lead : List Char}
    (broken : lexeme.symbol = .broken fault lead) :
    ∃ part,
      lexeme.text = lead ++ part ∧
        Completable dialect (String.ofList (front.flatMap Lexeme.text ++ lead)) := by
  obtain ⟨first, rest, isLexeme, _⟩ := Lexeme.exists_cut_of_ofText isCut
  rw [← isLexeme] at broken
  have nothingRead :
      Completable dialect (String.ofList (front.flatMap Lexeme.text ++ [])) := by
    rw [List.append_nil]
    exact completable_of_reads reads isCut
  rcases Lexeme.broken_cases broken with ⟨_, _, isBroken⟩ | ⟨rfl, faulty⟩
  · rw [isBroken] at broken
    cases broken
    exact ⟨_, rfl, nothingRead⟩
  generalize Lexeme.cut dialect '\x7b' rest = result at faulty isLexeme broken
  subst isLexeme
  cases faulty with
  | breaksOff =>
      cases broken
      exact ⟨_, rfl, nothingRead⟩
  | @literal name start afterSlash _ valueStart =>
      cases broken
      obtain ⟨test, completes⟩ :=
        valueStart.exists_test (.literal Lexeme.isWord_letter) Lexeme.isBlanks_nil
      have completesAfter (other : List Char) :
          Lexeme.cutAttribute dialect (start ++ (['a', '\x7d'] ++ other)) =
            (⟨.atom test, '\x7b' :: (start ++ ['a', '\x7d'])⟩, other) := by
        simpa using completes other
      exact ⟨_, rfl, completable_in_attribute reads isCut completesAfter⟩

/-- The text before a group that was opened can be completed. -/
theorem completable_before_group
    (reads : (ofPattern dialect pattern).Reads .empty front last lastSequence)
    (isCut : Lexeme.ofText dialect pattern.toList = front ++ back)
    {group : OpenGroup}
    (isOpen : group ∈ last.groups) :
    ∃ before opener inside,
      front = before ++ opener :: inside ∧
        group.opener =
          ⟨Text.width (before.flatMap Lexeme.text),
            Text.width (before.flatMap Lexeme.text ++ opener.text)⟩ ∧
        Completable dialect (String.ofList (before.flatMap Lexeme.text)) := by
  obtain wasOpen | ⟨before, opener, inside, middle, middleSequence, rfl, readsBefore, span⟩ :=
    reads.opened isOpen
  · cases wasOpen
  · refine ⟨before, opener, inside, rfl, ?_, ?_⟩
    · rw [span, spanOf, offset_of_reads readsBefore, Lexeme.width, Text.width_append]
    · rw [List.append_assoc] at isCut
      exact completable_of_reads readsBefore isCut

/-- An error at a lexeme is found as early as possible. -/
theorem exists_isEarliest_of_stops
    (reads : (ofPattern dialect pattern).Reads .empty front last lastSequence)
    (stops : last.StopsAt lastSequence lexeme error left)
    (isCut : Lexeme.ofText dialect pattern.toList = front ++ lexeme :: back) :
    ∃ before part after, error.IsEarliest dialect before part after := by
  have offset := offset_of_reads reads
  have atLexeme
      (start : error.span.start = last.offset) :
      ∃ before part after, error.IsEarliest dialect before part after :=
    ⟨_, _, _, isEarliest_of_completable reads stops isCut rfl (start.trans offset)
      (completable_of_reads reads isCut)⟩
  have sameStop := stops
  cases stops with
  | stray | quantifier | outsideBracket | noLeftOperand | unopened | mismatch =>
      exact atLexeme rfl
  | @broken fault lead symbol =>
      obtain ⟨part, shape, completable⟩ := completable_before_broken reads isCut symbol
      refine ⟨_, _, _, isEarliest_of_completable reads sameStop isCut
        (by rw [shape, List.append_assoc]) ?_ completable⟩
      rw [Text.width_append, ← offset]
      rfl
  | @emptyGroup group outerGroups symbol innermost isEmpty =>
      have isOpen : group ∈ last.groups := by simp [innermost]
      obtain ⟨before, opener, inside, rfl, span, completable⟩ :=
        completable_before_group reads isCut isOpen
      refine ⟨_, _, _, isEarliest_of_completable reads sameStop isCut
        (by rw [List.flatMap_append, List.append_assoc]) ?_ completable⟩
      exact congrArg Span.start span

/-- An error at the end of the text is found as early as possible. -/
theorem exists_isEarliest_of_endsWith
    (reads : (ofPattern dialect pattern).Reads .empty front last lastSequence)
    (isCut : Lexeme.ofText dialect pattern.toList = front)
    (ends : last.EndsWith lastSequence (.error error) left) :
    ∃ before part after, error.IsEarliest dialect before part after := by
  have isCut' : Lexeme.ofText dialect pattern.toList = front ++ [] := by
    rw [isCut, List.append_nil]
  have wholeText : String.ofList (front.flatMap Lexeme.text) = pattern := by
    rw [← isCut, Lexeme.text_lexemes, String.ofList_toList]
  have completable : Completable dialect pattern := by
    have ofReads := completable_of_reads reads isCut'
    rwa [wholeText] at ofReads
  have samePattern : last.pattern = pattern := reads.last_place.1
  cases ends with
  | @unclosed group outerGroups innermost =>
      have isOpen : group ∈ last.groups := by simp [innermost]
      obtain ⟨before, opener, inside, rfl, span, completableBefore⟩ :=
        completable_before_group reads isCut' isOpen
      refine ⟨_, String.ofList opener.text,
        String.ofList (inside.flatMap Lexeme.text), ?_, ?_, ?_, completableBefore,
        by rintro ⟨⟩, by rintro ⟨⟩, fun _ => ?_⟩
      · rw [← String.ofList_append, ← String.ofList_append]
        simpa [errorAt, samePattern] using wholeText.symm
      · rw [← Text.width_eq_utf8ByteSize]
        exact congrArg Span.start span
      · rw [← String.ofList_append, ← Text.width_eq_utf8ByteSize]
        exact congrArg Span.stop span
      · simpa [errorAt, samePattern] using completable
  | empty noGroup isEmpty =>
      -- Operators wait in brackets only, so that no operand is missing here.
      have noOperator :=
        ((parsed_ofPattern dialect pattern).reads reads).operators_eq_nil noGroup
      have offset : last.offset = pattern.utf8ByteSize := by
        rw [offset_of_reads reads, Text.width_eq_utf8ByteSize, wholeText]
      have isEmptyPattern : unfinishedFault lastSequence .emptyPattern = .emptyPattern := by
        simp [unfinishedFault, noOperator]
      rw [isEmptyPattern]
      refine ⟨pattern, "", "", ?_, offset, ?_, completable, by rintro ⟨⟩, by rintro ⟨⟩,
        fun _ => ?_⟩
      · simp [errorAt, samePattern]
      · simpa [errorAt, Span.point] using offset
      · simpa [errorAt, samePattern] using completable

/-- A call that fails stops at a lexeme, or comes too early to the end of the text. -/
theorem parse_error_cases
    (fails : TokenPattern.parse dialect pattern = .error error) :
    ∃ front last lastSequence left,
      (ofPattern dialect pattern).Reads .empty front last lastSequence ∧
        ((Lexeme.ofText dialect pattern.toList = front ∧
            last.EndsWith lastSequence (.error error) left) ∨
          ∃ lexeme back,
            Lexeme.ofText dialect pattern.toList = front ++ lexeme :: back ∧
              last.StopsAt lastSequence lexeme error left) := by
  obtain ⟨front, last, lastSequence, reads, ends⟩ :=
    readAll_cases (Lexeme.ofText dialect pattern.toList) (ofPattern dialect pattern) .empty
  rcases ends with ⟨isCut, finishes⟩ | ⟨lexeme, back, found, left, isCut, stops, stopped⟩
  · have failsAtEnd : (last.finish lastSequence).1 = .error error := by
      rw [← finishes]
      exact fails
    have ends := last.endsWith_finish lastSequence
    rw [failsAtEnd] at ends
    exact ⟨front, last, lastSequence, _, reads, .inl ⟨isCut, ends⟩⟩
  · have sameError : found = error :=
      Except.error.inj ((congrArg Prod.fst stopped).symm.trans fails)
    subst sameError
    exact ⟨front, last, lastSequence, left, reads, .inr ⟨lexeme, back, isCut, stops⟩⟩

end Parser

/-- An invalid pattern is reported in the words that the dialect has for its source. -/
theorem refuses_of_parse
    {dialect : Dialect}
    {pattern reason : String}
    {error : SyntaxError}
    (fails : parse dialect pattern = .error error)
    (isInvalid : error.fault = .patternInvalid reason) :
    Lexeme.Refuses dialect error.fault := by
  obtain ⟨_, last, lastSequence, left, _, ⟨_, ends⟩ | ⟨lexeme, _, isCut, stops⟩⟩ :=
    Parser.parse_error_cases fails
  · cases ends with
    | unclosed =>
        cases isInvalid
    | empty =>
        simp only [Parser.errorAt, Parser.unfinishedFault] at isInvalid
        split at isInvalid <;> cases isInvalid
  · obtain ⟨_, notInvalid⟩ | ⟨lead, broken⟩ := stops.fault_cases
    · exact (notInvalid reason isInvalid).elim
    · obtain ⟨first, rest, isLexeme, _⟩ := Lexeme.exists_cut_of_ofText isCut
      rw [← isLexeme] at broken
      rcases Lexeme.broken_fault broken with isFault | isFault | refuses
      · simp [isFault] at isInvalid
      · simp [isFault] at isInvalid
      · exact refuses

/-- The error of a text that is no pattern is found as early as possible. -/
theorem parse_error_isEarliest
    {dialect : Dialect}
    {pattern : String}
    {error : SyntaxError}
    (fails : parse dialect pattern = .error error) :
    error.pattern = pattern ∧
      ∃ before part after, error.IsEarliest dialect before part after := by
  obtain ⟨_, last, _, _, reads, ends⟩ := Parser.parse_error_cases fails
  have samePattern : last.pattern = pattern := reads.last_place.1
  rcases ends with ⟨isCut, ends⟩ | ⟨lexeme, back, isCut, stops⟩
  · exact ⟨ends.pattern_eq.trans samePattern,
      Parser.exists_isEarliest_of_endsWith reads isCut ends⟩
  · exact ⟨stops.pattern_eq.trans samePattern,
      Parser.exists_isEarliest_of_stops reads stops isCut⟩

/-- A test of an attribute breaks off at a second value, behind a complete atom. -/
theorem isEarliest_secondValue :
    parse .standard "a {word:a b}" =
        .error ⟨.attributeMalformed, "a {word:a b}", ⟨2, 10⟩⟩ ∧
      ∃ before part after,
        SyntaxError.IsEarliest .standard
          ⟨.attributeMalformed, "a {word:a b}", ⟨2, 10⟩⟩ before part after := by
  have fails :
      parse .standard "a {word:a b}" =
        .error ⟨.attributeMalformed, "a {word:a b}", ⟨2, 10⟩⟩ := by
    cbv
  exact ⟨fails, (parse_error_isEarliest fails).2⟩

end TokenPattern
