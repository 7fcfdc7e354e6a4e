import TokenPattern.Proofs.Lookahead

namespace TokenPattern.Lexeme

/-!
# Tests of attributes that are not read

A test of an attribute breaks off at a character that cannot go on with it, or
the literal that is its value is faulty.  Where it breaks off depends on no more
than that character, and up to there the test can be completed.
-/

variable {dialect : Dialect}

/-- The text before the value of a test, after the opening brace. -/
inductive BeforeValue : List Char → List Char → Prop where
  | intro
      {beforeName name afterName beforeValue : List Char}
      (blankBeforeName : IsBlanks beforeName)
      (nonempty : name ≠ [])
      (nameChars : ∀ char ∈ name, isNameChar char = true)
      (blankAfterName : IsBlanks afterName)
      (blankBeforeValue : IsBlanks beforeValue) :
      BeforeValue name
        (beforeName ++ (name ++ (afterName ++ ':' :: beforeValue)))

/--
A test of an attribute breaks off: what was read after the opening brace and
the rest of the text, whose first character cannot go on with it.
-/
inductive BreaksOff (dialect : Dialect) : List Char → List Char → Prop where
  | noName
      {blanks rest : List Char}
      (areBlank : IsBlanks blanks)
      (noBlank : Stops isBlank rest)
      (noName : Stops isNameChar rest) :
      BreaksOff dialect blanks rest
  | noColon
      {beforeName name afterName rest : List Char}
      (blankBeforeName : IsBlanks beforeName)
      (nonempty : name ≠ [])
      (nameChars : ∀ char ∈ name, isNameChar char = true)
      (blankAfterName : IsBlanks afterName)
      (noBlank : Stops isBlank rest)
      (nameEnds : afterName = [] → Stops isNameChar rest)
      (noColon : ':' ∉ rest.head?) :
      BreaksOff dialect (beforeName ++ (name ++ afterName)) rest
  | noValue
      {name start rest : List Char}
      (before : BeforeValue name start)
      (noBlank : Stops isBlank rest)
      (noSlash : '/' ∉ rest.head?)
      (noWord : Stops Char.isAlphanum rest) :
      BreaksOff dialect start rest
  | noBrace
      {name start valueText afterValue rest : List Char}
      {value : Value}
      (before : BeforeValue name start)
      (written : value.Written dialect valueText)
      (blankAfterValue : IsBlanks afterValue)
      (noBlank : Stops isBlank rest)
      (valueEnds : afterValue = [] → EndsBefore valueText rest)
      (noBrace : '\x7d' ∉ rest.head?) :
      BreaksOff dialect (start ++ (valueText ++ afterValue)) rest

theorem stops_append_blanks
    {keep : Char → Bool}
    (noBlank : ∀ char, isBlank char = true → keep char = false)
    {blanks rest : List Char}
    (areBlank : IsBlanks blanks)
    (ends : blanks = [] → Stops keep rest) :
    Stops keep (blanks ++ rest) := by
  cases blanks with
  | nil =>
      exact ends rfl
  | cons first tail =>
      exact stops_cons (noBlank first (areBlank first List.mem_cons_self)) _

theorem stops_append_run
    {keep other : Char → Bool}
    (excluded : ∀ char, other char = true → keep char = false)
    {run : List Char}
    (nonempty : run ≠ [])
    (kept : ∀ char ∈ run, other char = true)
    (rest : List Char) :
    Stops keep (run ++ rest) := by
  obtain ⟨first, tail, rfl⟩ := List.exists_cons_of_ne_nil nonempty
  exact stops_cons (excluded first (kept first List.mem_cons_self)) _

theorem stops_rest_cutRun
    (keep : Char → Bool)
    (text : List Char) :
    Stops keep (cutRun keep text).2 := by
  intro char isFirst
  have notKept := List.head?_dropWhile_not keep text
  rw [cutRun, Option.mem_def] at isFirst
  rw [isFirst] at notKept
  simpa using notKept

theorem cutRun_eq_iff
    {keep : Char → Bool}
    {text run rest : List Char} :
    cutRun keep text = (run, rest) ↔
      text = run ++ rest ∧ (∀ char ∈ run, keep char = true) ∧ Stops keep rest := by
  constructor
  · intro isCut
    have kept := cutRun_append keep text
    have satisfies : ∀ char ∈ (cutRun keep text).1, keep char = true :=
      fun _ => kept_of_cutRun
    have stops := stops_rest_cutRun keep text
    rw [isCut] at kept satisfies stops
    exact ⟨kept.symm, satisfies, stops⟩
  · rintro ⟨rfl, satisfies, stops⟩
    exact cutRun_of_stops satisfies stops

theorem cutAttribute_beforeValue
    {name start atValue : List Char}
    (before : BeforeValue name start)
    (noBlank : Stops isBlank atValue) :
    cutAttribute dialect (start ++ atValue) =
      cutValue dialect name ('\x7b' :: start) atValue := by
  obtain ⟨blankBeforeName, nonempty, nameChars, blankAfterName,
    blankBeforeValue⟩ := before
  simp only [List.append_assoc, List.cons_append]
  rw [cutAttribute, cutRun_of_stops blankBeforeName
    (stops_append_run (fun _ => isBlank_of_isNameChar) nonempty nameChars _)]
  dsimp only
  rw [cutRun_of_stops nameChars
    (stops_blanks (fun _ => isNameChar_of_isBlank) blankAfterName (by decide) _)]
  dsimp only
  rw [cutRun_of_stops blankAfterName (stops_cons (by decide) _),
    if_neg (by simpa using nonempty)]
  simp [cutRun_of_stops blankBeforeValue noBlank]

theorem cutAttribute_noName
    {blanks rest : List Char}
    (areBlank : IsBlanks blanks)
    (noBlank : Stops isBlank rest)
    (noName : Stops isNameChar rest) :
    cutAttribute dialect (blanks ++ rest) = malformed ('\x7b' :: blanks) rest := by
  have noRun := cutRun_eq_iff.2 ⟨(List.nil_append rest).symm, by simp, noName⟩
  rw [cutAttribute, cutRun_of_stops areBlank noBlank]
  simp [noRun]

theorem cutAttribute_noColon
    {beforeName name afterName rest : List Char}
    (blankBeforeName : IsBlanks beforeName)
    (nonempty : name ≠ [])
    (nameChars : ∀ char ∈ name, isNameChar char = true)
    (blankAfterName : IsBlanks afterName)
    (noBlank : Stops isBlank rest)
    (nameEnds : afterName = [] → Stops isNameChar rest)
    (noColon : ':' ∉ rest.head?) :
    cutAttribute dialect (beforeName ++ (name ++ (afterName ++ rest))) =
      malformed ('\x7b' :: (beforeName ++ (name ++ afterName))) rest := by
  rw [cutAttribute, cutRun_of_stops blankBeforeName
    (stops_append_run (fun _ => isBlank_of_isNameChar) nonempty nameChars _)]
  dsimp only
  rw [cutRun_of_stops nameChars
    (stops_append_blanks (fun _ => isNameChar_of_isBlank) blankAfterName nameEnds)]
  dsimp only
  rw [cutRun_of_stops blankAfterName noBlank, if_neg (by simpa using nonempty)]
  dsimp only
  split
  · exact (noColon rfl).elim
  · simp

theorem cutAttribute_complete
    {name start valueText afterValue : List Char}
    {value : Value}
    (before : BeforeValue name start)
    (written : value.Written dialect valueText)
    (areBlank : IsBlanks afterValue)
    (rest : List Char) :
    cutAttribute dialect
        (start ++ (valueText ++ (afterValue ++ '\x7d' :: rest))) =
      (⟨.atom (.attributeIs (String.ofList name) value),
        '\x7b' :: start ++ valueText ++ afterValue ++ ['\x7d']⟩, rest) := by
  rw [cutAttribute_beforeValue before (stops_value written _)]
  exact cutValue_of_written written areBlank _ _ _

/-- The end of a test is not read only where a brace is missing. -/
theorem cutClosing_cases
    (name : List Char)
    (value : Value)
    (read afterValue : List Char) :
    (cutClosing name value read afterValue).1.symbol =
        .atom (.attributeIs (String.ofList name) value) ∨
      ∃ blanks rest,
        afterValue = blanks ++ rest ∧
          IsBlanks blanks ∧
          Stops isBlank rest ∧
          '\x7d' ∉ rest.head? ∧
          cutClosing name value read afterValue = malformed (read ++ blanks) rest := by
  have kept := cutRun_append isBlank afterValue
  have noBlank := stops_rest_cutRun isBlank afterValue
  unfold cutClosing
  dsimp only
  split
  · exact .inl rfl
  · rename_i noBrace
    refine .inr ⟨_, _, kept.symm, isBlanks_cutRun afterValue, noBlank, ?_, rfl⟩
    intro isBrace
    obtain ⟨rest, starts⟩ := List.head?_eq_some_iff.1 isBrace
    exact noBrace rest starts

theorem cutValue_missing
    {atValue : List Char}
    (noSlash : '/' ∉ atValue.head?)
    (noWord : Stops Char.isAlphanum atValue)
    (name read : List Char) :
    cutValue dialect name read atValue = malformed read atValue := by
  cases atValue with
  | nil =>
      rfl
  | cons first rest =>
      have notSlash : first ≠ '/' := by
        rintro rfl
        exact noSlash rfl
      have notAlphanum := noWord first rfl
      simp [cutValue, notSlash, notAlphanum]

theorem cutValue_word
    {first : Char}
    (alphanumeric : first.isAlphanum = true)
    (name read rest : List Char) :
    cutValue dialect name read (first :: rest) =
      cutClosing name (.literal (String.ofList (cutWord (first :: rest)).1))
        (read ++ (cutWord (first :: rest)).1) (cutWord (first :: rest)).2 := by
  have notSlash : first ≠ '/' := by
    rintro rfl
    revert alphanumeric
    decide
  simp [cutValue, notSlash, alphanumeric]

theorem cutValue_eq_cutClosing
    {value : Value}
    {valueText afterValue : List Char}
    (written : value.Written dialect valueText)
    (ends : EndsBefore valueText afterValue)
    (name read : List Char) :
    cutValue dialect name read (valueText ++ afterValue) =
      cutClosing name value (read ++ valueText) afterValue := by
  cases written with
  | literal isWord =>
      obtain ⟨first, tail, rfl⟩ := List.exists_cons_of_ne_nil isWord.1
      have alphanumeric := isAlphanum_of_isWord isWord first List.mem_cons_self
      rw [List.cons_append, cutValue_word alphanumeric, ← List.cons_append,
        cutWord_of_endsBefore isWord ends]
  | pattern written =>
      obtain ⟨afterSlash, sameText, isCut⟩ := cutLiteral_of_written written afterValue
      rw [sameText]
      simp only [cutValue, if_true, isCut]

theorem cutClosing_noBrace
    {blanks rest : List Char}
    (areBlank : IsBlanks blanks)
    (noBlank : Stops isBlank rest)
    (noBrace : '\x7d' ∉ rest.head?)
    (name : List Char)
    (value : Value)
    (read : List Char) :
    cutClosing name value read (blanks ++ rest) = malformed (read ++ blanks) rest := by
  rw [cutClosing, cutRun_of_stops areBlank noBlank]
  dsimp only
  split
  · exact (noBrace rfl).elim
  · rfl

/-- With a value, blanks and a brace the test of some attribute is cut. -/
theorem BeforeValue.exists_test
    {name start valueText afterValue : List Char}
    {value : Value}
    (before : BeforeValue name start)
    (written : value.Written dialect valueText)
    (areBlank : IsBlanks afterValue) :
    ∃ test,
      ∀ rest,
        cutAttribute dialect
            (start ++ (valueText ++ (afterValue ++ '\x7d' :: rest))) =
          (⟨.atom test, '\x7b' :: start ++ valueText ++ afterValue ++ ['\x7d']⟩, rest) :=
  ⟨_, cutAttribute_complete before written areBlank⟩

/-- What keeps the test of an attribute from being read, at its value or behind it. -/
inductive ValueFault
    (dialect : Dialect)
    (name read : List Char) :
    List Char → Fault → Lexeme × List Char → Prop where
  | literal
      {afterSlash : List Char}
      {fault : Fault}
      (faulty : (cutLiteral dialect afterSlash).pattern = .error fault) :
      ValueFault dialect name read ('/' :: afterSlash) fault
        (⟨.broken fault read, read ++ (cutLiteral dialect afterSlash).text⟩,
          (cutLiteral dialect afterSlash).rest)
  | missing
      {atValue : List Char}
      (noSlash : '/' ∉ atValue.head?)
      (noWord : Stops Char.isAlphanum atValue) :
      ValueFault dialect name read atValue .attributeMalformed
        (malformed read atValue)
  | noBrace
      {value : Value}
      {valueText blanks rest : List Char}
      (written : value.Written dialect valueText)
      (areBlank : IsBlanks blanks)
      (noBlank : Stops isBlank rest)
      (valueEnds : blanks = [] → EndsBefore valueText rest)
      (braceMissing : '\x7d' ∉ rest.head?) :
      ValueFault dialect name read (valueText ++ (blanks ++ rest))
        .attributeMalformed (malformed (read ++ (valueText ++ blanks)) rest)

theorem valueFault_of_cutClosing
    {name read valueText afterValue lead : List Char}
    {value : Value}
    {fault : Fault}
    (written : value.Written dialect valueText)
    (ends : EndsBefore valueText afterValue)
    (broken :
      (cutClosing name value (read ++ valueText) afterValue).1.symbol =
        .broken fault lead) :
    ValueFault dialect name read (valueText ++ afterValue) fault
      (cutClosing name value (read ++ valueText) afterValue) := by
  rcases cutClosing_cases name value (read ++ valueText) afterValue with
    isAtom | ⟨blanks, rest, rfl, areBlank, noBlank, noBrace, isCut⟩
  · rw [isAtom] at broken
    cases broken
  · rw [isCut] at broken ⊢
    cases broken
    rw [List.append_assoc]
    refine .noBrace written areBlank noBlank ?_ noBrace
    rintro rfl
    exact ends

/-- A value that is not read is missing, has a faulty literal or no brace behind it. -/
theorem valueFault_of_cutValue
    {name read atValue lead : List Char}
    {fault : Fault}
    (broken : (cutValue dialect name read atValue).1.symbol = .broken fault lead) :
    ValueFault dialect name read atValue fault
      (cutValue dialect name read atValue) := by
  by_cases isSlash : '/' ∈ atValue.head?
  · obtain ⟨afterSlash, rfl⟩ := List.head?_eq_some_iff.1 isSlash
    have kept := text_append_rest_cutLiteral dialect afterSlash
    simp only [cutValue, if_true] at broken ⊢
    split at broken
    · rename_i pattern isPattern
      have written := written_of_cutLiteral isPattern
      rw [← kept]
      refine valueFault_of_cutClosing (.pattern written) ?_ broken
      obtain ⟨body, source, _, _, _, sameText⟩ := written
      rw [sameText]
      exact endsBefore_of_head (by decide) _ _
    · rename_i isFault
      cases broken
      exact .literal isFault
  · by_cases noWord : Stops Char.isAlphanum atValue
    · rw [cutValue_missing isSlash noWord] at broken ⊢
      cases broken
      exact .missing isSlash noWord
    · obtain ⟨first, rest, rfl, alphanumeric⟩ :
          ∃ first rest, atValue = first :: rest ∧ first.isAlphanum = true := by
        cases atValue with
        | nil =>
            simp [Stops] at noWord
        | cons first rest =>
            exact ⟨first, rest, rfl, by simpa [Stops] using noWord⟩
      rw [cutValue_word alphanumeric] at broken ⊢
      have kept := cutWord_append (first :: rest)
      have faulty : ValueFault dialect name read _ fault _ :=
        valueFault_of_cutClosing (.literal (isWord_cutWord alphanumeric rest))
          (endsBefore_cutWord (first :: rest)) broken
      rwa [kept] at faulty

/-- A test of an attribute breaks off, or the literal that is its value is faulty. -/
inductive AttributeFault
    (dialect : Dialect) :
    List Char → Fault → Lexeme × List Char → Prop where
  | breaksOff
      {read rest : List Char}
      (breaks : BreaksOff dialect read rest) :
      AttributeFault dialect (read ++ rest) .attributeMalformed
        (malformed ('\x7b' :: read) rest)
  | literal
      {name start afterSlash : List Char}
      {fault : Fault}
      (before : BeforeValue name start)
      (faulty : (cutLiteral dialect afterSlash).pattern = .error fault) :
      AttributeFault dialect (start ++ '/' :: afterSlash) fault
        (⟨.broken fault ('\x7b' :: start),
          '\x7b' :: start ++ (cutLiteral dialect afterSlash).text⟩,
          (cutLiteral dialect afterSlash).rest)

theorem ValueFault.attributeFault
    {name start atValue : List Char}
    {fault : Fault}
    {result : Lexeme × List Char}
    (faulty : ValueFault dialect name ('\x7b' :: start) atValue fault result)
    (before : BeforeValue name start)
    (noBlank : Stops isBlank atValue) :
    AttributeFault dialect (start ++ atValue) fault result := by
  cases faulty with
  | literal isFault =>
      exact .literal before isFault
  | missing noSlash noWord =>
      exact .breaksOff (.noValue before noBlank noSlash noWord)
  | noBrace written areBlank blanksEnd valueEnds braceMissing =>
      rw [← List.append_assoc, ← List.append_assoc, List.append_assoc start]
      exact .breaksOff
        (.noBrace before written areBlank blanksEnd valueEnds braceMissing)

/-- A test of an attribute that is not read is at fault. -/
theorem attributeFault_of_cutAttribute
    {afterBrace lead : List Char}
    {fault : Fault}
    (broken : (cutAttribute dialect afterBrace).1.symbol = .broken fault lead) :
    AttributeFault dialect afterBrace fault (cutAttribute dialect afterBrace) := by
  obtain ⟨⟨blanks, atName⟩, cutBlanks⟩ : ∃ parts, cutRun isBlank afterBrace = parts :=
    ⟨_, rfl⟩
  obtain ⟨⟨name, afterName⟩, cutName⟩ : ∃ parts, cutRun isNameChar atName = parts :=
    ⟨_, rfl⟩
  obtain ⟨⟨blanksBefore, atColon⟩, cutBefore⟩ : ∃ parts, cutRun isBlank afterName = parts :=
    ⟨_, rfl⟩
  obtain ⟨rfl, areBlank, noBlank⟩ := cutRun_eq_iff.1 cutBlanks
  obtain ⟨rfl, nameChars, nameEnds⟩ := cutRun_eq_iff.1 cutName
  obtain ⟨rfl, areBlankBefore, noBlankBefore⟩ := cutRun_eq_iff.1 cutBefore
  -- The test breaks off at the first of its parts that is missing.
  by_cases noName : name = []
  · subst noName
    rw [List.nil_append] at noBlank broken ⊢
    rw [cutAttribute_noName areBlank noBlank nameEnds] at broken ⊢
    cases broken
    exact .breaksOff (.noName areBlank noBlank nameEnds)
  by_cases isColon : ':' ∈ atColon.head?
  · obtain ⟨afterColon, rfl⟩ := List.head?_eq_some_iff.1 isColon
    obtain ⟨⟨blanksAfter, atValue⟩, cutAfter⟩ :
        ∃ parts, cutRun isBlank afterColon = parts := ⟨_, rfl⟩
    obtain ⟨rfl, areBlankAfter, noBlankAfter⟩ := cutRun_eq_iff.1 cutAfter
    have before : BeforeValue name
        (blanks ++ (name ++ (blanksBefore ++ ':' :: blanksAfter))) :=
      ⟨areBlank, noName, nameChars, areBlankBefore, areBlankAfter⟩
    have atStart :
        blanks ++ (name ++ (blanksBefore ++ ':' :: (blanksAfter ++ atValue))) =
          blanks ++ (name ++ (blanksBefore ++ ':' :: blanksAfter)) ++ atValue := by
      simp
    rw [atStart] at broken ⊢
    rw [cutAttribute_beforeValue before noBlankAfter] at broken ⊢
    exact (valueFault_of_cutValue broken).attributeFault before noBlankAfter
  · have ends : blanksBefore = [] → Stops isNameChar atColon := by
      rintro rfl
      exact nameEnds
    have breaks : BreaksOff dialect (blanks ++ (name ++ blanksBefore)) atColon :=
      .noColon areBlank noName nameChars areBlankBefore noBlankBefore ends isColon
    rw [cutAttribute_noColon areBlank noName nameChars areBlankBefore
      noBlankBefore ends isColon] at broken ⊢
    cases broken
    rw [← List.append_assoc, ← List.append_assoc, List.append_assoc blanks]
    exact .breaksOff breaks

namespace BreaksOff

variable {read rest : List Char}

theorem cutAttribute_eq (breaks : BreaksOff dialect read rest) :
    cutAttribute dialect (read ++ rest) = malformed ('\x7b' :: read) rest := by
  cases breaks with
  | noName areBlank noBlank noName =>
      exact cutAttribute_noName areBlank noBlank noName
  | noColon blankBeforeName nonempty nameChars blankAfterName noBlank nameEnds noColon =>
      simpa using cutAttribute_noColon blankBeforeName nonempty nameChars
        blankAfterName noBlank nameEnds noColon
  | noValue before noBlank noSlash noWord =>
      rw [cutAttribute_beforeValue before noBlank, cutValue_missing noSlash noWord]
  | noBrace before written blankAfterValue noBlank valueEnds noBrace =>
      have ends := endsBefore_append_blanks blankAfterValue valueEnds
      rw [List.append_assoc, List.append_assoc,
        cutAttribute_beforeValue before (stops_value written _),
        cutValue_eq_cutClosing written ends,
        cutClosing_noBrace blankAfterValue noBlank noBrace]
      simp

/-- The test of an attribute can be completed, whatever stands behind it. -/
theorem exists_completion (breaks : BreaksOff dialect read rest) :
    ∃ test more,
      ∀ other,
        cutAttribute dialect (read ++ (more ++ other)) =
          (⟨.atom test, '\x7b' :: (read ++ more)⟩, other) := by
  have nameChars : ∀ char ∈ ['a'], isNameChar char = true := fun char isLetter =>
    isNameChar_of_isAlphanum (isAlphanum_of_isWord isWord_letter char isLetter)
  cases breaks with
  | noName areBlank =>
      have before : BeforeValue ['a'] _ :=
        ⟨areBlank, by simp, nameChars, isBlanks_nil, isBlanks_nil⟩
      obtain ⟨test, completes⟩ := before.exists_test (.literal isWord_letter) isBlanks_nil
      exact ⟨test, ['a', ':', 'a', '\x7d'], fun other => by simpa using completes other⟩
  | noColon blankBeforeName nonempty isName blankAfterName =>
      have before : BeforeValue _ _ :=
        ⟨blankBeforeName, nonempty, isName, blankAfterName, isBlanks_nil⟩
      obtain ⟨test, completes⟩ := before.exists_test (.literal isWord_letter) isBlanks_nil
      exact ⟨test, [':', 'a', '\x7d'], fun other => by simpa using completes other⟩
  | noValue before =>
      obtain ⟨test, completes⟩ := before.exists_test (.literal isWord_letter) isBlanks_nil
      exact ⟨test, ['a', '\x7d'], fun other => by simpa using completes other⟩
  | noBrace before written blankAfterValue =>
      obtain ⟨test, completes⟩ := before.exists_test written blankAfterValue
      exact ⟨test, ['\x7d'], fun other => by simpa using completes other⟩

/-- The character at which the test breaks off decides that it does. -/
theorem congr
    (breaks : BreaksOff dialect read rest)
    {other : List Char}
    (sameHead : other.head? = rest.head?) :
    BreaksOff dialect read other := by
  cases breaks with
  | noName areBlank noBlank noName =>
      rw [Stops, ← sameHead] at noBlank noName
      exact .noName areBlank noBlank noName
  | noColon blankBeforeName nonempty nameChars blankAfterName noBlank nameEnds noColon =>
      rw [← sameHead] at noColon
      rw [Stops, ← sameHead] at noBlank nameEnds
      exact .noColon blankBeforeName nonempty nameChars blankAfterName noBlank
        nameEnds noColon
  | noValue before noBlank noSlash noWord =>
      rw [← sameHead] at noSlash
      rw [Stops, ← sameHead] at noBlank noWord
      exact .noValue before noBlank noSlash noWord
  | noBrace before written blankAfterValue noBlank valueEnds noBrace =>
      rw [← sameHead] at noBrace
      rw [Stops, ← sameHead] at noBlank
      rw [EndsBefore, ← sameHead] at valueEnds
      exact .noBrace before written blankAfterValue noBlank valueEnds noBrace

end BreaksOff

end TokenPattern.Lexeme
