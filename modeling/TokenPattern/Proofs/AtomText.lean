import TokenPattern.Proofs.LiteralEncoding

namespace TokenPattern

/-!
# The text of an atom

The text of an atom shows the source of its pattern as it is, but in a token pattern
each slash of the source is written with a backslash.  So what an atom is read from
is longer than its text by one character for each slash at least.  Without a slash
the text is one of the ways to write the atom; with a slash it is too short for it.
-/

/-- The number of slashes in the source of a pattern, if there is one. -/
def slashCount (payload : Option CharPattern) : Nat :=
  (payload.map fun charPattern => charPattern.source.toList.count '/').getD 0

/-- The atom has no pattern, or one whose source has no slash. -/
def Atom.IsSlashFree (test : Atom) : Prop :=
  ∀ payload, test.charPattern? = some payload → '/' ∉ payload.source.toList

/-- The text of an atom is read as the atom exactly if its pattern has no slash. -/
structure ShownFaithfully (dialect : Dialect) (test : Atom) : Prop where
  parses_iff :
    parse dialect (Instruction.atom test).text = .ok [.atom test] ↔ test.IsSlashFree
  /-- With a slash the text is no pattern, or it is one without this atom. -/
  lost :
    ¬ test.IsSlashFree →
      ∀ program,
        parse dialect (Instruction.atom test).text = .ok program →
          .atom test ∉ program

theorem Atom.isSlashFree_iff (test : Atom) :
    test.IsSlashFree ↔ slashCount test.charPattern? = 0 := by
  cases payload : test.charPattern? <;>
    simp [IsSlashFree, slashCount, payload, List.count_eq_zero]

/-- Each slash of a source is written with a backslash, and nothing else is added. -/
theorem Escaped.length_eq
    {body source : List Char}
    (escaped : Escaped body source) :
    body.length = source.length + source.count '/' := by
  induction escaped with
  | nil =>
      rfl
  | slash _ inductionHypothesis =>
      simp only [List.length_cons, List.count_cons_self, inductionHypothesis]
      omega
  | pair notSlash _ inductionHypothesis | plain notSlash _ _ inductionHypothesis =>
      simp [notSlash, inductionHypothesis]
      omega

/-- A source without a slash is written as it is. -/
theorem Escaped.eq_source
    {body source : List Char}
    (escaped : Escaped body source)
    (noSlash : source.count '/' = 0) :
    body = source := by
  induction escaped with
  | nil =>
      rfl
  | slash =>
      simp at noSlash
  | pair notSlash _ inductionHypothesis | plain notSlash _ _ inductionHypothesis =>
      simp_all

namespace CharPattern.Written

variable {dialect : Dialect}
variable {pattern : CharPattern}
variable {text : List Char}

theorem length_eq (written : pattern.Written dialect text) :
    text.length = pattern.text.toList.length + pattern.source.toList.count '/' := by
  obtain ⟨body, source, escaped, rfl, _, rfl⟩ := written
  have lengths := escaped.length_eq
  simp [CharPattern.text]
  omega

theorem eq_text
    (written : pattern.Written dialect text)
    (noSlash : pattern.source.toList.count '/' = 0) :
    text = pattern.text.toList := by
  obtain ⟨body, source, escaped, rfl, _, rfl⟩ := written
  rw [String.toList_ofList] at noSlash
  simp [CharPattern.text, escaped.eq_source noSlash]

end CharPattern.Written

namespace Value.Written

variable {dialect : Dialect}
variable {value : Value}
variable {text : List Char}

theorem length_eq (written : value.Written dialect text) :
    text.length = value.text.toList.length + slashCount value.charPattern? := by
  cases written with
  | literal isWord =>
      simp [Value.text, slashCount, Value.charPattern?]
  | pattern written =>
      exact written.length_eq

theorem eq_text
    (written : value.Written dialect text)
    (noSlash : slashCount value.charPattern? = 0) :
    text = value.text.toList := by
  cases written with
  | literal isWord =>
      simp [Value.text]
  | pattern written =>
      exact written.eq_text noSlash

end Value.Written

namespace Symbol.Written

variable {dialect : Dialect}
variable {test : Atom}
variable {text : List Char}

/-- What an atom is written as is longer than its text by a character for each slash. -/
theorem length_text_le (written : Symbol.Written dialect (.atom test) text) :
    (Instruction.atom test).text.toList.length + slashCount test.charPattern? ≤ text.length := by
  cases written with
  | sign isSign =>
      simp [signs] at isSign
  | word isWord =>
      simp [Instruction.text, Atom.text, slashCount, Atom.charPattern?]
  | literal written =>
      exact written.length_eq.ge
  | attributeIs nonempty nameChars written =>
      have lengths := written.length_eq
      simp [Instruction.text, Atom.text, Atom.charPattern?]
      omega

/-- An atom without a slash can be written as its text. -/
theorem written_text
    (written : Symbol.Written dialect (.atom test) text)
    (noSlash : slashCount test.charPattern? = 0) :
    Symbol.Written dialect (.atom test) (Instruction.atom test).text.toList := by
  cases written with
  | sign isSign =>
      simp [signs] at isSign
  | word isWord =>
      simpa [Instruction.text, Atom.text] using Symbol.Written.word isWord
  | literal written =>
      have sameText := written.eq_text noSlash
      subst sameText
      exact .literal written
  | attributeIs nonempty nameChars written =>
      have sameText := written.eq_text noSlash
      subst sameText
      have plain :=
        Symbol.Written.attributeIs nonempty nameChars written Lexeme.isBlanks_nil
          Lexeme.isBlanks_nil Lexeme.isBlanks_nil Lexeme.isBlanks_nil
      simpa [Instruction.text, Atom.text] using plain

end Symbol.Written

variable {dialect : Dialect}
variable {pattern : String}
variable {program : List Instruction}
variable {test : Atom}

/-- A text that an atom is written as is parsed as the atom and nothing else. -/
theorem parse_of_written (written : Symbol.Written dialect (.atom test) pattern.toList) :
    parse dialect pattern = .ok [.atom test] := by
  have endsThere : Lexeme.EndsBefore pattern.toList [] := by
    intro char isNext
    cases isNext
  have isCut := Lexeme.ofText_of_endsBefore written endsThere
  rw [List.append_nil, Lexeme.ofText] at isCut
  change (Parser.readAll (Lexeme.ofText dialect pattern.toList) (.ofPattern dialect pattern)
    .empty).1 = .ok [.atom test]
  rw [isCut]
  rfl

/-- An atom that was parsed is written in some part of the text. -/
theorem exists_written_of_parse
    (parses : parse dialect pattern = .ok program)
    (isPart : .atom test ∈ program) :
    ∃ text,
      Symbol.Written dialect (.atom test) text ∧ text.length ≤ pattern.toList.length := by
  obtain ⟨symbols, tree, isCut, derives, rfl⟩ := exists_derivation_of_parse parses
  obtain ⟨rfl, sound⟩ := Lexeme.cut_iff.1 isCut
  have isTest : test ∈ tree.program.filterMap Instruction.test? :=
    List.mem_filterMap.2 ⟨_, isPart, rfl⟩
  rw [derives.filterMap_test?] at isTest
  obtain ⟨symbol, isSymbol, found⟩ := List.mem_filterMap.1 isTest
  obtain ⟨lexeme, isLexeme, rfl⟩ := List.mem_map.1 isSymbol
  have written := Lexeme.written_of_mem isLexeme (sound _ isSymbol)
  rw [Symbol.test?_eq_some_iff.1 found] at written
  refine ⟨lexeme.text, written, ?_⟩
  have isInText := List.infix_of_mem_flatten (List.mem_map_of_mem (f := Lexeme.text) isLexeme)
  rw [← List.flatMap_def, Lexeme.text_lexemes] at isInText
  exact isInText.length_le

/-- An atom whose pattern has a slash is not read from its text. -/
theorem notMem_of_parse_text
    (hasSlash : ¬ test.IsSlashFree)
    (parses : parse dialect (Instruction.atom test).text = .ok program) :
    .atom test ∉ program := by
  intro isPart
  obtain ⟨text, written, inText⟩ := exists_written_of_parse parses isPart
  have longer := written.length_text_le
  rw [Atom.isSlashFree_iff] at hasSlash
  omega

/-- The text of an atom that was parsed is faithful exactly if no slash is in its pattern. -/
theorem shownFaithfully_of_parse
    (parses : parse dialect pattern = .ok program)
    (isPart : .atom test ∈ program) :
    ShownFaithfully dialect test := by
  obtain ⟨text, written, _⟩ := exists_written_of_parse parses isPart
  refine ⟨⟨?_, ?_⟩, ?_⟩
  · intro readsBack
    by_contra hasSlash
    exact notMem_of_parse_text hasSlash readsBack List.mem_cons_self
  · intro slashFree
    exact parse_of_written (written.written_text (test.isSlashFree_iff.mp slashFree))
  · intro hasSlash other readsOther
    exact notMem_of_parse_text hasSlash readsOther

/-- A dialect in which each source is a pattern that is found where it occurs as it is. -/
def verbatimDialect : Dialect where
  accepts _ := true
  refusal _ := ""
  finds source text := decide (source.toList <:+: text.toList)

/-- The test of an attribute for a pattern with a slash. -/
def slashedTest : Atom :=
  .attributeIs "path" (.pattern ⟨"a/b"⟩)

/-- What the test of a slash is read from, and a word behind it. -/
def slashedProgram : List Instruction :=
  [.atom slashedTest, .atom (.word "c"), .concat]

/-- Without its backslash the slash would end the pattern. -/
theorem shownFaithfully_slashedTest :
    parse verbatimDialect "\x7bpath:/a\\/b/\x7d c" = .ok slashedProgram ∧
      .atom slashedTest ∈ slashedProgram ∧
      ShownFaithfully verbatimDialect slashedTest ∧
      ¬ slashedTest.IsSlashFree := by
  have parses :
      parse verbatimDialect "\x7bpath:/a\\/b/\x7d c" = .ok slashedProgram := by
    cbv
  have isPart : .atom slashedTest ∈ slashedProgram := List.mem_cons_self
  refine ⟨parses, isPart, shownFaithfully_of_parse parses isPart, ?_⟩
  intro slashFree
  exact slashFree _ rfl (by decide)

end TokenPattern
