import TokenPattern.Proofs.Escaping
import TokenPattern.Proofs.Progress

namespace TokenPattern

/-!
# Literals lose nothing

Each source that a literal can hold is written in one way between slashes, and is
read from there whatever follows.  Conversely whatever a parse has read from a
literal is such a source, written in this way.
-/

/-- A source as it is written, between slashes. -/
def literalOf (source : List Char) : List Char :=
  '/' :: (escape source ++ ['/'])

/-- The pattern that a value holds. -/
def Value.charPattern? : Value → Option CharPattern
  | .literal _ => none
  | .pattern charPattern => some charPattern

/-- The pattern that an atom holds, by itself or as the value of an attribute. -/
def Atom.charPattern? : Atom → Option CharPattern
  | .word _ => none
  | .found charPattern => some charPattern
  | .attributeIs _ value => value.charPattern?

/-- The test of an instruction that is an atom. -/
def Instruction.test? : Instruction → Option Atom
  | .atom test => some test
  | .concat | .connect _ | .quantify _ => none

/-- The test of a symbol that is an atom. -/
def Symbol.test? : Symbol → Option Atom
  | .atom test => some test
  | .blank | .opener _ | .closer _ | .connective _ | .quantifier _ | .stray | .broken _ _ => none

/-- A source is written between slashes in a text, and no slash stands around them. -/
def HoldsLiteral (text source : List Char) : Prop :=
  ∃ opening closing,
    '/' ∉ opening ∧ '/' ∉ closing ∧ text = opening ++ literalOf source ++ closing

/-- A source that is written before a text is read from there, and nothing else. -/
structure ReadsBack
    (dialect : Dialect)
    (source rest : List Char) : Prop where
  /-- The reader of literals, wherever it is called. -/
  literal :
    Lexeme.cutLiteral dialect (escape source ++ '/' :: rest) =
      ⟨.ok ⟨String.ofList source⟩, literalOf source, rest⟩
  /-- A fresh parse, which goes on behind the literal. -/
  parses :
    ∀ pattern : String,
      pattern.toList = literalOf source ++ rest →
      GetsTo dialect pattern
        [⟨.atom (.found ⟨String.ofList source⟩), literalOf source⟩]
        (Lexeme.ofText dialect rest)
  /-- The reader of an attribute's value, which goes on with what is behind the value. -/
  value :
    ∀ name read,
      Lexeme.cutValue dialect name read (literalOf source ++ rest) =
        Lexeme.cutClosing name (.pattern ⟨String.ofList source⟩) (read ++ literalOf source) rest

/-- The patterns in a program are those that the text holds, each as it is written. -/
structure SpelledIn
    (dialect : Dialect)
    (pattern : String)
    (program : List Instruction) : Prop where
  tests_eq :
    program.filterMap Instruction.test? =
      (Lexeme.ofText dialect pattern.toList).filterMap fun lexeme => lexeme.symbol.test?
  holds :
    ∀ lexeme ∈ Lexeme.ofText dialect pattern.toList,
      ∀ test payload,
        lexeme.symbol.test? = some test →
          test.charPattern? = some payload →
            IsAdmissible payload.source.toList ∧
              dialect.accepts payload.source = true ∧
              HoldsLiteral lexeme.text payload.source.toList

/-- Literals and what is read from them determine each other. -/
structure LosslessLiterals (dialect : Dialect) : Prop where
  readsBack :
    ∀ source rest,
      IsAdmissible source →
        dialect.accepts (String.ofList source) = true →
          ReadsBack dialect source rest
  spelled :
    ∀ pattern program,
      parse dialect pattern = .ok program →
        SpelledIn dialect pattern program
  /-- A literal ends at the first slash without a backslash, if no backslash is alone. -/
  body_iff :
    ∀ text found,
      Lexeme.cutBody? text = some found ↔
        ∃ body,
          IsLiteralBody body ∧
            text = body ++ '/' :: found.rest ∧
            found.text = body ++ ['/'] ∧
            found.source = unescape body
  bijective :
    Set.BijOn unescape {body | IsLiteralBody body} {source | IsAdmissible source}
  inverse :
    Set.InvOn escape unescape {body | IsLiteralBody body} {source | IsAdmissible source}

variable {dialect : Dialect}

/-- A pattern is written as its source is escaped. -/
theorem CharPattern.written_iff
    {pattern : CharPattern}
    {text : List Char} :
    pattern.Written dialect text ↔
      IsAdmissible pattern.source.toList ∧
        dialect.accepts pattern.source = true ∧
        text = literalOf pattern.source.toList := by
  constructor
  · rintro ⟨body, source, escaped, rfl, accepted, rfl⟩
    obtain ⟨isAdmissible, rfl⟩ := escaped_iff_escape.1 escaped
    rw [String.toList_ofList]
    exact ⟨isAdmissible, accepted, rfl⟩
  · rintro ⟨isAdmissible, accepted, rfl⟩
    refine ⟨_, _, escaped_iff_escape.2 ⟨isAdmissible, rfl⟩, ?_, accepted, rfl⟩
    rw [String.ofList_toList]

namespace Lexeme

/-- What is read as the body of a literal, and where the reading stops. -/
theorem cutBody?_eq_some_iff
    {text : List Char}
    {found : LiteralBody} :
    cutBody? text = some found ↔
      ∃ body,
        IsLiteralBody body ∧
          text = body ++ '/' :: found.rest ∧
          found.text = body ++ ['/'] ∧
          found.source = unescape body := by
  constructor
  · intro read
    obtain ⟨body, escaped, sameText⟩ := escaped_of_cutBody? read
    obtain ⟨isBody, sameSource⟩ := escaped_iff_unescape.1 escaped
    have kept := text_append_rest_cutBody? text found read
    rw [sameText, List.append_assoc, List.singleton_append] at kept
    exact ⟨body, isBody, kept.symm, sameText, sameSource⟩
  · rintro ⟨body, isBody, rfl, sameText, sameSource⟩
    rw [cutBody?_of_escaped (escaped_iff_unescape.2 ⟨isBody, rfl⟩), ← sameText, ← sameSource]

end Lexeme

/-- An accepted source that is written as it is escaped is read back. -/
theorem readsBack_of_isAdmissible
    {source : List Char}
    (isAdmissible : IsAdmissible source)
    (accepted : dialect.accepts (String.ofList source) = true)
    (rest : List Char) :
    ReadsBack dialect source rest := by
  have written :
      CharPattern.Written dialect ⟨String.ofList source⟩ (literalOf source) :=
    ⟨_, source, escaped_iff_escape.2 ⟨isAdmissible, rfl⟩, rfl, accepted, rfl⟩
  have literal :
      Lexeme.cutLiteral dialect (escape source ++ '/' :: rest) =
        ⟨.ok ⟨String.ofList source⟩, literalOf source, rest⟩ := by
    obtain ⟨afterSlash, starts, read⟩ := Lexeme.cutLiteral_of_written written rest
    have sameText : escape source ++ '/' :: rest = afterSlash := by
      simpa [literalOf] using starts
    rw [sameText, read]
  refine ⟨literal, ?_, ?_⟩
  · intro pattern isText
    have isCut :=
      Lexeme.ofText_of_endsBefore (.literal written)
        (Lexeme.endsBefore_of_head (by decide) _ rest)
    rw [← isText] at isCut
    exact .of_reads isCut (.lexeme (.atom rfl) (.nothing _ _))
  · intro name read
    have starts : literalOf source ++ rest = '/' :: (escape source ++ '/' :: rest) := by
      simp [literalOf]
    rw [starts, Lexeme.cutValue]
    simp only [if_pos, literal]

theorem Symbol.test?_eq_some_iff
    {symbol : Symbol}
    {test : Atom} :
    symbol.test? = some test ↔ symbol = .atom test := by
  cases symbol <;> simp [test?]

/-- The tests of a tree are those of the symbols that it derives from, in their order. -/
theorem Derives.filterMap_test?
    {category : Category}
    {symbols : List Symbol}
    {tree : PatternTree}
    (derives : Derives category symbols tree) :
    tree.program.filterMap Instruction.test? = symbols.filterMap Symbol.test? := by
  induction derives with
  | atom test =>
      rfl
  | _ =>
      simp_all [PatternTree.program, List.filterMap_cons, Instruction.test?, Symbol.test?]

theorem slash_notMem_blanks
    {blanks : List Char}
    (areBlank : IsBlanks blanks) :
    '/' ∉ blanks := by
  intro isMember
  have isBlank := areBlank _ isMember
  revert isBlank
  decide

theorem slash_notMem_name
    {name : List Char}
    (nameChars : ∀ char ∈ name, Lexeme.isNameChar char = true) :
    '/' ∉ name := by
  intro isMember
  have isNameChar := nameChars _ isMember
  revert isNameChar
  decide

/-- An atom that holds a pattern is written with the pattern's literal and no other slash. -/
theorem Symbol.Written.holdsLiteral
    {test : Atom}
    {payload : CharPattern}
    {text : List Char}
    (written : Symbol.Written dialect (.atom test) text)
    (isPayload : test.charPattern? = some payload) :
    IsAdmissible payload.source.toList ∧
      dialect.accepts payload.source = true ∧
      HoldsLiteral text payload.source.toList := by
  cases written with
  | sign isSign =>
      simp [signs] at isSign
  | word =>
      cases isPayload
  | literal written =>
      cases isPayload
      obtain ⟨isAdmissible, accepted, rfl⟩ := CharPattern.written_iff.1 written
      exact ⟨isAdmissible, accepted, [], [], by simp, by simp, by simp⟩
  | @attributeIs name valueText value beforeName afterName beforeValue afterValue nonempty
      nameChars written blankBeforeName blankAfterName blankBeforeValue blankAfterValue =>
      cases written with
      | literal =>
          cases isPayload
      | pattern written =>
          cases isPayload
          obtain ⟨isAdmissible, accepted, rfl⟩ := CharPattern.written_iff.1 written
          refine ⟨isAdmissible, accepted,
            '\x7b' :: (beforeName ++ name ++ afterName ++ [':'] ++ beforeValue),
            afterValue ++ ['\x7d'], ?_, ?_, by simp⟩
          · simp [slash_notMem_blanks blankBeforeName, slash_notMem_name nameChars,
              slash_notMem_blanks blankAfterName, slash_notMem_blanks blankBeforeValue]
          · simp [slash_notMem_blanks blankAfterValue]

/-- What a parse has read from literals is as it is written there. -/
theorem spelledIn_of_parse
    {pattern : String}
    {program : List Instruction}
    (parses : parse dialect pattern = .ok program) :
    SpelledIn dialect pattern program := by
  obtain ⟨symbols, tree, isCut, derives, rfl⟩ := exists_derivation_of_parse parses
  obtain ⟨rfl, sound⟩ := Lexeme.cut_iff.1 isCut
  refine ⟨?_, ?_⟩
  · rw [derives.filterMap_test?, List.filterMap_map]
    rfl
  · intro lexeme isMember test payload isTest isPayload
    have written := Lexeme.written_of_mem isMember (sound _ (List.mem_map_of_mem isMember))
    rw [Symbol.test?_eq_some_iff.1 isTest] at written
    exact written.holdsLiteral isPayload

/-- Literals lose nothing of what is written in them, and add nothing. -/
theorem losslessLiterals (dialect : Dialect) : LosslessLiterals dialect where
  readsBack _ rest isAdmissible accepted := readsBack_of_isAdmissible isAdmissible accepted rest
  spelled _ _ parses := spelledIn_of_parse parses
  body_iff _ _ := Lexeme.cutBody?_eq_some_iff
  bijective := unescape_bijOn
  inverse := ⟨fun _ => escape_unescape, fun _ => unescape_escape⟩

end TokenPattern
