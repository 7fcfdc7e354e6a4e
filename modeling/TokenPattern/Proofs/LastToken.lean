import TokenPattern.Proofs.OpenGroups

namespace TokenPattern

/-!
# The last token before a place

What the parser remembers of a text, the last lexeme and the sequence at hand,
follows from the last lexeme that was read and the last one that is no blank.
-/

/-- A lexeme that is no blank. -/
def Lexeme.isToken (lexeme : Lexeme) : Bool :=
  lexeme.symbol ≠ .blank

/-- The last token of some lexemes. -/
def lastToken? (lexemes : List Lexeme) : Option Lexeme :=
  (lexemes.filter Lexeme.isToken).getLast?

/-- What a symbol is to a quantifier behind it. -/
def Symbol.preceding : Symbol → Preceding
  | .blank => .blank
  | .atom _ | .closer _ => .operand
  | .quantifier _ => .quantifier
  | .opener _ | .connective _ | .stray | .broken _ _ => .nothing

/-- The characters that start a place for an operand. -/
def leadingSigns : List Char :=
  ['(', '[', '|', '&']

/-- The characters of quantifiers. -/
def quantifierSigns : List Char :=
  ['?', '*', '+']

/-- What a text that ends with a character is to a quantifier behind it. -/
def precedingOf (char : Char) : Preceding :=
  if Lexeme.isBlank char then .blank
  else if char ∈ leadingSigns then .nothing
  else if char ∈ quantifierSigns then .quantifier
  else .operand

theorem precedingOf_eq_blank_iff {char : Char} :
    precedingOf char = .blank ↔ Lexeme.isBlank char = true := by
  unfold precedingOf
  split_ifs <;> simp_all

theorem precedingOf_of_isAlphanum
    {char : Char}
    (alphanumeric : char.isAlphanum = true) :
    precedingOf char = .operand := by
  have notBlank := Lexeme.isBlank_of_isNameChar (Lexeme.isNameChar_of_isAlphanum alphanumeric)
  have noSign : ∀ sign ∈ leadingSigns ++ quantifierSigns, sign.isAlphanum = false := by
    simp [leadingSigns, quantifierSigns]
  have notMember : char ∉ leadingSigns ++ quantifierSigns := by
    intro isSign
    rw [noSign char isSign] at alphanumeric
    cases alphanumeric
  rw [List.mem_append, not_or] at notMember
  simp [precedingOf, notBlank, notMember]

/-- What a symbol is to a quantifier shows in the last character of its text. -/
theorem Symbol.Written.exists_last
    {dialect : Dialect}
    {symbol : Symbol}
    {text : List Char}
    (written : symbol.Written dialect text) :
    ∃ start last, text = start ++ [last] ∧ precedingOf last = symbol.preceding := by
  cases written with
  | @blank char isBlank =>
      exact ⟨[], char, rfl, by simp [precedingOf, isBlank, Symbol.preceding]⟩
  | @sign char symbol isSign =>
      refine ⟨[], char, rfl, ?_⟩
      simp only [signs, List.mem_cons, Prod.mk.injEq, List.not_mem_nil, or_false] at isSign
      rcases isSign with ⟨rfl, rfl⟩ | ⟨rfl, rfl⟩ | ⟨rfl, rfl⟩ | ⟨rfl, rfl⟩ |
        ⟨rfl, rfl⟩ | ⟨rfl, rfl⟩ | ⟨rfl, rfl⟩ | ⟨rfl, rfl⟩ | ⟨rfl, rfl⟩ <;> rfl
  | word isWord =>
      obtain nothing | ⟨start, last, rfl⟩ := List.eq_nil_or_concat' text
      · exact (isWord.1 nothing).elim
      · have alphanumeric := Lexeme.isAlphanum_of_isWord isWord last (by simp)
        exact ⟨start, last, rfl, precedingOf_of_isAlphanum alphanumeric⟩
  | literal written =>
      obtain ⟨body, source, _, _, _, rfl⟩ := written
      exact ⟨'/' :: body, '/', rfl, rfl⟩
  | attributeIs =>
      exact ⟨_, '\x7d', List.cons_append.symm, rfl⟩

theorem Symbol.preceding_eq_blank_iff {symbol : Symbol} :
    symbol.preceding = .blank ↔ symbol = .blank := by
  cases symbol <;> simp [Symbol.preceding]

/-- Only the symbol of a blank is written with nothing but blanks. -/
theorem Symbol.Written.isBlanks_iff
    {dialect : Dialect}
    {symbol : Symbol}
    {text : List Char}
    (written : symbol.Written dialect text) :
    IsBlanks text ↔ symbol = .blank := by
  constructor
  · intro areBlank
    obtain ⟨start, last, rfl, precedingEq⟩ := written.exists_last
    have isBlank := areBlank last (by simp)
    rw [← precedingOf_eq_blank_iff, precedingEq] at isBlank
    exact preceding_eq_blank_iff.1 isBlank
  · rintro rfl
    cases written with
    | blank isBlank =>
        intro char member
        rwa [List.mem_singleton.1 member]
    | sign isSign =>
        simp [signs] at isSign

/-- Lexemes with nothing but blanks in their text are blanks. -/
theorem Lexeme.isBlanks_text_iff
    {dialect : Dialect}
    {lexemes : List Lexeme}
    (written : ∀ lexeme ∈ lexemes, lexeme.symbol.Written dialect lexeme.text) :
    IsBlanks (lexemes.flatMap Lexeme.text) ↔ ∀ lexeme ∈ lexemes, lexeme.symbol = .blank := by
  constructor
  · intro areBlank lexeme member
    rw [← (written lexeme member).isBlanks_iff]
    intro char isChar
    exact areBlank char (List.mem_flatMap.2 ⟨lexeme, member, isChar⟩)
  · intro areBlank char isChar
    obtain ⟨lexeme, member, inText⟩ := List.mem_flatMap.1 isChar
    exact (written lexeme member).isBlanks_iff.2 (areBlank lexeme member) char inText

section LastToken

variable {front back : List Lexeme}
variable {lexeme : Lexeme}

@[simp] theorem lastToken?_append (front back : List Lexeme) :
    lastToken? (front ++ back) = (lastToken? back).or (lastToken? front) := by
  simp [lastToken?, List.getLast?_append]

theorem lastToken?_cons (lexeme : Lexeme) (rest : List Lexeme) :
    lastToken? (lexeme :: rest) = (lastToken? rest).or (lastToken? [lexeme]) :=
  lastToken?_append [lexeme] rest

theorem lastToken?_of_blank (isBlank : lexeme.symbol = .blank) :
    lastToken? [lexeme] = none := by
  simp [lastToken?, Lexeme.isToken, isBlank]

theorem lastToken?_of_token (notBlank : lexeme.symbol ≠ .blank) :
    lastToken? [lexeme] = some lexeme := by
  simp [lastToken?, Lexeme.isToken, notBlank]

theorem lastToken?_eq_none_iff :
    lastToken? front = none ↔ ∀ lexeme ∈ front, lexeme.symbol = .blank := by
  simp [lastToken?, Lexeme.isToken]

/-- Where each delimiter has its partner, the last token is no opening one. -/
theorem Balanced.ne_opener
    (balanced : Balanced front)
    (isLast : lastToken? front = some lexeme)
    (shape : Delimiter) :
    lexeme.symbol ≠ .opener shape := by
  induction balanced with
  | nothing =>
      cases isLast
  | @other first rest notOpener _ _ inductionHypothesis =>
      rw [lastToken?_cons] at isLast
      cases restLast : lastToken? rest with
      | some token =>
          rw [restLast] at isLast
          exact inductionHypothesis (restLast.trans isLast)
      | none =>
          rw [restLast, Option.none_or] at isLast
          by_cases isBlank : first.symbol = .blank
          · rw [lastToken?_of_blank isBlank] at isLast
            cases isLast
          · rw [lastToken?_of_token isBlank] at isLast
            cases isLast
            exact notOpener shape
  | @group groupShape opener closer inside rest _ closes _ _ _ inductionHypothesis =>
      have isToken : closer.symbol ≠ .blank := by simp [closes]
      rw [← List.cons_append, lastToken?_append, lastToken?_cons closer,
        lastToken?_of_token isToken] at isLast
      cases restLast : lastToken? rest with
      | some token =>
          rw [restLast] at isLast
          exact inductionHypothesis (restLast.trans isLast)
      | none =>
          rw [restLast] at isLast
          cases isLast
          simp [closes]

end LastToken

/-- What is known of the sequence at hand behind the last token. -/
inductive KnownBehind : Option Symbol → Sequence → Prop where
  | outset :
      KnownBehind none .empty
  | opener (shape : Delimiter) :
      KnownBehind (some (.opener shape)) .empty
  | connective
      {operators : List Connective}
      (operator : Connective)
      (waits : operators ≠ []) :
      KnownBehind (some (.connective operator)) ⟨0, false, operators⟩
  | term
      {symbol : Symbol}
      {sequence : Sequence}
      (endsTerm : symbol.preceding = .operand ∨ symbol.preceding = .quantifier)
      (pending : sequence.pendingTerm = true) :
      KnownBehind (some symbol) sequence

namespace KnownBehind

variable {symbol? : Option Symbol}
variable {sequence : Sequence}

/-- A term is pending behind an operand and behind its quantifier. -/
theorem pending_iff (known : KnownBehind symbol? sequence) :
    sequence.pendingTerm = true ↔ ∃ symbol ∈ symbol?, symbol.preceding ≠ .nothing := by
  cases known with
  | outset | opener | connective =>
      simp [Sequence.empty, Symbol.preceding]
  | term endsTerm pending =>
      rcases endsTerm with isOperand | isQuantifier
      · simp [pending, isOperand]
      · simp [pending, isQuantifier]

/-- Nothing has been read of a sequence if the last token opens it. -/
theorem isEmpty_iff (known : KnownBehind symbol? sequence) :
    sequence.finished.terms = 0 ∧ sequence.operators = [] ↔
      ∀ symbol ∈ symbol?, ∃ shape, symbol = .opener shape := by
  cases known with
  | outset | opener =>
      simp [Sequence.empty, Sequence.finished]
  | connective _ waits =>
      simp [waits]
  | term endsTerm pending =>
      simp only [Sequence.finished, pending, Option.mem_def]
      constructor
      · rintro ⟨⟨⟩, _⟩
      · intro isOpener
        obtain ⟨shape, rfl⟩ := isOpener _ rfl
        simp [Symbol.preceding] at endsTerm

/-- A sequence waits for an operand if the last token is an operator. -/
theorem awaits_iff (known : KnownBehind symbol? sequence) :
    sequence.finished.terms = 0 ∧ sequence.operators ≠ [] ↔
      ∃ operator, symbol? = some (.connective operator) := by
  cases known with
  | outset | opener =>
      simp [Sequence.empty]
  | connective _ waits =>
      simp [Sequence.finished, waits]
  | term endsTerm pending =>
      simp only [Sequence.finished, pending]
      constructor
      · rintro ⟨⟨⟩, _⟩
      · rintro ⟨operator, ⟨⟩⟩
        simp [Symbol.preceding] at endsTerm

end KnownBehind

/-- The parser remembers what the last lexeme and the last token before it are. -/
structure Standing
    (parser : Parser)
    (sequence : Sequence)
    (front : List Lexeme) : Prop where
  preceding_eq :
    parser.preceding =
      (front.getLast?.map fun lexeme => lexeme.symbol.preceding).getD .nothing
  known : KnownBehind ((lastToken? front).map Lexeme.symbol) sequence

namespace Standing

variable {parser next last : Parser}
variable {sequence nextSequence lastSequence : Sequence}
variable {front : List Lexeme}
variable {lexeme : Lexeme}

theorem start (dialect : Dialect) (pattern : String) :
    Standing (.ofPattern dialect pattern) .empty [] :=
  ⟨rfl, .outset⟩

/-- Behind an operand its term is pending. -/
theorem pending_of_operand
    (standing : Standing parser sequence front)
    (direct : parser.preceding = .operand) :
    sequence.pendingTerm = true := by
  obtain ⟨precedingEq, known⟩ := standing
  obtain rfl | ⟨others, lexeme, rfl⟩ := List.eq_nil_or_concat' front
  · rw [direct] at precedingEq
    cases precedingEq
  · have isOperand : lexeme.symbol.preceding = .operand := by
      simpa [direct] using precedingEq.symm
    have notBlank : lexeme.symbol ≠ .blank := by
      intro isBlank
      rw [isBlank] at isOperand
      cases isOperand
    rw [lastToken?_append, lastToken?_of_token notBlank] at known
    dsimp only [Option.some_or, Option.map_some] at known
    generalize lexeme.symbol = symbol at isOperand known
    cases known with
    | opener | connective =>
        cases isOperand
    | term _ pending =>
        exact pending

/-- A token that is read last is what the parser remembers. -/
theorem of_token
    (notBlank : lexeme.symbol ≠ .blank)
    (precedingEq : next.preceding = lexeme.symbol.preceding)
    (known : KnownBehind (some lexeme.symbol) nextSequence) :
    Standing next nextSequence (front ++ [lexeme]) := by
  refine ⟨by simp [precedingEq], ?_⟩
  rw [lastToken?_append, lastToken?_of_token notBlank]
  exact known

/-- Reading a lexeme keeps what the parser remembers. -/
theorem advance
    (standing : Standing parser sequence front)
    (advances : parser.Advances sequence lexeme next nextSequence) :
    Standing next nextSequence (front ++ [lexeme]) := by
  have sameStanding := standing
  obtain ⟨_, known⟩ := standing
  cases advances with
  | blank symbol =>
      refine ⟨by simp [symbol, Symbol.preceding, Parser.behind], ?_⟩
      simpa [lastToken?_of_blank symbol] using known
  | atom symbol | closer symbol =>
      apply of_token <;> rw [symbol]
      · simp
      · rfl
      · exact .term (.inl rfl) rfl
  | opener symbol =>
      apply of_token <;> rw [symbol]
      · simp
      · rfl
      · exact .opener _
  | connective symbol =>
      apply of_token <;> rw [symbol]
      · simp
      · rfl
      · exact .connective _ (List.cons_ne_nil _ _)
  | quantifier symbol direct =>
      apply of_token <;> rw [symbol]
      · simp
      · rfl
      · exact .term (.inr rfl) (sameStanding.pending_of_operand direct)

theorem reads
    {lexemes : List Lexeme}
    (standing : Standing parser sequence front)
    (reads : parser.Reads sequence lexemes last lastSequence) :
    Standing last lastSequence (front ++ lexemes) := by
  induction reads generalizing front with
  | nothing =>
      simpa using standing
  | lexeme advances _ inductionHypothesis =>
      simpa using inductionHypothesis (standing.advance advances)

end Standing

theorem Parser.standing_of_reads
    {dialect : Dialect}
    {pattern : String}
    {front : List Lexeme}
    {last : Parser}
    {lastSequence : Sequence}
    (reads : (ofPattern dialect pattern).Reads .empty front last lastSequence) :
    Standing last lastSequence front := by
  simpa using (Standing.start dialect pattern).reads reads

/-- The last token is an operator between operands. -/
def EndsWithConnective (lexemes : List Lexeme) : Prop :=
  ∃ operator, (lastToken? lexemes).map Lexeme.symbol = some (.connective operator)

end TokenPattern
