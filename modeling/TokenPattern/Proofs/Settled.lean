import TokenPattern.Proofs.AttributeFault

namespace TokenPattern.Lexeme

/-!
# Lexemes that no text behind them changes

Signs, stray characters and refused literals are cut from their text whatever
follows it.  More text can only go on with a word, complete a test of an
attribute that breaks off and close a literal.
-/

variable {dialect : Dialect}

/-- A source that is no pattern is at fault, in the words that the dialect has for it. -/
def Refuses (dialect : Dialect) (fault : Fault) : Prop :=
  ∃ source, dialect.accepts source = false ∧ fault = .patternInvalid (dialect.refusal source)

/-- A literal is faulty because the text ends in it or because its source is refused. -/
theorem cutLiteral_faulty
    {afterSlash : List Char}
    {fault : Fault}
    (faulty : (cutLiteral dialect afterSlash).pattern = .error fault) :
    fault = .patternUnclosed ∨
      Refuses dialect fault ∧
        ∃ body,
          (cutLiteral dialect afterSlash).text = '/' :: body ∧
            ∀ other,
              cutLiteral dialect (body ++ other) = ⟨.error fault, '/' :: body, other⟩ := by
  unfold cutLiteral at faulty ⊢
  split at faulty
  · cases faulty
    exact .inl rfl
  · rename_i found read
    obtain ⟨body, escaped, sameText⟩ := escaped_of_cutBody? read
    dsimp only at faulty ⊢
    split at faulty
    · cases faulty
    · rename_i refused
      cases faulty
      refine .inr ⟨⟨_, eq_false_of_ne_true refused, rfl⟩, found.text,
        by rw [if_neg refused], fun other => ?_⟩
      rw [sameText, List.append_assoc, List.singleton_append,
        cutBody?_of_escaped escaped]
      simp [refused]

/-- A lexeme that is cut from its text whatever follows it. -/
def Settled (dialect : Dialect) (lexeme : Lexeme) : Prop :=
  ∀ other, ofText dialect (lexeme.text ++ other) = lexeme :: ofText dialect other

theorem settled_of_cut
    {lexeme : Lexeme}
    {first : Char}
    {tail : List Char}
    (starts : lexeme.text = first :: tail)
    (isCut : ∀ other, cut dialect first (tail ++ other) = (lexeme, other)) :
    Settled dialect lexeme := by
  intro other
  rw [starts, List.cons_append, ofText, isCut]

/-- Where a faulty lexeme comes from. -/
theorem broken_cases
    {first : Char}
    {rest lead : List Char}
    {fault : Fault}
    (broken : (cut dialect first rest).1.symbol = .broken fault lead) :
    (first = '/' ∧
      (cutLiteral dialect rest).pattern = .error fault ∧
      cut dialect first rest =
        (⟨.broken fault [], (cutLiteral dialect rest).text⟩,
          (cutLiteral dialect rest).rest)) ∨
      (first = '\x7b' ∧ AttributeFault dialect rest fault (cut dialect first rest)) := by
  unfold cut at broken
  dsimp only at broken
  split at broken
  case h_10 =>
    split at broken
    · cases broken
    · rename_i isFault
      cases broken
      refine .inl ⟨rfl, isFault, ?_⟩
      simp [cut, isFault]
  case h_11 =>
    exact .inr ⟨rfl, attributeFault_of_cutAttribute broken⟩
  case h_12 =>
    split at broken
    · cases broken
    · split at broken <;> cases broken
  all_goals cases broken

theorem cutAttribute_ne_stray (afterBrace : List Char) :
    (cutAttribute dialect afterBrace).1.symbol ≠ .stray := by
  have closing (name : List Char) (value : Value) (read afterValue : List Char) :
      (cutClosing name value read afterValue).1.symbol ≠ .stray := by
    rcases cutClosing_cases name value read afterValue with
      isAtom | ⟨_, _, _, _, _, _, isCut⟩
    · simp [isAtom]
    · simp [isCut, malformed]
  unfold cutAttribute
  dsimp only
  split
  · simp [malformed]
  · split
    · unfold cutValue
      split
      · simp [malformed]
      · dsimp only
        split
        · split
          · exact closing _ _ _ _
          · simp
        · split
          · exact closing _ _ _ _
          · simp [malformed]
    · simp [malformed]

theorem cut_stray
    {first : Char}
    {rest : List Char}
    (stray : (cut dialect first rest).1.symbol = .stray)
    (other : List Char) :
    cut dialect first other = (⟨.stray, [first]⟩, other) := by
  unfold cut at stray
  dsimp only at stray
  split at stray
  case h_10 =>
    split at stray <;> cases stray
  case h_11 =>
    exact (cutAttribute_ne_stray rest stray).elim
  case h_12 =>
    split at stray
    · cases stray
    · rename_i notBlank
      split at stray
      · cases stray
      · rename_i notAlphanum
        simp_all [cut]
  all_goals cases stray

theorem broken_fault
    {first : Char}
    {rest lead : List Char}
    {fault : Fault}
    (broken : (cut dialect first rest).1.symbol = .broken fault lead) :
    fault = .attributeMalformed ∨ fault = .patternUnclosed ∨ Refuses dialect fault := by
  have ofLiteral {afterSlash : List Char}
      (faulty : (cutLiteral dialect afterSlash).pattern = .error fault) :
      fault = .attributeMalformed ∨ fault = .patternUnclosed ∨ Refuses dialect fault :=
    .inr ((cutLiteral_faulty faulty).imp_right And.left)
  rcases broken_cases broken with ⟨_, faulty, _⟩ | ⟨_, faulty⟩
  · exact ofLiteral faulty
  · generalize cut dialect first rest = result at faulty
    cases faulty with
    | breaksOff =>
        exact .inl rfl
    | literal _ isFault =>
        exact ofLiteral isFault

/-- A refused literal is settled, alone and as a value. -/
theorem settled_invalid
    {first : Char}
    {rest lead : List Char}
    {fault : Fault}
    (refuses : Refuses dialect fault)
    (broken : (cut dialect first rest).1.symbol = .broken fault lead) :
    Settled dialect (cut dialect first rest).1 := by
  obtain ⟨source, _, isInvalid⟩ := refuses
  subst isInvalid
  rcases broken_cases broken with ⟨rfl, faulty, isCut⟩ | ⟨rfl, faulty⟩
  · obtain absurdFault | ⟨_, body, sameText, again⟩ := cutLiteral_faulty faulty
    · cases absurdFault
    rw [isCut, sameText]
    refine settled_of_cut rfl fun other => ?_
    simp [cut, again]
  · generalize cut dialect '\x7b' rest = result at faulty
    cases faulty with
    | @literal name start afterSlash _ before isFault =>
        obtain absurdFault | ⟨_, body, sameText, again⟩ := cutLiteral_faulty isFault
        · cases absurdFault
        rw [sameText]
        refine settled_of_cut List.cons_append fun other => ?_
        have noBlank : Stops isBlank ('/' :: (body ++ other)) :=
          stops_cons (by decide) _
        rw [cut_brace, List.append_assoc, List.cons_append,
          cutAttribute_beforeValue before noBlank]
        simp [cutValue, again]

/-- A lexeme is settled if it is neither an atom nor a fault that more text could mend. -/
theorem settled_cut
    {first : Char}
    {rest : List Char}
    (noAtom : ∀ test, (cut dialect first rest).1.symbol ≠ .atom test)
    (noOpenFault :
      ∀ fault lead,
        (cut dialect first rest).1.symbol = .broken fault lead →
          Refuses dialect fault) :
    Settled dialect (cut dialect first rest).1 := by
  obtain ⟨tail, starts⟩ := text_cut_eq_cons dialect first rest
  -- Only a word goes on with the text behind it, and a word is an atom.
  have ofSound (sound : (cut dialect first rest).1.symbol.IsSound) :
      Settled dialect (cut dialect first rest).1 := by
    intro other
    have notAlphanum : first.isAlphanum = false := by
      by_contra alphanumeric
      have isCut := cut_of_isAlphanum (by simpa using alphanumeric) dialect rest
      exact noAtom _ (congrArg (·.1.symbol) isCut)
    have ends := endsBefore_of_head notAlphanum tail other
    rw [← starts] at ends
    exact ofText_of_endsBefore (written_of_cut sound) ends
  cases shape : (cut dialect first rest).1.symbol with
  | stray =>
      have again := cut_stray shape
      rw [again rest]
      exact settled_of_cut rfl again
  | broken fault lead =>
      exact settled_invalid (noOpenFault fault lead shape) shape
  | atom test =>
      exact (noAtom test shape).elim
  | blank | opener | closer | connective | quantifier =>
      exact ofSound (by simp [shape, Symbol.IsSound])

end TokenPattern.Lexeme
