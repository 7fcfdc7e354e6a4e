import TokenPattern.Proofs.Cutting

namespace TokenPattern.Lexeme

/-!
# What follows a lexeme

A lexeme without a fault is cut without regard to the text behind it, but for
the first character there: a word ends where a character does not belong to it.
So such lexemes are cut again when another text takes the place of what follows
them.
-/

variable {dialect : Dialect}

/-- The word with which texts are completed. -/
theorem isWord_letter : IsWord ['a'] := by
  refine ⟨List.cons_ne_nil _ _, .inr ?_⟩
  intro char isLetter
  rw [List.mem_singleton.1 isLetter]
  rfl

theorem isBlanks_nil : IsBlanks [] := by
  intro char isMember
  cases isMember

/-- No word goes on with the first character of the text behind it. -/
def EndsBefore (text rest : List Char) : Prop :=
  ∀ char ∈ rest.head?, ¬ IsWord (text ++ [char])

theorem endsBefore_of_head
    {first : Char}
    (notAlphanum : first.isAlphanum = false)
    (tail rest : List Char) :
    EndsBefore (first :: tail) rest := by
  intro char _ isWord
  have alphanumeric := isAlphanum_of_isWord isWord first List.mem_cons_self
  rw [notAlphanum] at alphanumeric
  cases alphanumeric

theorem endsBefore_of_stops
    {rest : List Char}
    (stops : Stops Char.isAlphanum rest)
    (text : List Char) :
    EndsBefore text rest := by
  intro char isFirst isWord
  have alphanumeric := isAlphanum_of_isWord isWord char (by simp)
  rw [stops char isFirst] at alphanumeric
  cases alphanumeric

theorem endsBefore_append_blanks
    {text blanks rest : List Char}
    (areBlank : IsBlanks blanks)
    (ends : blanks = [] → EndsBefore text rest) :
    EndsBefore text (blanks ++ rest) := by
  cases blanks with
  | nil =>
      exact ends rfl
  | cons first tail =>
      have blank := areBlank first List.mem_cons_self
      exact endsBefore_of_stops (stops_cons (isAlphanum_of_isBlank blank) _) text

theorem isWord_of_append
    {front back : List Char}
    (isWord : IsWord (front ++ back))
    (nonempty : front ≠ []) :
    IsWord front :=
  ⟨nonempty, isWord.2.imp
    (fun digits char member => digits char (List.mem_append_left _ member))
    (fun letters char member => letters char (List.mem_append_left _ member))⟩

theorem cutWord_of_endsBefore
    {word rest : List Char}
    (isWord : IsWord word)
    (ends : EndsBefore word rest) :
    cutWord (word ++ rest) = (word, rest) := by
  obtain ⟨keep, _, isCut⟩ := cutWord_of_isWord isWord rest
  cases rest with
  | nil =>
      simpa using isCut
  | cons char others =>
      have notKept : keep char = false := by
        by_contra kept
        -- The word that is cut would go on with this character.
        obtain ⟨first, tail, rfl⟩ := List.exists_cons_of_ne_nil isWord.1
        have longer := isWord_cutWord
          (isAlphanum_of_isWord isWord first List.mem_cons_self)
          (tail ++ char :: others)
        rw [← List.cons_append, isCut, List.takeWhile_cons,
          if_pos (Bool.not_eq_false _ ▸ kept), List.append_cons] at longer
        exact ends char rfl (isWord_of_append longer (by simp))
      simpa [notKept] using isCut

theorem endsBefore_cutWord (text : List Char) :
    EndsBefore (cutWord text).1 (cutWord text).2 := by
  intro char isFirst longer
  obtain ⟨others, remaining⟩ := List.head?_eq_some_iff.1 isFirst
  obtain ⟨keep, _, isCut⟩ := cutWord_of_isWord longer others
  have kept := cutWord_append text
  rw [remaining, List.append_cons] at kept
  rw [kept] at isCut
  have lengths := congrArg List.length (congrArg Prod.fst isCut)
  simp only [List.length_append, List.length_singleton] at lengths
  omega

theorem cut_brace (dialect : Dialect) (rest : List Char) :
    cut dialect '\x7b' rest = cutAttribute dialect rest :=
  rfl

/-- A spelling is cut from each text in which a word does not go on behind it. -/
theorem cut_of_endsBefore
    {symbol : Symbol}
    {text rest : List Char}
    (written : symbol.Written dialect text)
    (ends : EndsBefore text rest) :
    ∃ first tail,
      text ++ rest = first :: tail ∧
        cut dialect first tail = (⟨symbol, text⟩, rest) := by
  cases written with
  | blank isBlank =>
      exact ⟨_, _, rfl, cut_of_isBlank isBlank dialect rest⟩
  | sign isSign =>
      exact ⟨_, _, rfl, (cut_of_sign isSign dialect rest).1⟩
  | word isWord =>
      obtain ⟨first, tail, rfl⟩ := List.exists_cons_of_ne_nil isWord.1
      have alphanumeric := isAlphanum_of_isWord isWord first List.mem_cons_self
      refine ⟨first, tail ++ rest, rfl, ?_⟩
      rw [cut_of_isAlphanum alphanumeric, ← List.cons_append,
        cutWord_of_endsBefore isWord ends]
  | literal written =>
      obtain ⟨afterSlash, sameText, read⟩ := cutLiteral_of_written written rest
      exact ⟨_, _, sameText, cut_of_literal read⟩
  | attributeIs nonempty nameChars written blankBeforeName blankAfterName
      blankBeforeValue blankAfterValue =>
      refine ⟨'\x7b', _, List.cons_append, ?_⟩
      rw [cut_brace]
      simpa using cutAttribute_of_written nonempty nameChars written
        blankBeforeName blankAfterName blankBeforeValue blankAfterValue rest

/-- A spelling is the first lexeme of each text in which a word does not go on behind it. -/
theorem ofText_of_endsBefore
    {symbol : Symbol}
    {text rest : List Char}
    (written : symbol.Written dialect text)
    (ends : EndsBefore text rest) :
    ofText dialect (text ++ rest) = ⟨symbol, text⟩ :: ofText dialect rest := by
  obtain ⟨first, tail, starts, isCut⟩ := cut_of_endsBefore written ends
  rw [starts, ofText, isCut]

theorem text_cut_eq_cons
    (dialect : Dialect)
    (first : Char)
    (rest : List Char) :
    ∃ tail, (cut dialect first rest).1.text = first :: tail := by
  have kept := text_append_cut dialect first rest
  obtain ⟨head, tail, shape⟩ :=
    List.exists_cons_of_ne_nil (text_cut_ne_nil dialect first rest)
  rw [shape, List.cons_append] at kept
  exact ⟨tail, by rw [shape, (List.cons.inj kept).1]⟩

theorem endsBefore_cut
    (dialect : Dialect)
    (first : Char)
    (rest : List Char) :
    EndsBefore (cut dialect first rest).1.text (cut dialect first rest).2 := by
  by_cases alphanumeric : first.isAlphanum = true
  · rw [cut_of_isAlphanum alphanumeric]
    exact endsBefore_cutWord (first :: rest)
  · obtain ⟨tail, starts⟩ := text_cut_eq_cons dialect first rest
    rw [starts]
    exact endsBefore_of_head (by simpa using alphanumeric) _ _

/-- Each lexeme of a text is cut from what is left behind the lexemes before it. -/
theorem exists_cut_of_ofText
    {text : List Char}
    {front back : List Lexeme}
    {lexeme : Lexeme}
    (isCut : ofText dialect text = front ++ lexeme :: back) :
    ∃ first rest,
      (cut dialect first rest).1 = lexeme ∧
        text = front.flatMap Lexeme.text ++ first :: rest ∧
        (cut dialect first rest).2 = back.flatMap Lexeme.text := by
  induction front generalizing text with
  | nil =>
      cases text with
      | nil =>
          simp [ofText] at isCut
      | cons first rest =>
          rw [ofText, List.nil_append, List.cons.injEq] at isCut
          obtain ⟨rfl, rfl⟩ := isCut
          exact ⟨first, rest, rfl, rfl, (text_lexemes dialect _).symm⟩
  | cons head others inductionHypothesis =>
      cases text with
      | nil =>
          simp [ofText] at isCut
      | cons first rest =>
          rw [ofText, List.cons_append, List.cons.injEq] at isCut
          obtain ⟨rfl, othersCut⟩ := isCut
          obtain ⟨next, left, isLexeme, remaining, behind⟩ := inductionHypothesis othersCut
          refine ⟨next, left, isLexeme, ?_, behind⟩
          rw [List.flatMap_cons, List.append_assoc, ← remaining]
          exact (text_append_cut dialect first rest).symm

/-- Sound lexemes are spelled as their symbols demand. -/
theorem written_of_mem
    {text : List Char}
    {lexeme : Lexeme}
    (member : lexeme ∈ ofText dialect text)
    (sound : lexeme.symbol.IsSound) :
    lexeme.symbol.Written dialect lexeme.text := by
  obtain ⟨front, back, isCut⟩ := List.append_of_mem member
  obtain ⟨first, rest, rfl, _⟩ := exists_cut_of_ofText isCut
  exact written_of_cut sound

/-- Lexemes without a fault are cut again if what follows the last one does not extend it. -/
theorem ofText_append
    {text rest : List Char}
    {front back : List Lexeme}
    (isCut : ofText dialect text = front ++ back)
    (sound : ∀ lexeme ∈ front, lexeme.symbol.IsSound)
    (follows :
      ∀ char ∈ rest.head?,
        char.isAlphanum = true → char ∈ (back.flatMap Lexeme.text).head?) :
    ofText dialect (front.flatMap Lexeme.text ++ rest) =
      front ++ ofText dialect rest := by
  induction front generalizing text with
  | nil =>
      rfl
  | cons lexeme others inductionHypothesis =>
      obtain ⟨isSound, othersSound⟩ := List.forall_mem_cons.1 sound
      cases text with
      | nil =>
          simp [ofText] at isCut
      | cons first tail =>
          rw [ofText, List.cons_append, List.cons.injEq] at isCut
          obtain ⟨rfl, othersCut⟩ := isCut
          have remaining := text_lexemes dialect (cut dialect first tail).2
          rw [othersCut, List.flatMap_append] at remaining
          have ends := endsBefore_cut dialect first tail
          have endsAgain :
              EndsBefore (cut dialect first tail).1.text
                (others.flatMap Lexeme.text ++ rest) := by
            -- The next character is the one that stood there, or goes on with no word.
            intro char isFirst longer
            refine ends char ?_ longer
            rw [← remaining]
            cases same : others.flatMap Lexeme.text with
            | nil =>
                rw [same] at isFirst
                exact follows char isFirst (isAlphanum_of_isWord longer char (by simp))
            | cons head more =>
                rw [same] at isFirst
                exact isFirst
          rw [List.flatMap_cons, List.append_assoc,
            ofText_of_endsBefore (written_of_cut isSound) endsAgain,
            inductionHypothesis othersCut othersSound, List.cons_append]

/-- Lexemes without a fault are cut again before anything but letters and digits. -/
theorem ofText_append_of_stops
    {text rest : List Char}
    {front back : List Lexeme}
    (isCut : ofText dialect text = front ++ back)
    (sound : ∀ lexeme ∈ front, lexeme.symbol.IsSound)
    (stops : Stops Char.isAlphanum rest) :
    ofText dialect (front.flatMap Lexeme.text ++ rest) =
      front ++ ofText dialect rest := by
  refine ofText_append isCut sound fun char isFirst alphanumeric => ?_
  rw [stops char isFirst] at alphanumeric
  cases alphanumeric

end TokenPattern.Lexeme
