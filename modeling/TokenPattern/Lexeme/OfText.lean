import TokenPattern.Lexeme.Cut

namespace TokenPattern.Lexeme

/-!
# Cutting a text into lexemes

Lexemes are cut from the left until the text is used up. Each is cut from at
least one character and no text is lost: the texts of the lexemes, one after
the other, are the text that was cut (`text_lexemes`).
-/

/-- What reading a literal's body consumes and leaves is the text that it started with. -/
theorem text_append_rest_cutBody?
    (text : List Char)
    (body : LiteralBody)
    (read : cutBody? text = some body) :
    body.text ++ body.rest = text := by
  fun_induction cutBody? text generalizing body with
  | case1 =>
      simp at read
  | case2 rest =>
      cases read
      simp
  | case3 =>
      simp at read
  | case4 char rest inductionHypothesis =>
      obtain ⟨inner, innerRead, rfl⟩ := Option.map_eq_some_iff.1 read
      simp [inductionHypothesis inner innerRead]
  | case5 char rest notSlash notLast notEscape inductionHypothesis =>
      obtain ⟨inner, innerRead, rfl⟩ := Option.map_eq_some_iff.1 read
      simp [inductionHypothesis inner innerRead]

/-- Reading a literal loses no text. -/
theorem text_append_rest_cutLiteral
    (dialect : Dialect)
    (afterSlash : List Char) :
    (cutLiteral dialect afterSlash).text ++ (cutLiteral dialect afterSlash).rest =
      '/' :: afterSlash := by
  unfold cutLiteral
  split
  · simp
  · rename_i body read
    have kept := text_append_rest_cutBody? afterSlash body read
    by_cases accepted : dialect.accepts (String.ofList body.source) <;> simp [accepted, kept]

/-- Cutting a run loses no text. -/
theorem cutRun_append
    (keep : Char → Bool)
    (text : List Char) :
    (cutRun keep text).1 ++ (cutRun keep text).2 = text :=
  List.takeWhile_append_dropWhile

/-- Cutting a word loses no text. -/
theorem cutWord_append (text : List Char) :
    (cutWord text).1 ++ (cutWord text).2 = text := by
  unfold cutWord
  split
  · rfl
  · split <;> exact cutRun_append _ _

/-- Reading the end of a test of an attribute loses no text. -/
theorem text_append_cutClosing
    (name : List Char)
    (value : Value)
    (read afterValue : List Char) :
    (cutClosing name value read afterValue).1.text ++ (cutClosing name value read afterValue).2 =
      read ++ afterValue := by
  conv => rhs; rw [← cutRun_append isBlank afterValue]
  unfold cutClosing malformed
  split
  rename_i blanks rest cutBlanks
  rw [cutBlanks]
  split <;> simp

/-- Reading the value of a test of an attribute loses no text. -/
theorem text_append_cutValue
    (dialect : Dialect)
    (name read atValue : List Char) :
    (cutValue dialect name read atValue).1.text ++ (cutValue dialect name read atValue).2 =
      read ++ atValue := by
  unfold cutValue
  split
  · simp [malformed]
  · rename_i first afterFirst
    split
    · rename_i isSlash
      have kept := text_append_rest_cutLiteral dialect afterFirst
      dsimp only
      split
      · simp [text_append_cutClosing, kept, isSlash]
      · simp [kept, isSlash]
    · split
      · have kept := cutWord_append (first :: afterFirst)
        simp [text_append_cutClosing, kept]
      · simp [malformed]

/-- Reading a test of an attribute loses no text. -/
theorem text_append_cutAttribute
    (dialect : Dialect)
    (afterBrace : List Char) :
    (cutAttribute dialect afterBrace).1.text ++ (cutAttribute dialect afterBrace).2 =
      '\x7b' :: afterBrace := by
  have keptBlanks := cutRun_append isBlank afterBrace
  have keptName := cutRun_append isNameChar (cutRun isBlank afterBrace).2
  have keptBefore :=
    cutRun_append isBlank (cutRun isNameChar (cutRun isBlank afterBrace).2).2
  unfold cutAttribute
  dsimp only
  split
  · simp [malformed, keptBlanks]
  · split
    · rename_i afterColon colonNext
      have keptAfter := cutRun_append isBlank afterColon
      rw [colonNext] at keptBefore
      simp [text_append_cutValue, keptAfter, keptBefore, keptName, keptBlanks]
    · simp [malformed, keptBefore, keptName, keptBlanks]

/-- Cutting a lexeme loses no text. -/
theorem text_append_cut
    (dialect : Dialect)
    (first : Char)
    (rest : List Char) :
    (cut dialect first rest).1.text ++ (cut dialect first rest).2 = first :: rest := by
  unfold cut
  dsimp only
  split
  case h_10 =>
    split <;> exact text_append_rest_cutLiteral dialect rest
  case h_11 =>
    exact text_append_cutAttribute dialect rest
  case h_12 =>
    split
    · rfl
    · split
      · exact cutWord_append (first :: rest)
      · rfl
  all_goals rfl

/-- A run that starts with a kept character is not empty. -/
theorem cutRun_ne_nil
    (keep : Char → Bool)
    (first : Char)
    (rest : List Char)
    (kept : keep first = true) :
    (cutRun keep (first :: rest)).1 ≠ [] := by
  simp [cutRun, kept]

/-- A word that starts with a letter or a digit is not empty. -/
theorem cutWord_ne_nil
    (first : Char)
    (rest : List Char)
    (alphanumeric : first.isAlphanum = true) :
    (cutWord (first :: rest)).1 ≠ [] := by
  unfold cutWord
  dsimp only
  split
  · rename_i isDigit
    exact cutRun_ne_nil _ _ _ isDigit
  · rename_i notDigit
    refine cutRun_ne_nil _ _ _ ?_
    simpa [Char.isAlphanum, notDigit] using alphanumeric

/-- A literal is read from at least its opening slash. -/
theorem text_cutLiteral_ne_nil
    (dialect : Dialect)
    (afterSlash : List Char) :
    (cutLiteral dialect afterSlash).text ≠ [] := by
  unfold cutLiteral
  split
  · simp
  · dsimp only
    split <;> simp

/-- The end of a test of an attribute comes after what was read before. -/
theorem text_cutClosing_ne_nil
    (name : List Char)
    (value : Value)
    (read afterValue : List Char)
    (nonempty : read ≠ []) :
    (cutClosing name value read afterValue).1.text ≠ [] := by
  unfold cutClosing malformed
  dsimp only
  split <;> simp [nonempty]

/-- The value of a test of an attribute comes after what was read before. -/
theorem text_cutValue_ne_nil
    (dialect : Dialect)
    (name read atValue : List Char)
    (nonempty : read ≠ []) :
    (cutValue dialect name read atValue).1.text ≠ [] := by
  unfold cutValue
  split
  · exact nonempty
  · split
    · dsimp only
      split
      · exact text_cutClosing_ne_nil _ _ _ _ (by simp [nonempty])
      · simp [nonempty]
    · split
      · exact text_cutClosing_ne_nil _ _ _ _ (by simp [nonempty])
      · exact nonempty

/-- A test of an attribute is read from at least its opening brace. -/
theorem text_cutAttribute_ne_nil
    (dialect : Dialect)
    (afterBrace : List Char) :
    (cutAttribute dialect afterBrace).1.text ≠ [] := by
  unfold cutAttribute
  dsimp only
  split
  · simp [malformed]
  · split
    · exact text_cutValue_ne_nil _ _ _ _ (by simp)
    · simp [malformed]

/-- Every lexeme is cut from at least one character. -/
theorem text_cut_ne_nil
    (dialect : Dialect)
    (first : Char)
    (rest : List Char) :
    (cut dialect first rest).1.text ≠ [] := by
  unfold cut
  dsimp only
  split
  case h_10 =>
    split <;> exact text_cutLiteral_ne_nil dialect rest
  case h_11 =>
    exact text_cutAttribute_ne_nil dialect rest
  case h_12 =>
    split
    · simp
    · split
      · rename_i alphanumeric
        exact cutWord_ne_nil first rest alphanumeric
      · simp
  all_goals simp

/-- Cutting a lexeme leaves less text. -/
theorem length_rest_cut_le
    (dialect : Dialect)
    (first : Char)
    (rest : List Char) :
    (cut dialect first rest).2.length ≤ rest.length := by
  have lengths := congrArg List.length (text_append_cut dialect first rest)
  have nonempty := List.length_pos_iff.2 (text_cut_ne_nil dialect first rest)
  simp only [List.length_append, List.length_cons] at lengths
  omega

/-- Cut a text into lexemes. -/
def ofText (dialect : Dialect) : List Char → List Lexeme
  | [] => []
  | first :: rest =>
      let reading := cut dialect first rest
      reading.1 :: ofText dialect reading.2
termination_by text => text.length
decreasing_by
  exact Nat.lt_succ_of_le (length_rest_cut_le dialect first rest)

/-- The texts of the lexemes are the text that they were cut from. -/
theorem text_lexemes
    (dialect : Dialect)
    (text : List Char) :
    (ofText dialect text).flatMap Lexeme.text = text := by
  fun_induction ofText dialect text with
  | case1 =>
      rfl
  | case2 first rest reading inductionHypothesis =>
      rw [List.flatMap_cons, inductionHypothesis]
      exact text_append_cut dialect first rest

end TokenPattern.Lexeme
