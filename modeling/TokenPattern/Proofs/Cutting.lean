import Mathlib.Data.List.TakeWhile
import TokenPattern.Proofs.Spelling

namespace TokenPattern

/-!
# Lexemes are the longest spellings

Where a text starts with the spelling of a symbol, the lexeme cut from it is
that spelling or, for words, a longer one.  Conversely a lexeme without a fault
is spelled as its symbol demands.
-/

/-- The symbol is not a fault. -/
def Symbol.IsSound : Symbol → Prop
  | .stray => False
  | .broken _ _ => False
  | _ => True

namespace Lexeme

/-- A blank is no character of a name. -/
theorem isNameChar_of_isBlank
    {char : Char}
    (blank : isBlank char = true) :
    isNameChar char = false := by
  simp only [isBlank, Bool.or_eq_true, decide_eq_true_eq] at blank
  rcases blank with (((rfl | rfl) | rfl) | rfl) | rfl <;> decide

/-- Letters and digits are characters of names. -/
theorem isNameChar_of_isAlphanum
    {char : Char}
    (alphanumeric : char.isAlphanum = true) :
    isNameChar char = true := by
  simp [isNameChar, alphanumeric]

/-- A character of a name is no blank. -/
theorem isBlank_of_isNameChar
    {char : Char}
    (nameChar : isNameChar char = true) :
    isBlank char = false := by
  cases blank : isBlank char with
  | false =>
      rfl
  | true =>
      rw [isNameChar_of_isBlank blank] at nameChar
      cases nameChar

/-- A blank is no letter or digit. -/
theorem isAlphanum_of_isBlank
    {char : Char}
    (blank : isBlank char = true) :
    char.isAlphanum = false := by
  cases alphanumeric : char.isAlphanum with
  | false =>
      rfl
  | true =>
      rw [isBlank_of_isNameChar (isNameChar_of_isAlphanum alphanumeric)] at blank
      cases blank

/-- A letter is no digit. -/
theorem isDigit_of_isAlpha
    {char : Char}
    (letter : char.isAlpha = true) :
    char.isDigit = false := by
  have firstUpper : 'A'.val.toNat = 65 := rfl
  have firstLower : 'a'.val.toNat = 97 := rfl
  have lastDigit : '9'.val.toNat = 57 := rfl
  delta Char.isAlpha Char.isUpper Char.isLower at letter
  simp only [Bool.or_eq_true, Bool.and_eq_true, decide_eq_true_eq, ge_iff_le,
    UInt32.le_iff_toNat_le] at letter
  simp only [Char.isDigit, Bool.and_eq_false_iff, decide_eq_false_iff_not,
    UInt32.le_iff_toNat_le]
  omega

/-- The text is empty or starts with a character that does not satisfy a condition. -/
def Stops (keep : Char → Bool) (text : List Char) : Prop :=
  ∀ char ∈ text.head?, keep char = false

/-- No run starts where a text stops. -/
theorem Stops.runs
    {keep : Char → Bool}
    {rest : List Char}
    (stops : Stops keep rest) :
    rest.takeWhile keep = [] ∧ rest.dropWhile keep = rest := by
  cases rest with
  | nil =>
      simp
  | cons first tail =>
      simp [stops first (by simp)]

/-- A text stops if its first character does not satisfy the condition. -/
theorem stops_cons
    {keep : Char → Bool}
    {first : Char}
    (notKept : keep first = false)
    (rest : List Char) :
    Stops keep (first :: rest) := by
  rintro char ⟨⟩
  exact notKept

/-- Blanks before a character that does not satisfy a condition stop. -/
theorem stops_blanks
    {keep : Char → Bool}
    (noBlank : ∀ char, isBlank char = true → keep char = false)
    {blanks : List Char}
    (areBlank : IsBlanks blanks)
    {next : Char}
    (notKept : keep next = false)
    (rest : List Char) :
    Stops keep (blanks ++ next :: rest) := by
  cases blanks with
  | nil =>
      exact stops_cons notKept rest
  | cons first tail =>
      exact stops_cons (noBlank first (areBlank first List.mem_cons_self)) _

/-- A run that stops is cut where it stops. -/
theorem cutRun_of_stops
    {keep : Char → Bool}
    {run rest : List Char}
    (kept : ∀ char ∈ run, keep char = true)
    (stops : Stops keep rest) :
    cutRun keep (run ++ rest) = (run, rest) := by
  rw [cutRun, List.takeWhile_append_of_pos kept,
    List.dropWhile_append_of_pos kept, stops.runs.1, stops.runs.2,
    List.append_nil]

/-- What is cut as a run satisfies the condition. -/
theorem kept_of_cutRun
    {keep : Char → Bool}
    {text : List Char}
    {char : Char}
    (isCut : char ∈ (cutRun keep text).1) :
    keep char = true :=
  List.mem_takeWhile_imp isCut

/-- What is cut as blanks are blanks. -/
theorem isBlanks_cutRun (text : List Char) : IsBlanks (cutRun isBlank text).1 :=
  fun _ => kept_of_cutRun

/-- Words are letters or digits. -/
theorem isAlphanum_of_isWord
    {word : List Char}
    (isWord : IsWord word) :
    ∀ char ∈ word, char.isAlphanum = true := by
  intro char member
  rcases isWord.2 with digits | letters
  · simp [Char.isAlphanum, digits char member]
  · simp [Char.isAlphanum, letters char member]

/-- A word that the text starts with is cut, with what it goes on with. -/
theorem cutWord_of_isWord
    {word : List Char}
    (isWord : IsWord word)
    (rest : List Char) :
    ∃ keep : Char → Bool,
      (∀ char, char.isAlphanum = false → keep char = false) ∧
        cutWord (word ++ rest) =
          (word ++ rest.takeWhile keep, rest.dropWhile keep) := by
  obtain ⟨nonempty, alike⟩ := isWord
  obtain ⟨first, tail, rfl⟩ := List.exists_cons_of_ne_nil nonempty
  have run (keep : Char → Bool)
      (kept : ∀ char ∈ first :: tail, keep char = true) :
      cutRun keep (first :: tail ++ rest) =
        (first :: tail ++ rest.takeWhile keep, rest.dropWhile keep) := by
    rw [cutRun, List.takeWhile_append_of_pos kept,
      List.dropWhile_append_of_pos kept]
  rcases alike with digits | letters
  · refine ⟨Char.isDigit, fun char notAlphanum => ?_, ?_⟩
    · simp_all [Char.isAlphanum]
    · rw [← run _ digits]
      simp [cutWord, digits first List.mem_cons_self]
  · refine ⟨Char.isAlpha, fun char notAlphanum => ?_, ?_⟩
    · simp_all [Char.isAlphanum]
    · have isLetter := letters first List.mem_cons_self
      have notDigit : first.isDigit = false :=
        isDigit_of_isAlpha isLetter
      rw [← run _ letters]
      simp [cutWord, notDigit]

/-- What is cut as a word is one. -/
theorem isWord_cutWord
    {first : Char}
    (alphanumeric : first.isAlphanum = true)
    (rest : List Char) :
    IsWord (cutWord (first :: rest)).1 := by
  refine ⟨cutWord_ne_nil first rest alphanumeric, ?_⟩
  unfold cutWord
  dsimp only
  split
  · exact .inl fun _ => kept_of_cutRun
  · exact .inr fun _ => kept_of_cutRun

/-- The body of a literal is read up to the slash that closes it. -/
theorem cutBody?_of_escaped
    {body source : List Char}
    (escaped : Escaped body source)
    (rest : List Char) :
    cutBody? (body ++ '/' :: rest) = some ⟨source, body ++ ['/'], rest⟩ := by
  induction escaped with
  | nil =>
      rfl
  | slash _ inductionHypothesis =>
      simp [cutBody?, inductionHypothesis]
  | pair notSlash _ inductionHypothesis =>
      simp [cutBody?, inductionHypothesis, notSlash]
  | plain _ notBackslash _ inductionHypothesis =>
      simp [cutBody?, inductionHypothesis, notBackslash]

/-- What is read as the body of a literal is the body of one, and its closing slash. -/
theorem escaped_of_cutBody?
    {text : List Char}
    {found : LiteralBody}
    (read : cutBody? text = some found) :
    ∃ body, Escaped body found.source ∧ found.text = body ++ ['/'] := by
  fun_induction cutBody? text generalizing found with
  | case1 =>
      cases read
  | case2 rest =>
      cases read
      exact ⟨[], .nil, rfl⟩
  | case3 =>
      cases read
  | case4 char rest inductionHypothesis =>
      obtain ⟨inner, innerRead, rfl⟩ := Option.map_eq_some_iff.1 read
      obtain ⟨body, escaped, sameText⟩ := inductionHypothesis innerRead
      refine ⟨'\\' :: char :: body, ?_, by simp [sameText]⟩
      by_cases isSlash : char = '/'
      · subst isSlash
        exact .slash escaped
      · simpa [isSlash] using Escaped.pair isSlash escaped
  | case5 char rest notSlash notLast notEscape inductionHypothesis =>
      obtain ⟨inner, innerRead, rfl⟩ := Option.map_eq_some_iff.1 read
      obtain ⟨body, escaped, sameText⟩ := inductionHypothesis innerRead
      refine ⟨char :: body, .plain ?_ ?_ escaped, by simp [sameText]⟩
      · exact notSlash
      · rintro rfl
        cases rest with
        | nil =>
            exact notLast rfl rfl
        | cons next tail =>
            exact notEscape next tail rfl rfl

/-- Where a text goes on with a written pattern, this literal is read. -/
theorem cutLiteral_of_written
    {dialect : Dialect}
    {pattern : CharPattern}
    {text : List Char}
    (written : pattern.Written dialect text)
    (rest : List Char) :
    ∃ afterSlash,
      text ++ rest = '/' :: afterSlash ∧
        cutLiteral dialect afterSlash = ⟨.ok pattern, text, rest⟩ := by
  obtain ⟨body, source, escaped, rfl, accepted, rfl⟩ := written
  refine ⟨body ++ '/' :: rest, by simp, ?_⟩
  simp only [cutLiteral, cutBody?_of_escaped escaped]
  rw [if_pos accepted]

/-- What is read as a pattern is a written one. -/
theorem written_of_cutLiteral
    {dialect : Dialect}
    {afterSlash : List Char}
    {pattern : CharPattern}
    (read : (cutLiteral dialect afterSlash).pattern = .ok pattern) :
    pattern.Written dialect (cutLiteral dialect afterSlash).text := by
  unfold cutLiteral at read ⊢
  split at read
  · cases read
  · rename_i found foundEq
    obtain ⟨body, escaped, sameText⟩ := escaped_of_cutBody? foundEq
    dsimp only at read ⊢
    split at read
    · rename_i accepted
      cases read
      rw [if_pos accepted]
      exact ⟨body, found.source, escaped, rfl, accepted, by simp [sameText]⟩
    · cases read

/-- The end of a test of an attribute is read up to its closing brace. -/
theorem cutClosing_of_blanks
    {afterValue : List Char}
    (areBlank : IsBlanks afterValue)
    (name : List Char)
    (value : Value)
    (read rest : List Char) :
    cutClosing name value read (afterValue ++ '\x7d' :: rest) =
      (⟨.atom (.attributeIs (String.ofList name) value),
        read ++ afterValue ++ ['\x7d']⟩, rest) := by
  rw [cutClosing, cutRun_of_stops areBlank (stops_cons (by decide) rest)]
  rfl

/-- The value of a test of an attribute is read, and what follows it. -/
theorem cutValue_of_written
    {dialect : Dialect}
    {value : Value}
    {valueText afterValue : List Char}
    (written : value.Written dialect valueText)
    (areBlank : IsBlanks afterValue)
    (name read rest : List Char) :
    cutValue dialect name read (valueText ++ (afterValue ++ '\x7d' :: rest)) =
      (⟨.atom (.attributeIs (String.ofList name) value),
        read ++ valueText ++ afterValue ++ ['\x7d']⟩, rest) := by
  cases written with
  | literal isWord =>
      obtain ⟨keep, noOther, isCut⟩ :=
        cutWord_of_isWord isWord (afterValue ++ '\x7d' :: rest)
      have stops : Stops keep (afterValue ++ '\x7d' :: rest) :=
        stops_blanks (fun _ blank => noOther _ (isAlphanum_of_isBlank blank))
          areBlank (noOther _ (by decide)) rest
      rw [stops.runs.1, stops.runs.2, List.append_nil] at isCut
      obtain ⟨first, tail, rfl⟩ := List.exists_cons_of_ne_nil isWord.1
      have alphanumeric := isAlphanum_of_isWord isWord first List.mem_cons_self
      have notSlash : first ≠ '/' := by
        rintro rfl
        revert alphanumeric
        decide
      rw [List.cons_append, cutValue]
      rw [if_neg notSlash, if_pos alphanumeric, ← List.cons_append, isCut]
      exact cutClosing_of_blanks areBlank _ _ _ _
  | pattern written =>
      obtain ⟨afterSlash, sameText, isCut⟩ :=
        cutLiteral_of_written written (afterValue ++ '\x7d' :: rest)
      rw [sameText, cutValue]
      simp only [if_pos, isCut]
      exact cutClosing_of_blanks areBlank _ _ _ _

/-- A value starts with a character that is no blank. -/
theorem stops_value
    {dialect : Dialect}
    {value : Value}
    {valueText : List Char}
    (written : value.Written dialect valueText)
    (rest : List Char) :
    Stops isBlank (valueText ++ rest) := by
  cases written with
  | literal isWord =>
      obtain ⟨first, tail, rfl⟩ := List.exists_cons_of_ne_nil isWord.1
      have alphanumeric := isAlphanum_of_isWord isWord first List.mem_cons_self
      exact stops_cons
        (isBlank_of_isNameChar (isNameChar_of_isAlphanum alphanumeric)) _
  | pattern written =>
      obtain ⟨body, source, _, _, _, rfl⟩ := written
      exact stops_cons (by decide) _

/-- A test of an attribute is read up to its closing brace. -/
theorem cutAttribute_of_written
    {dialect : Dialect}
    {name valueText : List Char}
    {value : Value}
    {beforeName afterName beforeValue afterValue : List Char}
    (nonempty : name ≠ [])
    (nameChars : ∀ char ∈ name, isNameChar char = true)
    (written : value.Written dialect valueText)
    (blankBeforeName : IsBlanks beforeName)
    (blankAfterName : IsBlanks afterName)
    (blankBeforeValue : IsBlanks beforeValue)
    (blankAfterValue : IsBlanks afterValue)
    (rest : List Char) :
    cutAttribute dialect
        (beforeName ++ (name ++ (afterName ++ ':' :: (beforeValue ++
          (valueText ++ (afterValue ++ '\x7d' :: rest)))))) =
      (⟨.atom (.attributeIs (String.ofList name) value),
        '\x7b' :: (beforeName ++ name ++ afterName ++ [':'] ++ beforeValue ++
          valueText ++ afterValue ++ ['\x7d'])⟩, rest) := by
  have nameStops (tail : List Char) : Stops isBlank (name ++ tail) := by
    obtain ⟨first, others, rfl⟩ := List.exists_cons_of_ne_nil nonempty
    exact stops_cons
      (isBlank_of_isNameChar (nameChars first List.mem_cons_self)) _
  rw [cutAttribute, cutRun_of_stops blankBeforeName (nameStops _)]
  dsimp only
  rw [cutRun_of_stops nameChars
    (stops_blanks (fun _ => isNameChar_of_isBlank) blankAfterName (by decide) _)]
  dsimp only
  rw [cutRun_of_stops blankAfterName (stops_cons (by decide) _),
    if_neg (by simpa using nonempty)]
  have blanksBeforeValue :=
    cutRun_of_stops blankBeforeValue
      (stops_value written (afterValue ++ '\x7d' :: rest))
  simp [blanksBeforeValue, cutValue_of_written written blankAfterValue]

/-- The end of a test of an attribute is sound only with a closing brace. -/
theorem cutClosing_sound
    {name : List Char}
    {value : Value}
    {read afterValue : List Char}
    (sound : (cutClosing name value read afterValue).1.symbol.IsSound) :
    ∃ blanks,
      IsBlanks blanks ∧
        (cutClosing name value read afterValue).1 =
          ⟨.atom (.attributeIs (String.ofList name) value),
            read ++ blanks ++ ['\x7d']⟩ := by
  unfold cutClosing at sound ⊢
  dsimp only at sound ⊢
  split at sound
  · rename_i rest atEnd
    exact ⟨_, isBlanks_cutRun afterValue, rfl⟩
  · cases sound

/-- The value of a test of an attribute is sound only if it is written as one. -/
theorem cutValue_sound
    {dialect : Dialect}
    {name read atValue : List Char}
    (sound : (cutValue dialect name read atValue).1.symbol.IsSound) :
    ∃ value valueText blanks,
      value.Written dialect valueText ∧
        IsBlanks blanks ∧
        (cutValue dialect name read atValue).1 =
          ⟨.atom (.attributeIs (String.ofList name) value),
            read ++ valueText ++ blanks ++ ['\x7d']⟩ := by
  unfold cutValue at sound ⊢
  split at sound
  · cases sound
  · rename_i first afterFirst
    split at sound
    · rename_i isSlash
      dsimp only at sound
      split at sound
      · rename_i pattern isPattern
        obtain ⟨blanks, areBlank, isCut⟩ := cutClosing_sound sound
        refine ⟨_, _, blanks, .pattern (written_of_cutLiteral isPattern),
          areBlank, ?_⟩
        rw [if_pos isSlash]
        simp only [isPattern, isCut]
      · cases sound
    · rename_i notSlash
      split at sound
      · rename_i alphanumeric
        obtain ⟨blanks, areBlank, isCut⟩ := cutClosing_sound sound
        refine ⟨_, _, blanks,
          .literal (isWord_cutWord alphanumeric afterFirst), areBlank, ?_⟩
        rw [if_neg notSlash, if_pos alphanumeric]
        exact isCut
      · cases sound

/-- A test of an attribute is sound only if it is written as one. -/
theorem cutAttribute_sound
    {dialect : Dialect}
    {afterBrace : List Char}
    (sound : (cutAttribute dialect afterBrace).1.symbol.IsSound) :
    (cutAttribute dialect afterBrace).1.symbol.Written dialect
      (cutAttribute dialect afterBrace).1.text := by
  unfold cutAttribute at sound ⊢
  dsimp only at sound ⊢
  split at sound
  · cases sound
  · rename_i nonempty
    rw [if_neg nonempty]
    split at sound
    · rename_i afterColon atColon
      obtain ⟨value, valueText, blanks, written, areBlank, isCut⟩ :=
        cutValue_sound sound
      rw [isCut]
      have isWritten := Symbol.Written.attributeIs (by simpa using nonempty)
        (fun _ => kept_of_cutRun) written (isBlanks_cutRun afterBrace)
        (isBlanks_cutRun (cutRun isNameChar (cutRun isBlank afterBrace).2).2)
        (isBlanks_cutRun afterColon) areBlank
      simpa using isWritten
    · cases sound

/-- A blank is cut as it is. -/
theorem cut_of_isBlank
    {first : Char}
    (blank : isBlank first = true)
    (dialect : Dialect)
    (rest : List Char) :
    cut dialect first rest = (⟨.blank, [first]⟩, rest) := by
  simp only [isBlank, Bool.or_eq_true, decide_eq_true_eq] at blank
  rcases blank with (((rfl | rfl) | rfl) | rfl) | rfl <;> rfl

/-- A sign is cut as it is, and no sign is a fault. -/
theorem cut_of_sign
    {first : Char}
    {symbol : Symbol}
    (isSign : (first, symbol) ∈ signs)
    (dialect : Dialect)
    (rest : List Char) :
    cut dialect first rest = (⟨symbol, [first]⟩, rest) ∧ symbol.IsSound := by
  simp only [signs, List.mem_cons, Prod.mk.injEq, List.not_mem_nil,
    or_false] at isSign
  rcases isSign with ⟨rfl, rfl⟩ | ⟨rfl, rfl⟩ | ⟨rfl, rfl⟩ | ⟨rfl, rfl⟩ |
    ⟨rfl, rfl⟩ | ⟨rfl, rfl⟩ | ⟨rfl, rfl⟩ | ⟨rfl, rfl⟩ | ⟨rfl, rfl⟩ <;>
    exact ⟨rfl, trivial⟩

/-- At a letter or a digit a word is cut. -/
theorem cut_of_isAlphanum
    {first : Char}
    (alphanumeric : first.isAlphanum = true)
    (dialect : Dialect)
    (rest : List Char) :
    cut dialect first rest =
      (⟨.atom (.word (String.ofList (cutWord (first :: rest)).1)),
        (cutWord (first :: rest)).1⟩, (cutWord (first :: rest)).2) := by
  have notBlank := isBlank_of_isNameChar (isNameChar_of_isAlphanum alphanumeric)
  unfold cut
  dsimp only
  split
  case h_12 =>
    simp [notBlank, alphanumeric]
  all_goals exact absurd alphanumeric (by decide)

/-- At a slash that starts a pattern this literal is cut. -/
theorem cut_of_literal
    {dialect : Dialect}
    {pattern : CharPattern}
    {afterSlash text rest : List Char}
    (read : cutLiteral dialect afterSlash = ⟨.ok pattern, text, rest⟩) :
    cut dialect '/' afterSlash = (⟨.atom (.found pattern), text⟩, rest) := by
  simp [cut, read]

/--
From a text that starts with a spelling no less is cut, and nothing else if it is
as much.
-/
theorem cut_of_written
    {dialect : Dialect}
    {symbol : Symbol}
    {text rest : List Char}
    (written : symbol.Written dialect text)
    {first : Char}
    {tail : List Char}
    (starts : text ++ rest = first :: tail) :
    (cut dialect first tail).1.symbol.IsSound ∧
      text.length ≤ (cut dialect first tail).1.text.length ∧
      ((cut dialect first tail).1.text.length ≤ text.length →
        (cut dialect first tail).1.symbol = symbol) := by
  have exactly
      (sound : symbol.IsSound)
      (isCut : cut dialect first tail = (⟨symbol, text⟩, rest)) :
      (cut dialect first tail).1.symbol.IsSound ∧
        text.length ≤ (cut dialect first tail).1.text.length ∧
        ((cut dialect first tail).1.text.length ≤ text.length →
          (cut dialect first tail).1.symbol = symbol) := by
    rw [isCut]
    exact ⟨sound, Nat.le_refl _, fun _ => rfl⟩
  cases written with
  | blank isBlank =>
      cases starts
      exact exactly trivial (cut_of_isBlank isBlank dialect rest)
  | sign isSign =>
      cases starts
      obtain ⟨isCut, sound⟩ := cut_of_sign isSign dialect rest
      exact exactly sound isCut
  | word isWord =>
      obtain ⟨keep, _, isCut⟩ := cutWord_of_isWord isWord rest
      have alphanumeric : first.isAlphanum = true := by
        refine isAlphanum_of_isWord isWord first ?_
        obtain ⟨head, others, rfl⟩ := List.exists_cons_of_ne_nil isWord.1
        cases starts
        exact List.mem_cons_self
      rw [starts] at isCut
      rw [cut_of_isAlphanum alphanumeric, isCut]
      -- Only a word can go on behind a spelling.
      refine ⟨trivial, by simp, fun noMore => ?_⟩
      rw [List.length_append] at noMore
      have nothing : rest.takeWhile keep = [] :=
        List.length_eq_zero_iff.1 (by omega)
      rw [nothing, List.append_nil]
  | literal written =>
      obtain ⟨afterSlash, sameText, read⟩ := cutLiteral_of_written written rest
      rw [sameText] at starts
      cases starts
      exact exactly trivial (cut_of_literal read)
  | attributeIs nonempty nameChars written blankBeforeName blankAfterName
      blankBeforeValue blankAfterValue =>
      have isCut := cutAttribute_of_written nonempty nameChars written
        blankBeforeName blankAfterName blankBeforeValue blankAfterValue rest
      simp only [List.cons_append, List.append_assoc] at starts
      cases starts
      exact exactly trivial isCut

/-- A lexeme without a fault is spelled as its symbol demands. -/
theorem written_of_cut
    {dialect : Dialect}
    {first : Char}
    {rest : List Char}
    (sound : (cut dialect first rest).1.symbol.IsSound) :
    (cut dialect first rest).1.symbol.Written dialect
      (cut dialect first rest).1.text := by
  unfold cut at sound ⊢
  dsimp only at sound ⊢
  split at sound
  case h_10 =>
    split at sound
    · rename_i pattern read
      exact .literal (written_of_cutLiteral read)
    · cases sound
  case h_11 =>
    exact cutAttribute_sound sound
  case h_12 =>
    split at sound
    · rename_i blank
      rw [if_pos blank]
      exact .blank blank
    · rename_i notBlank
      split at sound
      · rename_i alphanumeric
        rw [if_neg notBlank, if_pos alphanumeric]
        exact .word (isWord_cutWord alphanumeric rest)
      · cases sound
  all_goals exact .sign (by simp [signs])

/-- A spelling is not empty. -/
theorem ne_nil_of_written
    {dialect : Dialect}
    {symbol : Symbol}
    {text : List Char}
    (written : symbol.Written dialect text) :
    text ≠ [] := by
  cases written with
  | word isWord =>
      exact isWord.1
  | literal written =>
      obtain ⟨body, source, _, _, _, rfl⟩ := written
      exact List.cons_ne_nil _ _
  | blank | sign | attributeIs =>
      exact List.cons_ne_nil _ _

/-- The longest spelling at the beginning of a text is what is cut from it. -/
theorem cut_of_longest
    {dialect : Dialect}
    {symbol : Symbol}
    {text rest : List Char}
    (written : symbol.Written dialect text)
    (longest :
      ∀ {other : Symbol} {longer : List Char},
        other.Written dialect longer →
        longer <+: text ++ rest →
        longer.length ≤ text.length)
    {first : Char}
    {tail : List Char}
    (starts : text ++ rest = first :: tail) :
    cut dialect first tail = (⟨symbol, text⟩, rest) ∧ symbol.IsSound := by
  obtain ⟨sound, noLess, sameSymbol⟩ := cut_of_written written starts
  -- What is cut is spelled too, so it is not longer than the longest spelling.
  have kept := text_append_cut dialect first tail
  have noMore : (cut dialect first tail).1.text.length ≤ text.length :=
    longest (written_of_cut sound) ⟨(cut dialect first tail).2, by rw [kept, starts]⟩
  rw [← starts] at kept
  obtain ⟨sameText, sameRest⟩ :=
    List.append_inj kept (Nat.le_antisymm noMore noLess)
  rw [← sameSymbol noMore]
  exact ⟨Prod.ext (by rw [← sameText]) sameRest, sound⟩

/-- A text is cut into the symbols of its lexemes if none of them is a fault. -/
theorem cut_iff
    {dialect : Dialect}
    {text : List Char}
    {symbols : List Symbol} :
    Cut dialect text symbols ↔
      (ofText dialect text).map Lexeme.symbol = symbols ∧
        ∀ symbol ∈ symbols, symbol.IsSound := by
  constructor
  · intro isCut
    induction isCut with
    | nil =>
        simp [ofText]
    | @cons symbol text rest symbols written longest _ inductionHypothesis =>
        obtain ⟨sameSymbols, sound⟩ := inductionHypothesis
        obtain ⟨first, tail, starts⟩ :=
          List.exists_cons_of_ne_nil
            (List.append_ne_nil_of_left_ne_nil (ne_nil_of_written written) rest)
        obtain ⟨isCut, isSound⟩ := cut_of_longest written longest starts
        rw [starts, ofText, isCut]
        exact ⟨congrArg (symbol :: ·) sameSymbols,
          List.forall_mem_cons.2 ⟨isSound, sound⟩⟩
  · rintro ⟨rfl, sound⟩
    fun_induction ofText dialect text with
    | case1 =>
        exact .nil
    | case2 first rest reading inductionHypothesis =>
        obtain ⟨isSound, restSound⟩ := List.forall_mem_cons.1 sound
        have kept : reading.1.text ++ reading.2 = first :: rest :=
          text_append_cut dialect first rest
        rw [List.map_cons, ← kept]
        refine .cons (written_of_cut isSound) ?_ (inductionHypothesis restSound)
        rintro other longer written ⟨more, starts⟩
        exact (cut_of_written written (starts.trans kept)).2.1

end Lexeme

end TokenPattern
