import TokenPattern.Proofs.Cutting

namespace TokenPattern.Cursor

/-!
# Reading by positions

A text can also be read by a position that counts bytes.  Such a position may
leave the text or come to stand inside a character, and a reader may expect a
character that is not there.  Here each look at the text is checked, each part
that is taken out of it and each expectation: a reader gives `none` if one of
them fails.

None fails where a lexeme starts, and what is read there is the lexeme.
-/

open Lexeme

/-- The text before a position and the text from there on, if the position is between characters. -/
def split? : List Char → Nat → Option (List Char × List Char)
  | text, 0 => some ([], text)
  | [], _ + 1 => none
  | char :: rest, offset =>
      if char.utf8Size ≤ offset then
        (split? rest (offset - char.utf8Size)).map fun (front, back) => (char :: front, back)
      else
        none

/-- The part of a text between two positions. -/
def slice? (text : List Char) (start stop : Nat) : Option (List Char) := do
  let (front, _) ← split? text stop
  let (_, part) ← split? front start
  return part

/-- The character at a position, unless the text ends there. -/
def peek? (text : List Char) (offset : Nat) : Option (Option Char) := do
  let (_, rest) ← split? text offset
  return rest.head?

/-- Look for the character that is expected at a position. -/
def expect? (text : List Char) (offset : Nat) (char : Char) : Option Unit := do
  if (← peek? text offset) = some char then
    return ()
  else
    none

/-- The position behind the character at a position; at the end of the text it stays. -/
def bump? (text : List Char) (offset : Nat) : Option Nat := do
  match ← peek? text offset with
  | none => return offset
  | some char =>
      let behind := offset + char.utf8Size
      let _ ← split? text behind
      return behind

/-- The position behind a run, which is found with no more than the given number of looks. -/
def bumpWhile? (text : List Char) (keep : Char → Bool) : Nat → Nat → Option Nat
  | 0, _ => none
  | looks + 1, offset => do
      if (← peek? text offset).any keep then
        bumpWhile? text keep looks (← bump? text offset)
      else
        return offset

/-- The run at a position and the position behind it. -/
def run?
    (text : List Char)
    (keep : Char → Bool)
    (offset : Nat) :
    Option (List Char × Nat) := do
  let stop ← bumpWhile? text keep (text.length + 1) offset
  return (← slice? text offset stop, stop)

/-- The word at a position and the position behind it. -/
def word? (text : List Char) (offset : Nat) : Option (List Char × Nat) := do
  if (← peek? text offset).any Char.isDigit then
    run? text Char.isDigit offset
  else
    run? text Char.isAlpha offset

/-- The source of a literal, if it has an end, and the position where its body ends. -/
def source? (text : List Char) : Nat → Nat → Option (Option (List Char) × Nat)
  | 0, _ => none
  | looks + 1, offset => do
      match ← peek? text offset with
      | none => return (none, offset)
      | some '/' => return (some [], offset)
      | some '\\' =>
          let behind ← bump? text offset
          match ← peek? text behind with
          | none => return (none, behind)
          | some char =>
              let (source, stop) ← source? text looks (← bump? text behind)
              let kept := if char = '/' then ['/'] else ['\\', char]
              return (source.map (kept ++ ·), stop)
      | some char =>
          let (source, stop) ← source? text looks (← bump? text offset)
          return (source.map (char :: ·), stop)

/-- What is read at a position: a result or a fault with its place, and the position behind it. -/
structure Reading (α : Type) where
  result : Except (Fault × Span) α
  stop : Nat

/-- The literal at a position, where a slash is expected. -/
def literal?
    (dialect : Dialect)
    (text : List Char)
    (start : Nat) :
    Option (Reading CharPattern) := do
  expect? text start '/'
  let (source, stop) ← source? text (text.length + 1) (← bump? text start)
  match source with
  | none => return ⟨.error (.patternUnclosed, ⟨start, stop⟩), stop⟩
  | some source =>
      let behind ← bump? text stop
      let pattern : CharPattern := ⟨String.ofList source⟩
      if dialect.accepts pattern.source then
        return ⟨.ok pattern, behind⟩
      else
        let reason := dialect.refusal pattern.source
        return ⟨.error (.patternInvalid reason, ⟨start, behind⟩), behind⟩

/-- A test of an attribute that is given up at a position. -/
def malformed (start stop : Nat) : Reading Symbol :=
  ⟨.error (.attributeMalformed, ⟨start, stop⟩), stop⟩

/-- The end of a test of an attribute, behind its value. -/
def closing?
    (text : List Char)
    (start : Nat)
    (name : List Char)
    (value : Value)
    (behindValue : Nat) :
    Option (Reading Symbol) := do
  let (_, atBrace) ← run? text isBlank behindValue
  if (← peek? text atBrace) = some '\x7d' then
    return ⟨.ok (.atom (.attributeIs (String.ofList name) value)), ← bump? text atBrace⟩
  else
    return malformed start atBrace

/-- The value of a test of an attribute and its end. -/
def value?
    (dialect : Dialect)
    (text : List Char)
    (start : Nat)
    (name : List Char)
    (atValue : Nat) :
    Option (Reading Symbol) := do
  match ← peek? text atValue with
  | none => return malformed start atValue
  | some first =>
      if first = '/' then
        let literal ← literal? dialect text atValue
        match literal.result with
        | .ok pattern => closing? text start name (.pattern pattern) literal.stop
        | .error fault => return ⟨.error fault, literal.stop⟩
      else if first.isAlphanum then
        let (word, stop) ← word? text atValue
        closing? text start name (.literal (String.ofList word)) stop
      else
        return malformed start atValue

/-- The test of an attribute at a position, where an opening brace is expected. -/
def attribute?
    (dialect : Dialect)
    (text : List Char)
    (start : Nat) :
    Option (Reading Symbol) := do
  expect? text start '\x7b'
  let (_, atName) ← run? text isBlank (← bump? text start)
  let (name, behindName) ← run? text isNameChar atName
  if name.isEmpty then
    return malformed start behindName
  else
    let (_, atColon) ← run? text isBlank behindName
    if (← peek? text atColon) = some ':' then
      let (_, atValue) ← run? text isBlank (← bump? text atColon)
      value? dialect text start name atValue
    else
      return malformed start atColon

/-- What comes next at a position, unless the text ends there. -/
def next?
    (dialect : Dialect)
    (text : List Char)
    (offset : Nat) :
    Option (Option (Reading Symbol)) := do
  match ← peek? text offset with
  | none => return none
  | some first =>
      let single := fun symbol => do
        return some ⟨.ok symbol, ← bump? text offset⟩
      if isBlank first then
        single .blank
      else
        match signs.lookup first with
        | some symbol => single symbol
        | none =>
            if first = '/' then
              let literal ← literal? dialect text offset
              return some ⟨literal.result.map fun pattern => .atom (.found pattern), literal.stop⟩
            else if first = '\x7b' then
              return some (← attribute? dialect text offset)
            else if first.isAlphanum then
              let (word, stop) ← word? text offset
              return some ⟨.ok (.atom (.word (String.ofList word))), stop⟩
            else
              single .stray

/-- At a position a text goes on with what is left of it. -/
def IsAt (text : List Char) (offset : Nat) (rest : List Char) : Prop :=
  ∃ before, text = before ++ rest ∧ Text.width before = offset

theorem split?_append (front back : List Char) :
    split? (front ++ back) (Text.width front) = some (front, back) := by
  induction front with
  | nil =>
      cases back <;> rfl
  | cons char others inductionHypothesis =>
      have positive := char.utf8Size_pos
      obtain ⟨offset, sameOffset⟩ :=
        Nat.exists_eq_add_one.2 (Nat.add_pos_left positive (Text.width others))
      rw [Text.width_cons, List.cons_append, sameOffset, split?]
      have remaining : offset + 1 - char.utf8Size = Text.width others := by
        omega
      · rw [if_pos (by omega), remaining, inductionHypothesis]
        rfl
      · exact Nat.succ_ne_zero offset

theorem append_of_split?
    {text front back : List Char}
    {offset : Nat}
    (splits : split? text offset = some (front, back)) :
    text = front ++ back ∧ Text.width front = offset := by
  fun_induction split? text offset generalizing front with
  | case1 text =>
      cases splits
      exact ⟨rfl, rfl⟩
  | case2 =>
      cases splits
  | case3 char rest offset _ fits inductionHypothesis =>
      obtain ⟨⟨others, behind⟩, splitsRest, same⟩ := Option.map_eq_some_iff.1 splits
      cases same
      obtain ⟨rfl, sameWidth⟩ := inductionHypothesis splitsRest
      refine ⟨rfl, ?_⟩
      rw [Text.width_cons, sameWidth]
      omega
  | case4 =>
      cases splits

/-- A text is split exactly at the positions between its characters. -/
theorem isSome_split?_iff (pattern : String) (offset : Nat) :
    (split? pattern.toList offset).isSome ↔
      (String.Pos.Raw.mk offset).IsValid pattern := by
  rw [String.Pos.Raw.isValid_iff_exists_append]
  constructor
  · intro splits
    obtain ⟨⟨front, back⟩, same⟩ := Option.isSome_iff_exists.1 splits
    obtain ⟨appended, sameWidth⟩ := append_of_split? same
    refine ⟨String.ofList front, String.ofList back, ?_, ?_⟩
    · rw [← String.ofList_append, ← appended, String.ofList_toList]
    · rw [← sameWidth, Text.width_eq_utf8ByteSize]
      rfl
  · rintro ⟨front, back, rfl, same⟩
    have sameOffset : offset = Text.width front.toList := by
      rw [Text.width_eq_utf8ByteSize, String.ofList_toList]
      exact congrArg String.Pos.Raw.byteIdx same
    rw [String.toList_append, sameOffset, split?_append]
    rfl

variable {text rest front : List Char}
variable {offset : Nat}

namespace IsAt

theorem start (text : List Char) : IsAt text 0 text :=
  ⟨[], rfl, rfl⟩

theorem move (isAt : IsAt text offset (front ++ rest)) :
    IsAt text (offset + Text.width front) rest := by
  obtain ⟨before, rfl, rfl⟩ := isAt
  exact ⟨before ++ front, by simp, by simp⟩

theorem move_one
    {char : Char}
    (isAt : IsAt text offset (char :: rest)) :
    IsAt text (offset + char.utf8Size) rest := by
  have moved : IsAt text (offset + Text.width [char]) rest := isAt.move
  exact moved

theorem split (isAt : IsAt text offset rest) :
    ∃ before, split? text offset = some (before, rest) := by
  obtain ⟨before, rfl, rfl⟩ := isAt
  exact ⟨before, split?_append before rest⟩

theorem peek (isAt : IsAt text offset rest) :
    peek? text offset = some rest.head? := by
  obtain ⟨before, splits⟩ := isAt.split
  rw [peek?, splits]
  rfl

theorem expect
    {char : Char}
    (isAt : IsAt text offset (char :: rest)) :
    expect? text offset char = some () := by
  simp [expect?, isAt.peek]

theorem bump
    {char : Char}
    (isAt : IsAt text offset (char :: rest)) :
    bump? text offset = some (offset + char.utf8Size) := by
  obtain ⟨before, splits⟩ := isAt.move_one.split
  simp [bump?, isAt.peek, splits]

theorem slice (isAt : IsAt text offset (front ++ rest)) :
    slice? text offset (offset + Text.width front) = some front := by
  obtain ⟨before, rfl, rfl⟩ := isAt
  have splitsText := split?_append (before ++ front) rest
  rw [Text.width_append, List.append_assoc] at splitsText
  simp [slice?, splitsText, split?_append]

theorem length_le (isAt : IsAt text offset rest) : rest.length ≤ text.length := by
  obtain ⟨before, rfl, _⟩ := isAt
  simp

end IsAt

theorem bumpWhile?_of_isAt
    (keep : Char → Bool)
    (isAt : IsAt text offset rest)
    {looks : Nat}
    (enough : rest.length < looks) :
    bumpWhile? text keep looks offset =
      some (offset + Text.width (rest.takeWhile keep)) := by
  induction rest generalizing offset looks with
  | nil =>
      obtain ⟨others, rfl⟩ := Nat.exists_eq_add_one.2 enough
      simp [bumpWhile?, isAt.peek]
  | cons char tail inductionHypothesis =>
      obtain ⟨others, rfl⟩ := Nat.exists_eq_add_one.2 (Nat.zero_lt_of_lt enough)
      by_cases kept : keep char = true
      · have behind := inductionHypothesis isAt.move_one (Nat.lt_of_succ_lt_succ enough)
        simp [bumpWhile?, isAt.peek, isAt.bump, kept, behind, Nat.add_assoc]
      · simp [bumpWhile?, isAt.peek, kept]

/-- The run at a position is the one that is cut there. -/
theorem run?_of_isAt
    (keep : Char → Bool)
    (isAt : IsAt text offset rest) :
    run? text keep offset =
        some ((cutRun keep rest).1, offset + Text.width (cutRun keep rest).1) ∧
      IsAt text (offset + Text.width (cutRun keep rest).1) (cutRun keep rest).2 := by
  have kept := cutRun_append keep rest
  have stop := bumpWhile?_of_isAt keep isAt (Nat.lt_succ_of_le isAt.length_le)
  rw [← kept] at isAt
  refine ⟨?_, isAt.move⟩
  have part := isAt.slice
  rw [cutRun] at part ⊢
  simp [run?, stop, part]

/-- The word at a position is the one that is cut there. -/
theorem word?_of_isAt
    {first : Char}
    {tail : List Char}
    (isAt : IsAt text offset (first :: tail)) :
    word? text offset =
        some ((cutWord (first :: tail)).1, offset + Text.width (cutWord (first :: tail)).1) ∧
      IsAt text (offset + Text.width (cutWord (first :: tail)).1)
        (cutWord (first :: tail)).2 := by
  by_cases isDigit : first.isDigit = true
  · have cutDigits : cutWord (first :: tail) = cutRun Char.isDigit (first :: tail) :=
      if_pos isDigit
    have run := run?_of_isAt Char.isDigit isAt
    rw [cutDigits]
    refine ⟨?_, run.2⟩
    simp [word?, isAt.peek, isDigit, run.1]
  · have cutLetters : cutWord (first :: tail) = cutRun Char.isAlpha (first :: tail) :=
      if_neg isDigit
    have run := run?_of_isAt Char.isAlpha isAt
    rw [cutLetters]
    refine ⟨?_, run.2⟩
    simp [word?, isAt.peek, isDigit, run.1]

/-- The body of a literal ends before the slash up to which it is cut, or with the text. -/
theorem source?_of_isAt
    (isAt : IsAt text offset rest)
    {looks : Nat}
    (enough : rest.length < looks) :
    ∃ inside,
      source? text looks offset =
          some ((cutBody? rest).map LiteralBody.source, offset + Text.width inside) ∧
        (cutBody? rest = none → inside = rest) ∧
        ∀ body, cutBody? rest = some body → body.text = inside ++ ['/'] := by
  obtain ⟨others, rfl⟩ := Nat.exists_eq_add_one.2 (Nat.zero_lt_of_lt enough)
  -- A pair with a backslash takes two characters and one look, any other character one of each.
  fun_induction cutBody? rest generalizing offset others with
  | case1 =>
      exact ⟨[], by simp [source?, isAt.peek], by simp⟩
  | case2 rest =>
      exact ⟨[], by simp [source?, isAt.peek], by simp⟩
  | case3 =>
      exact ⟨['\\'], by simp [source?, isAt.peek, isAt.bump, isAt.move_one.peek], by simp⟩
  | case4 char rest inductionHypothesis =>
      simp only [List.length_cons] at enough
      obtain ⟨looks, sameLooks⟩ := Nat.exists_eq_add_one.2 (by omega : 0 < others)
      obtain ⟨inside, reads, noEnd, hasEnd⟩ :=
        inductionHypothesis isAt.move_one.move_one looks (by omega)
      rw [← sameLooks] at reads
      refine ⟨'\\' :: char :: inside, ?_, by simpa using noEnd, ?_⟩
      · by_cases isSlash : char = '/'
        · subst isSlash
          simp [source?, isAt.peek, isAt.bump, isAt.move_one.peek, isAt.move_one.bump, reads,
            Function.comp_def]
          omega
        · simp [source?, isAt.peek, isAt.bump, isAt.move_one.peek, isAt.move_one.bump, reads,
            isSlash, Function.comp_def]
          omega
      · intro body cut
        obtain ⟨inner, innerCut, rfl⟩ := Option.map_eq_some_iff.1 cut
        simp [hasEnd inner innerCut]
  | case5 char rest notSlash notLast notEscape inductionHypothesis =>
      simp only [List.length_cons] at enough
      obtain ⟨looks, sameLooks⟩ := Nat.exists_eq_add_one.2 (by omega : 0 < others)
      obtain ⟨inside, reads, noEnd, hasEnd⟩ :=
        inductionHypothesis isAt.move_one looks (by omega)
      rw [← sameLooks] at reads
      refine ⟨char :: inside, ?_, by simpa using noEnd, ?_⟩
      · have notBackslash : char ≠ '\\' := by
          rintro rfl
          cases rest with
          | nil =>
              exact notLast rfl rfl
          | cons next others =>
              exact notEscape next others rfl rfl
        simp [source?, isAt.peek, isAt.bump, reads, Function.comp_def]
        omega
      · intro body cut
        obtain ⟨inner, innerCut, rfl⟩ := Option.map_eq_some_iff.1 cut
        simp [hasEnd inner innerCut]

/-- A lexeme at a position as a reading there. -/
def readingOf (offset : Nat) (lexeme : Lexeme) : Reading Symbol :=
  match lexeme.symbol with
  | .broken fault lead =>
      ⟨.error (fault, ⟨offset + Text.width lead, offset + lexeme.width⟩), offset + lexeme.width⟩
  | symbol => ⟨.ok symbol, offset + lexeme.width⟩

/-- A literal at a position as a reading there. -/
def readingOfLiteral (offset : Nat) (literal : Literal) : Reading CharPattern :=
  let stop := offset + Text.width literal.text
  ⟨literal.pattern.mapError fun fault => (fault, ⟨offset, stop⟩), stop⟩

variable {dialect : Dialect}
variable {tail : List Char}

theorem literal?_of_isAt
    (dialect : Dialect)
    (isAt : IsAt text offset ('/' :: tail)) :
    literal? dialect text offset =
        some (readingOfLiteral offset (cutLiteral dialect tail)) ∧
      IsAt text (offset + Text.width (cutLiteral dialect tail).text)
        (cutLiteral dialect tail).rest := by
  have kept := text_append_rest_cutLiteral dialect tail
  have behind := isAt
  rw [← kept] at behind
  refine ⟨?_, behind.move⟩
  have enough := Nat.lt_succ_of_le isAt.move_one.length_le
  obtain ⟨inside, reads, noEnd, hasEnd⟩ := source?_of_isAt isAt.move_one enough
  unfold cutLiteral
  split
  · rename_i noBody
    rw [noBody] at reads
    simp [literal?, isAt.expect, isAt.bump, reads, noEnd noBody, readingOfLiteral,
      Except.mapError, Nat.add_assoc]
  · rename_i body isBody
    have atBody := isAt.move_one
    rw [← text_append_rest_cutBody? tail body isBody, hasEnd body isBody,
      List.append_assoc] at atBody
    rw [isBody] at reads
    have behindBody := atBody.move.bump
    by_cases accepted : dialect.accepts (String.ofList body.source) = true <;>
      simp [literal?, isAt.expect, isAt.bump, reads, behindBody, accepted,
        hasEnd body isBody, readingOfLiteral, Except.mapError] <;>
      omega

variable {start : Nat}
variable {read : List Char}

theorem readingOf_malformed (start : Nat) (read rest : List Char) :
    readingOf start (Lexeme.malformed read rest).1 = malformed start (start + Text.width read) :=
  rfl

theorem run?_behind
    (keep : Char → Bool)
    (isAt : IsAt text (start + Text.width read) rest) :
    run? text keep (start + Text.width read) =
        some ((cutRun keep rest).1, start + Text.width (read ++ (cutRun keep rest).1)) ∧
      IsAt text (start + Text.width (read ++ (cutRun keep rest).1)) (cutRun keep rest).2 := by
  rw [Text.width_append, ← Nat.add_assoc]
  exact run?_of_isAt keep isAt

theorem bump?_behind
    {char : Char}
    (isAt : IsAt text (start + Text.width read) (char :: rest)) :
    bump? text (start + Text.width read) = some (start + Text.width (read ++ [char])) ∧
      IsAt text (start + Text.width (read ++ [char])) rest := by
  rw [Text.width_append, ← Nat.add_assoc]
  exact ⟨isAt.bump, isAt.move_one⟩

theorem head?_ne
    {char : Char}
    (notNext : ∀ others, rest = char :: others → False) :
    rest.head? ≠ some char := by
  intro isNext
  obtain ⟨others, remaining⟩ := List.head?_eq_some_iff.1 isNext
  exact notNext others remaining

theorem closing?_of_isAt
    (isAt : IsAt text (start + Text.width read) rest)
    (name : List Char)
    (value : Value) :
    closing? text start name value (start + Text.width read) =
      some (readingOf start (cutClosing name value read rest).1) := by
  obtain ⟨run, atBrace⟩ := run?_behind isBlank isAt
  unfold cutClosing
  dsimp only
  split
  · rename_i others braceNext
    rw [braceNext] at atBrace
    simp only [closing?, run, Option.bind_eq_bind, Option.bind_some, atBrace.peek,
      List.head?_cons, if_true, (bump?_behind atBrace).1]
    rfl
  · rename_i noBrace
    simp only [closing?, run, Option.bind_eq_bind, Option.bind_some, atBrace.peek,
      if_neg (head?_ne noBrace)]
    rfl

theorem value?_of_isAt
    (isAt : IsAt text (start + Text.width read) rest)
    (name : List Char) :
    value? dialect text start name (start + Text.width read) =
      some (readingOf start (cutValue dialect name read rest).1) := by
  cases rest with
  | nil =>
      simp [value?, isAt.peek, cutValue, readingOf_malformed]
  | cons first tail =>
      by_cases isSlash : first = '/'
      · subst isSlash
        obtain ⟨literal, behind⟩ := literal?_of_isAt dialect isAt
        rw [Nat.add_assoc, ← Text.width_append] at behind
        have closing := closing?_of_isAt behind name
        cases isPattern : (cutLiteral dialect tail).pattern with
        | ok pattern =>
            simp [value?, isAt.peek, cutValue, literal, readingOfLiteral, isPattern,
              Except.mapError, closing, Nat.add_assoc, ← Text.width_append]
        | error fault =>
            simp [value?, isAt.peek, cutValue, literal, readingOfLiteral, isPattern,
              Except.mapError, readingOf, Lexeme.width, Nat.add_assoc]
      · by_cases alphanumeric : first.isAlphanum = true
        · obtain ⟨word, behind⟩ := word?_of_isAt isAt
          rw [Nat.add_assoc, ← Text.width_append] at word behind
          simp [value?, isAt.peek, cutValue, isSlash, alphanumeric, word,
            closing?_of_isAt behind, -Text.width_append]
        · simp [value?, isAt.peek, cutValue, isSlash, alphanumeric, readingOf_malformed]

theorem attribute?_of_isAt (isAt : IsAt text start ('\x7b' :: rest)) :
    attribute? dialect text start =
      some (readingOf start (cutAttribute dialect rest).1) := by
  have atBrace : IsAt text (start + Text.width []) ('\x7b' :: rest) := isAt
  obtain ⟨bump, atBlanks⟩ := bump?_behind atBrace
  obtain ⟨blanks, atName⟩ := run?_behind isBlank atBlanks
  obtain ⟨name, behindName⟩ := run?_behind isNameChar atName
  obtain ⟨blanksBefore, atColon⟩ := run?_behind isBlank behindName
  rw [Text.width_nil, Nat.add_zero] at bump
  unfold cutAttribute
  dsimp only
  simp only [attribute?, isAt.expect, bump, blanks, name, blanksBefore, atColon.peek,
    Option.bind_eq_bind, Option.bind_some]
  split
  · rename_i noName
    rw [List.isEmpty_iff.1 noName, List.append_nil]
    rfl
  · split
    · rename_i isColon
      obtain ⟨afterColon, colonNext⟩ := List.head?_eq_some_iff.1 isColon
      rw [colonNext] at atColon ⊢
      obtain ⟨bumpColon, atBlanksAfter⟩ := bump?_behind atColon
      obtain ⟨blanksAfter, atValue⟩ := run?_behind isBlank atBlanksAfter
      rw [bumpColon, Option.bind_some, blanksAfter, Option.bind_some, value?_of_isAt atValue]
      simp
    · rename_i notColon
      split
      · rename_i afterColon colonNext
        rw [colonNext] at notColon
        exact (notColon rfl).elim
      · rfl

theorem cut_of_no_sign
    {first : Char}
    (noSign : signs.lookup first = none)
    (notSlash : first ≠ '/')
    (notBrace : first ≠ '\x7b')
    (notBlank : isBlank first = false)
    (notAlphanum : first.isAlphanum = false) :
    cut dialect first rest = (⟨.stray, [first]⟩, rest) := by
  unfold cut
  dsimp only
  split
  case h_10 =>
    exact (notSlash rfl).elim
  case h_11 =>
    exact (notBrace rfl).elim
  case h_12 =>
    simp [notBlank, notAlphanum]
  all_goals exact absurd noSign (by decide)

/-- Where a lexeme starts, it is what is read there. -/
theorem next?_of_isAt (isAt : IsAt text offset rest) :
    next? dialect text offset =
      some ((ofText dialect rest).head?.map (readingOf offset)) := by
  cases rest with
  | nil =>
      simp [next?, isAt.peek, ofText]
  | cons first tail =>
      rw [ofText, List.head?_cons, Option.map_some]
      by_cases blank : isBlank first = true
      · rw [cut_of_isBlank blank]
        simp [next?, isAt.peek, isAt.bump, blank, readingOf, Lexeme.width]
      · cases isSign : signs.lookup first with
        | some symbol =>
            obtain ⟨before, after, same, _⟩ := List.lookup_eq_some_iff.1 isSign
            have member : (first, symbol) ∈ signs := by
              rw [same]
              exact List.mem_append_right _ List.mem_cons_self
            obtain ⟨isCut, sound⟩ := cut_of_sign member dialect tail
            rw [isCut]
            cases symbol with
            | stray | broken =>
                cases sound
            | blank | atom | opener | closer | connective | quantifier =>
                simp [next?, isAt.peek, isAt.bump, blank, isSign, readingOf, Lexeme.width]
        | none =>
            by_cases isSlash : first = '/'
            · subst isSlash
              obtain ⟨literal, _⟩ := literal?_of_isAt dialect isAt
              cases isPattern : (cutLiteral dialect tail).pattern <;>
                simp [next?, isAt.peek, blank, isSign, literal, readingOfLiteral, isPattern,
                  cut, readingOf, Lexeme.width, Except.map, Except.mapError]
            · by_cases isBrace : first = '\x7b'
              · subst isBrace
                simp [next?, isAt.peek, blank, isSign, attribute?_of_isAt isAt, cut]
              · by_cases alphanumeric : first.isAlphanum = true
                · rw [cut_of_isAlphanum alphanumeric]
                  simp [next?, isAt.peek, blank, isSign, isSlash, isBrace, alphanumeric,
                    (word?_of_isAt isAt).1, readingOf, Lexeme.width]
                · rw [cut_of_no_sign isSign isSlash isBrace (by simpa using blank)
                    (by simpa using alphanumeric)]
                  simp [next?, isAt.peek, isAt.bump, blank, isSign, isSlash, isBrace,
                    alphanumeric, readingOf, Lexeme.width]

end TokenPattern.Cursor
