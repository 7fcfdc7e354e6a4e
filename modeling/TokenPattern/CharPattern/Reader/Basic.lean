import TokenPattern.CharPattern.ClassName

namespace TokenPattern.CharPattern

/-!
# Reading from the front of a text

A reader consumes characters from the front of a text or rejects the text; why
it does so is of no interest. Where the `x` flag is on, blanks and comments are
skipped after most characters.
-/

/-- A reader of a value from the front of a text. -/
abbrev Reader := StateT (List Char) Option

namespace Reader

/-- Reject the text. -/
def reject {α : Type} : Reader α :=
  fun _ => none

/-- Reject the text unless a condition holds. -/
def require (condition : Bool) : Reader Unit :=
  if condition then pure () else reject

/-- Consume one character. -/
def next : Reader Char
  | [] => none
  | char :: rest => some (char, rest)

/-- The next character, if there is one, which stays. -/
def peek : Reader (Option Char)
  | [] => some (none, [])
  | char :: rest => some (some char, char :: rest)

/-- Whether the text is used up. -/
def atEnd : Reader Bool :=
  return (← peek).isNone

/-- Consume the given characters if they come next, and say whether they did. -/
def accept (expected : List Char) : Reader Bool := fun text =>
  if expected.isPrefixOf text then some (true, text.drop expected.length)
  else some (false, text)

/-- Drop blanks and comments; `comment` says whether a comment is open. -/
def dropBlanks : Bool → List Char → List Char
  | _, [] => []
  | true, char :: rest => dropBlanks (char != '\n') rest
  | false, char :: rest =>
      if whiteSpace.contains char then dropBlanks false rest
      else if char = '#' then dropBlanks true rest
      else char :: rest

theorem length_dropBlanks_le
    (comment : Bool)
    (text : List Char) :
    (dropBlanks comment text).length ≤ text.length := by
  induction text generalizing comment with
  | nil =>
      cases comment <;> simp [dropBlanks]
  | cons char rest inductionHypothesis =>
      cases comment with
      | true =>
          exact Nat.le_succ_of_le (inductionHypothesis _)
      | false =>
          rw [dropBlanks]
          split
          · exact Nat.le_succ_of_le (inductionHypothesis _)
          · split
            · exact Nat.le_succ_of_le (inductionHypothesis _)
            · exact Nat.le_refl _

/-- Drop blanks and comments where the `x` flag is on. -/
def dropExtended (extended : Bool) (text : List Char) : List Char :=
  if extended then dropBlanks false text else text

theorem length_dropExtended_le
    (extended : Bool)
    (text : List Char) :
    (dropExtended extended text).length ≤ text.length := by
  cases extended with
  | true => exact length_dropBlanks_le false text
  | false => exact Nat.le_refl _

/-- Skip blanks and comments where the `x` flag is on. -/
def skip (extended : Bool) : Reader Unit :=
  modify (dropExtended extended)

/-- Consume one character and what is skipped after it. -/
def nextSkipping (extended : Bool) : Reader Char := do
  let char ← next
  skip extended
  return char

/-- The characters that satisfy a condition, with what is skipped after each of them. -/
def spanSkipping
    (extended : Bool)
    (keep : Char → Bool) :
    List Char →
    List Char × List Char
  | [] => ([], [])
  | char :: rest =>
      if keep char then
        let (more, left) := spanSkipping extended keep (dropExtended extended rest)
        (char :: more, left)
      else
        ([], char :: rest)
termination_by text => text.length
decreasing_by
  simp only [List.length_cons]
  exact Nat.lt_succ_of_le (length_dropExtended_le extended rest)

/-- Consume the characters that satisfy a condition, skipping after each of them. -/
def takeWhileSkipping
    (extended : Bool)
    (keep : Char → Bool) :
    Reader (List Char) := fun text =>
  some (spanSkipping extended keep text)

/-- Drop white space, whatever the flags are. -/
def skipWhiteSpace : Reader Unit :=
  modify (·.dropWhile whiteSpace.contains)

/-- The next character after the one that comes next, blanks and one comment sign aside. -/
def peekSecond (extended : Bool) : Reader (Option Char) := fun text =>
  let after := text.drop 1
  if extended then
    let visible := after.dropWhile whiteSpace.contains
    let visible :=
      if visible.head? = some '#' then (visible.drop 1).dropWhile whiteSpace.contains
      else visible
    some (visible.head?, text)
  else
    some (after.head?, text)

end Reader

end TokenPattern.CharPattern
