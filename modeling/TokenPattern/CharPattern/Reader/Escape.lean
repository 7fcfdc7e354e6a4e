import TokenPattern.CharPattern.Expr
import TokenPattern.CharPattern.Flags
import TokenPattern.CharPattern.Reader.Basic
import TokenPattern.Unicode.Property

namespace TokenPattern.CharPattern

/-!
# Escapes

What may follow a backslash: a character by its number, a class, a position,
or a character taken for itself. Digits (references to groups) and letters
without a meaning are rejected.
-/

open Unicode (RangeSet)

/-- What an escape stands for. -/
inductive Escape where
  | literal (char : Char)
  | charClass (items : CharClass)
  | assertion (condition : Assertion)
  deriving Repr

namespace Reader

/-- Whether a character is a hexadecimal digit. -/
def isHexDigit (char : Char) : Bool :=
  char.isDigit || ('a' ≤ char && char ≤ 'f') || ('A' ≤ char && char ≤ 'F')

/-- The character with a number, unless no character has it. -/
def charOfNumber (number : Nat) : Reader Char :=
  if number.isValidChar then pure (Char.ofNat number) else reject

/-- The number that hexadecimal digits stand for. -/
def numberOfHex (digits : List Char) : Nat :=
  RangeSet.hexValue (String.ofList digits)

/-- Read the given number of hexadecimal digits. -/
def hexDigits (extended : Bool) : Nat → Reader (List Char)
  | 0 => pure []
  | count + 1 => do
      let digit ← nextSkipping extended
      require (isHexDigit digit)
      return digit :: (← hexDigits extended count)

/-- A character given by its number, and whether that was written as a single byte. -/
structure NumberedChar where
  byte : Bool
  char : Char

/--
Read a character's number after `\x`, `\u` or `\U`: in braces, or with the given
number of digits.
-/
def numberedChar (extended : Bool) (digitCount : Nat) : Reader NumberedChar := do
  skip extended
  if (← peek) = some '\x7b' then
    let _ ← nextSkipping extended
    let digits ← takeWhileSkipping extended (· != '\x7d')
    require (!digits.isEmpty && digits.all isHexDigit)
    let _ ← nextSkipping extended
    return ⟨false, ← charOfNumber (numberOfHex digits)⟩
  else
    let digits ← hexDigits extended digitCount
    return ⟨digitCount = 2, ← charOfNumber (numberOfHex digits)⟩

/-- Split a text at the first place where a separator stands. -/
def splitAtFirst (separator : List Char) : List Char → Option (List Char × List Char)
  | [] => none
  | char :: rest =>
      if separator.isPrefixOf (char :: rest) then
        some ([], (char :: rest).drop separator.length)
      else
        (splitAtFirst separator rest).map fun (before, after) => (char :: before, after)

/--
The characters that the text of a property query stands for, and whether it
asks for all others instead.
-/
def propertyQuery? (query : List Char) : Option (RangeSet × Bool) :=
  let byValue := fun (name, value) =>
    Unicode.Property.byValue? (String.ofList name) (String.ofList value)
  match splitAtFirst ['!', '='] query with
  | some parts => (byValue parts).map (·, true)
  | none =>
      match (splitAtFirst [':'] query).or (splitAtFirst ['='] query) with
      | some parts => (byValue parts).map (·, false)
      | none => (Unicode.Property.byName? (String.ofList query)).map (·, false)

/-- Read a property query after `\p` or `\P`. -/
def propertyClass (flags : Flags) (negated : Bool) : Reader CharClass := do
  skip flags.extended
  let query ← show Reader (List Char) from do
    let first ← nextSkipping flags.extended
    if first = '\x7b' then
      let query ← takeWhileSkipping flags.extended (· != '\x7d')
      let _ ← next
      return query
    else
      require (first != '\\')
      return [first]
  require flags.unicode
  match propertyQuery? query with
  | some (members, otherwise) => return .item members flags.caseRule (negated != otherwise)
  | none => reject

/-- The class of a letter after a backslash. -/
def shorthandClass
    (flags : Flags)
    (unicodeSet asciiSet : RangeSet)
    (negated : Bool) :
    Reader CharClass := do
  require (flags.unicode || !negated)
  return .item (if flags.unicode then unicodeSet else asciiSet) .exact negated

/-- Whether a character may stand in the name of a position. -/
def isPositionNameChar (char : Char) : Bool :=
  char.isAlpha || char = '-'

/--
Read what follows `\b`: the name of a position in braces, or nothing.

Braces that do not start with a letter or a hyphen are left for a counted
repetition.
-/
def wordBoundary (flags : Flags) : Reader Assertion := do
  let ascii := !flags.unicode
  let before ← get
  if (← peek) ≠ some '\x7b' then
    return .wordBoundary ascii
  let _ ← nextSkipping flags.extended
  match ← peek with
  | none => reject
  | some first =>
      if !isPositionNameChar first then
        set before
        return .wordBoundary ascii
      let name ← takeWhileSkipping flags.extended isPositionNameChar
      require ((← next) = '\x7d')
      match String.ofList name with
      | "start" => return .wordStart ascii
      | "end" => return .wordEnd ascii
      | "start-half" => return .wordStartHalf ascii
      | "end-half" => return .wordEndHalf ascii
      | _ => reject

/-- Whether a character after a backslash stands for itself. -/
def isPlainEscape (char : Char) : Bool :=
  char.val < 128 && !char.isAlphanum && char != '<' && char != '>'

/-- Read a character by its number where single bytes beyond ASCII are refused without Unicode. -/
def numberedLiteral (flags : Flags) (digitCount : Nat) : Reader Escape := do
  let numbered ← numberedChar flags.extended digitCount
  require (flags.unicode || !numbered.byte || numbered.char.val < 128)
  return .literal numbered.char

/-- Read what follows a backslash. -/
def escape (flags : Flags) : Reader Escape := do
  let ascii := !flags.unicode
  let char ← next
  match char with
  | 'x' => numberedLiteral flags 2
  | 'u' => numberedLiteral flags 4
  | 'U' => numberedLiteral flags 8
  | 'p' => return .charClass (← propertyClass flags false)
  | 'P' => return .charClass (← propertyClass flags true)
  | 'd' => return .charClass (← shorthandClass flags digits asciiDigits false)
  | 'D' => return .charClass (← shorthandClass flags digits asciiDigits true)
  | 's' => return .charClass (← shorthandClass flags whiteSpace asciiWhiteSpace false)
  | 'S' => return .charClass (← shorthandClass flags whiteSpace asciiWhiteSpace true)
  | 'w' => return .charClass (← shorthandClass flags wordCharacters asciiWordCharacters false)
  | 'W' => return .charClass (← shorthandClass flags wordCharacters asciiWordCharacters true)
  | 'a' => return .literal '\x07'
  | 'f' => return .literal '\x0c'
  | 't' => return .literal '\t'
  | 'n' => return .literal '\n'
  | 'r' => return .literal '\r'
  | 'v' => return .literal '\x0b'
  | 'A' => return .assertion .textStart
  | 'z' => return .assertion .textEnd
  | 'b' => return .assertion (← wordBoundary flags)
  | 'B' => return .assertion (.noWordBoundary ascii)
  | '<' => return .assertion (.wordStart ascii)
  | '>' => return .assertion (.wordEnd ascii)
  | _ => if isPlainEscape char then return .literal char else reject

end Reader

end TokenPattern.CharPattern
