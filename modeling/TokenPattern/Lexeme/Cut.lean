import TokenPattern.CharPattern.Dialect
import TokenPattern.Lexeme.Basic

namespace TokenPattern.Lexeme

/-!
# Cutting a lexeme

The first lexeme of a text is as long as possible. Its first character decides
what it can be: a literal between slashes, a test of an attribute in braces, a
word, a blank, a single sign or a stray character.
-/

/-- Blanks between lexemes: space, tabulator, line feed, form feed and carriage return. -/
def isBlank (char : Char) : Bool :=
  char = ' ' || char = '\t' || char = '\n' || char = '\x0c' || char = '\r'

/-- The characters of attribute names: ASCII letters, digits and the underscore. -/
def isNameChar (char : Char) : Bool :=
  char.isAlphanum || char = '_'

/-- Cut the longest run of characters that satisfy a condition from a text. -/
def cutRun (keep : Char → Bool) (text : List Char) : List Char × List Char :=
  (text.takeWhile keep, text.dropWhile keep)

/-- Cut a word from a text: a run of ASCII digits or, failing that, of ASCII letters. -/
def cutWord (text : List Char) : List Char × List Char :=
  match text with
  | [] => ([], [])
  | first :: _ => if first.isDigit then cutRun Char.isDigit text else cutRun Char.isAlpha text

/-- The source of a literal, the text that it was read from and what follows. -/
structure LiteralBody where
  source : List Char
  text : List Char
  rest : List Char

/--
Read a literal after its opening slash, up to and with its closing slash.

A backslash keeps the character after it from closing the literal, and is kept
itself unless that character is a slash.
-/
def cutBody? : List Char → Option LiteralBody
  | [] => none
  | '/' :: rest => some ⟨[], ['/'], rest⟩
  | ['\\'] => none
  | '\\' :: char :: rest =>
      (cutBody? rest).map fun body =>
        ⟨if char = '/' then '/' :: body.source else '\\' :: char :: body.source,
          '\\' :: char :: body.text,
          body.rest⟩
  | char :: rest =>
      (cutBody? rest).map fun body => ⟨char :: body.source, char :: body.text, body.rest⟩

/-- What was read at a slash: a pattern or a fault, the text read and what follows. -/
structure Literal where
  pattern : Except Fault CharPattern
  text : List Char
  rest : List Char

/-- Read a literal; `afterSlash` is the text after its opening slash. -/
def cutLiteral (dialect : Dialect) (afterSlash : List Char) : Literal :=
  match cutBody? afterSlash with
  | none => ⟨.error .patternUnclosed, '/' :: afterSlash, []⟩
  | some body =>
      let source := String.ofList body.source
      if dialect.accepts source then ⟨.ok ⟨source⟩, '/' :: body.text, body.rest⟩
      else ⟨.error (.patternInvalid (dialect.refusal source)), '/' :: body.text, body.rest⟩

/-- A test of an attribute whose reading stopped for want of a part. -/
def malformed (read rest : List Char) : Lexeme × List Char :=
  (⟨.broken .attributeMalformed [], read⟩, rest)

/-- Read the end of a test of an attribute after its value. -/
def cutClosing
    (name : List Char)
    (value : Value)
    (read afterValue : List Char) :
    Lexeme × List Char :=
  let (blanks, rest) := cutRun isBlank afterValue
  match rest with
  | '\x7d' :: rest =>
      (⟨.atom (.attributeIs (String.ofList name) value), read ++ blanks ++ ['\x7d']⟩, rest)
  | _ => malformed (read ++ blanks) rest

/-- Read the value of a test of an attribute and what follows it. -/
def cutValue
    (dialect : Dialect)
    (name read atValue : List Char) :
    Lexeme × List Char :=
  match atValue with
  | [] => malformed read []
  | first :: afterFirst =>
      if first = '/' then
        let literal := cutLiteral dialect afterFirst
        match literal.pattern with
        | .ok pattern => cutClosing name (.pattern pattern) (read ++ literal.text) literal.rest
        | .error fault => (⟨.broken fault read, read ++ literal.text⟩, literal.rest)
      else if first.isAlphanum then
        let (word, rest) := cutWord atValue
        cutClosing name (.literal (String.ofList word)) (read ++ word) rest
      else
        malformed read atValue

/-- Read a test of an attribute; `afterBrace` is the text after its opening brace. -/
def cutAttribute (dialect : Dialect) (afterBrace : List Char) : Lexeme × List Char :=
  let (blanks, atName) := cutRun isBlank afterBrace
  let (name, afterName) := cutRun isNameChar atName
  let (blanksBefore, atColon) := cutRun isBlank afterName
  if name.isEmpty then
    malformed ('\x7b' :: blanks) atName
  else
    let read := '\x7b' :: blanks ++ name ++ blanksBefore
    match atColon with
    | ':' :: afterColon =>
        let (blanksAfter, atValue) := cutRun isBlank afterColon
        cutValue dialect name (read ++ ':' :: blanksAfter) atValue
    | _ => malformed read atColon

/-- Cut the first lexeme from a text that starts with the given character. -/
def cut
    (dialect : Dialect)
    (first : Char)
    (rest : List Char) :
    Lexeme × List Char :=
  let single := fun symbol => (Lexeme.mk symbol [first], rest)
  match first with
  | '(' => single (.opener .round)
  | '[' => single (.opener .square)
  | ')' => single (.closer .round)
  | ']' => single (.closer .square)
  | '|' => single (.connective .or)
  | '&' => single (.connective .and)
  | '?' => single (.quantifier .maybe)
  | '*' => single (.quantifier .star)
  | '+' => single (.quantifier .plus)
  | '/' =>
      let literal := cutLiteral dialect rest
      match literal.pattern with
      | .ok pattern => (⟨.atom (.found pattern), literal.text⟩, literal.rest)
      | .error fault => (⟨.broken fault [], literal.text⟩, literal.rest)
  | '\x7b' => cutAttribute dialect rest
  | _ =>
      if isBlank first then single .blank
      else if first.isAlphanum then
        let (word, rest) := cutWord (first :: rest)
        (⟨.atom (.word (String.ofList word)), word⟩, rest)
      else single .stray

end TokenPattern.Lexeme
