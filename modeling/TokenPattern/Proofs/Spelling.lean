import TokenPattern.Lexeme.OfText

namespace TokenPattern

/-!
# How symbols are written

The spelling of symbols is given here without a procedure that reads them.  A
text is cut into symbols from the left, each time at the longest spelling that
it starts with; the lexemes of a text without a fault are this cut.
-/

/-- The body of a literal, with its escapes, stands for the source of a pattern. -/
inductive Escaped : List Char → List Char → Prop where
  | nil :
      Escaped [] []
  | slash
      {body source : List Char}
      (rest : Escaped body source) :
      Escaped ('\\' :: '/' :: body) ('/' :: source)
  /-- Any other pair with a backslash is kept. -/
  | pair
      {char : Char}
      {body source : List Char}
      (notSlash : char ≠ '/')
      (rest : Escaped body source) :
      Escaped ('\\' :: char :: body) ('\\' :: char :: source)
  | plain
      {char : Char}
      {body source : List Char}
      (notSlash : char ≠ '/')
      (notBackslash : char ≠ '\\')
      (rest : Escaped body source) :
      Escaped (char :: body) (char :: source)

/-- A pattern that the dialect accepts, between slashes. -/
def CharPattern.Written
    (dialect : Dialect)
    (pattern : CharPattern)
    (text : List Char) : Prop :=
  ∃ body source,
    Escaped body source ∧
      pattern = ⟨String.ofList source⟩ ∧
      dialect.accepts pattern.source = true ∧
      text = '/' :: (body ++ ['/'])

/-- A text is all digits or all letters, and not empty. -/
def IsWord (text : List Char) : Prop :=
  text ≠ [] ∧
    ((∀ char ∈ text, char.isDigit = true) ∨ (∀ char ∈ text, char.isAlpha = true))

/-- What an attribute is compared with is written as a word or as a literal. -/
inductive Value.Written (dialect : Dialect) : Value → List Char → Prop where
  | literal
      {text : List Char}
      (isWord : IsWord text) :
      Value.Written dialect (.literal (String.ofList text)) text
  | pattern
      {pattern : CharPattern}
      {text : List Char}
      (written : pattern.Written dialect text) :
      Value.Written dialect (.pattern pattern) text

/-- A text of blanks. -/
def IsBlanks (text : List Char) : Prop :=
  ∀ char ∈ text, Lexeme.isBlank char = true

/-- The symbols that are single characters. -/
def signs : List (Char × Symbol) :=
  [('(', .opener .round), (')', .closer .round),
    ('[', .opener .square), (']', .closer .square),
    ('|', .connective .or), ('&', .connective .and),
    ('?', .quantifier .maybe), ('*', .quantifier .star), ('+', .quantifier .plus)]

/-- The spellings of the symbols. -/
inductive Symbol.Written (dialect : Dialect) : Symbol → List Char → Prop where
  | blank
      {char : Char}
      (isBlank : Lexeme.isBlank char = true) :
      Symbol.Written dialect .blank [char]
  | sign
      {char : Char}
      {symbol : Symbol}
      (isSign : (char, symbol) ∈ signs) :
      Symbol.Written dialect symbol [char]
  | word
      {text : List Char}
      (isWord : IsWord text) :
      Symbol.Written dialect (.atom (.word (String.ofList text))) text
  | literal
      {pattern : CharPattern}
      {text : List Char}
      (written : pattern.Written dialect text) :
      Symbol.Written dialect (.atom (.found pattern)) text
  | attributeIs
      {name valueText : List Char}
      {value : Value}
      {beforeName afterName beforeValue afterValue : List Char}
      (nonempty : name ≠ [])
      (nameChars : ∀ char ∈ name, Lexeme.isNameChar char = true)
      (written : value.Written dialect valueText)
      (blankBeforeName : IsBlanks beforeName)
      (blankAfterName : IsBlanks afterName)
      (blankBeforeValue : IsBlanks beforeValue)
      (blankAfterValue : IsBlanks afterValue) :
      Symbol.Written dialect (.atom (.attributeIs (String.ofList name) value))
        ('\x7b' :: (beforeName ++ name ++ afterName ++ [':'] ++ beforeValue ++
          valueText ++ afterValue ++ ['\x7d']))

/-- A text is cut into symbols, each time at the longest spelling. -/
inductive Cut (dialect : Dialect) : List Char → List Symbol → Prop where
  | nil :
      Cut dialect [] []
  | cons
      {symbol : Symbol}
      {text rest : List Char}
      {symbols : List Symbol}
      (written : symbol.Written dialect text)
      (longest :
        ∀ {other : Symbol} {longer : List Char},
          other.Written dialect longer →
          longer <+: text ++ rest →
          longer.length ≤ text.length)
      (follows : Cut dialect rest symbols) :
      Cut dialect (text ++ rest) (symbol :: symbols)

end TokenPattern
