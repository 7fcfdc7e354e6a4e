import TokenPattern.Record

namespace TokenPattern

/-!
# Tokenizers

A tokenizer turns a text into records. The standard one cuts at every single
space, so that spaces side by side enclose an empty token, and an empty text is
one empty token.
-/

/-- A way to turn a text into records. -/
structure Tokenizer (ρ : Type) where
  tokenize : String → List ρ

/-- Cut a text at each of its spaces. -/
def piecesOf : List Char → List (List Char)
  | [] => [[]]
  | char :: rest =>
      if char = ' ' then
        [] :: piecesOf rest
      else
        match piecesOf rest with
        | [] => [[char]]
        | piece :: pieces => (char :: piece) :: pieces

namespace Tokenizer

/-- The token that has a text as its only attribute. -/
def tokenOf (name : String) (text : List Char) : Token :=
  Token.empty.withAttribute name (String.ofList text)

/-- One token for each piece between spaces. -/
def spaces (name : String) : Tokenizer Token where
  tokenize text := (piecesOf text.toList).map (tokenOf name)

/-- One token for each character. -/
def characters (name : String) : Tokenizer Token where
  tokenize text := text.toList.map fun char => tokenOf name [char]

end Tokenizer

end TokenPattern
