import TokenPattern.CharPattern.Reading
import Std.Data.HashMap

namespace TokenPattern.CharPattern

/-!
# Searching a text

A set of positions of a text is a number whose bit `i` says that position `i`
(before the character `i`) is in it. Laid over a text, a class becomes the set
of positions before its characters and an assertion the set where it holds; an
expression then maps the positions where it may start to those where it may
end. A pattern is found if some end is left when it may start anywhere.
-/

/-- A set of positions as the bits of a number. -/
abbrev Positions := Nat

/-- The positions of the first set that are not in the second. -/
def Positions.without (left right : Positions) : Positions :=
  (left ||| right) ^^^ right

/-- A text by the positions before each of its characters. -/
structure TextIndex where
  length : Nat
  occurrences : @Std.HashMap Char Positions instBEqOfDecidableEq instHashableChar

namespace TextIndex

/-- Note that a character stands at the end of what is known of a text. -/
def push (index : TextIndex) (char : Char) : TextIndex :=
  let known := index.occurrences.getD char 0
  ⟨index.length + 1, index.occurrences.insert char (known ||| 1 <<< index.length)⟩

/-- The index of a text. -/
def ofText (text : String) : TextIndex :=
  text.foldl push ⟨0, ∅⟩

/-- All positions, the one behind the last character included. -/
def all (index : TextIndex) : Positions :=
  1 <<< (index.length + 1) - 1

/-- The position behind the last character. -/
def last (index : TextIndex) : Positions :=
  1 <<< index.length

/-- The positions before characters that satisfy a condition. -/
def before (index : TextIndex) (condition : Char → Bool) : Positions :=
  index.occurrences.fold
    (fun found char positions => if condition char then found ||| positions else found)
    0

/-- The positions behind characters that satisfy a condition. -/
def behind (index : TextIndex) (condition : Char → Bool) : Positions :=
  2 * index.before condition

end TextIndex

/-- Whether a character belongs to words. -/
def isWordChar (ascii : Bool) (char : Char) : Bool :=
  (if ascii then asciiWordCharacters else wordCharacters).contains char

/-- The positions of a text where an assertion holds. -/
def Assertion.positions (index : TextIndex) : Assertion → Positions
  | .textStart => 1
  | .textEnd => index.last
  | .lineStart => 1 ||| index.behind (· = '\n')
  | .lineEnd => index.last ||| index.before (· = '\n')
  | .lineStartCrlf =>
      let split := (index.behind (· = '\r')).without (index.before (· = '\n'))
      1 ||| index.behind (· = '\n') ||| split
  | .lineEndCrlf =>
      let split := (index.before (· = '\n')).without (index.behind (· = '\r'))
      index.last ||| index.before (· = '\r') ||| split
  | .wordBoundary ascii =>
      index.before (isWordChar ascii) ^^^ index.behind (isWordChar ascii)
  | .noWordBoundary ascii =>
      index.all.without (index.before (isWordChar ascii) ^^^ index.behind (isWordChar ascii))
  | .wordStart ascii =>
      (index.before (isWordChar ascii)).without (index.behind (isWordChar ascii))
  | .wordEnd ascii =>
      (index.behind (isWordChar ascii)).without (index.before (isWordChar ascii))
  | .wordStartHalf ascii => index.all.without (index.behind (isWordChar ascii))
  | .wordEndHalf ascii => index.all.without (index.before (isWordChar ascii))

/-- Take a step the given number of times, or until the positions do not change. -/
def repeatExactly (step : Positions → Positions) : Nat → Positions → Positions
  | 0, current => current
  | count + 1, current =>
      let reached := step current
      if reached = current then current else repeatExactly step count reached

/-- The positions reached by at most the given number of steps; only the newest take another one. -/
def repeatUpTo
    (step : Positions → Positions) :
    Nat →
    Positions →
    Positions →
    Positions
  | 0, _, reached => reached
  | count + 1, newest, reached =>
      let all := step newest ||| reached
      if all = reached then reached else repeatUpTo step count (all ^^^ reached) all

mutual

/-- The positions where an expression may end if it starts at one of the given ones. -/
def endings (width : Nat) : Expr Positions Positions → Positions → Positions
  | .empty, starts => starts
  | .setting, starts => starts
  | .consume characters, starts => 2 * (starts &&& characters)
  | .assert condition, starts => starts &&& condition
  | .group _ body, starts => endings width body starts
  | .repetition body least most _, starts =>
      let reached := repeatExactly (endings width body) least starts
      repeatUpTo (endings width body) (most.elim width (· - least)) reached reached
  | .sequence items, starts => endingsOfSequence width items starts
  | .alternatives branches, starts => endingsOfBranches width branches starts

/-- The positions where expressions in a row may end. -/
def endingsOfSequence (width : Nat) : List (Expr Positions Positions) → Positions → Positions
  | [], starts => starts
  | first :: rest, starts => endingsOfSequence width rest (endings width first starts)

/-- The positions where one of several expressions may end. -/
def endingsOfBranches (width : Nat) : List (Expr Positions Positions) → Positions → Positions
  | [], _ => 0
  | first :: rest, starts => endings width first starts ||| endingsOfBranches width rest starts

end

/-- Lay a pattern over a text. -/
def layOver (index : TextIndex) (pattern : Expression) : Expr Positions Positions :=
  pattern.map (fun characters => index.before characters.contains) (·.positions index)

/-- Whether a pattern occurs anywhere in a text. -/
def occursIn (pattern : Expression) (text : String) : Bool :=
  let index := TextIndex.ofText text
  endings (index.length + 1) (layOver index pattern) index.all != 0

end TokenPattern.CharPattern
