import TokenPattern.Unicode.BinaryProperty

namespace TokenPattern.CharPattern

/-!
# Named sets of characters

The one-letter classes `\d`, `\s`, `\w` and the bracketed names such as
`[:alpha:]`. The one-letter classes follow the Unicode properties or, where
Unicode is switched off, ASCII; the bracketed names are ASCII always.
-/

open Unicode (RangeSet)

/-- The sets with a name in brackets. -/
def namedClass? (name : String) : Option RangeSet :=
  match name with
  | "alnum" => some (.ofText "30-39 41-5a 61-7a")
  | "alpha" => some (.ofText "41-5a 61-7a")
  | "ascii" => some (.ofText "0-7f")
  | "blank" => some (.ofText "9 20")
  | "cntrl" => some (.ofText "0-1f 7f")
  | "digit" => some (.ofText "30-39")
  | "graph" => some (.ofText "21-7e")
  | "lower" => some (.ofText "61-7a")
  | "print" => some (.ofText "20-7e")
  | "punct" => some (.ofText "21-2f 3a-40 5b-60 7b-7e")
  | "space" => some (.ofText "9-d 20")
  | "upper" => some (.ofText "41-5a")
  | "word" => some (.ofText "30-39 41-5a 5f 61-7a")
  | "xdigit" => some (.ofText "30-39 41-46 61-66")
  | _ => none

/-- Decimal digits of all scripts. -/
def digits : RangeSet :=
  Unicode.BinaryProperty.category ["Nd"]

/-- White space of all scripts. -/
def whiteSpace : RangeSet :=
  Unicode.BinaryProperty.members "White_Space"

/-- Characters of words: letters, marks, decimal digits, connectors and joiners. -/
def wordCharacters : RangeSet :=
  .unionAll [
    Unicode.BinaryProperty.alphabetic,
    Unicode.BinaryProperty.category ["M", "Nd", "Pc"],
    Unicode.BinaryProperty.members "Join_Control"
  ]

/-- ASCII decimal digits. -/
def asciiDigits : RangeSet :=
  .ofText "30-39"

/-- ASCII white space. -/
def asciiWhiteSpace : RangeSet :=
  .ofText "9-d 20"

/-- ASCII letters, digits and the underscore. -/
def asciiWordCharacters : RangeSet :=
  .ofText "30-39 41-5a 5f 61-7a"

end TokenPattern.CharPattern
