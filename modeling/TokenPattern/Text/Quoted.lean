import TokenPattern.Unicode.Newcomers

namespace TokenPattern.Text

/-!
# Quoted text

Messages show a text in double quotes. Quotes and backslashes get a backslash,
four control characters have short forms, and characters that could not be
seen, or would join the quote before them, are given by their number.
-/

/-- The sound marks of half-width Katakana, which are drawn as characters of their own. -/
def soundMarks : Unicode.RangeSet :=
  .ofText "ff9e-ff9f"

/-- Characters that are drawn into the character before them. -/
def joining : Unicode.RangeSet :=
  (Unicode.RangeSet.union
    Unicode.BinaryProperty.graphemeExtend
    Unicode.Newcomers.graphemeExtend).difference soundMarks

/-- Controls, formats, separators and code points without a character, but not the space. -/
def blank : Unicode.RangeSet :=
  (Unicode.BinaryProperty.category ["Cc", "Cf", "Co", "Cn", "Zs", "Zl", "Zp"]).difference
    (.union Unicode.Newcomers.all (.ofText "20"))

/-- Characters that leave no mark of their own, among them letters that only fill space. -/
def invisible : Unicode.RangeSet :=
  .unionAll [blank, joining, Unicode.BinaryProperty.defaultIgnorable]

/-- A character's number in hexadecimal, as an escape. -/
def numberEscape (char : Char) : String :=
  "\\u\x7b" ++ String.ofList (Nat.toDigits 16 char.toNat) ++ "\x7d"

/-- What stands for a character inside quotes. -/
def quotedChar (char : Char) : String :=
  match char with
  | '"' => "\\\""
  | '\\' => "\\\\"
  | '\t' => "\\t"
  | '\r' => "\\r"
  | '\n' => "\\n"
  | '\x00' => "\\0"
  | _ => if invisible.contains char then numberEscape char else char.toString

/-- A text in double quotes. -/
def quoted (text : String) : String :=
  "\"" ++ text.foldl (fun shown char => shown ++ quotedChar char) "" ++ "\""

end TokenPattern.Text
