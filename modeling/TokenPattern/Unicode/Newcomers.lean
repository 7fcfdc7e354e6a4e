import TokenPattern.Unicode.BinaryProperty

namespace TokenPattern.Unicode

/-!
# Newcomers

Character patterns follow version 16 of the standard, and so do the other
tables. What is asked of a character outside of patterns (whether it can be
seen, whether a group's name may hold it) follows version 17, and this table
lists the code points that this version was the first to assign.
-/

namespace Newcomers

/-- The newcomers of each general category. -/
def table : ValueTable :=
  .ofTexts [
    ("Lu", "a7ce a7d2 a7d4 16ea0-16eb8"),
    ("Ll", "a7cf 16ebb-16ed3"),
    ("Lm", "a7f1 10ec5 11dd9 16ff2-16ff3 1e6ff"),
    ("Lo",
      "88f c5c cdc 10940-10959 10ec6-10ec7 11db0-11dd8 11dda-11ddb 187f8-187ff 18d09-18d1e
       18d80-18df2 1e6c0-1e6de 1e6e0-1e6e2 1e6e4-1e6e5 1e6e7-1e6ed 1e6f0-1e6f4 1e6fe
       2b73a-2b73f 2cea2-2cead 323b0-33479"),
    ("Mn",
      "1acf-1add 1ae0-1aeb 10efa-10efb 11b60 11b62-11b64 11b66 1e6e3 1e6e6 1e6ee-1e6ef
       1e6f5"),
    ("Mc", "11b61 11b65 11b67"),
    ("Nd", "11de0-11de9"),
    ("Nl", "16ff4-16ff6"),
    ("Po", "10ed0"),
    ("Sm", "1cef0 1f8d0-1f8d8"),
    ("Sc", "20c1"),
    ("So",
      "2b96 fbc3-fbd2 fd90-fd91 fdc8-fdce 10ed1-10ed8 1ccfa-1ccfc 1ceba-1ced0 1cee0-1ceef
       1f6d8 1f777-1f77a 1fa54-1fa57 1fa8a 1fa8e 1fac8 1facd 1faea 1faef 1fbfa")
  ]

/-- All newcomers. -/
def all : RangeSet :=
  .unionAll (table.map (·.members))

/-- The newcomers that extend the grapheme before them. -/
def graphemeExtend : RangeSet :=
  table.members "Mn"

/-- The marks among the newcomers that count as letters. -/
def alphabeticMarks : RangeSet :=
  .ofText "10efa-10efb 11b60-11b67 1e6e3 1e6e6 1e6ee-1e6ef 1e6f5"

/-- The newcomers that are letters or count as such. -/
def alphabetic : RangeSet :=
  .union (table.membersOf ["Lu", "Ll", "Lm", "Lo", "Nl"]) alphabeticMarks

/-- The newcomers that are numbers. -/
def numbers : RangeSet :=
  table.membersOf ["Nd", "Nl"]

end Newcomers

end TokenPattern.Unicode
