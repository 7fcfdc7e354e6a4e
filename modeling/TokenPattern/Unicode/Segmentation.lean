import TokenPattern.Unicode.BinaryProperty
import TokenPattern.Unicode.Script

namespace TokenPattern.Unicode

/-!
# Segmentation properties

The break properties sort characters by the part they play where text is cut
into graphemes, words and sentences. The standard derives most of their values
from other properties, and the tables below follow its formulas.
-/

namespace Segmentation

/-- The characters with one of the named general categories. -/
def category (names : List String) : RangeSet :=
  GeneralCategory.table.membersOf names

/-- The characters with a binary property. -/
def property (name : String) : RangeSet :=
  BinaryProperty.table.members name

/-- The zero width joiner. -/
def joiner : RangeSet :=
  .ofText "200d"

/-- The carriage return and the line feed. -/
def lineEnds : RangeSet :=
  .ofText "a d"

/-- Hangul syllables of two letters. -/
def hangulPairs : RangeSet :=
  .ofText "ac00-d788/1c"

/-- The values that the three properties give to the same characters. -/
def shared : ValueTable :=
  .ofTexts [
    ("CR", "d"),
    ("LF", "a")
  ]

/-- Characters that stay with the grapheme before them. -/
def graphemeExtend : RangeSet :=
  (RangeSet.union (property "Grapheme_Extend") (property "Emoji_Modifier")).difference joiner

/-- Characters that stay with the word or the sentence before them. -/
def wordExtend : RangeSet :=
  .union graphemeExtend (category ["Mc"])

/-- Code points set aside for format characters to come. -/
def reserved : RangeSet :=
  (property "Default_Ignorable_Code_Point").intersection GeneralCategory.unassigned

/-- The parts that characters play in graphemes. -/
def graphemeTable : ValueTable :=
  shared ++
    .ofSets [
      ("CN Control",
        (RangeSet.union (category ["Cc", "Cf", "Zl", "Zp"]) reserved).difference
          (.unionAll [
            lineEnds,
            joiner,
            property "Grapheme_Extend",
            property "Prepended_Concatenation_Mark"
          ])),
      ("EX Extend", graphemeExtend),
      ("L", .ofText "1100-115f a960-a97c"),
      ("LV", hangulPairs),
      ("LVT", (RangeSet.ofText "ac00-d7a3").difference hangulPairs),
      ("PP Prepend",
        .union
          (property "Prepended_Concatenation_Mark")
          (.ofText "d4e 111c2-111c3 113d1 1193f 11941 11a3a 11a84-11a89 11d46 11f02")),
      ("RI Regional_Indicator", property "Regional_Indicator"),
      ("SM SpacingMark",
        (RangeSet.union (category ["Mc"]) (.ofText "e33 eb3")).difference
          (.union graphemeExtend
            (.ofText "102b-102c 1038 1062-1064 1067-106d 1083 1087-108c 108f 109a-109c 1a61
              1a63-1a64 aa7b aa7d 11720-11721"))),
      ("T", .ofText "11a8-11ff d7cb-d7fb"),
      ("V", .ofText "1160-11a7 d7b0-d7c6 16d63 16d67-16d6a"),
      ("ZWJ", joiner)
    ]

/-- Hebrew letters, as far as words are concerned. -/
def hebrewLetters : RangeSet :=
  .ofText "5d0-5ea 5ef-5f2 fb1d fb1f-fb28 fb2a-fb36 fb38-fb3c fb3e fb40-fb41 fb43-fb44
    fb46-fb4f"

/-- Characters that are written with Katakana. -/
def katakana : RangeSet :=
  .ofText "3031-3035 309b-309c 30a0-30fa 30fc-30ff 31f0-31ff 32d0-32fe 3300-3357 ff66-ff9d
    1aff0-1aff3 1aff5-1affb 1affd-1affe 1b000 1b120-1b122 1b155 1b164-1b167"

/-- Scripts whose words cannot be told apart without a dictionary. -/
def unspacedScripts : RangeSet :=
  Script.table.membersOf
    ["Thai", "Laoo", "Mymr", "Khmr", "Tale", "Talu", "Lana", "Tavt", "Ahom", "Hira", "Kana"]

/-- Letters of words. -/
def wordLetters : RangeSet :=
  .union
    ((property "Alphabetic").difference
      (.unionAll [
        property "Ideographic",
        unspacedScripts,
        katakana,
        hebrewLetters,
        wordExtend
      ]))
    (.ofText "2c2-2c5 2d2-2d7 2de-2df 2e5-2eb 2ed 2ef-2ff 55a-55c 55e 58a 5f3 70f a708-a716
      a720-a721 a789-a78a ab5b")

/-- The mark over Syriac abbreviations, the one concatenation mark that is no number sign. -/
def abbreviationMark : RangeSet :=
  .ofText "70f"

/-- Format characters, without those that have a part of their own. -/
def formats : RangeSet :=
  (category ["Cf"]).difference
    (.unionAll [
      joiner,
      property "Grapheme_Extend",
      property "Prepended_Concatenation_Mark"
    ])

/-- Digits, and the signs that are written before or between them. -/
def numerals : RangeSet :=
  .union
    ((RangeSet.union
      (category ["Nd"])
      (property "Prepended_Concatenation_Mark")).difference abbreviationMark)
    (.ofText "66b-66c 19da")

/-- The parts that characters play in words. -/
def wordTable : ValueTable :=
  shared ++
    .ofSets [
      ("LE ALetter", wordLetters),
      ("DQ Double_Quote", .ofText "22"),
      ("Extend", wordExtend),
      ("EX ExtendNumLet", .ofText "5f 202f 203f-2040 2054 fe33-fe34 fe4d-fe4f ff3f"),
      ("FO Format", formats.difference (.ofText "200b")),
      ("HL Hebrew_Letter", hebrewLetters),
      ("KA Katakana", katakana),
      ("ML MidLetter", .ofText "3a b7 387 55f 5f4 2027 fe13 fe55 ff1a"),
      ("MN MidNum", .ofText "2c 3b 37e 589 60c-60d 66c 7f8 2044 fe50 fe54 ff0c ff1b"),
      ("MB MidNumLet", .ofText "2e 2018-2019 2024 fe52 ff07 ff0e"),
      ("NL Newline", .ofText "b-c 85 2028-2029"),
      ("NU Numeric", numerals.difference (.ofText "66c")),
      ("RI Regional_Indicator", property "Regional_Indicator"),
      ("SQ Single_Quote", .ofText "27"),
      ("WSegSpace", .ofText "20 1680 2000-2006 2008-200a 205f 3000"),
      ("ZWJ", joiner)
    ]

/-- Lower-case letters of sentences. -/
def sentenceLower : RangeSet :=
  (property "Lowercase").difference
    (.union (property "Grapheme_Extend") (.ofText "10d0-10fa 10fd-10ff"))

/-- Upper-case letters of sentences. -/
def sentenceUpper : RangeSet :=
  (RangeSet.union (property "Uppercase") (category ["Lt"])).difference
    (.ofText "1c90-1cba 1cbd-1cbf")

/-- Characters that stay with the sentence before them. -/
def sentenceExtend : RangeSet :=
  .unionAll [property "Grapheme_Extend", category ["Mc"], joiner]

/-- Full stops, which may end a sentence or an abbreviation. -/
def fullStops : RangeSet :=
  .ofText "2e 2024 fe52 ff0e"

/-- The parts that characters play in sentences. -/
def sentenceTable : ValueTable :=
  shared ++
    .ofSets [
      ("AT ATerm", fullStops),
      ("CL Close",
        (RangeSet.unionAll [
          category ["Ps", "Pe", "Pi", "Pf"],
          property "Quotation_Mark",
          .ofText "275b-2760 2e00-2e01 2e06-2e08 2e0b 1f676-1f678"
        ]).difference (.ofText "ff02 ff07")),
      ("EX Extend", sentenceExtend),
      ("FO Format", formats),
      ("LO Lower", sentenceLower),
      ("NU Numeric", numerals),
      ("LE OLetter",
        (RangeSet.union (property "Alphabetic") (.ofText "5f3 70f")).difference
          (.unionAll [sentenceLower, sentenceUpper, sentenceExtend])),
      ("SC SContinue",
        .ofText "2c-2d 3a-3b 37e 55d 60c-60d 7f8 1802 1808 2013-2014 3001 fe10-fe11
          fe13-fe14 fe31-fe32 fe50-fe51 fe54-fe55 fe58 fe63 ff0c-ff0d ff1a-ff1b ff64"),
      ("SE Sep", .ofText "85 2028-2029"),
      ("SP Sp", .ofText "9 b-c 20 a0 1680 2000-200a 202f 205f 3000"),
      ("ST STerm", (property "Sentence_Terminal").difference fullStops),
      ("UP Upper", sentenceUpper)
    ]

end Segmentation

end TokenPattern.Unicode
