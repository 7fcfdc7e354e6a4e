import TokenPattern.Unicode.Age
import TokenPattern.Unicode.BinaryProperty
import TokenPattern.Unicode.Script
import TokenPattern.Unicode.Segmentation

namespace TokenPattern.Unicode

/-!
# Properties by name

A property query is a lone name (`Alphabetic`, `Lu`, `Greek`) or a property
with one of its values (`Script=Greek`). Names are compared loosely.
-/

namespace Property

/-- Loose names that mean a general category although a binary property shares them. -/
def categoryOnlyNames : List String :=
  ["cf", "sc", "lc"]

/--
The characters that a lone name stands for: those with a binary property, a
general category or a script, whichever knows the name first.
-/
def byName? (name : String) : Option RangeSet :=
  let loose := looseName name
  let binary :=
    if categoryOnlyNames.contains loose then none
    else BinaryProperty.table.find? loose
  binary.or ((GeneralCategory.table.find? loose).or (Script.table.find? loose))

/-- The properties that can be asked for one of their values. -/
inductive Valued where
  | generalCategory
  | script
  | scriptExtensions
  | age
  | graphemeBreak
  | wordBreak
  | sentenceBreak
  deriving Repr, DecidableEq

/-- The property with values that a name stands for. -/
def Valued.ofName? (name : String) : Option Valued :=
  match looseName name with
  | "gc" | "generalcategory" => some .generalCategory
  | "sc" | "script" => some .script
  | "scx" | "scriptextensions" => some .scriptExtensions
  | "age" => some .age
  | "gcb" | "graphemeclusterbreak" => some .graphemeBreak
  | "wb" | "wordbreak" => some .wordBreak
  | "sb" | "sentencebreak" => some .sentenceBreak
  | _ => none

/-- The characters that have the named value of the named property. -/
def byValue? (property value : String) : Option RangeSet := do
  let valued ← Valued.ofName? property
  let loose := looseName value
  match valued with
  | .generalCategory => GeneralCategory.table.find? loose
  | .script => Script.table.find? loose
  | .scriptExtensions => Script.extensionTable.find? loose
  | .age => Age.assignedBy.find? loose
  | .graphemeBreak => Segmentation.graphemeTable.find? loose
  | .wordBreak => Segmentation.wordTable.find? loose
  | .sentenceBreak => Segmentation.sentenceTable.find? loose

end Property

end TokenPattern.Unicode
