import TokenPattern.Unicode.RangeSet

namespace TokenPattern.Unicode

/-!
# Named values of a character property

The standard names the values of a property (`Lu` and `Uppercase_Letter`) and
asks that names be compared loosely: case, spaces, hyphens, underscores and a
leading `is` do not count.
-/

/-- One value of a property: its names and the characters that have it. -/
structure PropertyValue where
  names : List String
  members : RangeSet

/-- The values of a property. -/
abbrev ValueTable := List PropertyValue

/--
What counts of a name: its ASCII characters in lower case, without blanks,
hyphens and underscores.
-/
def significantName (name : String) : String :=
  String.ofList
    ((name.toList.filter fun char =>
        char.val < 128 && char != ' ' && char != '_' && char != '-').map Char.toLower)

/-- Whether a name starts with `is`, in any case. -/
def startsWithIs (name : String) : Bool :=
  match name.toList with
  | first :: second :: _ => first.toLower == 'i' && second.toLower == 's'
  | _ => false

/--
The form in which names are compared.

A leading `is` is dropped unless that leaves the lone letter `c`, which would
turn one name of the standard (`isc`) into another.
-/
def looseName (name : String) : String :=
  if startsWithIs name then
    let rest := significantName (String.ofList (name.toList.drop 2))
    if rest == "c" then "isc" else rest
  else
    significantName name

/-- Whether a loosely compared name is one of the value's names. -/
def PropertyValue.isNamed (value : PropertyValue) (loose : String) : Bool :=
  value.names.any fun name => significantName name == loose

namespace ValueTable

/-- A table from pairs of names, separated by spaces, and sets. -/
def ofSets (entries : List (String × RangeSet)) : ValueTable :=
  entries.map fun (names, members) => ⟨names.splitOn " ", members⟩

/-- A table from pairs of names, separated by spaces, and range texts. -/
def ofTexts (entries : List (String × String)) : ValueTable :=
  ofSets (entries.map fun (names, text) => (names, .ofText text))

/-- The characters that have the value of a loosely compared name. -/
def find? (table : ValueTable) (loose : String) : Option RangeSet :=
  (List.find? (fun value => value.isNamed loose) table).map (·.members)

/-- The characters that have the value of a name, and none for an unknown name. -/
def members (table : ValueTable) (name : String) : RangeSet :=
  (table.find? (significantName name)).getD .empty

/-- The characters that have one of the named values. -/
def membersOf (table : ValueTable) (names : List String) : RangeSet :=
  .unionAll (names.map (members table))

end ValueTable

end TokenPattern.Unicode
