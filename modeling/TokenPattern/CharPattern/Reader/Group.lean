import TokenPattern.CharPattern.Reader.Escape
import TokenPattern.Unicode.Newcomers

namespace TokenPattern.CharPattern

/-!
# Openings of groups

After an opening parenthesis may stand `?` with a name or with flags. Flags
that close at once are a setting for what follows in the enclosing group;
otherwise they hold for the group that they open. Conditions on the text around
(`?=`, `?!`, `?<=`, `?<!`) are rejected.
-/

/-- What an opening parenthesis turns out to be. -/
inductive Opening where
  | setting (flags : Flags)
  | plainGroup (flags : Flags)
  | capturingGroup
  | namedGroup (name : String)
  deriving Repr

namespace Reader

/-- Letters of all scripts. -/
def letters : Unicode.RangeSet :=
  .union Unicode.BinaryProperty.alphabetic Unicode.Newcomers.alphabetic

/-- Numbers of all scripts. -/
def numbers : Unicode.RangeSet :=
  .union (Unicode.BinaryProperty.category ["N"]) Unicode.Newcomers.numbers

/-- The characters that a group's name may start with. -/
def isNameStart (char : Char) : Bool :=
  char = '_' || letters.contains char

/-- The characters that a group's name may go on with. -/
def isNameChar (char : Char) : Bool :=
  ['_', '.', '[', ']'].contains char || letters.contains char || numbers.contains char

/-- Read a group's name up to the closing angle bracket. -/
def groupName : Reader String := do
  let text ← get
  let name := text.takeWhile (· != '>')
  set (text.dropWhile (· != '>'))
  let _ ← next
  match name with
  | [] => reject
  | first :: rest =>
      require (isNameStart first && rest.all isNameChar)
      return String.ofList name

/-- Read letters of flags; `seen` holds those already read, newest first. -/
def flagLetters : List Char → List Char → Option (List Char × List Char)
  | _, [] => none
  | seen, char :: rest =>
      if char = ':' || char = ')' then
        if seen.head? = some '-' then none else some (seen.reverse, char :: rest)
      else if seen.contains char || !(char = '-' || Flags.letters.contains char) then
        none
      else
        flagLetters (char :: seen) rest

/-- The flags after letters are applied, those after a hyphen switched off. -/
def applyFlags (flags : Flags) (letters : List Char) : Flags :=
  let switchedOn := letters.takeWhile (· != '-')
  let switchedOff := (letters.dropWhile (· != '-')).drop 1
  switchedOff.foldl (·.set false ·) (switchedOn.foldl (·.set true ·) flags)

/-- Read what follows `(?` where flags are expected. -/
def flagOpening (flags : Flags) : Reader Opening := do
  let letters ← (flagLetters [] : Reader (List Char))
  let changed := applyFlags flags letters
  if (← next) = ')' then
    require (!letters.isEmpty)
    return .setting changed
  else
    return .plainGroup changed

/-- Read what follows an opening parenthesis. -/
def groupOpening (flags : Flags) : Reader Opening := do
  skip flags.extended
  let lookAround ← show Reader Bool from do
    let text ← get
    return [['?', '='], ['?', '!'], ['?', '<', '='], ['?', '<', '!']].any (·.isPrefixOf text)
  require (!lookAround)
  if ← accept ['?', 'P', '<'] then
    return .namedGroup (← groupName)
  else if ← accept ['?', '<'] then
    return .namedGroup (← groupName)
  else if ← accept ['?'] then
    flagOpening flags
  else
    return .capturingGroup

end Reader

end TokenPattern.CharPattern
