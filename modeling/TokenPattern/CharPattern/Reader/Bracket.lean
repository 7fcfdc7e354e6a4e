import TokenPattern.CharPattern.Reader.Escape

namespace TokenPattern.CharPattern

/-!
# Classes in brackets

Inside brackets stand characters, ranges, classes with a name and further
brackets; `&&`, `--` and `~~` join what stands around them, from the left and
with equal strength. A hyphen or a closing bracket right after the opening one
is taken for itself.
-/

open Unicode (RangeSet)

/-- A bracket that is still open. -/
structure OpenBracket where
  negated : Bool
  /-- The operator that waits for its right operand, and the left one. -/
  pending : Option (SetOperator × CharClass)
  /-- The items of the current operand, newest first. -/
  items : List CharClass

namespace OpenBracket

/-- The operand that the items form. -/
def operand (bracket : OpenBracket) : CharClass :=
  match bracket.items with
  | [only] => only
  | items => .union items.reverse

/-- The class read so far, with a waiting operator applied. -/
def body (bracket : OpenBracket) : CharClass :=
  match bracket.pending with
  | some (operator, left) => .operation operator left bracket.operand
  | none => bracket.operand

/-- Add an item to the current operand. -/
def push (bracket : OpenBracket) (item : CharClass) : OpenBracket :=
  { bracket with items := item :: bracket.items }

/-- Start the right operand of an operator. -/
def operate (bracket : OpenBracket) (operator : SetOperator) : OpenBracket :=
  { bracket with pending := some (operator, bracket.body), items := [] }

end OpenBracket

namespace Reader

/-- Read a name such as `[:alpha:]` or `[:^alpha:]` from the front of a text. -/
def bracketName? : List Char → Option (RangeSet × Bool × List Char)
  | '[' :: ':' :: text =>
      let negated := text.head? = some '^'
      let text := if negated then text.drop 1 else text
      match text.dropWhile (· != ':') with
      | ':' :: ']' :: rest =>
          (namedClass? (String.ofList (text.takeWhile (· != ':')))).map fun members =>
            (members, negated, rest)
      | _ => none
  | _ => none

/-- A character inside a class, which without Unicode has to be ASCII. -/
def requireClassChar (flags : Flags) (char : Char) : Reader Unit :=
  require (flags.unicode || char.val < 128)

/-- Read a character or an escape inside a class. -/
def classAtom (flags : Flags) : Reader Escape := do
  let char ← next
  if char = '\\' then escape flags else return .literal char

/-- The character that an end of a range stands for. -/
def rangeEnd (flags : Flags) : Escape → Reader Char
  | .literal char => do
      requireClassChar flags char
      return char
  | _ => reject

/-- Read a character, a range or an escaped class. -/
def classItem (flags : Flags) : Reader CharClass := do
  let first ← classAtom flags
  skip flags.extended
  let following ← peek
  require following.isSome
  let second ← peekSecond flags.extended
  if following ≠ some '-' ∨ second = some ']' ∨ second = some '-' then
    match first with
    | .literal char =>
        requireClassChar flags char
        return .single flags.caseRule char
    | .charClass items => return items
    | .assertion _ => reject
  else
    let _ ← nextSkipping flags.extended
    let low ← rangeEnd flags first
    let high ← rangeEnd flags (← classAtom flags)
    require (low ≤ high)
    return .range flags.caseRule low high

/-- The hyphens right after an opening bracket, as items. -/
def leadingHyphens (flags : Flags) : Reader (List CharClass) := do
  let hyphens ← takeWhileSkipping flags.extended (· == '-')
  return hyphens.map (CharClass.single flags.caseRule)

/-- Read an opening bracket and what has a meaning of its own right after it. -/
def openBracket (flags : Flags) : Reader OpenBracket := do
  let _ ← nextSkipping flags.extended
  let negated := (← peek) = some '^'
  if negated then
    let _ ← nextSkipping flags.extended
  let hyphens ← leadingHyphens flags
  if hyphens.isEmpty && (← peek) = some ']' then
    let _ ← nextSkipping flags.extended
    return ⟨negated, none, [.single flags.caseRule ']']⟩
  else
    return ⟨negated, none, hyphens⟩

/-- The class of a bracket that closes; without Unicode it may only hold ASCII. -/
def closeBracket (flags : Flags) (bracket : OpenBracket) : Reader CharClass := do
  let charClass := CharClass.bracket bracket.negated bracket.body
  require (flags.unicode || charClass.members.isAscii)
  return charClass

/-- The operators between operands, as written. -/
def setOperators : List (List Char × SetOperator) :=
  [
    (['&', '&'], .intersection),
    (['-', '-'], .difference),
    (['~', '~'], .symmetricDifference)
  ]

/-- Read an operator if one comes next. -/
def setOperator? : Reader (Option SetOperator) := fun text =>
  match setOperators.find? fun (written, _) => written.isPrefixOf text with
  | some (written, operator) => some (some operator, text.drop written.length)
  | none => some (none, text)

/-- Read a name in brackets if one comes next. -/
def bracketName (flags : Flags) : Reader (Option CharClass) := fun text =>
  match bracketName? text with
  | some (members, negated, rest) =>
      if flags.unicode || !negated then
        some (some (.item members flags.caseRule negated), rest)
      else
        none
  | none => some (none, text)

/--
Read on inside brackets until the outermost one closes.

Every round consumes a character, so the length of the text is enough fuel.
-/
def insideBrackets
    (flags : Flags) :
    Nat →
    OpenBracket →
    List OpenBracket →
    Reader CharClass
  | 0, _, _ => reject
  | fuel + 1, current, outer => do
      skip flags.extended
      match ← bracketName flags with
      | some item => insideBrackets flags fuel (current.push item) outer
      | none =>
          match ← peek with
          | some '[' =>
              let inner ← openBracket flags
              insideBrackets flags fuel inner (current :: outer)
          | some ']' =>
              let _ ← next
              let closed ← closeBracket flags current
              match outer with
              | [] => return closed
              | enclosing :: rest => insideBrackets flags fuel (enclosing.push closed) rest
          | _ =>
              match ← setOperator? with
              | some operator => insideBrackets flags fuel (current.operate operator) outer
              | none =>
                  let item ← classItem flags
                  insideBrackets flags fuel (current.push item) outer

/-- Read a class in brackets from its opening bracket on. -/
def bracketClass (flags : Flags) : Reader CharClass := do
  let outermost ← openBracket flags
  insideBrackets flags ((← get).length + 1) outermost []

end Reader

end TokenPattern.CharPattern
