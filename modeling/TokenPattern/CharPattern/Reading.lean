import TokenPattern.CharPattern.Machine.Layout
import TokenPattern.CharPattern.Reader.Bracket
import TokenPattern.CharPattern.Reader.Group

namespace TokenPattern.CharPattern

/-!
# Reading a character pattern

A pattern is read from the left with a stack of the groups that are open.
`read?` gives its expression, or nothing for a text that is no pattern, that is
nested too deeply or whose machine would be too large.
-/

/-- The expressions that are read. -/
abbrev Expression := Expr CharClass Assertion

/-- What has been read of a group. -/
structure Draft where
  /-- The branches before the current one, newest first. -/
  branches : List Expression
  /-- The items of the current branch, newest first. -/
  items : List Expression

namespace Draft

/-- Nothing has been read yet. -/
def empty : Draft :=
  ⟨[], []⟩

/-- Add an item to the current branch. -/
def push (draft : Draft) (item : Expression) : Draft :=
  { draft with items := item :: draft.items }

/-- Start another branch. -/
def branch (draft : Draft) : Draft :=
  ⟨.ofSequence draft.items.reverse :: draft.branches, []⟩

/-- The expression of all that has been read. -/
def finish (draft : Draft) : Expression :=
  .ofAlternatives (draft.branch.branches.reverse)

end Draft

/-- A group that is still open. -/
structure OpenGroup where
  capturing : Bool
  /-- The flags to come back to when the group closes. -/
  flags : Flags
  /-- What has been read of the group around it. -/
  outer : Draft

/-- What a reader of patterns knows between two items. -/
structure Progress where
  flags : Flags
  draft : Draft
  groups : List OpenGroup
  names : List String

namespace Reader

/-- The class of the dot. -/
def dot (flags : Flags) : Reader CharClass := do
  require flags.unicode
  if flags.dotAll then return .all
  else if flags.crlf then return .item (.ofText "a d") .exact true
  else return .item (.ofText "a") .exact true

/-- The condition of `^`. -/
def startAssertion (flags : Flags) : Assertion :=
  if !flags.multiLine then .textStart
  else if flags.crlf then .lineStartCrlf
  else .lineStart

/-- The condition of `$`. -/
def endAssertion (flags : Flags) : Assertion :=
  if !flags.multiLine then .textEnd
  else if flags.crlf then .lineEndCrlf
  else .lineEnd

/-- A character taken for itself, or for its case variants where the flags say so. -/
def literal (flags : Flags) (char : Char) : Expression :=
  .consume (.single flags.caseRule char)

/-- Read an item that is no group, class or repetition. -/
def primitive (flags : Flags) : Reader Expression := do
  let char ← next
  match char with
  | '.' => return .consume (← dot flags)
  | '^' => return .assert (startAssertion flags)
  | '$' => return .assert (endAssertion flags)
  | '\\' =>
      match ← escape flags with
      | .literal char => return literal flags char
      | .charClass characters => return .consume characters
      | .assertion condition => return .assert condition
  | _ => return literal flags char

/-- Take back the last item so that it can be repeated; a setting of flags cannot. -/
def takeRepeated (draft : Draft) : Reader (Expression × Draft) :=
  match draft.items with
  | [] => reject
  | .setting :: _ => reject
  | item :: items => pure (item, { draft with items := items })

/-- Repeat the last item; a question mark next says that few repetitions are preferred. -/
def repeatLast
    (flags : Flags)
    (draft : Draft)
    (least : Nat)
    (most : Option Nat) :
    Reader Draft := do
  let (item, draft) ← takeRepeated draft
  let marked ← accept ['?']
  return draft.push (.repetition item least most (marked != flags.swapGreed))

/-- The greatest number in a counted repetition. -/
def greatestCount : Nat := 0xffffffff

/-- Read a decimal number, with white space around it. -/
def decimal (extended : Bool) : Reader Nat := do
  skipWhiteSpace
  let digits ← takeWhileSkipping extended Char.isDigit
  let _ ← takeWhileSkipping extended whiteSpace.contains
  require (!digits.isEmpty)
  let value := digits.foldl (fun value digit => 10 * value + (digit.toNat - '0'.toNat)) 0
  require (value ≤ greatestCount)
  return value

/-- Read the bounds of a counted repetition after its opening brace. -/
def bounds (extended : Bool) : Reader (Nat × Option Nat) := do
  let least ← decimal extended
  if (← peek) = some ',' then
    let _ ← nextSkipping extended
    if (← peek) = some '\x7d' then
      return (least, none)
    else
      let most ← decimal extended
      require (least ≤ most)
      return (least, some most)
  else
    return (least, some least)

/-- Read a counted repetition of the last item. -/
def countedRepetition (flags : Flags) (draft : Draft) : Reader Draft := do
  let _ ← nextSkipping flags.extended
  let (least, most) ← bounds flags.extended
  require ((← next) = '\x7d')
  skip flags.extended
  repeatLast flags draft least most

/-- Open a group, or apply a setting of flags. -/
def openGroup (progress : Progress) : Reader Progress := do
  match ← groupOpening progress.flags with
  | .setting flags =>
      return { progress with flags := flags, draft := progress.draft.push .setting }
  | .plainGroup flags =>
      let group : OpenGroup := ⟨false, progress.flags, progress.draft⟩
      return {
        progress with
        flags := flags
        draft := .empty
        groups := group :: progress.groups
      }
  | .capturingGroup =>
      let group : OpenGroup := ⟨true, progress.flags, progress.draft⟩
      return { progress with draft := .empty, groups := group :: progress.groups }
  | .namedGroup name =>
      require (!progress.names.contains name)
      let group : OpenGroup := ⟨true, progress.flags, progress.draft⟩
      return {
        progress with
        draft := .empty
        groups := group :: progress.groups
        names := name :: progress.names
      }

/-- Close the innermost group. -/
def closeGroup (progress : Progress) : Reader Progress :=
  match progress.groups with
  | [] => reject
  | group :: groups =>
      return {
        progress with
        flags := group.flags
        draft := group.outer.push (.group group.capturing progress.draft.finish)
        groups := groups
      }

/-- Read the next item of a pattern. -/
def item (progress : Progress) : Reader Progress := do
  let withDraft := fun (draft : Draft) => { progress with draft := draft }
  match ← peek with
  | some '(' =>
      let _ ← next
      openGroup progress
  | some ')' =>
      let _ ← next
      closeGroup progress
  | some '|' =>
      let _ ← next
      return withDraft progress.draft.branch
  | some '[' =>
      return withDraft (progress.draft.push (.consume (← bracketClass progress.flags)))
  | some '?' =>
      let _ ← next
      return withDraft (← repeatLast progress.flags progress.draft 0 (some 1))
  | some '*' =>
      let _ ← next
      return withDraft (← repeatLast progress.flags progress.draft 0 none)
  | some '+' =>
      let _ ← next
      return withDraft (← repeatLast progress.flags progress.draft 1 none)
  | some '\x7b' =>
      return withDraft (← countedRepetition progress.flags progress.draft)
  | _ =>
      return withDraft (progress.draft.push (← primitive progress.flags))

/-- Read items to the end of the text. Every item consumes a character, which bounds the fuel. -/
def items : Nat → Progress → Reader Progress
  | 0, _ => reject
  | fuel + 1, progress => do
      skip progress.flags.extended
      if ← atEnd then return progress
      else items fuel (← item progress)

end Reader

/-- The deepest nesting of a pattern that is accepted. -/
def nestingLimit : Nat := 250

/-- Read the expression of a pattern, whatever its depth and size. -/
def readUnlimited? (source : String) : Option Expression := do
  let text := source.toList
  let start : Progress := ⟨{}, .empty, [], []⟩
  let (progress, _) ← (Reader.items (text.length + 1) start).run text
  if progress.groups.isEmpty then some progress.draft.finish else none

/-- Read a pattern that is neither nested too deeply nor too large. -/
def read? (source : String) : Option Expression :=
  (readUnlimited? source).filter fun pattern =>
    pattern.depth CharClass.depth ≤ nestingLimit &&
      (Machine.Blueprint.ofExpr pattern).isWithinLimit

end TokenPattern.CharPattern
