namespace TokenPattern.Unicode

/-!
# Sets of characters as ranges of code points

A character property of the Unicode standard is a few hundred ranges. A
`RangeSet` keeps them ascending and disjoint, so that a look-up is a binary
search. Tables are written as text: `41-5a` is a range, `aa` one code point and
`100-12e/2` every second code point from the first to the last, all in
hexadecimal.
-/

/-- A closed range of code points. -/
structure CodeRange where
  first : Nat
  last : Nat
  deriving Repr, DecidableEq

/-- The code points that two ranges have in common. -/
def CodeRange.overlap? (left right : CodeRange) : Option CodeRange :=
  let first := max left.first right.first
  let last := min left.last right.last
  if first ≤ last then some ⟨first, last⟩ else none

/-- Ascending, disjoint and not adjacent ranges of code points. -/
structure RangeSet where
  ranges : Array CodeRange
  deriving Repr, DecidableEq

namespace RangeSet

/-- The greatest code point of the standard. -/
def lastCodePoint : Nat := 0x10ffff

/-- The set without members. -/
def empty : RangeSet := ⟨#[]⟩

/-- The value of a hexadecimal digit, and zero for any other character. -/
def hexDigit (digit : Char) : Nat :=
  if '0' ≤ digit ∧ digit ≤ '9' then digit.toNat - '0'.toNat
  else if 'a' ≤ digit ∧ digit ≤ 'f' then digit.toNat - 'a'.toNat + 10
  else if 'A' ≤ digit ∧ digit ≤ 'F' then digit.toNat - 'A'.toNat + 10
  else 0

/-- The value of a hexadecimal numeral. -/
def hexValue (digits : String) : Nat :=
  digits.foldl (fun value digit => 16 * value + hexDigit digit) 0

/-- The ranges that one word of a table stands for. -/
def rangesOfWord (word : String) : List CodeRange :=
  match word.splitOn "/" with
  | [bounds, stride] =>
      match bounds.splitOn "-" with
      | [first, last] =>
          let low := hexValue first
          let step := max 1 (hexValue stride)
          (List.range ((hexValue last - low) / step + 1)).map fun index =>
            ⟨low + index * step, low + index * step⟩
      | _ => []
  | [bounds] =>
      match bounds.splitOn "-" with
      | [first, last] => [⟨hexValue first, hexValue last⟩]
      | [only] => [⟨hexValue only, hexValue only⟩]
      | _ => []
  | _ => []

/-- Append a range that starts no earlier than the last one kept, joining the two when they meet. -/
def appendRange (kept : Array CodeRange) (next : CodeRange) : Array CodeRange :=
  match kept.back? with
  | some previous =>
      if next.first ≤ previous.last + 1 then
        kept.pop.push ⟨previous.first, max previous.last next.last⟩
      else
        kept.push next
  | none => kept.push next

/-- The set of the code points in some of the given ranges, in whatever order they come. -/
def ofRanges (ranges : List CodeRange) : RangeSet :=
  ⟨(ranges.mergeSort fun left right => left.first ≤ right.first).foldl appendRange #[]⟩

/-- The set of the given code points. -/
def ofCodePoints (codes : List Nat) : RangeSet :=
  ofRanges (codes.map fun code => ⟨code, code⟩)

/-- The words of a table, which spaces and line feeds separate. -/
def words (text : String) : List String :=
  ((text.splitOn "\n").flatMap (·.splitOn " ")).filter (· ≠ "")

/-- Read a set from the text of a table. -/
def ofText (text : String) : RangeSet :=
  ofRanges ((words text).flatMap rangesOfWord)

/-- The members of either set. -/
def union (left right : RangeSet) : RangeSet :=
  ofRanges (left.ranges.toList ++ right.ranges.toList)

/-- The members of any of the sets. -/
def unionAll (sets : List RangeSet) : RangeSet :=
  ofRanges (sets.flatMap fun set => set.ranges.toList)

/-- The gaps between ascending ranges, from the given code point on. -/
def gaps : Nat → List CodeRange → List CodeRange
  | next, [] =>
      if next ≤ lastCodePoint then [⟨next, lastCodePoint⟩] else []
  | next, range :: rest =>
      if next < range.first then
        ⟨next, range.first - 1⟩ :: gaps (range.last + 1) rest
      else
        gaps (range.last + 1) rest

/-- The code points that are not in the set. -/
def complement (set : RangeSet) : RangeSet :=
  ⟨(gaps 0 set.ranges.toList).toArray⟩

/-- The members of the first set that are not in the second. -/
def difference (left right : RangeSet) : RangeSet :=
  (union left.complement right).complement

/-- The common members of two sets. -/
def intersection (left right : RangeSet) : RangeSet :=
  (union left.complement right.complement).complement

/-- The ranges of code points before and behind the surrogates, which are no characters. -/
def characterRanges : List CodeRange :=
  [⟨0, 0xd7ff⟩, ⟨0xe000, lastCodePoint⟩]

/-- The members that are characters. -/
def characters (set : RangeSet) : RangeSet :=
  ⟨set.ranges.flatMap fun range => (characterRanges.filterMap range.overlap?).toArray⟩

/-- The number of members. -/
def count (set : RangeSet) : Nat :=
  set.ranges.foldl (fun total range => total + (range.last + 1 - range.first)) 0

/-- The members in ascending order. -/
def codePoints (set : RangeSet) : List Nat :=
  set.ranges.toList.flatMap fun range =>
    (List.range (range.last + 1 - range.first)).map (range.first + ·)

/-- The only member of a set that has exactly one. -/
def only? (set : RangeSet) : Option Nat :=
  match set.ranges with
  | #[range] => if range.first = range.last then some range.first else none
  | _ => none

/-- Whether all members are ASCII characters. -/
def isAscii (set : RangeSet) : Bool :=
  set.ranges.back?.all (·.last < 0x80)

/-- Binary search for the range of a code point among the ranges from `low` up to `high`. -/
def search
    (ranges : Array CodeRange)
    (code : Nat)
    (low high : Nat) :
    Bool :=
  if low < high then
    let middle := low + (high - low) / 2
    match ranges[middle]? with
    | some range =>
        if code < range.first then search ranges code low middle
        else if range.last < code then search ranges code (middle + 1) high
        else true
    | none => false
  else
    false
termination_by high - low

/-- Whether a character is in the set. -/
def contains (set : RangeSet) (char : Char) : Bool :=
  search set.ranges char.toNat 0 set.ranges.size

/-- The number of ranges. -/
def size (set : RangeSet) : Nat :=
  set.ranges.size

end RangeSet

end TokenPattern.Unicode
