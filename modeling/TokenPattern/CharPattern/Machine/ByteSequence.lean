import TokenPattern.Unicode.RangeSet

namespace TokenPattern.CharPattern.Machine

/-!
# Characters as sequences of bytes

A machine reads the UTF-8 form of a text byte by byte. A set of characters is
therefore split into sequences of byte ranges: each sequence stands for all
strings of bytes that take one byte from each of its ranges. The sequences of a
set come in ascending order.
-/

open Unicode (CodeRange RangeSet)

/-- A closed range of bytes. -/
structure ByteRange where
  first : UInt8
  last : UInt8
  deriving Repr, DecidableEq

/-- The bytes of the UTF-8 form of a code point. -/
def bytesOf (code : Nat) : List UInt8 :=
  String.utf8EncodeChar (Char.ofNat code)

/-- Ranges of characters whose UTF-8 forms are equally long, with the surrogates left out. -/
def equallyLong : List CodeRange :=
  [⟨0, 0x7f⟩, ⟨0x80, 0x7ff⟩, ⟨0x800, 0xd7ff⟩, ⟨0xe000, 0xffff⟩, ⟨0x10000, 0x10ffff⟩]

/-- The numbers of code points that share all bytes but the last one, two or three. -/
def blockSizes : List Nat :=
  [64, 64 * 64, 64 * 64 * 64]

/--
Cut a range where it covers a block of code points only in part, block size by
block size, so that every piece is one sequence of byte ranges.
-/
def cutAtBlocks : List Nat → CodeRange → List CodeRange
  | [], range => [range]
  | block :: larger, range =>
      if range.first / block = range.last / block then
        [range]
      else
        let firstWhole := (range.first + block - 1) / block * block
        let wholeEnd := (range.last + 1) / block * block
        let front := if range.first < firstWhole then [⟨range.first, firstWhole - 1⟩] else []
        let middle :=
          if firstWhole < wholeEnd then cutAtBlocks larger ⟨firstWhole, wholeEnd - 1⟩ else []
        let back := if wholeEnd ≤ range.last then [⟨wholeEnd, range.last⟩] else []
        front ++ middle ++ back

/-- The byte ranges between the UTF-8 forms of the ends of a piece. -/
def sequenceOfPiece (piece : CodeRange) : List ByteRange :=
  List.zipWith ByteRange.mk (bytesOf piece.first) (bytesOf piece.last)

/-- The sequences of a range of code points. -/
def sequencesOfRange (range : CodeRange) : List (List ByteRange) :=
  (equallyLong.filterMap range.overlap?).flatMap fun part =>
    (cutAtBlocks (if part.last < 0x80 then [] else blockSizes) part).map sequenceOfPiece

/-- The sequences of a set of characters. -/
def sequencesOfSet (set : RangeSet) : List (List ByteRange) :=
  set.ranges.toList.flatMap sequencesOfRange

end TokenPattern.CharPattern.Machine
