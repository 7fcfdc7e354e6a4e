namespace TokenPattern

/-!
# Spans

A span is a part of a pattern's text, given by the byte offsets of its ends.
-/

/-- The part of a text from one byte offset up to another. -/
structure Span where
  start : Nat
  stop : Nat
  deriving Repr, DecidableEq

namespace Span

/-- The empty span at an offset. -/
def point (offset : Nat) : Span :=
  ⟨offset, offset⟩

/-- The span as it appears in messages. -/
def text (span : Span) : String :=
  s!"{span.start}..{span.stop}"

/-- An offset, spelled out. -/
def describeOffset (offset : Nat) : String :=
  s!"Position \x7b offset: {offset} \x7d"

/-- The span with its two offsets spelled out. -/
def describe (span : Span) : String :=
  s!"Span({describeOffset span.start}, {describeOffset span.stop})"

end Span

end TokenPattern
