/-! # Spans

A span names a run of characters by the byte at which it starts and the number of characters it
covers, together with the line and column of its start. Whether it lies in a given text is a matter
for the text.
-/

namespace Offside

/-- A run of characters and the place where it starts, lines and columns counting from one. -/
structure Span where
  start : Nat
  length : Nat
  line : Nat
  column : Nat
deriving DecidableEq, Repr

namespace Span

/-- Lengths are held in 64 bits. -/
def lengthLimit : Nat := UInt64.size - 1

/-- The span that covers nothing at a place. -/
def point (start line column : Nat) : Span := ⟨start, 0, line, column⟩

/-- Whether the span covers no character. -/
def isEmpty (span : Span) : Bool := span.length = 0

/-- The span made longer by `extra` characters, if its length can still be held. -/
def extend? (span : Span) (extra : Nat) : Option Span :=
  if span.length + extra ≤ lengthLimit then
    some { span with length := span.length + extra }
  else
    none

/-- The order of two spans by where they start. -/
def compareStart (left right : Span) : Ordering := compare left.start right.start

/-- The place of the span as readers are told it. -/
def place (span : Span) : String := s!"{span.line}:{span.column}"

/-- All fields of the span, as fault messages show them. -/
def describe (span : Span) : String :=
  s!"Span \x7b start: @{span.start}, len: {span.length}, line: {span.line}, " ++
    s!"column: {span.column} \x7d"

end Span

end Offside
