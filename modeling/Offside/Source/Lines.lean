import Offside.Source.Position

/-! # The lines a span touches

A physical line is a line of the text with the byte offset at which it starts. The lines listed for
a span begin with the one that holds its start. From a line whose end lies before the end of the
span, the listing goes on: to a next line that is itself terminated in any case, and to the last
line of the text only if the span covers some of it.
-/

namespace Offside

/-- A line of a text: where it starts, its characters, and whether a line feed ends it. -/
structure PhysicalLine where
  start : Nat
  text : Text
  terminated : Bool
deriving DecidableEq, Repr

namespace PhysicalLine

/-- The byte offset at which the characters of the line end, and its line feed stands, if any. -/
def stop (line : PhysicalLine) : Nat := line.start + Text.byteLength line.text

/-- Lays out lines one after the other from a byte offset on, with a line feed after all but the
last. -/
def layout (start : Nat) : List Text → List PhysicalLine
  | [] => []
  | [text] => [⟨start, text, false⟩]
  | text :: next :: rest =>
    ⟨start, text, true⟩ :: layout (start + Text.byteLength text + 1) (next :: rest)

/-- The lines to list for a span that starts in the first of them and ends before byte `stop`. -/
def listedUpTo (stop : Nat) : List PhysicalLine → List PhysicalLine
  | [] => []
  | [line] => [line]
  | line :: next :: rest =>
    if line.stop < stop ∧ (next.terminated ∨ next.start < stop) then
      line :: listedUpTo stop (next :: rest)
    else
      [line]

end PhysicalLine

/-- A physical line with the number shown for it. -/
structure SourceLine extends PhysicalLine where
  number : Nat
deriving DecidableEq, Repr

namespace Source

/-- The lines of the whole source. -/
def physicalLines (source : Source) : List PhysicalLine :=
  PhysicalLine.layout 0 (Text.splitLines source.text)

/-- The lines to list for a span, numbered from the span's own line on. -/
def lines (source : Source) (span : Span) : Except Fault (List SourceLine) :=
  match source.splitAt? span.start with
  | none => .error (.spanStartsOutside source.path span)
  | some (_, rest) =>
    if rest.length < span.length then
      .error (.spanRunsPast source.path span)
    else
      let covered := rest.take span.length
      if span.line + covered.count '\n' ≤ Text.counterLimit then
        let fromStart := source.physicalLines.dropWhile fun line => line.stop < span.start
        let listed := PhysicalLine.listedUpTo (span.start + Text.byteLength covered) fromStart
        .ok (listed.mapIdx fun offset line => ⟨line, span.line + offset⟩)
      else
        .error .counterOverflow

end Source

end Offside
