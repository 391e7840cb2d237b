import Offside.Listing.Marking
import Offside.Listing.Row

/-! # Listings of diagnostics

A diagnostic is shown as a header, the source lines its span touches with their numbers in a gutter
on the left, a row of marks under each of those lines, and the message as a note. The gutter is wide
enough for every number, so its bar stands in one column.
-/

namespace Offside

namespace Listing

/-- The decimal digits of a number. -/
def digits (n : Nat) : Text := Nat.toDigits 10 n

/-- The width of the gutter for this many lines from a line on: room for every line number and a
space. -/
def gutterWidth (line count : Nat) : Nat := (digits (line + count)).length + 1

/-- The line that parts the gutter from the source. -/
def bar : Piece := ⟨.gutter, ['|']⟩

/-- The empty gutter. -/
def blankGutter (width : Nat) : Row := [⟨.plain, List.replicate width ' '⟩, bar]

/-- The row of a source line: its number, aligned to the left, and its text. -/
def lineRow (width : Nat) (line : SourceLine) : Row :=
  let number := digits line.number
  [⟨.plain, number ++ List.replicate (width - number.length) ' '⟩, bar, ⟨.plain, ' ' :: line.text⟩]

/-- The row of marks under a source line. -/
def markRow (severity : Severity) (width : Nat) (marking : Marking) : Row :=
  blankGutter width ++ [⟨.plain, ' ' :: marking.padding⟩, ⟨.accent severity, marking.marks⟩]

/-- The header: severity, issue and place. -/
def header (diagnostic : Diagnostic) : Row :=
  let title := diagnostic.issue.label
  let path := diagnostic.source.path
  let place := diagnostic.span.place
  [⟨.accent diagnostic.severity, diagnostic.severity.label.toList⟩,
    ⟨.plain, s!": {title} @ {path}:{place}:".toList⟩]

/-- The message, as the last row. -/
def note (diagnostic : Diagnostic) : Row := [⟨.plain, s!"Note: {diagnostic.message}".toList⟩]

/-- All rows of the listing of a diagnostic, given the lines that its span touches. -/
def rows (diagnostic : Diagnostic) (lines : List SourceLine) : List Row :=
  let width := gutterWidth diagnostic.span.line lines.length
  let marked := markLines diagnostic.span.start diagnostic.span.length lines
  [header diagnostic, blankGutter width] ++
    marked.flatMap (fun (line, marking) =>
      [lineRow width line, markRow diagnostic.severity width marking]) ++
    [note diagnostic]

end Listing

/-- The listing of a diagnostic, if its span lies in its source. -/
def Diagnostic.render (colors : Bool) (diagnostic : Diagnostic) : Except Fault Text :=
  let source := diagnostic.source
  let span := diagnostic.span
  if source.contains span.start span.length then
    (source.lines span).map fun lines => Listing.writeRows colors (Listing.rows diagnostic lines)
  else
    .error (.diagnosticOutside source.path span)

end Offside
