import Offside.Source.Lines

/-! # Marks under source lines

Under each listed line stand marks for the characters of the span. The character at which the span
starts is marked by a caret and every other by a tilde. Line feeds are never marked and use up none
of the span's length, so what one line leaves unmarked is carried over to the next.
-/

namespace Offside.Listing

/-- What stands under a source line: padding up to the span, then one mark for each character. -/
structure Marking where
  padding : Text
  marks : Text
deriving DecidableEq, Repr

/-- The characters of a text, each with the byte offset at which it starts. -/
def placed (start : Nat) : Text → List (Nat × Char)
  | [] => []
  | c :: rest => (start, c) :: placed (start + c.utf8Size) rest

/-- The padding under a character. Tabs are kept, so that marks stand under their characters. -/
def pad (c : Char) : Char := if c = '\t' then '\t' else ' '

/-- The marking of a line for a span that starts at byte `start` and has `remaining` characters left
to mark. -/
def markLine (start remaining : Nat) (line : PhysicalLine) : Marking :=
  if remaining = 0 then
    ⟨[], []⟩
  else
    let characters := placed line.start line.text
    let before := characters.takeWhile fun (offset, _) => offset < start
    let after := characters.dropWhile fun (offset, _) => offset < start
    ⟨before.map fun (_, c) => pad c,
      (after.take remaining).map fun (offset, _) => if offset = start then '^' else '~'⟩

/-- Lines with their markings, for a span that starts at byte `start` and has `remaining` characters
left to mark. -/
def markLines (start : Nat) : Nat → List SourceLine → List (SourceLine × Marking)
  | _, [] => []
  | remaining, line :: rest =>
    let marking := markLine start remaining line.toPhysicalLine
    (line, marking) :: markLines start (remaining - marking.marks.length) rest

end Offside.Listing
