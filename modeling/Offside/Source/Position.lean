import Offside.Fault
import Offside.Source.Basic
import Offside.Text.Line

/-! # Positions in a source

A position is a byte offset that falls between two characters of the text, its two ends included.
Every operation cuts the text at the position and then works on the characters that follow, so
lengths and distances count characters whatever their size in bytes.
-/

namespace Offside.Source

/-- The text before and after a position. -/
def splitAt? (source : Source) (position : Nat) : Option (Text × Text) :=
  Text.splitAtByte? position source.text

/-- Whether a byte offset is a position of the source. -/
def isPosition (source : Source) (position : Nat) : Bool := (source.splitAt? position).isSome

/-- The positions are the sizes of the texts with which the source can begin. -/
theorem isPosition_iff {source : Source} {position : Nat} :
    source.isPosition position = true ↔
      ∃ before after, source.text = before ++ after ∧ Text.byteLength before = position := by
  simp only [isPosition, splitAt?, Option.isSome_iff_exists, Prod.exists,
    Text.splitAtByte?_eq_some_iff]

/-- The text from a position on. -/
def restFrom (source : Source) (position : Nat) : Except Fault Text :=
  match source.splitAt? position with
  | some (_, rest) => .ok rest
  | none => .error (.offBoundary source.path position)

/-- There is a text from a byte offset on exactly when the offset is a position. -/
theorem restFrom_eq_ok_iff {source : Source} {position : Nat} {rest : Text} :
    source.restFrom position = .ok rest ↔
      ∃ before, source.text = before ++ rest ∧ Text.byteLength before = position := by
  unfold restFrom splitAt?
  cases cut : Text.splitAtByte? position source.text with
  | none =>
    simp only [reduceCtorEq, false_iff, not_exists]
    rintro before ⟨joined, rfl⟩
    rw [joined, Text.splitAtByte?_append] at cut
    contradiction
  | some parts =>
    obtain ⟨before, after⟩ := parts
    obtain ⟨joined, size⟩ := Text.eq_append_of_splitAtByte? cut
    simp only [Except.ok.injEq]
    constructor
    · rintro rfl
      exact ⟨before, joined, size⟩
    · rintro ⟨other, rejoined, resize⟩
      rw [Text.splitAtByte?_eq_some_iff.2 ⟨rejoined, resize⟩] at cut
      exact (Prod.mk.inj (Option.some.inj cut)).2.symm

/-- The character at a position, if it is not the end. -/
def charAt (source : Source) (position : Nat) : Except Fault (Option Char) :=
  (source.restFrom position).map List.head?

/-- The position `count` characters further on, or the end if there are fewer. -/
def advance (source : Source) (position count : Nat) : Except Fault Nat :=
  (source.restFrom position).map fun rest => position + Text.byteLength (rest.take count)

/-- The number of characters from one position to a later one. -/
def distance (source : Source) (origin target : Nat) : Except Fault Nat :=
  if target < origin then
    .error (.backward origin target)
  else do
    let rest ← source.restFrom origin
    match Text.splitAtByte? (target - origin) rest with
    | some (between, _) => .ok between.length
    | none => .error .badSlice

/-- Whether `length` characters follow a position. -/
def contains (source : Source) (position length : Nat) : Bool :=
  match source.splitAt? position with
  | some (_, rest) => length ≤ rest.length
  | none => false

/-- The text a span covers, cut short at the end of the source. -/
def substring (source : Source) (span : Span) : Except Fault Text :=
  (source.restFrom span.start).map (List.take span.length)

/-- The position before the character with this index, counting from zero. The index after the last
character has the end of the source for its position. -/
def positionOf? (source : Source) (index : Nat) : Option Nat :=
  if index ≤ source.text.length then some (Text.byteLength (source.text.take index)) else none

/-- The line and column of a position. -/
def lineColumn (source : Source) (position : Nat) : Except Fault (Nat × Nat) :=
  match source.splitAt? position with
  | some (before, _) => .ok (Text.lineColumn before)
  | none => .error (.unlocated source.path position)

/-- The span of `length` characters from the character with this index on, if there are so many. -/
def span? (source : Source) (index length : Nat) : Option Span :=
  if index + length ≤ source.text.length then
    let before := source.text.take index
    let (line, column) := Text.lineColumn before
    some ⟨Text.byteLength before, length, line, column⟩
  else
    none

end Offside.Source
