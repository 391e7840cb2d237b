import Offside.Fault
import Offside.Text.Line

/-! # Reading a text from left to right

A location counts what has been read: bytes, characters, lines and columns. Passing one character
moves it by one step, which fails only when the line or the column cannot be counted any further. A
cursor is a location together with the text that is still ahead, so a copy of it serves as a mark to
measure from or to return to.
-/

namespace Offside

/-- A place in a text, with lines and columns counting from one. -/
structure Location where
  byte : Nat
  index : Nat
  line : Nat
  column : Nat
deriving DecidableEq, Repr

namespace Location

/-- The start of every text. -/
def start : Location := ⟨0, 0, 1, 1⟩

/-- The location after one more character. -/
def step (here : Location) (c : Char) : Except Fault Location :=
  if c = '\n' then
    if here.line < Text.counterLimit then
      .ok ⟨here.byte + c.utf8Size, here.index + 1, here.line + 1, 1⟩
    else
      .error .counterOverflow
  else if here.column < Text.counterLimit then
    .ok ⟨here.byte + c.utf8Size, here.index + 1, here.line, here.column + 1⟩
  else
    .error .counterOverflow

/-- The location after passing a text. -/
def walk (here : Location) (passed : Text) : Except Fault Location := passed.foldlM step here

@[simp] theorem walk_nil (here : Location) : here.walk [] = .ok here := rfl

theorem walk_cons (here : Location) (c : Char) (rest : Text) :
    here.walk (c :: rest) = (here.step c).bind fun next => next.walk rest := rfl

/-- Passing two texts one after the other is passing them joined. -/
theorem walk_append (here : Location) (left right : Text) :
    here.walk (left ++ right) = (here.walk left).bind fun next => next.walk right := by
  simp only [walk, List.foldlM_append]
  rfl

/-- The span from one location to a later one in the same text. -/
def spanTo (here there : Location) : Span :=
  ⟨here.byte, there.index - here.index, here.line, here.column⟩

end Location

/-- A location in a text and the text ahead of it. -/
structure Cursor where
  location : Location
  rest : Text
deriving DecidableEq, Repr

namespace Cursor

/-- The cursor at the start of a text. -/
def ofText (text : Text) : Cursor := ⟨.start, text⟩

/-- The character `count` characters ahead. -/
def peek? (cursor : Cursor) (count : Nat) : Option Char := cursor.rest[count]?

/-- The character the cursor stands before. -/
def current? (cursor : Cursor) : Option Char := cursor.rest.head?

/-- Whether the text ahead begins with this one. -/
def startsWith (cursor : Cursor) (text : Text) : Bool := text.isPrefixOf cursor.rest

/-- Whether nothing is ahead. -/
def atEnd (cursor : Cursor) : Bool := cursor.rest.isEmpty

/-- Passes `count` characters, or all that are left. -/
def skip (cursor : Cursor) (count : Nat) : Except Fault Cursor :=
  (cursor.location.walk (cursor.rest.take count)).map fun location =>
    ⟨location, cursor.rest.drop count⟩

/-- Passes one character and returns it. -/
def advance (cursor : Cursor) : Except Fault (Option Char × Cursor) :=
  (cursor.skip 1).map fun next => (cursor.current?, next)

/-- Passes characters for as long as they satisfy a test, and returns how many. -/
def eatWhile (cursor : Cursor) (test : Char → Bool) : Except Fault (Nat × Cursor) :=
  let count := (cursor.rest.takeWhile test).length
  (cursor.skip count).map fun next => (count, next)

/-- The span from a mark to the cursor. -/
def spanFrom (cursor mark : Cursor) : Except Fault Span :=
  if mark.location.byte ≤ cursor.location.byte then
    .ok (mark.location.spanTo cursor.location)
  else
    .error .markAhead

/-- The text from a mark to the cursor. -/
def sliceFrom (cursor mark : Cursor) : Except Fault Text :=
  if mark.location.byte ≤ cursor.location.byte then
    .ok (mark.rest.take (cursor.location.index - mark.location.index))
  else
    .error .badSlice

/-- Skipping drops characters from the text ahead and changes nothing else about it. -/
theorem rest_of_skip {cursor next : Cursor} {count : Nat} (skipped : cursor.skip count = .ok next) :
    next.rest = cursor.rest.drop count := by
  obtain ⟨location, _, rfl⟩ := Fault.map_eq_ok_iff.1 skipped
  rfl

/-- Skipping twice is skipping once over both. -/
theorem skip_skip {cursor mark : Cursor} {first second : Nat}
    (skipped : cursor.skip first = .ok mark) :
    mark.skip second = cursor.skip (first + second) := by
  obtain ⟨location, walked, rfl⟩ := Fault.map_eq_ok_iff.1 skipped
  simp only [skip, List.take_add, List.drop_drop, Location.walk_append, walked]
  rfl

end Cursor

end Offside
