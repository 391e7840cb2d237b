import Offside.Text.Basic

/-! # Lines of a text

Lines are parted by line feeds. The place reached by reading a text is given as a line and a column,
both counted from one, and neither counts past the largest value of a 32-bit counter.
-/

namespace Offside.Text

/-- The lines of a text, without the line feeds that part them. There is one more line than there
are line feeds. -/
def splitLines : Text → List Text
  | [] => [[]]
  | c :: rest => if c = '\n' then [] :: splitLines rest else (splitLines rest).modifyHead (c :: ·)

/-- Every text has a line. -/
theorem splitLines_ne_nil (text : Text) : splitLines text ≠ [] := by
  fun_induction splitLines text with
  | case1 => simp
  | case2 => simp
  | case3 c rest ordinary ih =>
    cases lines : splitLines rest with
    | nil => exact absurd lines ih
    | cons => simp

@[simp] theorem length_splitLines (text : Text) :
    (splitLines text).length = text.count '\n' + 1 := by
  fun_induction splitLines text with
  | case1 => simp
  | case2 rest ih => simp [ih]
  | case3 c rest ordinary ih => simp [ih, ordinary]

/-- What stands after the last line feed of a text. -/
def lastLine (text : Text) : Text := (text.reverse.takeWhile (· ≠ '\n')).reverse

/-- Line numbers, columns and indentation levels are held in 32 bits. -/
def counterLimit : Nat := UInt32.size - 1

/-- The line and column reached after reading a text, each held at the largest counter value. -/
def lineColumn (before : Text) : Nat × Nat :=
  (min (before.count '\n' + 1) counterLimit, min ((lastLine before).length + 1) counterLimit)

end Offside.Text
