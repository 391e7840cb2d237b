import Offside.Text.Basic

/-! # Indentation

A source indents its lines by tabs, by two spaces or by four. The first indented line decides which,
for the whole source. A line is then indented by as many levels as whole units stand at its start.
-/

namespace Offside

/-- What one level of indentation consists of. -/
inductive IndentUnit where
  | tab | twoSpaces | fourSpaces
deriving DecidableEq, Repr

namespace IndentUnit

/-- The character that the unit repeats. -/
def character : IndentUnit → Char
  | tab => '\t'
  | twoSpaces | fourSpaces => ' '

/-- How often the unit repeats its character. -/
def width : IndentUnit → Nat
  | tab => 1
  | twoSpaces => 2
  | fourSpaces => 4

/-- The unit as a text. -/
def text (unit : IndentUnit) : Text := List.replicate unit.width unit.character

theorem width_pos (unit : IndentUnit) : 0 < unit.width := by
  cases unit <;> decide

/-- The unit that the start of a line shows, if the line is indented. Four spaces are taken for one
unit rather than for two. -/
def detect? (line : Text) : Option IndentUnit :=
  [tab, fourSpaces, twoSpaces].find? fun unit => unit.text.isPrefixOf line

/-- How many whole units stand at the start of a line. -/
def levels (unit : IndentUnit) (line : Text) : Nat :=
  (line.takeWhile (· = unit.character)).length / unit.width

end IndentUnit

end Offside
