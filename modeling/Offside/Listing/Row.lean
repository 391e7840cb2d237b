import Offside.Diagnostic.Basic

/-! # Rows of styled pieces

A listing is laid out as rows of pieces, each piece a text with a style. Only when a row is written
do colors come in, as sequences around the pieces, so colors cannot disturb the layout.
-/

namespace Offside.Listing

/-- The role of a piece, on which its color depends. -/
inductive Style where
  | plain
  | accent (severity : Severity)
  | gutter
deriving DecidableEq, Repr

namespace Style

/-- The terminal sequence that turns on the color of a style. -/
def code? : Style → Option Text
  | plain => none
  | accent .error => some ['\x1b', '[', '1', ';', '3', '1', 'm']
  | accent .warning => some ['\x1b', '[', '1', ';', '3', '3', 'm']
  | accent .info => some ['\x1b', '[', '1', ';', '3', '6', 'm']
  | gutter => some ['\x1b', '[', '1', ';', '3', '4', 'm']

/-- The terminal sequence that turns colors off. -/
def reset : Text := ['\x1b', '[', '0', 'm']

end Style

/-- A text to be shown in one style. -/
structure Piece where
  style : Style
  text : Text
deriving DecidableEq, Repr

/-- The text of a piece, between color sequences if colors are wanted and there is text to color. -/
def Piece.write (colors : Bool) (piece : Piece) : Text :=
  match piece.style.code? with
  | none => piece.text
  | some code =>
    if colors && !piece.text.isEmpty then code ++ piece.text ++ Style.reset else piece.text

/-- Pieces that stand side by side. -/
abbrev Row := List Piece

/-- The text of a row. -/
def Row.write (colors : Bool) (row : Row) : Text := row.flatMap (Piece.write colors)

/-- The text of several rows, one under the other. -/
def writeRows (colors : Bool) (rows : List Row) : Text :=
  ['\n'].intercalate (rows.map (Row.write colors))

/-- Without colors a piece is written as its text. -/
@[simp] theorem Piece.write_false (piece : Piece) : piece.write false = piece.text := by
  unfold Piece.write
  cases piece.style.code? <;> simp

end Offside.Listing
