import Offside.Lexeme.Basic
import Offside.Text.Alphabetic
import Offside.Text.Numeric

/-! # Words and numbers

A word is the longest run of letters, numeric characters and underscores that does not start with a
numeric character. A number is the longest run of ASCII digits and underscores that starts with a
digit, and it goes on with a fraction only if a digit follows the point, so that a point before a
name is left alone.
-/

namespace Offside.Lexeme

/-- Whether a character can start a word. -/
def isWordStart (c : Char) : Bool := Text.isAlphabetic c || c = '_'

/-- Whether a character can continue a word. -/
def isWordPart (c : Char) : Bool := Text.isAlphabetic c || Text.isNumeric c || c = '_'

/-- Whether a character can continue a number. -/
def isNumberPart (c : Char) : Bool := c.isDigit || c = '_'

/-- The word that starts with this character, and its kind. -/
def word (first : Char) (rest : Text) : Lexeme :=
  let letters := first :: rest.takeWhile isWordPart
  ⟨some ((Kind.reserved? letters).getD .name), letters.length, [], by simp [letters]⟩

/-- How many characters the fraction at the front of a text has, its point included. -/
def fractionLength : Text → Nat
  | '.' :: digit :: rest => if digit.isDigit then 2 + (rest.takeWhile isNumberPart).length else 0
  | _ => 0

/-- The number whose first digit stands before this text. -/
def number (rest : Text) : Lexeme :=
  let whole := rest.takeWhile isNumberPart
  let fraction := fractionLength (rest.dropWhile isNumberPart)
  ⟨some (if fraction = 0 then .integer else .float), 1 + whole.length + fraction, [], by omega⟩

end Offside.Lexeme
