import Offside.Lexeme.Literal
import Offside.Lexeme.Operator
import Offside.Lexeme.Word

/-! # Reading a lexeme

The first character decides what a lexeme is: a line feed, a literal, a word, a number, or else the
longest operator that fits. A text that opens with three double quotes is a raw literal, not an
empty quoted one.
-/

namespace Offside.Lexeme

/-- The lexeme at the front of a text that starts with `first` and goes on with `rest`. -/
def read (first : Char) (rest : Text) : Lexeme :=
  if first = '\n' then
    endOfLine
  else if first = '\x22' then
    match rest with
    | '\x22' :: '\x22' :: body => raw body
    | body => quoted body
  else if isWordStart first then
    word first rest
  else if first.isDigit then
    number rest
  else
    match Operator.read? first rest with
    | some (suffix, sign) => ofOperator suffix sign
    | none => stray first

end Offside.Lexeme
