import Offside.Text.Unprintable

/-! # Characters quoted in messages

A message shows a character between single quotes. The quote signs, the backslash and the usual
layout characters have a short form behind a backslash, other unprintable characters are named by
their code point in hexadecimal, and all others stand for themselves.
-/

namespace Offside.Text

/-- The form a character takes inside a message. -/
def escapeChar (c : Char) : String :=
  match c with
  | '\x00' => "\\0"
  | '\t' => "\\t"
  | '\r' => "\\r"
  | '\n' => "\\n"
  | '\'' => "\\'"
  | '"' => "\\\""
  | '\\' => "\\\\"
  | c =>
    if isUnprintable c then "\\u\x7b" ++ String.ofList (Nat.toDigits 16 c.toNat) ++ "\x7d"
    else String.singleton c

end Offside.Text
