import Offside.Proofs.Lexeme.Locality
import Offside.Proofs.Lexer.Taking

/-! # Raw literals

Three double quotes open a raw literal, and it ends with the next three that follow each other
behind them. Nothing between them has a meaning of its own. Where no such three follow, the literal
goes on to the end of the source and is reported as a whole.
-/

namespace Offside.Lexer

open Lexeme

/-- What is reported about a raw literal without an end that stands behind `front`. -/
def unterminatedRawReport (source : Source) (front literal : Text) : Diagnostic :=
  ⟨source, .invalidString, Text.spanAfter front literal.length, "unterminated raw string literal"⟩

end Offside.Lexer
