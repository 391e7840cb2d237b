import Offside.Lexeme.Problem
import Offside.Token.Kind

/-! # Lexemes

A lexeme is what one token is read from: so many characters from the front of a text, at least one,
with the kind they have and the flaws found in them. A character that starts no token makes a lexeme
without a kind.
-/

namespace Offside

/-- What has been read from the front of a text. -/
structure Lexeme where
  /-- The kind, unless the lexeme is a character that starts no token. -/
  kind? : Option Kind
  /-- How many characters belong to the lexeme. -/
  length : Nat
  /-- The flaws, in the order in which they are reported. -/
  flaws : List Flaw
  length_pos : 0 < length := by omega
deriving DecidableEq, Repr

namespace Lexeme

/-- The lexeme of a line feed. -/
def endOfLine : Lexeme := ⟨some .endOfLine, 1, [], by omega⟩

/-- The lexeme of a character that starts no token. -/
def stray (c : Char) : Lexeme := ⟨none, 1, [⟨.strayCharacter c, 0, 1⟩], by omega⟩

end Lexeme

end Offside
