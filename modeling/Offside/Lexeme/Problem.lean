import Offside.Diagnostic.Basic
import Offside.Text.Escape

/-! # What can be wrong with a lexeme

Reading never stops at a problem: the lexeme is marked as invalid and the problem becomes a
diagnostic.
-/

namespace Offside

/-- A problem met while reading a lexeme. -/
inductive Problem where
  /-- A quoted literal runs to the end of the source. -/
  | unterminatedString
  /-- A raw literal runs to the end of the source. -/
  | unterminatedRaw
  /-- A backslash in a quoted literal stands before a character it cannot escape. -/
  | invalidEscape (escaped : Char)
  /-- A character starts no lexeme. -/
  | strayCharacter (found : Char)
deriving DecidableEq, Repr

/-- The characters that may follow a backslash in a quoted literal. -/
def escapable : List Char := ['c', 'n', 'r', 'b', '\\', '\x22', '0']

namespace Problem

/-- The issue under which a problem is reported. -/
def issue : Problem → Issue
  | unterminatedString | unterminatedRaw | invalidEscape _ => .invalidString
  | strayCharacter _ => .invalidCharacter

/-- The wording of a problem. -/
def message : Problem → String
  | unterminatedString => "unterminated string literal"
  | unterminatedRaw => "unterminated raw string literal"
  | invalidEscape escaped =>
    let shown := Text.escapeChar escaped
    let valid := " ".intercalate (escapable.map fun c => String.ofList ['\\', c])
    s!"invalid escape sequence '\\{shown}'; valid escapes are {valid}"
  | strayCharacter found =>
    let shown := Text.escapeChar found
    s!"unrecognized character '{shown}'"

/-- The diagnostic for a problem found in a span of a source. -/
def diagnose (problem : Problem) (source : Source) (span : Span) : Diagnostic :=
  ⟨source, problem.issue, span, problem.message⟩

end Problem

/-- A problem and the characters it concerns, counted from the start of the lexeme. -/
structure Flaw where
  problem : Problem
  offset : Nat
  length : Nat
deriving DecidableEq, Repr

end Offside
