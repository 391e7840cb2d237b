import Offside.Lexeme.Basic

/-! # String literals

A quoted literal is read in units: a backslash with the character it escapes, or one character. It
ends with the first unit that is a plain double quote. A backslash that ends the source escapes
nothing and is a unit of its own. A raw literal has no units: it ends with the first three double
quotes after its opening ones.
-/

namespace Offside.Lexeme

/-- A unit of a quoted literal. -/
inductive QuotedUnit where
  | plain (c : Char)
  | escape (c : Char)
deriving DecidableEq, Repr

namespace QuotedUnit

/-- How many characters a unit has. -/
def length : QuotedUnit → Nat
  | plain _ => 1
  | escape _ => 2

/-- How many characters units have together. -/
def total : List QuotedUnit → Nat
  | [] => 0
  | unit :: rest => unit.length + total rest

@[simp] theorem total_nil : total [] = 0 := rfl

@[simp] theorem total_plain (c : Char) (rest : List QuotedUnit) :
    total (.plain c :: rest) = 1 + total rest := rfl

@[simp] theorem total_escape (c : Char) (rest : List QuotedUnit) :
    total (.escape c :: rest) = 2 + total rest := rfl

/-- The flaws of units that follow each other from `offset` on: the escapes that mean nothing. -/
def flawsFrom (offset : Nat) : List QuotedUnit → List Flaw
  | [] => []
  | .plain _ :: rest => flawsFrom (offset + 1) rest
  | .escape c :: rest =>
    let later := flawsFrom (offset + 2) rest
    if c ∈ escapable then later else ⟨.invalidEscape c, offset, 2⟩ :: later

end QuotedUnit

/-- The inside of a quoted literal: its units up to the closing quote, and whether there is one. -/
structure QuotedBody where
  units : List QuotedUnit
  closed : Bool
deriving DecidableEq, Repr

namespace QuotedBody

/-- The body with one more unit in front. -/
def cons (unit : QuotedUnit) (body : QuotedBody) : QuotedBody := ⟨unit :: body.units, body.closed⟩

/-- The body of the quoted literal whose opening quote stands before this text. -/
def read : Text → QuotedBody
  | [] => ⟨[], false⟩
  | '\x22' :: _ => ⟨[], true⟩
  | '\\' :: c :: rest => (read rest).cons (.escape c)
  | c :: rest => (read rest).cons (.plain c)

end QuotedBody

/-- The quoted literal whose opening quote stands before this text. A literal that is not closed is
reported after its escapes, as a whole. -/
def quoted (rest : Text) : Lexeme :=
  let body := QuotedBody.read rest
  let inner := QuotedUnit.total body.units
  let badEscapes := QuotedUnit.flawsFrom 1 body.units
  if body.closed then
    ⟨some (if badEscapes.isEmpty then .quoted else .invalid), inner + 2, badEscapes, by omega⟩
  else
    ⟨some .invalid, inner + 1, badEscapes ++ [⟨.unterminatedString, 0, inner + 1⟩], by omega⟩

/-- What opens and closes a raw literal. -/
def tripleQuote : Text := ['\x22', '\x22', '\x22']

/-- The raw literal whose opening quotes stand before this text. -/
def raw (rest : Text) : Lexeme :=
  match Text.indexOf? tripleQuote rest with
  | some inner => ⟨some .raw, inner + 6, [], by omega⟩
  | none => ⟨some .invalid, rest.length + 3, [⟨.unterminatedRaw, 0, rest.length + 3⟩], by omega⟩

end Offside.Lexeme
