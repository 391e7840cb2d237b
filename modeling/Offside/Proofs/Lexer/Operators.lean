import Offside.Proofs.Lexeme.Locality
import Offside.Proofs.Lexeme.Messages
import Offside.Proofs.Lexer.Taking

/-! # Operators and stray characters

What starts neither a line end, a literal, a word nor a number is an operator or a stray character.
Messages show an operator as its spelling between single quotes. Of the operators that a text begins
with, the one with the longest spelling is taken, and a character that starts none of them is passed
alone and reported.
-/

namespace Offside

namespace Kind

/-- The kind belongs to a family of operators, and messages show it as this word in quotes. -/
structure Shows (kind : Kind) (word : Text) : Prop where
  family : kind.category ∈ [.grouping, .arithmetic, .logical, .punctuation]
  shown : kind.describe = "'" ++ String.ofList word ++ "'"

/-- Two words that look the same between quotes are the same. -/
theorem quoted_inj {left right : Text}
    (same : "'" ++ String.ofList left ++ "'" = "'" ++ String.ofList right ++ "'") :
    left = right := by
  have characters := congrArg String.toList same
  simpa using characters

/-- What is shown so are the operators, by their spellings. -/
theorem shows_iff {kind : Kind} {word : Text} :
    kind.Shows word ↔ ∃ sign, kind = .operator sign ∧ sign.spelling = word := by
  constructor
  · rintro ⟨family, shown⟩
    cases kind with
    | operator sign => exact ⟨sign, rfl, quoted_inj shown⟩
    | endOfFile | endOfLine | name | integer | float | quoted | raw | truth | keyword | invalid =>
      simp [category] at family
  · rintro ⟨sign, rfl, rfl⟩
    exact ⟨by cases sign <;> decide, rfl⟩

/-- Nothing else is called what an operator is called. -/
theorem eq_operator_of_describe {kind : Kind} {sign : Operator}
    (same : kind.describe = (operator sign).describe) : kind = .operator sign := by
  -- A word that is spelled as the operator would be read as it.
  have read (first : Char) (rest : Text)
      (called : kind.describe = "'" ++ String.ofList (first :: rest) ++ "'") :
      Operator.read? first rest = some (rest, sign) :=
    Operator.read?_of_spelling (quoted_inj (same.symm.trans called))
  cases kind with
  | operator other => exact congrArg operator (Operator.spelling_injective (quoted_inj same))
  | keyword word => cases word <;> exact absurd (read _ _ rfl) nofun
  | truth value => cases value <;> exact absurd (read _ _ rfl) nofun
  | endOfFile | endOfLine | name | integer | float | quoted | raw | invalid =>
    have characters := congrArg String.toList same
    simp [describe, spelling?] at characters

end Kind

/-- The spelling that an operator has in the table of kinds. -/
def IsSpelling (word : Text) : Prop := ∃ kind : Kind, kind.Shows word

theorem Operator.isSpelling_spelling (sign : Operator) : IsSpelling sign.spelling :=
  ⟨.operator sign, Kind.shows_iff.2 ⟨sign, rfl, rfl⟩⟩

/-- The operator that is read has the longest spelling of all that the text begins with. -/
theorem Operator.longest_of_read? {first : Char} {rest suffix : Text} {sign : Operator}
    (read : read? first rest = some (suffix, sign)) :
    Text.Longest IsSpelling sign.spelling (first :: rest) := by
  obtain ⟨spelled, begins⟩ := spelling_of_read? read
  refine ⟨spelled ▸ List.cons_prefix_cons.2 ⟨rfl, begins⟩, sign.isSpelling_spelling, ?_⟩
  rintro other ahead ⟨kind, shows⟩
  obtain ⟨rival, rfl, rfl⟩ := Kind.shows_iff.1 shows
  obtain ⟨_, _, same, noLonger⟩ := exists_read?_of_prefix ahead
  obtain ⟨rfl, rfl⟩ := Prod.mk.inj (Option.some.inj (same.symm.trans read))
  exact noLonger

namespace Lexer

open Lexeme

/-- What is reported about a character behind `front` that starts no token. -/
def strayReport (source : Source) (front : Text) (found : Char) : Diagnostic :=
  ⟨source, .invalidCharacter, Text.spanAfter front 1,
    "unrecognized character '" ++ Text.escapeChar found ++ "'"⟩

theorem diagnosis_stray (source : Source) (front : Text) (found : Char) :
    Flaw.diagnosis ⟨.strayCharacter found, 0, 1⟩ source front [found] =
      strayReport source front found := by
  rw [Flaw.diagnosis, List.take_zero, List.append_nil, Problem.diagnose,
    Problem.message_strayCharacter]
  rfl

end Lexer

end Offside
