import Offside.Token.Keyword
import Offside.Token.Operator

/-! # Kinds of tokens

The kind of a token says what was read. Operators, keywords and the two truth values have one
spelling each, by which messages show them; the other kinds cover many texts or none. Keywords and
truth values are read by a table of reserved words, which agrees with the spellings.
-/

namespace Offside

/-- What is found by a key stands with that key in the table. -/
theorem mem_of_lookup {α β : Type} [BEq α] [LawfulBEq α] {table : List (α × β)} {key : α}
    {value : β} (found : table.lookup key = some value) : (key, value) ∈ table := by
  obtain ⟨before, behind, rfl, _⟩ := List.lookup_eq_some_iff.1 found
  exact List.mem_append_right before List.mem_cons_self

/-- Families of token kinds. -/
inductive Category where
  | marker | grouping | arithmetic | logical | punctuation | literal | keyword | error
deriving DecidableEq, Repr

/-- The family an operator belongs to. -/
def Operator.category : Operator → Category
  | leftParen | rightParen | leftBracket | rightBracket | leftBrace | rightBrace => .grouping
  | plus | plusPlus | plusEqual | minus | minusMinus | minusEqual
  | star | starStar | starEqual | starStarEqual
  | slash | slashSlash | slashEqual | slashSlashEqual
  | percent | percentEqual => .arithmetic
  | ampersand | doubleAmpersand | bar | doubleBar
  | less | lessEqual | greater | greaterEqual | bang | bangEqual | equal | doubleEqual => .logical
  | dot | comma | colon | semicolon | question | arrow => .punctuation

/-- What a token is. -/
inductive Kind where
  /-- The end of the source. -/
  | endOfFile
  /-- A line feed. -/
  | endOfLine
  | operator (sign : Operator)
  /-- A word that is not reserved. -/
  | name
  | integer
  | float
  /-- A literal between double quotes. -/
  | quoted
  /-- A literal between triple double quotes. -/
  | raw
  | truth (value : Bool)
  | keyword (word : Keyword)
  /-- A malformed literal or a character that starts no token. -/
  | invalid
deriving DecidableEq, Repr

namespace Kind

/-- The family a kind belongs to. -/
def category : Kind → Category
  | endOfFile | endOfLine => .marker
  | operator sign => sign.category
  | name | integer | float | quoted | raw | truth _ => .literal
  | keyword _ => .keyword
  | invalid => .error

/-- Whether tokens of this kind mark the end of a line or of the source. -/
def isMarker (kind : Kind) : Bool := kind.category = .marker

/-- The one text by which the kind is shown, for kinds that have such a text. -/
def spelling? : Kind → Option Text
  | operator sign => some sign.spelling
  | keyword word => some word.spelling
  | truth true => some ['t', 'r', 'u', 'e']
  | truth false => some ['f', 'a', 'l', 's', 'e']
  | _ => none

/-- The words that are no names, each with the kind that it has instead; case matters. -/
def reservedWords : List (Text × Kind) :=
  [(['l', 'e', 't'], keyword .letWord),
   (['m', 'u', 't', 'a', 'b', 'l', 'e'], keyword .mutableWord),
   (['t', 'y', 'p', 'e'], keyword .typeWord), (['f', 'o', 'r'], keyword .forWord),
   (['i', 'n'], keyword .inWord), (['b', 'r', 'e', 'a', 'k'], keyword .breakWord),
   (['c', 'o', 'n', 't', 'i', 'n', 'u', 'e'], keyword .continueWord),
   (['w', 'h', 'i', 'l', 'e'], keyword .whileWord), (['i', 'f'], keyword .ifWord),
   (['e', 'l', 's', 'e'], keyword .elseWord), (['d', 'o'], keyword .doWord),
   (['t', 'r', 'u', 'e'], truth true), (['f', 'a', 'l', 's', 'e'], truth false)]

/-- The kinds of reserved words. -/
def reservedKinds : List Kind := reservedWords.map Prod.snd

/-- The kind of a reserved word, and nothing for any other text. -/
def reserved? (word : Text) : Option Kind := reservedWords.lookup word

/-- Keywords and truth values are reserved, and nothing else. -/
theorem mem_reservedKinds_iff {kind : Kind} :
    kind ∈ reservedKinds ↔ (∃ word, kind = keyword word) ∨ ∃ value, kind = truth value := by
  constructor
  · have known : ∀ kind ∈ reservedKinds,
        (∃ word, kind = keyword word) ∨ ∃ value, kind = truth value := by
      simp [reservedKinds, reservedWords]
    exact known kind
  · rintro (⟨word, rfl⟩ | ⟨value, rfl⟩)
    · cases word <;> decide
    · cases value <;> decide

/-- The two tables agree: a word is reserved for the keyword or truth value that is shown by it. -/
theorem reserved?_eq_some_iff {word : Text} {kind : Kind} :
    reserved? word = some kind ↔ kind ∈ reservedKinds ∧ kind.spelling? = some word := by
  have spelled : ∀ entry ∈ reservedWords, entry.2.spelling? = some entry.1 := by decide
  constructor
  · intro found
    have listed := mem_of_lookup found
    exact ⟨List.mem_map_of_mem listed, spelled _ listed⟩
  · rintro ⟨member, shown⟩
    obtain ⟨⟨other, _⟩, listed, rfl⟩ := List.mem_map.1 member
    obtain rfl := Option.some.inj ((spelled _ listed).symm.trans shown)
    have distinct : ∀ entry ∈ reservedWords, reserved? entry.1 = some entry.2 := by decide
    exact distinct _ listed

/-- The kind as it is called in a message. -/
def describe (kind : Kind) : String :=
  match kind.spelling? with
  | some spelling => "'" ++ String.ofList spelling ++ "'"
  | none =>
    match kind with
    | endOfFile => "end of file"
    | endOfLine => "end of line"
    | name => "a name"
    | integer => "an integer"
    | float => "a float"
    | quoted => "a string"
    | raw => "a raw string"
    | _ => "invalid token"

end Kind

end Offside
