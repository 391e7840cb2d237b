import Mathlib.Computability.Language
import Offside.Proofs.Lexeme.Locality

/-! # The grammars of words and numbers

A word is made of letters, numeric characters and underscores. A number is a row of digits and
underscores that starts with a digit, and a point and another such row may follow. What is read from
the front of a text is the longest word or the longest number that the text begins with. For numbers
this takes a look at two characters: a point belongs to the number only if a digit follows it.
-/

namespace Offside

namespace Kind

/-- Whether a kind is that of a word: a name, a keyword or a truth value. -/
def isWord : Kind → Bool
  | name | keyword _ | truth _ => true
  | _ => false

/-- Whether a kind is that of a number. -/
def isNumber : Kind → Bool
  | integer | float => true
  | _ => false

/-- No kind is that of a word and of a number. -/
theorem isNumber_of_isWord {kind : Kind} (isWord : kind.isWord = true) : kind.isNumber = false := by
  cases kind <;> simp_all [Kind.isWord, isNumber]

theorem isWord_of_reserved {word : Text} {kind : Kind} (reserved : reserved? word = some kind) :
    kind.isWord = true := by
  have table : ∀ kind ∈ reservedKinds, kind.isWord = true := by decide
  exact table kind (reserved?_eq_some_iff.1 reserved).1

end Kind

namespace Lexeme

open Computability

section Words

/-- The characters of the text are letters, numeric characters and underscores. -/
def IsWordText (text : Text) : Prop :=
  ∀ c ∈ text, Text.isAlphabetic c = true ∨ Text.isNumeric c = true ∨ c = '_'

theorem isWordText_iff {text : Text} : IsWordText text ↔ ∀ c ∈ text, isWordPart c = true := by
  simp [IsWordText, isWordPart, or_assoc]

/-- What starts a word also continues one. -/
theorem isWordPart_of_isWordStart {c : Char} (start : isWordStart c = true) :
    isWordPart c = true := by
  unfold isWordStart at start
  unfold isWordPart
  grind

/-- A word is the longest one that the text begins with. -/
theorem exists_longest_word {first : Char} (start : isWordStart first = true) (rest : Text) :
    ∃ letters behind, first :: rest = letters ++ behind ∧
      letters.length = (word first rest).length ∧
      Text.Longest IsWordText letters (first :: rest) ∧
      (word first rest).kind? = some ((Kind.reserved? letters).getD .name) := by
  have run : (first :: rest).takeWhile isWordPart = first :: rest.takeWhile isWordPart :=
    List.takeWhile_cons_of_pos (isWordPart_of_isWordStart start)
  have longest := Text.longest_takeWhile isWordPart (first :: rest)
  simp only [← isWordText_iff] at longest
  rw [run] at longest
  exact ⟨_, rest.dropWhile isWordPart, by simp, rfl, longest, rfl⟩

end Words

section Numbers

/-- A single digit. -/
def digit : Language Char := {text : List Char | ∃ c : Char, c.isDigit = true ∧ text = [c]}

/-- Digits and underscores, of which the first is a digit. -/
def digits : Language Char := digit * (digit + {['_']})∗

/-- A row of digits, with or without a fraction. -/
def numeral : Language Char := digits * (1 + {['.']} * digits)

/-- What follows the first digit is repeated character by character. -/
theorem mem_part_iff {text : Text} :
    text ∈ digit + {['_']} ↔ ∃ c, isNumberPart c = true ∧ text = [c] := by
  rw [Language.mem_add]
  constructor
  · rintro (⟨c, isDigit, rfl⟩ | rfl)
    · exact ⟨c, by simp [isNumberPart, isDigit], rfl⟩
    · exact ⟨'_', by decide, rfl⟩
  · rintro ⟨c, part, rfl⟩
    by_cases isDigit : c.isDigit = true
    · exact .inl ⟨c, isDigit, rfl⟩
    · obtain rfl : c = '_' := by simpa [isNumberPart, isDigit] using part
      exact .inr rfl

theorem mem_kstar_part_iff {text : Text} :
    text ∈ (digit + {['_']})∗ ↔ ∀ c ∈ text, isNumberPart c = true := by
  rw [Language.mem_kstar]
  constructor
  · rintro ⟨parts, rfl, each⟩ c member
    obtain ⟨part, present, inside⟩ := List.mem_flatten.1 member
    obtain ⟨d, allowed, rfl⟩ := mem_part_iff.1 (each part present)
    rwa [List.mem_singleton.1 inside]
  · intro allowed
    refine ⟨text.map fun c => [c], by rw [← List.flatMap_def, List.flatMap_singleton'], ?_⟩
    intro part member
    obtain ⟨c, present, rfl⟩ := List.mem_map.1 member
    exact mem_part_iff.2 ⟨c, allowed c present, rfl⟩

theorem mem_digits_iff {text : Text} :
    text ∈ digits ↔ ∃ first rest, text = first :: rest ∧ first.isDigit = true ∧
      ∀ c ∈ rest, isNumberPart c = true := by
  rw [digits, Language.mem_mul]
  constructor
  · rintro ⟨_, ⟨first, isDigit, rfl⟩, rest, tail, rfl⟩
    exact ⟨first, rest, rfl, isDigit, mem_kstar_part_iff.1 tail⟩
  · rintro ⟨first, rest, rfl, isDigit, tail⟩
    exact ⟨[first], ⟨first, isDigit, rfl⟩, rest, mem_kstar_part_iff.2 tail, rfl⟩

theorem mem_numeral_iff {text : Text} :
    text ∈ numeral ↔ text ∈ digits ∨
      ∃ whole ∈ digits, ∃ fraction ∈ digits, text = whole ++ '.' :: fraction := by
  simp only [numeral, mul_add, mul_one, Language.mem_add, Language.mem_mul]
  apply or_congr_right
  constructor
  · rintro ⟨whole, isWhole, _, ⟨_, rfl, fraction, isFraction, rfl⟩, rfl⟩
    exact ⟨whole, isWhole, fraction, isFraction, rfl⟩
  · rintro ⟨whole, isWhole, fraction, isFraction, rfl⟩
    exact ⟨whole, isWhole, _, ⟨['.'], rfl, fraction, isFraction, rfl⟩, rfl⟩

/-- No row of digits holds a point. -/
theorem point_not_mem_of_mem_digits {text : Text} (row : text ∈ digits) : '.' ∉ text := by
  obtain ⟨first, rest, rfl, isDigit, parts⟩ := mem_digits_iff.1 row
  intro member
  rcases List.mem_cons.1 member with rfl | later
  · contradiction
  · exact absurd (parts '.' later) (by decide)

/-- A digit and what continues a number behind it are the longest row of digits there. -/
theorem longest_digits {first : Char} (isDigit : first.isDigit = true) (rest : Text) :
    Text.Longest (· ∈ digits) (first :: rest.takeWhile isNumberPart) (first :: rest) := by
  have run := Text.longest_takeWhile isNumberPart rest
  refine ⟨(List.prefix_cons_inj first).2 run.begins,
    mem_digits_iff.2 ⟨first, _, rfl, isDigit, run.holds⟩, ?_⟩
  intro other begins row
  obtain ⟨c, tail, rfl, _, parts⟩ := mem_digits_iff.1 row
  exact Nat.succ_le_succ (run.longest tail (List.cons_prefix_cons.1 begins).2 parts)

/-- A text that begins with a point and a row of digits has a fraction, of the longest such row. -/
theorem fraction_cases (text : Text) :
    (fractionLength text = 0 ∧ ∀ fraction ∈ digits, ¬ '.' :: fraction <+: text) ∨
      ∃ fraction behind, text = '.' :: (fraction ++ behind) ∧
        fractionLength text = fraction.length + 1 ∧
        Text.Longest (· ∈ digits) fraction (fraction ++ behind) := by
  fun_cases fractionLength text with
  | case1 first rest isDigit =>
    refine .inr ⟨first :: rest.takeWhile isNumberPart, rest.dropWhile isNumberPart, ?_, ?_, ?_⟩
    · simp
    · rw [List.length_cons]
      omega
    · simpa using longest_digits isDigit rest
  | case2 first rest notDigit =>
    refine .inl ⟨rfl, ?_⟩
    intro fraction row begins
    obtain ⟨c, tail, rfl, isDigit, _⟩ := mem_digits_iff.1 row
    obtain ⟨rfl, _⟩ := List.cons_prefix_cons.1 (List.cons_prefix_cons.1 begins).2
    contradiction
  | case3 text other =>
    refine .inl ⟨rfl, ?_⟩
    rintro fraction row ⟨behind, rfl⟩
    obtain ⟨c, tail, rfl, _⟩ := mem_digits_iff.1 row
    exact other c (tail ++ behind) rfl

/-- A number with a fraction has its point where the digits at the front of the text end. -/
theorem eq_and_begins_of_point {first : Char} {row run behind fraction : Text}
    (isRow : row ∈ digits) (parts : ∀ c ∈ run, isNumberPart c = true)
    (stops : ∀ c ∈ behind.head?, isNumberPart c = false)
    (begins : row ++ '.' :: fraction <+: first :: (run ++ behind)) :
    row = first :: run ∧ '.' :: fraction <+: behind := by
  obtain ⟨more, joined⟩ := begins
  obtain ⟨c, tail, rfl, _, others⟩ := mem_digits_iff.1 isRow
  rw [List.append_assoc, List.cons_append] at joined
  obtain ⟨rfl, same⟩ := List.cons.inj joined
  have point : ∀ c ∈ ('.' :: fraction ++ more).head?, isNumberPart c = false := by
    rintro c ⟨⟩
    decide
  obtain ⟨taken, dropped⟩ := Text.takeWhile_dropWhile_append others point
  obtain ⟨taken', dropped'⟩ := Text.takeWhile_dropWhile_append parts stops
  rw [same] at taken dropped
  exact ⟨by rw [← taken, taken'], more, by rw [← dropped, dropped']⟩

/-- A number is the longest one that the text begins with. -/
theorem exists_longest_number {first : Char} (isDigit : first.isDigit = true) (rest : Text) :
    ∃ word behind, first :: rest = word ++ behind ∧ word.length = (number rest).length ∧
      Text.Longest (· ∈ numeral) word (first :: rest) ∧
      (number rest).kind? = some (if '.' ∈ word then .float else .integer) := by
  obtain ⟨run, behind, rfl, parts, stops⟩ := Text.exists_run isNumberPart rest
  obtain ⟨taken, dropped⟩ := Text.takeWhile_dropWhile_append parts stops
  have whole := longest_digits isDigit (run ++ behind)
  have size : (number (run ++ behind)).length = (first :: run).length + fractionLength behind := by
    simp only [number, taken, dropped, List.length_cons]
    omega
  have kind : (number (run ++ behind)).kind? =
      some (if fractionLength behind = 0 then .integer else .float) := by
    simp only [number, dropped]
  rw [taken] at whole
  have noPoint := point_not_mem_of_mem_digits whole.holds
  rcases fraction_cases behind with ⟨empty, absent⟩ | ⟨fraction, after, rfl, length, longest⟩
  · refine ⟨first :: run, behind, rfl, by rw [size, empty, Nat.add_zero],
      ⟨whole.begins, mem_numeral_iff.2 (.inl whole.holds), ?_⟩, by simp [kind, empty, noPoint]⟩
    intro other begins isNumber
    rcases mem_numeral_iff.1 isNumber with row | ⟨row, isRow, tail, isTail, rfl⟩
    · exact whole.longest other begins row
    · exact absurd (eq_and_begins_of_point isRow parts stops begins).2 (absent tail isTail)
  · have cut : first :: (run ++ '.' :: (fraction ++ after)) =
        first :: run ++ '.' :: fraction ++ after := by simp
    refine ⟨first :: run ++ '.' :: fraction, after, cut, ?_, ⟨⟨after, cut.symm⟩, ?_, ?_⟩, ?_⟩
    · rw [size, length, List.length_append]
      rfl
    · exact mem_numeral_iff.2 (.inr ⟨_, whole.holds, fraction, longest.holds, rfl⟩)
    · intro other begins isNumber
      rw [List.length_append]
      rcases mem_numeral_iff.1 isNumber with row | ⟨row, isRow, tail, isTail, rfl⟩
      · exact Nat.le_add_right_of_le (whole.longest other begins row)
      · obtain ⟨rfl, onward⟩ := eq_and_begins_of_point isRow parts stops begins
        have bound := longest.longest tail (List.cons_prefix_cons.1 onward).2 isTail
        rw [List.length_append]
        exact Nat.add_le_add_left (Nat.succ_le_succ bound) _
    · simp [kind, length]

end Numbers

section Dispatch

/-- No digit starts a word. -/
theorem isWordStart_of_isDigit {c : Char} (isDigit : c.isDigit = true) : isWordStart c = false := by
  have underscore : c ≠ '_' := by
    rintro rfl
    contradiction
  unfold Char.isDigit at isDigit
  have bound : c.val ≤ 57 := by grind
  have small : c.toNat < 0x80 := Nat.lt_of_le_of_lt bound (by decide)
  have notLetter : c.isAlpha = false := by
    unfold Char.isAlpha Char.isUpper Char.isLower
    grind
  simp [isWordStart, Text.isAlphabetic, small, notLetter, underscore]

/-- What starts a word or a number is neither a line end nor a space, and quotes nothing. -/
theorem ordinary_of_start {c : Char} (start : isWordStart c = true ∨ c.isDigit = true) :
    c ≠ '\n' ∧ c ≠ ' ' ∧ c ≠ '\x22' := by
  refine ⟨?_, ?_, ?_⟩ <;> (rintro rfl; revert start; decide)

/-- What is read from a character that starts a word is the longest word there. -/
theorem exists_read_word {first : Char} (start : isWordStart first = true) (rest : Text) :
    ∃ letters behind, first :: rest = letters ++ behind ∧
      letters.length = (read first rest).length ∧
      Text.Longest IsWordText letters (first :: rest) ∧
      (read first rest).kind? = some ((Kind.reserved? letters).getD .name) ∧
      (read first rest).flaws = [] := by
  obtain ⟨newline, _, quote⟩ := ordinary_of_start (.inl start)
  obtain ⟨letters, behind, cut, length, longest, kind⟩ := exists_longest_word start rest
  rw [read_word newline quote start]
  exact ⟨letters, behind, cut, length, longest, kind, rfl⟩

/-- What is read from a digit is the longest number there. -/
theorem exists_read_number {first : Char} (isDigit : first.isDigit = true) (rest : Text) :
    ∃ word behind, first :: rest = word ++ behind ∧ word.length = (read first rest).length ∧
      Text.Longest (· ∈ numeral) word (first :: rest) ∧
      (read first rest).kind? = some (if '.' ∈ word then .float else .integer) ∧
      (read first rest).flaws = [] := by
  obtain ⟨newline, _, quote⟩ := ordinary_of_start (.inr isDigit)
  obtain ⟨word, behind, cut, length, longest, kind⟩ := exists_longest_number isDigit rest
  rw [read_number newline quote (by simp [isWordStart_of_isDigit isDigit]) isDigit]
  exact ⟨word, behind, cut, length, longest, kind, rfl⟩

theorem isWord_word (first : Char) (rest : Text) :
    ((word first rest).kind?.getD .invalid).isWord = true := by
  change ((Kind.reserved? (first :: rest.takeWhile isWordPart)).getD .name).isWord = true
  cases reserved : Kind.reserved? (first :: rest.takeWhile isWordPart) with
  | none => rfl
  | some kind => exact Kind.isWord_of_reserved reserved

/-- Words and numbers are read in one way only: from a character that starts a word, or from a
digit. -/
theorem start_of_read (first : Char) (rest : Text) :
    (((read first rest).kind?.getD .invalid).isWord = true → isWordStart first = true) ∧
      (((read first rest).kind?.getD .invalid).isNumber = true → first.isDigit = true) := by
  fun_cases read first rest with
  | case1 | case6 | case7 => exact ⟨Bool.noConfusion, Bool.noConfusion⟩
  | case2 _ _ body =>
    unfold raw
    split <;> exact ⟨Bool.noConfusion, Bool.noConfusion⟩
  | case3 =>
    unfold quoted
    dsimp only
    split
    · split <;> exact ⟨Bool.noConfusion, Bool.noConfusion⟩
    · exact ⟨Bool.noConfusion, Bool.noConfusion⟩
  | case4 _ _ _ start =>
    refine ⟨fun _ => start, fun isNumber => ?_⟩
    rw [Kind.isNumber_of_isWord (isWord_word first rest)] at isNumber
    contradiction
  | case5 _ _ _ _ isDigit =>
    unfold number
    dsimp only
    split <;> exact ⟨Bool.noConfusion, fun _ => isDigit⟩

end Dispatch

end Lexeme

end Offside
