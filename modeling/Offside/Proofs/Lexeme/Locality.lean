import Mathlib.Data.List.Find
import Mathlib.Data.List.TakeWhile
import Offside.Proofs.Lexeme.Shape

/-! # What a lexeme depends on

A lexeme is decided by its own characters: read again with nothing behind it, it is the same. A
space or a line feed behind a text does not change the lexeme at the front of the text either,
unless that is a literal which has no end in the text.
-/

namespace Offside.Lexeme

/-- The lexeme is no literal that has run out of text. -/
def Terminated (lexeme : Lexeme) : Prop :=
  ∀ flaw ∈ lexeme.flaws, flaw.problem ≠ .unterminatedString ∧ flaw.problem ≠ .unterminatedRaw

section Literals

/-- A closed body is read by looking no further than its closing quote. -/
theorem QuotedBody.read_take_append {text : Text} (closed : (read text).closed = true)
    (other : Text) :
    read (text.take (QuotedUnit.total (read text).units + 1) ++ other) = read text := by
  fun_induction read text with
  | case1 => simp at closed
  | case2 rest => simp [read]
  | case3 c rest ih =>
    have step : QuotedUnit.total ((read rest).cons (.escape c)).units + 1 =
        QuotedUnit.total (read rest).units + 1 + 2 := by
      simp only [cons, QuotedUnit.total_escape]
      omega
    rw [step, List.take_succ_cons, List.take_succ_cons, List.cons_append, List.cons_append, read,
      ih closed]
  | case4 c rest unquoted whole ih =>
    have step : QuotedUnit.total ((read rest).cons (.plain c)).units + 1 =
        QuotedUnit.total (read rest).units + 1 + 1 := by
      simp only [cons, QuotedUnit.total_plain]
      omega
    -- A backslash here would be the last character, and nothing behind it could close the body.
    have ordinary : c ≠ '\\' := by
      rintro rfl
      cases rest with
      | nil => simp [cons, read] at closed
      | cons d rest => exact whole d rest rfl rfl
    rw [step, List.take_succ_cons, List.cons_append, read, ih closed]
    · exact unquoted
    · intro d more backslash
      exact absurd backslash ordinary

/-- Up to its closing quote, a quoted literal does not depend on what is behind it. -/
theorem quoted_take_append {rest : Text} (closed : (QuotedBody.read rest).closed = true)
    (other : Text) : quoted (rest.take ((quoted rest).length - 1) ++ other) = quoted rest := by
  have length : (quoted rest).length - 1 = QuotedUnit.total (QuotedBody.read rest).units + 1 := by
    simp [quoted, closed]
  rw [length]
  simp only [quoted, QuotedBody.read_take_append closed]

/-- A quoted literal that is not closed is reported as such, and takes up the whole text. -/
theorem quoted_of_not_closed {rest : Text} (unclosed : ¬ (QuotedBody.read rest).closed = true) :
    ¬ (quoted rest).Terminated ∧ (quoted rest).length = rest.length + 1 := by
  have size := QuotedBody.total_units_read rest
  rw [if_neg unclosed] at size
  simp [quoted, unclosed, Terminated, size]

theorem quoted_take (rest : Text) :
    quoted (rest.take ((quoted rest).length - 1)) = quoted rest := by
  by_cases closed : (QuotedBody.read rest).closed = true
  · simpa using quoted_take_append closed []
  · rw [(quoted_of_not_closed closed).2, Nat.add_sub_cancel, List.take_length]

theorem quoted_append {rest : Text} (terminated : (quoted rest).Terminated) (other : Text) :
    quoted (rest ++ other) = quoted rest := by
  by_cases closed : (QuotedBody.read rest).closed = true
  · have same := quoted_take_append closed (rest.drop ((quoted rest).length - 1) ++ other)
    rwa [← List.append_assoc, List.take_append_drop] at same
  · exact absurd terminated (quoted_of_not_closed closed).1

/-- Up to its closing quotes, a raw literal does not depend on what is behind it. -/
theorem raw_take_append {rest : Text} {index : Nat}
    (closed : Text.indexOf? tripleQuote rest = some index) (other : Text) :
    raw (rest.take ((raw rest).length - 3) ++ other) = raw rest := by
  have length : (raw rest).length - 3 = index + tripleQuote.length := by
    simp only [raw, closed]
    rfl
  rw [length]
  simp only [raw, Text.indexOf?_take_append closed, closed]

/-- A raw literal that is not closed is reported as such, and takes up the whole text. -/
theorem raw_of_not_closed {rest : Text} (unclosed : Text.indexOf? tripleQuote rest = none) :
    ¬ (raw rest).Terminated ∧ (raw rest).length = rest.length + 3 := by
  simp [raw, unclosed, Terminated]

theorem raw_take (rest : Text) : raw (rest.take ((raw rest).length - 3)) = raw rest := by
  cases closed : Text.indexOf? tripleQuote rest with
  | some index => simpa using raw_take_append closed []
  | none => rw [(raw_of_not_closed closed).2, Nat.add_sub_cancel, List.take_length]

theorem raw_append {rest : Text} (terminated : (raw rest).Terminated) (other : Text) :
    raw (rest ++ other) = raw rest := by
  cases closed : Text.indexOf? tripleQuote rest with
  | some index =>
    have same := raw_take_append closed (rest.drop ((raw rest).length - 3) ++ other)
    rwa [← List.append_assoc, List.take_append_drop] at same
  | none => exact absurd terminated (raw_of_not_closed closed).1

theorem three_le_length_raw (rest : Text) : 3 ≤ (raw rest).length := by
  unfold raw
  split <;> simp

end Literals

section Words

theorem word_append_cons (first : Char) {c : Char} (stops : isWordPart c = false)
    (rest more : Text) : word first (rest ++ c :: more) = word first rest := by
  simp only [word, Text.takeWhile_append_cons stops]

theorem word_take (first : Char) (rest : Text) :
    word first (rest.take ((word first rest).length - 1)) = word first rest := by
  have taken : rest.take ((word first rest).length - 1) = rest.takeWhile isWordPart :=
    (List.prefix_iff_eq_take.1 (List.takeWhile_prefix isWordPart)).symm
  rw [taken]
  simp only [word, List.takeWhile_idem]

/-- Without a digit behind a point there is no fraction. -/
theorem fractionLength_eq_zero {rest : Text}
    (none : ∀ digit more, rest = '.' :: digit :: more → digit.isDigit = false) :
    fractionLength rest = 0 := by
  unfold fractionLength
  split
  · rw [none _ _ rfl]
    rfl
  · rfl

theorem fractionLength_append_cons {c : Char} (stops : isNumberPart c = false) (noPoint : c ≠ '.')
    (rest more : Text) : fractionLength (rest ++ c :: more) = fractionLength rest := by
  have noDigit : c.isDigit = false := by simp_all [isNumberPart]
  fun_cases fractionLength rest with
  | case1 digit rest isDigit =>
    simp [fractionLength, isDigit, Text.takeWhile_append_cons stops]
  | case2 digit rest notDigit => simp [fractionLength, notDigit]
  | case3 rest short =>
    apply fractionLength_eq_zero
    intro digit further same
    -- The point or the digit would be the character that stops the number.
    match rest, short, same with
    | [], _, same => exact absurd (List.cons.inj same).1 noPoint
    | [_], _, same =>
      obtain ⟨rfl, _⟩ := List.cons.inj (List.cons.inj same).2
      exact noDigit
    | d :: e :: rest, short, same =>
      obtain ⟨rfl, _⟩ := List.cons.inj same
      exact (short e rest rfl).elim

theorem number_append_cons {c : Char} (stops : isNumberPart c = false) (noPoint : c ≠ '.')
    (rest more : Text) : number (rest ++ c :: more) = number rest := by
  simp only [number, Text.takeWhile_append_cons stops, Text.dropWhile_append_cons stops,
    fractionLength_append_cons stops noPoint]

theorem fractionLength_take (rest : Text) :
    fractionLength (rest.take (fractionLength rest)) = fractionLength rest := by
  fun_cases fractionLength rest with
  | case1 digit rest isDigit =>
    have taken : rest.take (rest.takeWhile isNumberPart).length = rest.takeWhile isNumberPart :=
      (List.prefix_iff_eq_take.1 (List.takeWhile_prefix isNumberPart)).symm
    rw [Nat.add_comm, List.take_succ_cons, List.take_succ_cons, taken]
    simp [fractionLength, isDigit, List.takeWhile_idem, Nat.add_comm]
  | case2 => simp [fractionLength]
  | case3 => simp [fractionLength]

theorem number_take (rest : Text) :
    number (rest.take ((number rest).length - 1)) = number rest := by
  obtain ⟨whole, behind, rfl, digits, stops⟩ := Text.exists_run isNumberPart rest
  have stops' : ∀ c ∈ (behind.take (fractionLength behind)).head?, isNumberPart c = false := by
    intro c head
    rw [List.head?_take] at head
    split at head
    · simp at head
    · exact stops c head
  obtain ⟨taken, dropped⟩ := Text.takeWhile_dropWhile_append digits stops
  obtain ⟨taken', dropped'⟩ := Text.takeWhile_dropWhile_append digits stops'
  have length : (number (whole ++ behind)).length - 1 = whole.length + fractionLength behind := by
    simp only [number, taken, dropped]
    omega
  rw [length, List.take_length_add_append]
  simp only [number, taken, dropped, taken', dropped', fractionLength_take]

end Words

section Operators

/-- What is behind a character that is in no operator has no part in which operator is read. -/
theorem read?_append_cons {c : Char} (absent : ∀ sign : Operator, c ∉ sign.spelling) (first : Char)
    (rest more : Text) : Operator.read? first (rest ++ c :: more) = Operator.read? first rest := by
  unfold Operator.read?
  cases found : Operator.families.lookup first with
  | none => rfl
  | some family =>
    have same : ∀ member ∈ family.suffixes,
        member.1.isPrefixOf (rest ++ c :: more) = member.1.isPrefixOf rest := by
      intro (suffix, sign) member
      have spelled := Operator.mem_families_iff.1 ⟨family,
        Operator.lookup_families_eq_some_iff.1 found, List.mem_append_left _ member⟩
      have clean := absent sign
      rw [spelled] at clean
      exact Text.isPrefixOf_append_cons (List.not_mem_of_not_mem_cons clean)
    simp only [Option.map_some, Operator.Family.munch, List.find?_congr same]

/-- A character that starts no operator does not start one on its own. -/
theorem read?_nil {first : Char} {rest : Text} (unsigned : Operator.read? first rest = none) :
    Operator.read? first [] = none := by
  rw [Operator.read?, Option.map_eq_none_iff] at unsigned ⊢
  exact unsigned

end Operators

section Dispatch

/-- Two double quotes behind the first open a raw literal. -/
theorem read_raw (body : Text) : read '\x22' ('\x22' :: '\x22' :: body) = raw body := rfl

theorem read_quoted {rest : Text} (single : ∀ body, rest ≠ '\x22' :: '\x22' :: body) :
    read '\x22' rest = quoted rest := by
  unfold read
  split
  · simp_all
  · rw [if_pos rfl]
    split
    · exact absurd rfl (single _)
    · rfl

variable {first : Char} (newline : first ≠ '\n') (quote : first ≠ '\x22')

include newline quote

theorem read_word (start : isWordStart first = true) (rest : Text) :
    read first rest = word first rest := by
  unfold read
  rw [if_neg newline, if_neg quote, if_pos start]

theorem read_number (start : ¬ isWordStart first = true) (digit : first.isDigit = true)
    (rest : Text) : read first rest = number rest := by
  unfold read
  rw [if_neg newline, if_neg quote, if_neg start, if_pos digit]

theorem read_sign (start : ¬ isWordStart first = true) (digit : ¬ first.isDigit = true)
    (rest : Text) :
    read first rest = (Operator.read? first rest).elim (stray first)
      fun (suffix, sign) => ofOperator suffix sign := by
  unfold read
  rw [if_neg newline, if_neg quote, if_neg start, if_neg digit]
  split
  · rename_i suffix sign signed
    rw [signed]
    rfl
  · rename_i unsigned
    rw [unsigned]
    rfl

end Dispatch

/-- A literal that has run out of text takes up all of it. -/
theorem terminated_or_whole (first : Char) (rest : Text) :
    (read first rest).Terminated ∨ (read first rest).length = rest.length + 1 := by
  fun_cases read first rest with
  | case1 => exact .inl (by simp [endOfLine, Terminated])
  | case2 _ quote body =>
    cases closed : Text.indexOf? tripleQuote body with
    | some index => exact .inl (by simp [raw, closed, Terminated])
    | none => exact .inr (raw_of_not_closed closed).2
  | case3 _ _ rest =>
    by_cases closed : (QuotedBody.read rest).closed = true
    · left
      intro flaw member
      simp only [quoted, closed, if_true] at member
      obtain ⟨⟨c, problem⟩, _⟩ := QuotedUnit.mem_flawsFrom member
      simp [problem]
    · exact .inr (quoted_of_not_closed closed).2
  | case4 => exact .inl (by simp [word, Terminated])
  | case5 => exact .inl (by simp [number, Terminated])
  | case6 => exact .inl (by simp [ofOperator, Terminated])
  | case7 => exact .inl (by simp [stray, Terminated])

/-- A lexeme is decided by its own characters. -/
theorem read_take (first : Char) (rest : Text) :
    read first (rest.take ((read first rest).length - 1)) = read first rest := by
  fun_cases read first rest with
  | case1 rest newline => simp [endOfLine, read, newline]
  | case2 newline quote body =>
    have long := three_le_length_raw body
    have split : (raw body).length - 1 = (raw body).length - 3 + 2 := by omega
    rw [quote, split, List.take_succ_cons, List.take_succ_cons, read_raw, raw_take]
  | case3 newline quote rest single =>
    rw [quote, read_quoted, quoted_take]
    intro body opened
    have joined := List.take_append_drop ((quoted rest).length - 1) rest
    rw [opened] at joined
    exact single _ joined.symm
  | case4 rest newline quote start => rw [read_word newline quote start, word_take]
  | case5 rest newline quote start digit => rw [read_number newline quote start digit, number_take]
  | case6 rest newline quote start digit suffix sign signed =>
    obtain ⟨spelled, begins⟩ := Operator.spelling_of_read? signed
    have own : rest.take ((ofOperator suffix sign).length - 1) = suffix :=
      (List.prefix_iff_eq_take.1 begins).symm
    rw [read_sign newline quote start digit, own, Operator.read?_of_spelling spelled]
    rfl
  | case7 rest newline quote start digit unsigned =>
    have alone : rest.take ((stray first).length - 1) = [] := rfl
    rw [read_sign newline quote start digit, alone, read?_nil unsigned]
    rfl

/-- A lexeme is read from its own characters as it is read with more text behind it. -/
theorem read_eq_read_append {first : Char} {body rest : Text}
    (length : (read first (body ++ rest)).length = body.length + 1) :
    read first body = read first (body ++ rest) := by
  have same := read_take first (body ++ rest)
  rwa [length, Nat.add_sub_cancel, List.take_left] at same

/-- No word, number or operator goes on over a space or a line feed, and neither of them quotes. -/
theorem stops_of_blank {c : Char} (blank : c = ' ' ∨ c = '\n') :
    isWordPart c = false ∧ isNumberPart c = false ∧ c ≠ '.' ∧ c ≠ '\x22' ∧
      ∀ sign : Operator, c ∉ sign.spelling := by
  have noSign : ∀ sign : Operator, ' ' ∉ sign.spelling ∧ '\n' ∉ sign.spelling := by
    intro sign
    cases sign <;> decide
  rcases blank with rfl | rfl
  · exact ⟨by decide, by decide, by decide, by decide, fun sign => (noSign sign).1⟩
  · exact ⟨by decide, by decide, by decide, by decide, fun sign => (noSign sign).2⟩

/-- A space or a line feed behind a text does not change the lexeme at its front, unless that has
run out of text. -/
theorem read_append_cons {first c : Char} {rest : Text} (blank : c = ' ' ∨ c = '\n')
    (terminated : (read first rest).Terminated) (more : Text) :
    read first (rest ++ c :: more) = read first rest := by
  obtain ⟨noWord, noNumber, noPoint, noQuote, noSign⟩ := stops_of_blank blank
  revert terminated
  fun_cases read first rest with
  | case1 rest newline => simp [read, newline]
  | case2 newline quote body =>
    intro terminated
    rw [quote, List.cons_append, List.cons_append, read_raw, raw_append terminated]
  | case3 newline quote rest single =>
    intro terminated
    rw [quote, read_quoted, quoted_append terminated]
    intro body opened
    -- The second quote would be the character appended, unless it was there before.
    match rest, single, opened with
    | [], _, opened => exact noQuote (List.cons.inj opened).1
    | [_], _, opened => exact noQuote (List.cons.inj (List.cons.inj opened).2).1
    | d :: e :: rest, single, opened =>
      obtain ⟨rfl, rest'⟩ := List.cons.inj opened
      obtain ⟨rfl, _⟩ := List.cons.inj rest'
      exact single rest rfl
  | case4 rest newline quote start =>
    intro _
    rw [read_word newline quote start, word_append_cons first noWord]
  | case5 rest newline quote start digit =>
    intro _
    rw [read_number newline quote start digit, number_append_cons noNumber noPoint]
  | case6 rest newline quote start digit suffix sign signed =>
    intro _
    rw [read_sign newline quote start digit, read?_append_cons noSign, signed]
    rfl
  | case7 rest newline quote start digit unsigned =>
    intro _
    rw [read_sign newline quote start digit, read?_append_cons noSign, unsigned]
    rfl

end Offside.Lexeme
