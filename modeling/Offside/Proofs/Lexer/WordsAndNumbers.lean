import Offside.Proofs.Lexeme.Grammar
import Offside.Proofs.Lexer.Taking

/-! # Words and numbers

Where a letter or an underscore stands, a lexer takes the longest word, and where a digit stands,
the longest number. All its names, keywords, truth values and numbers come about in these two ways.
-/

namespace Offside

open Lexeme

/-- The token stands for a word: the longest one where a letter or an underscore stands. -/
def Token.FromWord (source : Source) (token : Token) : Prop :=
  ∃ front first rest letters, source.text = front ++ first :: rest ∧
    (Text.isAlphabetic first = true ∨ first = '_') ∧
    Text.Longest IsWordText letters (first :: rest) ∧
    token.kind = (Kind.reserved? letters).getD .name ∧
    token.span = Text.spanAfter front letters.length

/-- The token stands for a number: the longest one where a digit stands. -/
def Token.FromNumber (source : Source) (token : Token) : Prop :=
  ∃ front first rest word, source.text = front ++ first :: rest ∧ first.isDigit = true ∧
    Text.Longest (· ∈ numeral) word (first :: rest) ∧
    token.kind = (if '.' ∈ word then .float else .integer) ∧
    token.span = Text.spanAfter front word.length

/-- A token with the kind of a word or a number stands for one in the source. -/
structure Token.Grammatical (source : Source) (token : Token) : Prop where
  word : token.kind.isWord = true → token.FromWord source
  number : token.kind.isNumber = true → token.FromNumber source

namespace Lexer

/-- The lexer gives this token, as the next one or in a run. -/
def Gives (lexer : Lexer) (token : Token) : Prop :=
  (∃ after, lexer.next = .ok (some token, after)) ∨
    ∃ tokens after, lexer.run = .ok (tokens, after) ∧ token ∈ tokens

/-- What a step reads is grammatical. -/
theorem Step.grammatical {lexer next : Lexer} {before : Text} {reading : Reading}
    (step : Step lexer before reading next) (passed : lexer.Passed before) :
    reading.token.Grammatical lexer.source := by
  cases step with
  | finish => exact ⟨nofun, nofun⟩
  | newline => exact ⟨nofun, nofun⟩
  | @lexeme blanks word rest ahead first _ more _ length =>
    have divided := passed.divided
    rw [more, ← List.append_assoc] at divided
    obtain ⟨fromWord, fromNumber⟩ := start_of_read first ahead
    refine ⟨?_, ?_⟩
    · intro isWord
      have start := fromWord isWord
      obtain ⟨letters, _, _, size, longest, kind, _⟩ := exists_read_word start ahead
      refine ⟨before ++ blanks, first, ahead, letters, divided, by simpa [isWordStart] using start,
        longest, ?_, ?_⟩
      · simp only [Reading.token, kind, Option.getD_some]
      · simp only [Reading.token, length, size]
    · intro isNumber
      have start := fromNumber isNumber
      obtain ⟨digits, _, _, size, longest, kind, _⟩ := exists_read_number start ahead
      refine ⟨before ++ blanks, first, ahead, digits, divided, start, longest, ?_, ?_⟩
      · simp only [Reading.token, kind, Option.getD_some]
      · simp only [Reading.token, length, size]

/-- What a lexer gives is grammatical wherever it has got to. -/
theorem Reachable.grammatical {config : Queue.Config} {source : Source} {lexer : Lexer}
    {token : Token} (countable : Text.Countable source.text)
    (reached : Reachable config source lexer) (gives : lexer.Gives token) :
    token.Grammatical source := by
  obtain ⟨rfl, ⟨before, passed⟩, _⟩ := reached.truthful countable
  rcases gives with ⟨after, read⟩ | ⟨tokens, after, ran, member⟩
  · obtain ⟨⟨reading, next⟩, scanned, same⟩ := Fault.map_eq_ok_iff.1 read
    obtain ⟨given, rfl⟩ := Prod.mk.inj same
    obtain ⟨kind, known, rfl⟩ := Option.map_eq_some_iff.1 given
    have grammatical := (step_of_scan countable passed scanned).grammatical passed
    rwa [Reading.token, known] at grammatical
  · obtain ⟨front, last, path, _, _, rfl⟩ := path_of_run ran
    obtain ⟨reading, present, rfl⟩ := List.mem_map.1 member
    apply path.forall_readings countable passed _ reading present
    intro lexer before reading next source passed step
    rw [← source]
    exact step.grammatical passed

/-- A lexer that has been reached takes the longest word where a letter or an underscore stands
ahead of it, and the longest number where a digit does. Whatever it gives as a word or a number
stands for one in the source. -/
theorem Reachable.takes_longest {config : Queue.Config} {source : Source} {lexer : Lexer}
    (short : source.text.length < Text.counterLimit) (reached : Reachable config source lexer) :
    (∀ blanks first text, (∀ c ∈ blanks, c = ' ') →
      lexer.cursor.rest = blanks ++ first :: text →
        (Text.isAlphabetic first = true ∨ first = '_' →
          ∃ front letters rest, first :: text = letters ++ rest ∧
            Text.Longest IsWordText letters (first :: text) ∧
            lexer.Takes front letters rest (some ((Kind.reserved? letters).getD .name)) []) ∧
        (first.isDigit = true →
          ∃ front digits rest, first :: text = digits ++ rest ∧
            Text.Longest (· ∈ numeral) digits (first :: text) ∧
            lexer.Takes front digits rest
              (some (if '.' ∈ digits then .float else .integer)) [])) ∧
      ∀ token, lexer.Gives token → token.Grammatical source := by
  have countable := Text.countable_of_length_lt short
  refine ⟨?_, fun token => reached.grammatical countable⟩
  intro blanks first text spaces ahead
  refine ⟨?_, ?_⟩
  · intro letter
    have start : isWordStart first = true := by simpa [isWordStart] using letter
    obtain ⟨newline, visible, _⟩ := ordinary_of_start (.inl start)
    obtain ⟨front, takes⟩ := reached.exists_takes countable spaces ahead newline visible
    obtain ⟨letters, rest, cut, size, longest, kind, flawless⟩ := exists_read_word start text
    have taken := takes letters rest cut size
    rw [kind, flawless] at taken
    exact ⟨front, letters, rest, cut, longest, taken⟩
  · intro isDigit
    obtain ⟨newline, visible, _⟩ := ordinary_of_start (.inr isDigit)
    obtain ⟨front, takes⟩ := reached.exists_takes countable spaces ahead newline visible
    obtain ⟨digits, rest, cut, size, longest, kind, flawless⟩ := exists_read_number isDigit text
    have taken := takes digits rest cut size
    rw [kind, flawless] at taken
    exact ⟨front, digits, rest, cut, longest, taken⟩

/-- Behind a keyword and a space stands a number with an underscore and a fraction, and behind that
a second point with a digit. -/
theorem Reachable.takes_longest_fraction :
    let text := ['_', '2', '.', '5', '.', '3']
    let source := Source.ofText (['i', 'f', ' ', '1'] ++ text)
    source.text.length < Text.counterLimit ∧ ∃ lexer, Reachable .unlimited source lexer ∧
      lexer.cursor.rest = [' '] ++ '1' :: text ∧
      (∃ front digits rest, '1' :: text = digits ++ rest ∧
        Text.Longest (· ∈ numeral) digits ('1' :: text) ∧
        lexer.Takes front digits rest (some (if '.' ∈ digits then .float else .integer)) []) ∧
      ∀ token, lexer.Gives token → token.Grammatical source := by
  intro text source
  have short : source.text.length < Text.counterLimit := by decide
  obtain ⟨token?, lexer, read, ahead⟩ : ∃ token? lexer,
      (Lexer.start .unlimited source).next = .ok (token?, lexer) ∧
        lexer.cursor.rest = [' '] ++ '1' :: text := ⟨_, _, rfl, rfl⟩
  have reached : Reachable .unlimited source lexer := .next .start read
  obtain ⟨taken, given⟩ := Reachable.takes_longest short reached
  exact ⟨short, lexer, reached, ahead, (taken _ _ _ (by simp) ahead).2 (by decide), given⟩

end Lexer

end Offside
