import Mathlib.Algebra.Group.Nat.Defs
import Offside.Proofs.Lexeme.Locality
import Offside.Proofs.Lexer.Tiling

/-! # Reading the lexemes again

The lexemes of a source, written one behind the other with a space between them, are read as the
same lexemes. Each of them is a lexeme by itself, and a space does not change what is before it:
only a literal without an end would take it up, and such a literal is the last lexeme of its source.
Behind a line feed the space stands before the next lexeme, so no line shows an indentation.
-/

namespace Offside

/-- What a token is, and the text it covers. -/
def Source.spell (source : Source) (token : Token) : Except Fault (Kind × Text) :=
  (source.substring token.span).map fun text => (token.kind, text)

/-- The token of a reading is spelled by the text it was read from. -/
theorem Source.spell_token {source : Source} {before word rest : Text} {reading : Reading}
    (divided : source.text = before ++ (word ++ rest))
    (span : reading.span = Text.spanAfter before word.length) :
    source.spell reading.token = .ok (reading.token.kind, word) := by
  have covered := Source.substring_spanAfter divided word.length
  rw [List.take_left] at covered
  unfold spell
  rw [show reading.token.span = Text.spanAfter before word.length from span, covered]
  rfl

namespace Lexeme

/-- The text of a word is a lexeme by itself, of the kind of the word. -/
def StandsAlone (word : Kind × Text) : Prop :=
  ∃ first body, word.2 = first :: body ∧ first ≠ ' ' ∧
    (read first body).length = body.length + 1 ∧ word.1 = (read first body).kind?.getD .invalid

/-- The text of a word is no literal that lacks its end. -/
def Closed (word : Kind × Text) : Prop :=
  ∀ first body, word.2 = first :: body → (read first body).Terminated

end Lexeme

namespace Lexer

open Lexeme

/-- The readings up to a lexer that has passed a text, spelled out as words. All words but the last
are closed, and the last as well if more is ahead. -/
structure Spelled (lexer : Lexer) (before : Text) (readings : List Reading)
    (words : List (Kind × Text)) : Prop where
  passed : lexer.Passed before
  spelled : (readings.map Reading.token).mapM lexer.source.spell = .ok words
  alone : ∀ word ∈ words, StandsAlone word
  closed : ∀ word ∈ words.dropLast, Closed word
  ahead : lexer.cursor.rest ≠ [] → ∀ word ∈ words, Closed word
  size : (words.flatMap Prod.snd).length + words.length ≤ 2 * before.length

namespace Spelled

variable {lexer next : Lexer} {before : Text} {readings : List Reading} {reading : Reading}
  {words : List (Kind × Text)}

/-- One more word is spelled, and some of the text behind it is skipped. -/
theorem snoc {blanks text line skipped rest : Text} (spelled : Spelled lexer before readings words)
    (more : lexer.cursor.rest = blanks ++ (text ++ line)) (indented : line = skipped ++ rest)
    (source : next.source = lexer.source)
    (cursor : next.cursor = .between (before ++ blanks ++ text ++ skipped) rest)
    (span : reading.span = Text.spanAfter (before ++ blanks) text.length)
    (alone : StandsAlone (reading.token.kind, text))
    (ahead : rest ≠ [] → Closed (reading.token.kind, text)) :
    Spelled next (before ++ blanks ++ text ++ skipped) (readings ++ [reading])
      (words ++ [(reading.token.kind, text)]) := by
  have joined : lexer.cursor.rest = blanks ++ text ++ skipped ++ rest := by
    rw [more, indented]
    simp only [List.append_assoc]
  have passed := spelled.passed.advance joined source cursor (by simp only [List.append_assoc])
  have nonempty : text ≠ [] := by
    obtain ⟨first, body, opened, _⟩ := alone
    rw [show text = first :: body from opened]
    exact List.cons_ne_nil first body
  have divided : lexer.source.text = before ++ blanks ++ (text ++ line) := by
    rw [spelled.passed.divided, more, List.append_assoc]
  have closed : ∀ word ∈ words, Closed word := spelled.ahead (by simp [more, nonempty])
  refine ⟨passed, ?_, ?_, ?_, ?_, ?_⟩
  · rw [source, List.map_append, List.map_singleton, List.mapM_append, spelled.spelled,
      List.mapM_cons, Source.spell_token divided span]
    rfl
  · intro word member
    rcases List.mem_append.1 member with old | new
    · exact spelled.alone word old
    · exact List.mem_singleton.1 new ▸ alone
  · rw [List.dropLast_concat]
    exact closed
  · intro further word member
    rcases List.mem_append.1 member with old | new
    · exact closed word old
    · rw [cursor, Cursor.between_rest] at further
      exact List.mem_singleton.1 new ▸ ahead further
  · have size := spelled.size
    have positive := List.length_pos_iff.2 nonempty
    simp only [List.flatMap_append, List.flatMap_singleton, List.length_append,
      List.length_singleton]
    omega

/-- Every step before the end of the source spells a word. -/
theorem step (spelled : Spelled lexer before readings words) (step : Step lexer before reading next)
    (goesOn : reading.isLast = false) :
    ∃ beyond word, Spelled next beyond (readings ++ [reading]) (words ++ [word]) := by
  cases step with
  | finish => simp [Reading.isLast] at goesOn
  | @newline blanks line rest unit? spaces ahead unit indented =>
    have alone : StandsAlone (.endOfLine, ['\n']) := ⟨'\n', [], rfl, by decide, rfl, rfl⟩
    have closed : Closed (.endOfLine, ['\n']) := by
      rintro first body opened
      obtain ⟨rfl, rfl⟩ := List.cons.inj opened
      simp [Lexeme.read, endOfLine, Terminated]
    exact ⟨_, _, spelled.snoc ahead indented rfl rfl rfl alone fun _ => closed⟩
  | @lexeme blanks word rest ahead first spaces more cut length ordinary visible =>
    obtain ⟨body, rfl, rfl⟩ := exists_body_of_cut cut length
    have same : Lexeme.read first body = Lexeme.read first (body ++ rest) :=
      read_eq_read_append length.symm
    have alone : StandsAlone
        ((Lexeme.read first (body ++ rest)).kind?.getD .invalid, first :: body) :=
      ⟨first, body, rfl, visible, by rw [same, ← length]; rfl, by rw [same]⟩
    refine ⟨_, _, spelled.snoc more rfl rfl (by rw [List.append_nil]) rfl alone ?_⟩
    intro further other rest' opened
    obtain ⟨rfl, rfl⟩ := List.cons.inj opened
    rw [same]
    -- A literal without an end would have left nothing ahead.
    rcases terminated_or_whole first (body ++ rest) with terminated | whole
    · exact terminated
    · rw [← length, List.length_append, List.length_cons] at whole
      exact absurd (List.length_eq_zero_iff.1 (by omega)) further

end Spelled

/-- Up to the end of a countable source, all readings spell words. -/
theorem Path.exists_spelled {config : Queue.Config} {source : Source} {lexer : Lexer}
    {readings : List Reading} (path : Path (start config source) readings lexer)
    (countable : Text.Countable source.text)
    (goesOn : ∀ reading ∈ readings, reading.isLast = false) :
    lexer.source = source ∧ ∃ before words, Spelled lexer before readings words := by
  induction path with
  | nil => exact ⟨rfl, [], [], passed_start config source, rfl, by simp, by simp, by simp, by simp⟩
  | step _ scanned ih =>
    obtain ⟨rfl, before, words, spelled⟩ := ih fun reading member =>
      goesOn reading (List.mem_append_left _ member)
    have step := step_of_scan countable spelled.passed scanned
    obtain ⟨beyond, word, onward⟩ := spelled.step step (goesOn _ (by simp))
    exact ⟨step.source_eq, beyond, words ++ [word], onward⟩

/-- No line has been indented so far. -/
structure Unindented (lexer : Lexer) : Prop where
  unit : lexer.unit? = none
  level : lexer.level = 0

/-- What stands behind a word: nothing, or one space and then what is no space. -/
def Apart (word : Kind × Text) (tail : Text) : Prop :=
  tail = [] ∨ Closed word ∧ ∃ c more, tail = ' ' :: c :: more ∧ c ≠ ' '

/-- A word that stands apart from what follows is read as it is, and leaves no indentation. -/
theorem exists_step_word {lexer : Lexer} {before blanks tail : Text} {word : Kind × Text}
    (passed : lexer.Passed before) (unindented : lexer.Unindented)
    (spaces : ∀ c ∈ blanks, c = ' ') (more : lexer.cursor.rest = blanks ++ (word.2 ++ tail))
    (alone : StandsAlone word) (apart : Apart word tail) :
    ∃ reading next, Step lexer before reading next ∧ reading.isLast = false ∧
      lexer.source.spell reading.token = .ok word ∧ reading.indent = 0 ∧ next.Unindented ∧
      next.cursor.rest = tail := by
  have divided : lexer.source.text = before ++ blanks ++ (word.2 ++ tail) := by
    rw [passed.divided, more, List.append_assoc]
  obtain ⟨kind, text⟩ := word
  obtain ⟨first, body, opened, visible, whole, named⟩ := alone
  dsimp only at opened named divided more
  subst opened named
  by_cases newline : first = '\n'
  · subst newline
    obtain rfl : body = [] := List.length_eq_zero_iff.1 (Nat.succ.inj whole.symm)
    have unsettled : none = IndentUnit.inForce lexer.unit? tail := by
      rw [unindented.unit]
      rcases apart with rfl | ⟨_, c, further, rfl, other⟩
      · rfl
      · exact (IndentUnit.detect?_space_cons other further).symm
    refine ⟨_, _, .newline spaces more unsettled rfl, rfl, ?_, unindented.level, ⟨rfl, rfl⟩, rfl⟩
    exact Source.spell_token divided rfl
  · have same : Lexeme.read first (body ++ tail) = Lexeme.read first body := by
      rcases apart with rfl | ⟨closed, c, further, rfl, _⟩
      · rw [List.append_nil]
      · exact read_append_cons (.inl rfl) (closed first body rfl) (c :: further)
    have length : (first :: body).length = (Lexeme.read first (body ++ tail)).length := by
      rw [same, whole, List.length_cons]
    refine ⟨_, _, .lexeme spaces more rfl length newline visible, ?_, ?_, unindented.level,
      ⟨unindented.unit, unindented.level⟩, rfl⟩
    · simpa [Reading.isLast] using (Lexeme.marker_read first (body ++ tail)).1
    · rw [Source.spell_token divided rfl, ← same]
      rfl

/-- The texts of words, with a space between them. -/
def spaced (words : List (Kind × Text)) : Text := [' '].intercalate (words.map Prod.snd)

@[simp] theorem spaced_singleton (word : Kind × Text) : spaced [word] = word.2 := by
  simp [spaced]

@[simp] theorem spaced_cons_cons (word other : Kind × Text) (rest : List (Kind × Text)) :
    spaced (word :: other :: rest) = word.2 ++ ' ' :: spaced (other :: rest) := by
  simp [spaced, List.intercalate_cons_cons]

theorem length_spaced_le (words : List (Kind × Text)) :
    (spaced words).length ≤ (words.flatMap Prod.snd).length + words.length := by
  induction words with
  | nil => simp [spaced]
  | cons word words ih =>
    cases words with
    | nil => simp
    | cons other rest =>
      rw [List.flatMap_cons, spaced_cons_cons, List.length_append, List.length_append,
        List.length_cons, List.length_cons]
      omega

/-- Every word has a character of its own, so the spaces between words at most double the text. -/
theorem Spelled.length_spaced_le {lexer : Lexer} {before : Text} {readings : List Reading}
    {words : List (Kind × Text)} (spelled : Spelled lexer before readings words) :
    (spaced words).length ≤ 2 * lexer.source.text.length := by
  have bound := Lexer.length_spaced_le words
  have size := spelled.size
  have within := congrArg List.length spelled.passed.divided
  rw [List.length_append] at within
  omega

/-- The first of several words stands apart from the others. -/
theorem exists_spaced_cons {word : Kind × Text} {words : List (Kind × Text)}
    (alone : ∀ other ∈ words, StandsAlone other) (closed : words ≠ [] → Closed word) :
    ∃ blanks, (∀ c ∈ blanks, c = ' ') ∧
      spaced (word :: words) = word.2 ++ (blanks ++ spaced words) ∧
      Apart word (blanks ++ spaced words) := by
  cases words with
  | nil => exact ⟨[], by simp, by simp [spaced], .inl rfl⟩
  | cons other rest =>
    obtain ⟨first, body, opened, visible, _⟩ := alone other List.mem_cons_self
    refine ⟨[' '], by simp, by simp, .inr ⟨closed (by simp), first, ?_⟩⟩
    cases rest with
    | nil => exact ⟨body, by simp [opened], visible⟩
    | cons third rest => exact ⟨body ++ ' ' :: spaced (third :: rest), by simp [opened], visible⟩

/-- Words that are read with a space between them are read as they are. -/
theorem exists_run_spaced {words : List (Kind × Text)} {lexer : Lexer} {before blanks : Text}
    (countable : Text.Countable lexer.source.text) (passed : lexer.Passed before)
    (unindented : lexer.Unindented) (spaces : ∀ c ∈ blanks, c = ' ')
    (more : lexer.cursor.rest = blanks ++ spaced words)
    (alone : ∀ word ∈ words, StandsAlone word) (closed : ∀ word ∈ words.dropLast, Closed word) :
    ∃ tokens final, lexer.run = .ok (tokens, final) ∧
      tokens.mapM lexer.source.spell = .ok (words ++ [(.endOfFile, [])]) ∧
      (∀ token ∈ tokens, token.indent = 0) ∧ final.unit? = none := by
  induction words generalizing lexer before blanks with
  | nil =>
    have ahead : lexer.cursor.rest = blanks := more.trans (List.append_nil _)
    have divided : lexer.source.text = before ++ blanks ++ ([] ++ []) := by
      rw [passed.divided, ahead, List.append_nil, List.append_nil]
    have scanned := scan_of_step countable passed (.finish spaces ahead)
    refine ⟨_, _, run_of_isLast scanned rfl, ?_, ?_, unindented.unit⟩
    · rw [List.mapM_cons, Source.spell_token divided rfl]
      rfl
    · simpa [Reading.token] using unindented.level
  | cons word words ih =>
    have alone' : ∀ other ∈ words, StandsAlone other := fun other member =>
      alone other (List.mem_cons_of_mem _ member)
    obtain ⟨closedHere, closed'⟩ :
        (words ≠ [] → Closed word) ∧ ∀ other ∈ words.dropLast, Closed other := by
      cases words with
      | nil => simp
      | cons other rest => simpa using closed
    obtain ⟨blanks', spaces', joined, apart⟩ := exists_spaced_cons alone' closedHere
    rw [joined] at more
    obtain ⟨reading, next, step, goesOn, spelled, level, unindented', ahead⟩ :=
      exists_step_word passed unindented spaces more (alone word List.mem_cons_self) apart
    obtain ⟨_, onward⟩ := step.passed passed
    obtain ⟨tokens, final, ran, spell, levels, unit⟩ :=
      ih (step.source_eq ▸ countable) onward unindented' spaces' ahead alone' closed'
    have scanned := scan_of_step countable passed step
    refine ⟨reading.token :: tokens, final, ?_, ?_, ?_, unit⟩
    · rw [run_of_not_isLast scanned goesOn, ran]
      rfl
    · rw [List.mapM_cons, spelled, ← step.source_eq, spell]
      rfl
    · intro token member
      rcases List.mem_cons.1 member with rfl | later
      · exact level
      · exact levels token later

/-- A unit of indentation is never forgotten. -/
theorem Path.unit?_eq_none {first last : Lexer} {before : Text} {readings : List Reading}
    (path : Path first readings last) (countable : Text.Countable first.source.text)
    (passed : first.Passed before) (unsettled : last.unit? = none) : first.unit? = none := by
  induction path with
  | nil => exact unsettled
  | step path scanned ih =>
    obtain ⟨source, _, onward⟩ := path.passed countable passed
    apply ih
    cases step_of_scan (source ▸ countable) onward scanned with
    | finish => exact unsettled
    | newline _ _ unit => exact IndentUnit.eq_none_of_inForce (unit.symm.trans unsettled)
    | lexeme => exact unsettled

/-- Where a run ends without a unit of indentation, there is none however far the source is read. -/
theorem unit?_eq_none_of_run {first lexer final : Lexer} {before : Text} {tokens : List Token}
    {readings : List Reading} (countable : Text.Countable first.source.text)
    (passed : first.Passed before) (ran : first.run = .ok (tokens, final))
    (unsettled : final.unit? = none) (path : Path first readings lexer) : lexer.unit? = none := by
  rcases path.going_or_ended countable passed with going | ⟨_, _, _, _, _, ran'⟩
  · obtain ⟨source, _, onward⟩ := path.passed countable passed
    obtain ⟨rest, last, ranOn⟩ := exists_run (source ▸ countable) onward
    obtain ⟨_, rfl⟩ := Prod.mk.inj (Except.ok.inj (ran.symm.trans (run_of_path path going ranOn)))
    obtain ⟨_, _, further, _⟩ := path_of_run ranOn
    exact further.unit?_eq_none (source ▸ countable) onward unsettled
  · obtain ⟨_, rfl⟩ := Prod.mk.inj (Except.ok.inj (ran.symm.trans ran'))
    exact unsettled

/-- The lexemes of a source of fewer than two to the thirty-first characters, written again with
one space between them, are read as the same lexemes of the same kinds. No token is indented then,
and no unit of indentation is ever settled on. -/
theorem run_spaced {source : Source} (config : Queue.Config)
    (short : source.text.length < 2 ^ 31) :
    ∃ tokens final words, (start config source).run = .ok (tokens, final) ∧
      (tokens.filter (·.kind ≠ .endOfFile)).mapM source.spell = .ok words ∧
      ∀ (again : Source) (config' : Queue.Config), again.text = spaced words →
        ∃ tokens' final', (start config' again).run = .ok (tokens', final') ∧
          tokens'.mapM again.spell = .ok (words ++ [(.endOfFile, [])]) ∧
          (∀ token ∈ tokens', token.indent = 0) ∧ final'.unit? = none ∧
          ∀ readings lexer, Path (start config' again) readings lexer → lexer.unit? = none := by
  have few : source.text.length < Text.counterLimit := short.trans (by decide)
  have countable := Text.countable_of_length_lt few
  obtain ⟨tokens, final, ran⟩ := exists_run countable (passed_start config source)
  obtain ⟨front, last, path, goesOn, atEnd, rfl⟩ := path_of_run ran
  obtain ⟨lexer, path, _⟩ := path.exists_last_step
  obtain ⟨rfl, before, words, spelled⟩ := path.exists_spelled countable goesOn
  refine ⟨_, final, words, ran, ?_, ?_⟩
  · rw [Reading.filter_tokens goesOn atEnd]
    exact spelled.spelled
  · intro again config' written
    have shortAgain : again.text.length < Text.counterLimit := by
      have bound := spelled.length_spaced_le
      change _ < 4294967295
      rw [written]
      omega
    have countableAgain := Text.countable_of_length_lt shortAgain
    obtain ⟨tokens', final', ran', spell, levels, unit⟩ := exists_run_spaced countableAgain
      (passed_start config' again) ⟨rfl, rfl⟩ (by simp) (written.trans (List.nil_append _).symm)
      spelled.alone spelled.closed
    refine ⟨tokens', final', ran', spell, levels, unit, ?_⟩
    intro readings lexer reached
    exact unit?_eq_none_of_run countableAgain (passed_start config' again) ran' unit reached

/-- An indented line with a stray character and a literal without an end is read again, on a line
that is not indented. -/
theorem run_spaced_indented :
    let source := Source.ofText ['\n', '\t', '$', '\x22', '\\', 'q']
    source.text.length < 2 ^ 31 ∧
      ∃ tokens final words, (start .unlimited source).run = .ok (tokens, final) ∧
        (tokens.filter (·.kind ≠ .endOfFile)).mapM source.spell = .ok words ∧
        let again := Source.ofText (spaced words)
        ∃ tokens' final', (start .unlimited again).run = .ok (tokens', final') ∧
          tokens'.mapM again.spell = .ok (words ++ [(.endOfFile, [])]) ∧
          (∀ token ∈ tokens', token.indent = 0) ∧ final'.unit? = none ∧
          ∀ readings lexer, Path (start .unlimited again) readings lexer → lexer.unit? = none := by
  intro source
  have short : source.text.length < 2 ^ 31 := by decide
  obtain ⟨tokens, final, words, ran, spelled, relexed⟩ := run_spaced .unlimited short
  exact ⟨short, tokens, final, words, ran, spelled, relexed _ .unlimited rfl⟩

end Lexer

end Offside
