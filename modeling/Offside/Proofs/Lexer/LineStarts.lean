import Offside.Proofs.Lexer.Tiling

/-! # Indentation and the starts of lines

Of all that a lexer reads, only the token for the end of a line has a say in indentation: the text
behind it starts a line. The first of these line starts that shows a unit fixes it for the rest of
the source, and the last of them gives the level of all tokens up to and including the next end of a
line. A line feed inside a literal belongs to the literal, so it starts no line in this sense.
-/

namespace Offside

namespace Source

/-- The text behind a span. -/
def textAfter (source : Source) (span : Span) : Text :=
  (source.splitAt? span.start).elim [] fun (_, rest) => rest.drop span.length

/-- The texts behind the ends of lines among tokens, in their order. -/
def lineStarts (source : Source) (tokens : List Token) : List Text :=
  (tokens.filter (·.kind = .endOfLine)).map fun token => source.textAfter token.span

theorem textAfter_spanAfter {source : Source} {before word rest : Text}
    (divided : source.text = before ++ (word ++ rest)) :
    source.textAfter (Text.spanAfter before word.length) = rest := by
  rw [textAfter, show (Text.spanAfter before word.length).start = Text.byteLength before from rfl,
    splitAt?_byteLength divided]
  exact List.drop_left

/-- The end of a line starts one more line. -/
theorem lineStarts_append_endOfLine (source : Source) (tokens : List Token) {token : Token}
    (kind : token.kind = .endOfLine) :
    source.lineStarts (tokens ++ [token]) =
      source.lineStarts tokens ++ [source.textAfter token.span] := by
  simp [lineStarts, kind]

/-- No other token starts a line. -/
theorem lineStarts_append_of_ne (source : Source) (tokens : List Token) {token : Token}
    (kind : token.kind ≠ .endOfLine) :
    source.lineStarts (tokens ++ [token]) = source.lineStarts tokens := by
  simp [lineStarts, kind]

end Source

namespace IndentUnit

/-- The unit that the first of these line starts shows that shows one. -/
def firstShown (lines : List Text) : Option IndentUnit := lines.findSome? detect?

/-- The level on the last of these lines: the largest number of copies of the unit shown that the
line starts with. It is zero where no unit is shown, and before the first of the lines. -/
def IsLevel (lines : List Text) (level : Nat) : Prop :=
  match lines.getLast?, firstShown lines with
  | some line, some unit =>
    unit.copies level <+: line ∧ ∀ more, unit.copies more <+: line → more ≤ level
  | _, _ => level = 0

theorem firstShown_append_singleton (lines : List Text) (line : Text) :
    firstShown (lines ++ [line]) = inForce (firstShown lines) line := by
  rw [firstShown, List.findSome?_append]
  cases shown : detect? line <;> simp [firstShown, inForce, shown]

/-- The level of a line is what the lexer counts when it enters the line. -/
theorem isLevel_append_singleton (lines : List Text) (line : Text) :
    IsLevel (lines ++ [line]) (lineLevel (firstShown (lines ++ [line])) line) := by
  unfold IsLevel
  rw [List.getLast?_concat]
  cases shown : firstShown (lines ++ [line]) with
  | none => rfl
  | some unit => exact ⟨copies_prefix_iff.2 (Nat.le_refl _), fun more => copies_prefix_iff.1⟩

end IndentUnit

namespace Lexer

/-- The unit and the level of a lexer that has read these tokens of a source are those of the line
starts behind them. -/
structure Settled (source : Source) (tokens : List Token) (lexer : Lexer) : Prop where
  source_eq : lexer.source = source
  unit : lexer.unit? = IndentUnit.firstShown (source.lineStarts tokens)
  level : IndentUnit.IsLevel (source.lineStarts tokens) lexer.level

theorem Step.indent_eq {lexer next : Lexer} {before : Text} {reading : Reading}
    (step : Step lexer before reading next) : reading.indent = lexer.level := by
  cases step <;> rfl

namespace Settled

variable {source : Source} {lexer next : Lexer} {before : Text} {reading : Reading}
  {tokens : List Token}

/-- A token that ends no line leaves unit and level as they are. -/
theorem of_ne_endOfLine (settled : Settled source tokens lexer) {token : Token}
    (kind : token.kind ≠ .endOfLine) (same : next.source = lexer.source)
    (unit : next.unit? = lexer.unit?) (level : next.level = lexer.level) :
    Settled source (tokens ++ [token]) next := by
  refine ⟨same.trans settled.source_eq, ?_, ?_⟩
  · rw [unit, source.lineStarts_append_of_ne tokens kind, settled.unit]
  · rw [level, source.lineStarts_append_of_ne tokens kind]
    exact settled.level

/-- A token that ends a line settles the unit and the level of the line behind it. -/
theorem of_endOfLine (settled : Settled source tokens lexer) {token : Token} {line : Text}
    (kind : token.kind = .endOfLine) (behind : source.textAfter token.span = line)
    (same : next.source = lexer.source)
    (unit : next.unit? = IndentUnit.inForce lexer.unit? line)
    (level : next.level = IndentUnit.lineLevel next.unit? line) :
    Settled source (tokens ++ [token]) next := by
  have entered := source.lineStarts_append_endOfLine tokens kind
  rw [behind] at entered
  have shown : next.unit? = IndentUnit.firstShown (source.lineStarts tokens ++ [line]) := by
    rw [IndentUnit.firstShown_append_singleton, ← settled.unit, unit]
  refine ⟨same.trans settled.source_eq, ?_, ?_⟩
  · rw [entered, shown]
  · rw [entered, level, shown]
    exact IndentUnit.isLevel_append_singleton _ line

/-- A step that reads a token settles what the token says about indentation. -/
theorem step (settled : Settled source tokens lexer) (passed : lexer.Passed before)
    (step : Step lexer before reading next) :
    Settled source (tokens ++ [reading.token]) next := by
  have divided := passed.divided
  rw [settled.source_eq] at divided
  cases step with
  | finish => exact settled.of_ne_endOfLine (by simp [Reading.token]) rfl rfl rfl
  | @newline blanks line rest unit? spaces ahead unit =>
    rw [ahead, ← List.append_assoc] at divided
    have behind : source.textAfter (Text.spanAfter (before ++ blanks) ['\n'].length) = line :=
      Source.textAfter_spanAfter divided
    exact settled.of_endOfLine rfl behind rfl unit rfl
  | @lexeme blanks word rest ahead first spaces more cut length ordinary =>
    refine settled.of_ne_endOfLine ?_ rfl rfl rfl
    have marker := (Lexeme.marker_read first ahead).2
    cases kind : (Lexeme.read first ahead).kind? with
    | none => simp [Reading.token]
    | some known =>
      rw [kind] at marker
      simpa [Reading.token, ordinary] using marker

end Settled

/-- Along every path from the start of a countable source unit and level are settled. -/
theorem Path.settled {config : Queue.Config} {source : Source} {readings : List Reading}
    {lexer : Lexer} (countable : Text.Countable source.text)
    (path : Path (start config source) readings lexer) :
    Settled source (readings.map Reading.token) lexer := by
  induction path with
  | nil => exact ⟨rfl, rfl, rfl⟩
  | @step readings reading lexer next path scanned ih =>
    obtain ⟨same, before, passed⟩ := path.passed countable (passed_start config source)
    have step := step_of_scan (same ▸ countable) passed scanned
    rw [List.map_append]
    exact ih.step passed step

end Lexer

/-- The tokens of a source, as a lexer of this configuration reads them, are indented as the starts
of their lines tell. -/
structure Indented (config : Queue.Config) (source : Source) (tokens : List Token) : Prop where
  /-- Once some tokens have been read, the unit is the first that a line start behind an end of a
  line among them shows. -/
  unit : ∀ done rest, tokens = done ++ rest → ∃ readings lexer,
    Lexer.Path (.start config source) readings lexer ∧ readings.map Reading.token = done ∧
      lexer.unit? = IndentUnit.firstShown (source.lineStarts done)
  /-- The level of a token is that of the line that the last end of a line before it starts. -/
  level : ∀ done token rest, tokens = done ++ token :: rest →
    IndentUnit.IsLevel (source.lineStarts done) token.indent

/-- Running a lexer over a source of fewer characters than the largest counter value succeeds. Its
tokens are indented as the starts of their lines tell, and so is the unit it ends with. -/
theorem Lexer.run_indented (config : Queue.Config) (source : Source)
    (short : source.text.length < Text.counterLimit) :
    ∃ tokens final, (start config source).run = .ok (tokens, final) ∧
      Indented config source tokens ∧
      final.unit? = IndentUnit.firstShown (source.lineStarts tokens) := by
  have countable := Text.countable_of_length_lt short
  have passed := passed_start config source
  obtain ⟨tokens, final, ran⟩ := exists_run countable passed
  obtain ⟨front, last, whole, _, _, rfl⟩ := path_of_run ran
  refine ⟨_, final, ran, ⟨?_, ?_⟩, (whole.settled countable).unit⟩
  · intro done rest divided
    obtain ⟨readings, more, joined, rfl, _⟩ := List.map_eq_append_iff.1 divided
    rw [joined] at whole
    obtain ⟨lexer, path, _⟩ := whole.exists_cut
    exact ⟨readings, lexer, path, rfl, (path.settled countable).unit⟩
  · intro done token rest divided
    obtain ⟨readings, more, joined, rfl, behind⟩ := List.map_eq_append_iff.1 divided
    obtain ⟨reading, later, rfl, rfl, _⟩ := List.map_eq_cons_iff.1 behind
    rw [joined, List.append_cons] at whole
    obtain ⟨next, path, _⟩ := whole.exists_cut
    obtain ⟨lexer, before, scanned⟩ := path.exists_last_step
    obtain ⟨same, _, onward⟩ := before.passed countable passed
    have step := step_of_scan (same ▸ countable) onward scanned
    change IndentUnit.IsLevel _ reading.indent
    rw [step.indent_eq]
    exact (before.settled countable).level

/-- A literal holds a line feed with a tab behind it, and the line behind the literal is indented by
three spaces: that is one level of two spaces. -/
theorem Lexer.run_indented_literal :
    let source := Source.ofText ['\x22', '\n', '\t', '\x22', '\n', ' ', ' ', ' ', 'a', '\n', 'b']
    source.text.length < Text.counterLimit ∧
      ∃ tokens final, (start .unlimited source).run = .ok (tokens, final) ∧
        Indented .unlimited source tokens ∧
        final.unit? = IndentUnit.firstShown (source.lineStarts tokens) ∧
        tokens.map (fun token => (token.kind, token.indent)) =
          [(.quoted, 0), (.endOfLine, 0), (.name, 1), (.endOfLine, 1), (.name, 0),
            (.endOfFile, 0)] ∧
        final.unit? = some .twoSpaces := by
  intro source
  have short : source.text.length < Text.counterLimit := by decide
  obtain ⟨tokens, final, ran, indented, unit⟩ := Lexer.run_indented .unlimited source short
  have read : ((start .unlimited source).run.toOption.map fun result =>
      (result.1.map fun token => (token.kind, token.indent), result.2.unit?)) =
      some ([(.quoted, 0), (.endOfLine, 0), (.name, 1), (.endOfLine, 1), (.name, 0),
        (.endOfFile, 0)], some .twoSpaces) := by decide +kernel
  rw [ran] at read
  obtain ⟨levels, shown⟩ := Prod.mk.inj (Option.some.inj read)
  exact ⟨short, tokens, final, ran, indented, unit, levels, shown⟩

end Offside
