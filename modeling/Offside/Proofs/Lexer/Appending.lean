import Offside.Proofs.Lexeme.Locality
import Offside.Proofs.Lexer.QueueOrder

/-! # Appending lines to a source

A lexer that reads a text with more lines behind it does what a lexer of the text alone does, step
by step, for as long as that one does not read the end. What it looks at to decide on a lexeme or an
indentation ends with the text or with a line feed, and the two are alike to it. Only a literal
without an end is different, since it goes on into the lines behind.
-/

namespace Offside

/-- The line feed that stands in the place of another token. -/
def Token.asLineFeed (token : Token) : Token :=
  ⟨.endOfLine, ⟨token.span.start, 1, token.span.line, token.span.column⟩, token.indent⟩

namespace Diagnostic

/-- The diagnostic says that a literal has no end. -/
def isUnterminated (diagnostic : Diagnostic) : Bool :=
  diagnostic.message = Problem.unterminatedString.message ||
    diagnostic.message = Problem.unterminatedRaw.message

/-- The same finding in another source. -/
def inSource (source : Source) (diagnostic : Diagnostic) : Diagnostic :=
  { diagnostic with source := source }

/-- The order of places is the same in every source. -/
theorem map_sortByPlace_inSource (source : Source) (diagnostics : List Diagnostic) :
    (sortByPlace diagnostics).map (inSource source) =
      sortByPlace (diagnostics.map (inSource source)) :=
  List.map_mergeSort fun _ _ _ _ => rfl

end Diagnostic

namespace Queue

/-- The queue with the same findings in another source. -/
def inSource (source : Source) (queue : Queue) : Queue :=
  { queue with diagnostics := queue.diagnostics.map (·.inSource source) }

/-- A queue decides on a finding whatever the source. -/
theorem push_inSource (source : Source) (queue : Queue) (diagnostic : Diagnostic) :
    (queue.push diagnostic).inSource source =
      (queue.inSource source).push (diagnostic.inSource source) := by
  have same : (queue.inSource source).accepts (diagnostic.inSource source) =
      queue.accepts diagnostic := by
    unfold accepts
    rw [inSource, List.any_map]
    rfl
  unfold push
  rw [same]
  split
  · simp only [inSource, List.map_append, List.map_singleton]
    rfl
  · rfl

theorem pushAll_inSource (source : Source) (queue : Queue) (offered : List Diagnostic) :
    (queue.pushAll offered).inSource source =
      (queue.inSource source).pushAll (offered.map (·.inSource source)) := by
  induction offered generalizing queue with
  | nil => rfl
  | cons first rest ih => rw [pushAll_cons, ih, push_inSource, List.map_cons, pushAll_cons]

end Queue

namespace Lexer

/-- The lexer of a longer source, whose text goes on with `more`, in the same state. -/
def extend (lexer : Lexer) (longer : Source) (more : Text) : Lexer where
  source := longer
  cursor := ⟨lexer.cursor.location, lexer.cursor.rest ++ more⟩
  unit? := lexer.unit?
  level := lexer.level
  queue := lexer.queue.inSource longer

theorem start_extend {original longer : Source} {more : Text}
    (appended : longer.text = original.text ++ more) (config : Queue.Config) :
    (start config original).extend longer more = start config longer := by
  simp only [start, appended]
  rfl

theorem Passed.extend {lexer : Lexer} {longer : Source} {before more : Text}
    (passed : lexer.Passed before) (appended : longer.text = lexer.source.text ++ more) :
    (lexer.extend longer more).Passed before := by
  constructor
  · change longer.text = before ++ (lexer.cursor.rest ++ more)
    rw [appended, passed.divided, List.append_assoc]
  · change Cursor.mk _ _ = _
    rw [passed.located]
    rfl

/-- A lexeme whose flaws are not reported as literals without an end is none. -/
theorem terminated_of_reports {lexeme : Lexeme} {source : Source} {before word : Text}
    (closed : ∀ diagnostic ∈ lexeme.flaws.map fun flaw => flaw.diagnosis source before word,
      diagnostic.isUnterminated = false) : lexeme.Terminated := by
  intro flaw member
  have reported := closed _ (List.mem_map_of_mem member)
  constructor
  · intro problem
    simp [Diagnostic.isUnterminated, Flaw.diagnosis, Problem.diagnose, problem] at reported
  · intro problem
    simp [Diagnostic.isUnterminated, Flaw.diagnosis, Problem.diagnose, problem] at reported

/-- With further lines behind its text a lexer takes the same step, unless it reads the end or a
literal without an end. -/
theorem Step.extend {lexer next : Lexer} {before : Text} {reading : Reading}
    (step : Step lexer before reading next) (goesOn : reading.isLast = false)
    (unlimited : lexer.queue.config = .unlimited)
    (closed : ∀ diagnostic ∈ next.queue.diagnostics, diagnostic.isUnterminated = false)
    (longer : Source) (more : Text) :
    Step (lexer.extend longer ('\n' :: more)) before reading
      (next.extend longer ('\n' :: more)) := by
  cases step with
  | finish => simp [Reading.isLast] at goesOn
  | @newline blanks line rest unit? spaces ahead unit indented =>
    have ahead' : (lexer.extend longer ('\n' :: more)).cursor.rest =
        blanks ++ '\n' :: (line ++ '\n' :: more) := by
      change lexer.cursor.rest ++ '\n' :: more = _
      rw [ahead, List.append_assoc, List.cons_append]
    have unit' : unit? = IndentUnit.inForce lexer.unit? (line ++ '\n' :: more) := by
      rw [IndentUnit.inForce_append_newline, unit]
    have indented' : line ++ '\n' :: more =
        IndentUnit.indentation unit? (line ++ '\n' :: more) ++ (rest ++ '\n' :: more) := by
      rw [IndentUnit.indentation_append_newline, ← List.append_assoc, ← indented]
    have step : Step _ before _ _ := .newline spaces ahead' unit' indented'
    rw [IndentUnit.indentation_append_newline, IndentUnit.lineLevel_append_newline] at step
    exact step
  | @lexeme blanks word rest ahead first spaces further cut length ordinary visible =>
    have terminated : (Lexeme.read first ahead).Terminated := by
      apply terminated_of_reports
      intro diagnostic member
      apply closed diagnostic
      rw [Queue.diagnostics_pushAll_of_unlimited unlimited]
      exact List.mem_append_right _ member
    have same := Lexeme.read_append_cons (.inr rfl) terminated more
    have further' : (lexer.extend longer ('\n' :: more)).cursor.rest =
        blanks ++ first :: (ahead ++ '\n' :: more) := by
      change lexer.cursor.rest ++ '\n' :: more = _
      rw [further, List.append_assoc, List.cons_append]
    have cut' : first :: (ahead ++ '\n' :: more) = word ++ (rest ++ '\n' :: more) := by
      rw [← List.cons_append, cut, List.append_assoc]
    have length' := length.trans (congrArg Lexeme.length same.symm)
    have step : Step _ before _ _ := .lexeme spaces further' cut' length' ordinary visible
    rw [same] at step
    change Step _ _ _ ⟨longer, _, _, _, (lexer.queue.pushAll _).inSource longer⟩
    rw [Queue.pushAll_inSource, List.map_map]
    exact step

/-- A path that does not meet the end of a text, nor a literal without an end, is taken with
further lines behind the text as well. -/
theorem Path.extend {first last : Lexer} {before : Text} {ordered late : List Diagnostic}
    {readings : List Reading} {longer : Source} {more : Text} (path : Path first readings last)
    (orderly : Orderly first before ordered late)
    (appended : longer.text = first.source.text ++ '\n' :: more)
    (countable : Text.Countable longer.text) (goesOn : ∀ reading ∈ readings, reading.isLast = false)
    (closed : ∀ diagnostic ∈ last.queue.diagnostics, diagnostic.isUnterminated = false) :
    Path (first.extend longer ('\n' :: more)) readings (last.extend longer ('\n' :: more)) := by
  have known : Text.Countable first.source.text := (appended ▸ countable).left
  induction path with
  | nil => exact .nil
  | @step readings reading lexer next path scanned ih =>
    obtain ⟨source, _⟩ := path.passed known orderly.passed
    obtain ⟨middle, _, _, _, halfway, _⟩ := orderly.along known path
    have step := step_of_scan (source ▸ known) halfway.passed scanned
    obtain ⟨_, _, _, reports, _, queued, _⟩ := halfway.step step
    have front : Path (first.extend longer ('\n' :: more)) readings
        (lexer.extend longer ('\n' :: more)) := by
      apply ih
      · exact fun other member => goesOn other (List.mem_append_left _ member)
      · exact fun diagnostic member => closed diagnostic (queued ▸ List.mem_append_left _ member)
    have extended := step.extend (goesOn reading (by simp)) halfway.unlimited closed longer more
    exact .step front (scan_of_step countable (halfway.passed.extend (source ▸ appended)) extended)

/-- Where the text alone ends, the line feed behind it is read. -/
theorem Step.extend_last {lexer next : Lexer} {before : Text} {reading : Reading}
    (step : Step lexer before reading next) (last : reading.isLast = true)
    (longer : Source) (more : Text) :
    next.queue = lexer.queue ∧
      ∃ reading' next', Step (lexer.extend longer ('\n' :: more)) before reading' next' ∧
        reading'.isLast = false ∧ reading'.token = reading.token.asLineFeed := by
  cases step with
  | finish spaces ahead =>
    obtain ⟨rest, indented⟩ :=
      IndentUnit.indentation_prefix (IndentUnit.inForce lexer.unit? more) more
    refine ⟨rfl, _, _, .newline spaces ?_ rfl indented.symm, rfl, rfl⟩
    change lexer.cursor.rest ++ '\n' :: more = _
    rw [ahead]
  | newline => simp [Reading.isLast] at last
  | @lexeme blanks word rest ahead first =>
    have marker := (Lexeme.marker_read first ahead).1
    simp [Reading.isLast, marker] at last

/-- A run over a text, in which no literal lacks its end, is the first part of a run over the text
with further lines behind it. -/
theorem exists_run_extend {original longer : Source} {more : Text} {tokens : List Token}
    {final : Lexer} (appended : longer.text = original.text ++ '\n' :: more)
    (countable : Text.Countable longer.text)
    (ran : (start .unlimited original).run = .ok (tokens, final))
    (closed : ∀ diagnostic ∈ final.queue.diagnostics, diagnostic.isUnterminated = false) :
    ∃ front last rest final', tokens = (front ++ [last]).map Reading.token ∧
      (∀ reading ∈ front, reading.isLast = false) ∧ last.isLast = true ∧
      (start .unlimited longer).run =
        .ok (front.map Reading.token ++ last.token.asLineFeed :: rest, final') ∧
      Diagnostic.sortByPlace (final.queue.diagnostics.map (·.inSource longer)) <+:
        Diagnostic.sortByPlace final'.queue.diagnostics := by
  have known : Text.Countable original.text := (appended ▸ countable).left
  have initial := orderly_of_diagnostics_eq_nil (passed_start .unlimited original) rfl rfl
  have initial' := orderly_of_diagnostics_eq_nil (passed_start .unlimited longer) rfl rfl
  obtain ⟨front, last, path, goesOn, atEnd, rfl⟩ := path_of_run ran
  obtain ⟨lexer, path, scanned⟩ := path.exists_last_step
  obtain ⟨source, before, passed⟩ := path.passed known initial.passed
  -- The last step of the one lexer becomes a line feed of the other, and reports nothing.
  have appended' : longer.text = lexer.source.text ++ '\n' :: more := by rw [source]; exact appended
  obtain ⟨quiet, lineFeed, next', step', goesOn', token⟩ :=
    (step_of_scan (source ▸ known) passed scanned).extend_last atEnd longer more
  have passed' := passed.extend appended'
  have scanned' := scan_of_step countable passed' step'
  rw [quiet] at closed ⊢
  have path' := path.extend initial appended countable goesOn closed
  rw [start_extend appended] at path'
  obtain ⟨_, onward⟩ := step'.passed passed'
  obtain ⟨rest, final', ranOn⟩ := exists_run (step'.source_eq ▸ countable) onward
  have here : (lexer.extend longer ('\n' :: more)).run =
      .ok (last.token.asLineFeed :: rest, final') := by
    rw [run_of_not_isLast scanned' goesOn', ranOn, ← token]
    rfl
  obtain ⟨_, _, _, _, orderly', _⟩ := initial'.along countable path'
  obtain ⟨_, _, toEnd, _⟩ := path_of_run here
  exact ⟨front, last, rest, final', rfl, goesOn, atEnd, run_of_path path' goesOn here,
    orderly'.sortByPlace_isPrefix countable toEnd⟩

end Lexer

/-- Further lines behind a text, in which no literal lacks its end, change nothing of what is read
from the text: its tokens and its diagnostics come first, and a line feed is read in the place of
the end. -/
theorem lex_append_lines {original longer : Source} {more : Text}
    (appended : longer.text = original.text ++ '\n' :: more)
    (short : longer.text.length < Text.counterLimit) :
    ∃ shorter extended, lex original = .ok shorter ∧ lex longer = .ok extended ∧
      ((∀ diagnostic ∈ shorter.diagnostics, diagnostic.isUnterminated = false) →
        ∃ front last rest, shorter.tokens = front ++ [last] ∧ last.kind = .endOfFile ∧
          (∀ token ∈ front, token.kind ≠ .endOfFile) ∧
          extended.tokens = front ++ last.asLineFeed :: rest ∧
          shorter.diagnostics.map (·.inSource longer) <+: extended.diagnostics) := by
  have countable := Text.countable_of_length_lt short
  have known : Text.Countable original.text := (appended ▸ countable).left
  obtain ⟨tokens, final, ran⟩ := Lexer.exists_run known (Lexer.passed_start .unlimited original)
  obtain ⟨tokens', final', ran'⟩ :=
    Lexer.exists_run countable (Lexer.passed_start .unlimited longer)
  refine ⟨_, _, lex_of_run ran, lex_of_run ran', ?_⟩
  intro closed
  have closed' : ∀ diagnostic ∈ final.queue.diagnostics, diagnostic.isUnterminated = false := by
    intro diagnostic member
    exact closed diagnostic ((Diagnostic.sortByPlace_perm _).mem_iff.2 member)
  obtain ⟨front, last, rest, after, rfl, goesOn, atEnd, further, sorted⟩ :=
    Lexer.exists_run_extend appended countable ran closed'
  obtain ⟨rfl, rfl⟩ := Prod.mk.inj (Except.ok.inj (ran'.symm.trans further))
  refine ⟨front.map Reading.token, last.token, rest, List.map_append,
    (Reading.isLast_iff last).1 atEnd, Reading.kind_ne_endOfFile goesOn, rfl, ?_⟩
  rw [Diagnostic.map_sortByPlace_inSource]
  exact sorted

/-- A stray character is reported first, whether or not an indented line follows. -/
theorem lex_append_lines_stray :
    let original := Source.ofText ['$']
    let longer := Source.ofText ['$', '\n', '\t', '&']
    longer.text = original.text ++ '\n' :: ['\t', '&'] ∧
      longer.text.length < Text.counterLimit ∧
      ∃ shorter extended, lex original = .ok shorter ∧ lex longer = .ok extended ∧
        shorter.diagnostics.length = 1 ∧
        (∀ diagnostic ∈ shorter.diagnostics, diagnostic.isUnterminated = false) ∧
        ∃ front last rest, shorter.tokens = front ++ [last] ∧ last.kind = .endOfFile ∧
          (∀ token ∈ front, token.kind ≠ .endOfFile) ∧
          extended.tokens = front ++ last.asLineFeed :: rest ∧
          shorter.diagnostics.map (·.inSource longer) <+: extended.diagnostics := by
  intro original longer
  have appended : longer.text = original.text ++ '\n' :: ['\t', '&'] := rfl
  have short : longer.text.length < Text.counterLimit := by decide
  obtain ⟨shorter, extended, lexed, lexed', agree⟩ := lex_append_lines appended short
  obtain ⟨stray, middle, scanned, goesOn, last, final, scanned', atEnd, diagnostic, queued, other⟩ :
      ∃ stray middle, (Lexer.start .unlimited original).scan = .ok (stray, middle) ∧
      stray.isLast = false ∧ ∃ last final, middle.scan = .ok (last, final) ∧ last.isLast = true ∧
      ∃ diagnostic, final.queue.diagnostics = [diagnostic] ∧ diagnostic.isUnterminated = false :=
    ⟨_, _, rfl, rfl, _, _, rfl, rfl, _, rfl, by decide⟩
  have ran : (Lexer.start .unlimited original).run = .ok ([stray.token, last.token], final) := by
    rw [Lexer.run_of_not_isLast scanned goesOn, Lexer.run_of_isLast scanned' atEnd]
    rfl
  obtain rfl := Except.ok.inj (lexed.symm.trans (lex_of_run ran))
  have only : Diagnostic.sortByPlace final.queue.diagnostics = [diagnostic] := by
    rw [queued, Diagnostic.sortByPlace, List.mergeSort_singleton]
  have closed : ∀ found ∈ Diagnostic.sortByPlace final.queue.diagnostics,
      found.isUnterminated = false := by
    rw [only]
    simpa using other
  exact ⟨appended, short, _, extended, lexed, lexed', by rw [only]; rfl, closed, agree closed⟩

end Offside
