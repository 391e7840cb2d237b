import Mathlib.Algebra.Group.Nat.Defs
import Offside.Proofs.Counting
import Offside.Proofs.Lexer.Locations

/-! # How far a lexer can count

A lexer passes every character of its source, one after the other, and a run fails only where it
passes one that leads to a line or a column that cannot be counted. So it fails exactly on texts
that are too long for these two counters. On all others the rest is safe as well: the cursor stands
between two parts of the text wherever it gets to, every span is measured from a mark behind it, and
the indentation level and the number of errors stay below what has been counted already.
-/

namespace Offside

/-- The step can fail in no other way than by a counter that can count no further. -/
def OverflowsOnly {α : Type} (step : Except Fault α) : Prop :=
  ∀ fault, step = .error fault → fault = .counterOverflow

namespace OverflowsOnly

variable {α β : Type}

theorem ok (value : α) : OverflowsOnly (.ok value) := by
  intro fault failed
  contradiction

theorem bind {first : Except Fault α} {second : α → Except Fault β} (left : OverflowsOnly first)
    (right : ∀ value, OverflowsOnly (second value)) : OverflowsOnly (first >>= second) := by
  cases first with
  | error fault =>
    intro other failed
    exact left other (Except.error.inj failed ▸ rfl)
  | ok value => exact right value

theorem map {step : Except Fault α} (only : OverflowsOnly step) (change : α → β) :
    OverflowsOnly (step.map change) := by
  cases step with
  | error fault =>
    intro other failed
    exact only other (Except.error.inj failed ▸ rfl)
  | ok value => exact .ok _

theorem mapM {step : α → Except Fault β} (each : ∀ input, OverflowsOnly (step input))
    (inputs : List α) : OverflowsOnly (inputs.mapM step) := by
  induction inputs with
  | nil => exact .ok []
  | cons input rest ih =>
    rw [List.mapM_cons]
    exact (each input).bind fun value => ih.bind fun values => .ok (value :: values)

end OverflowsOnly

theorem Location.overflowsOnly_step (here : Location) (c : Char) : OverflowsOnly (here.step c) := by
  intro fault failed
  rw [step] at failed
  split_ifs at failed
  · exact (Except.error.inj failed).symm
  · exact (Except.error.inj failed).symm

theorem Location.overflowsOnly_walk (here : Location) (passed : Text) :
    OverflowsOnly (here.walk passed) := by
  induction passed generalizing here with
  | nil => exact .ok here
  | cons c rest ih => exact (here.overflowsOnly_step c).bind ih

theorem Cursor.overflowsOnly_skip (cursor : Cursor) (count : Nat) :
    OverflowsOnly (cursor.skip count) := (cursor.location.overflowsOnly_walk _).map _

theorem Flaw.overflowsOnly_report (flaw : Flaw) (source : Source) (start : Cursor) :
    OverflowsOnly (flaw.report source start) := by
  refine OverflowsOnly.map ?_ _
  exact (start.overflowsOnly_skip _).bind fun first =>
    (first.overflowsOnly_skip _).bind fun last => .ok _

namespace Lexer

section Faults

theorem overflowsOnly_enterLine (lexer : Lexer) : OverflowsOnly lexer.enterLine := by
  cases settled : IndentUnit.inForce lexer.unit? lexer.cursor.rest with
  | none =>
    rw [enterLine_of_inForce_eq_none settled]
    exact .ok _
  | some unit =>
    rw [enterLine_of_inForce_eq_some settled]
    exact (lexer.cursor.overflowsOnly_skip _).bind fun cursor => .ok _

theorem overflowsOnly_consume (lexer : Lexer) (mark : Cursor) (lexeme : Lexeme) :
    OverflowsOnly (lexer.consume mark lexeme) := by
  refine (mark.overflowsOnly_skip _).bind fun stop => ?_
  refine (OverflowsOnly.mapM (fun flaw => flaw.overflowsOnly_report _ _) _).bind fun reports => ?_
  dsimp only
  split
  · exact (overflowsOnly_enterLine _).bind fun entered => .ok _
  · exact .ok _

theorem overflowsOnly_scan (lexer : Lexer) : OverflowsOnly lexer.scan := by
  refine ((lexer.cursor.overflowsOnly_skip _).map _).bind fun (_, mark) => ?_
  dsimp only
  split
  · exact .ok _
  · exact overflowsOnly_consume _ _ _

/-- A run fails in no other way. -/
theorem overflowsOnly_run (lexer : Lexer) : OverflowsOnly lexer.run := by
  fun_induction run lexer with
  | case1 lexer fault failed =>
    intro other same
    exact overflowsOnly_scan lexer other (Except.error.inj same ▸ failed)
  | case2 => exact .ok _
  | case3 lexer reading after scanned goesOn _ ih => exact ih.map _

end Faults

section Skips

variable {lexer next : Lexer} {reading : Reading}

/-- All that a step does to the cursor is to advance it, and where the end of the source is read it
has nothing ahead any more. -/
theorem exists_skip_of_scan (scanned : lexer.scan = .ok (reading, next)) :
    (∃ count, lexer.cursor.skip count = .ok next.cursor) ∧
      (reading.isLast = true → next.cursor.rest = []) := by
  obtain ⟨blanks, mark, skipped, ⟨nothing, _, rfl⟩ | ⟨first, rest, _, consumed⟩⟩ :=
    exists_mark_of_scan scanned
  · exact ⟨⟨blanks, skipped⟩, fun _ => nothing⟩
  · obtain ⟨⟨more, further⟩, kind⟩ := exists_skip_of_consume consumed
    rw [Cursor.skip_skip skipped] at further
    refine ⟨⟨_, further⟩, fun last => ?_⟩
    have marker := (Lexeme.marker_read first rest).1
    rw [← kind] at marker
    simp [Reading.isLast, marker] at last

/-- So the cursor stays along the text on every path, however long the text is. -/
theorem Path.along {config : Queue.Config} {source : Source} {readings : List Reading}
    (path : Path (start config source) readings lexer) : lexer.cursor.Along source.text := by
  induction path with
  | nil => exact ⟨0, rfl⟩
  | step _ scanned ih =>
    obtain ⟨⟨count, skipped⟩, _⟩ := exists_skip_of_scan scanned
    exact ih.skip skipped

/-- A source that can be run is countable: the run passes all of it. -/
theorem countable_of_run {config : Queue.Config} {source : Source} {tokens : List Token}
    (ran : (start config source).run = .ok (tokens, next)) : Text.Countable source.text := by
  obtain ⟨front, last, path, _, atEnd, _⟩ := path_of_run ran
  obtain ⟨middle, _, scanned⟩ := path.exists_last_step
  exact path.along.countable ((exists_skip_of_scan scanned).2 atEnd)

end Skips

/-- The level can be held by its counter, and no more errors are counted than characters. -/
structure Bounded (lexer : Lexer) : Prop where
  level : lexer.level < Text.counterLimit
  errorCount : lexer.queue.errorCount ≤ lexer.cursor.location.index

/-- A step keeps the level and the number of errors in their bounds. -/
theorem Bounded.step {lexer next : Lexer} {before : Text} {reading : Reading}
    (bounded : Bounded lexer) (countable : Text.Countable lexer.source.text)
    (passed : lexer.Passed before) (step : Step lexer before reading next) : Bounded next := by
  have counted := bounded.errorCount
  rw [passed.located] at counted
  change _ ≤ before.length at counted
  have divided := passed.divided
  cases step with
  | @finish blanks =>
    refine ⟨bounded.level, ?_⟩
    change lexer.queue.errorCount ≤ (before ++ blanks).length
    rw [List.length_append]
    omega
  | @newline blanks line rest unit? spaces ahead unit indented =>
    refine ⟨?_, ?_⟩
    · -- The levels stand in the last line of what has been passed, so they are fewer than columns.
      rw [ahead, indented, ← List.cons_append, ← List.append_assoc, ← List.append_assoc] at divided
      have column := (countable _ _ divided).2
      rw [Text.lastLine_append_newline,
        Text.lastLine_of_not_mem (IndentUnit.newline_not_mem_indentation unit? line)] at column
      exact Nat.lt_of_le_of_lt (IndentUnit.lineLevel_le_length unit? line) column
    · change lexer.queue.errorCount ≤
        (before ++ blanks ++ ['\n'] ++ IndentUnit.indentation unit? line).length
      simp only [List.length_append]
      omega
  | @lexeme blanks word rest ahead first spaces more cut length =>
    refine ⟨bounded.level, ?_⟩
    have flaws := Lexeme.length_flaws_read_le first ahead
    have pushed := lexer.queue.errorCount_pushAll_le ((Lexeme.read first ahead).flaws.map
      fun flaw => flaw.diagnosis lexer.source (before ++ blanks) word)
    rw [List.length_map] at pushed
    change _ ≤ (before ++ blanks ++ word).length
    simp only [List.length_append]
    omega

theorem Path.bounded {config : Queue.Config} {source : Source} {readings : List Reading}
    {lexer : Lexer} (countable : Text.Countable source.text)
    (path : Path (start config source) readings lexer) : Bounded lexer := by
  induction path with
  | nil =>
    have positive : 0 < Text.counterLimit := by decide
    exact ⟨positive, Nat.le_refl _⟩
  | @step readings reading lexer next path scanned ih =>
    obtain ⟨same, before, passed⟩ := path.passed countable (passed_start config source)
    have known : Text.Countable lexer.source.text := same ▸ countable
    exact ih.step known passed (step_of_scan known passed scanned)

end Lexer

/-- A cursor that is advanced along the text measures this span from a mark on its way. -/
def Span.Measured (span : Span) (text : Text) : Prop :=
  ∃ (mark : Cursor) (count : Nat) (cursor : Cursor),
    mark.Along text ∧ mark.skip count = .ok cursor ∧ cursor.spanFrom mark = .ok span

theorem Source.TrueSpan.measured {source : Source} {span : Span}
    (countable : Text.Countable source.text) (valid : source.TrueSpan span) :
    span.Measured source.text := by
  obtain ⟨before, rest, divided, fits, place⟩ := valid.eq_spanAfter countable
  have along : (Cursor.between before rest).Along source.text :=
    (Cursor.along_iff countable).2 ⟨before, rest, divided, rfl⟩
  have skipped := Cursor.skip_between (divided ▸ countable) span.length
  refine ⟨_, span.length, _, along, skipped, ?_⟩
  rw [(along.measures countable skipped).span, Cursor.between_location, Cursor.between_location,
    Location.spanTo_after, List.length_take_of_le fits, ← place]

namespace Lexer

/-- Nothing can go wrong while a source is read with a queue of this configuration. -/
structure Safe (config : Queue.Config) (source : Source) : Prop where
  /-- However far a cursor is advanced from the start, it stands at a position of the source and its
  counters hold. -/
  advances : ∀ count, ∃ cursor, (Cursor.ofText source.text).skip count = .ok cursor ∧
    cursor.InBounds source
  /-- From wherever a cursor has been advanced, it can measure the span and take the text. -/
  measures : ∀ (mark : Cursor) count cursor, mark.Along source.text →
    mark.skip count = .ok cursor → mark.Measures cursor
  /-- On the way through the source a lexer does nothing to its cursor but advance it, and its level
  and its number of errors can be held. -/
  counts : ∀ readings lexer, Path (start config source) readings lexer →
    lexer.cursor.Along source.text ∧ lexer.level ≤ Text.counterLimit ∧
      lexer.queue.errorCount ≤ Span.lengthLimit
  /-- Every span that is read or reported on the way is measured from such a mark. -/
  spans : ∀ readings lexer, Path (start config source) readings lexer →
    ∀ span ∈ readings.map Reading.span ++ lexer.diagnostics.map Diagnostic.span,
      span.Measured source.text

/-- A countable source whose size can be held is safe to read. -/
theorem safe_of_countable (config : Queue.Config) {source : Source}
    (countable : Text.Countable source.text) (small : source.byteSize ≤ Span.lengthLimit) :
    Safe config source := by
  have inBounds : ∀ cursor : Cursor, cursor.Along source.text → cursor.InBounds source := by
    intro cursor along
    obtain ⟨before, rest, divided, rfl⟩ := (Cursor.along_iff countable).1 along
    exact Cursor.inBounds_between countable small divided
  refine ⟨?_, ?_, ?_, ?_⟩
  · intro count
    have joined : Text.Countable ([] ++ source.text) := countable
    have skipped := Cursor.skip_between joined count
    exact ⟨_, skipped, inBounds _ ⟨count, skipped⟩⟩
  · intro mark count cursor along skipped
    exact along.measures countable skipped
  · intro readings lexer path
    have bounded := path.bounded countable
    have index := (inBounds _ path.along).index
    exact ⟨path.along, Nat.le_of_lt bounded.level, Nat.le_trans bounded.errorCount index⟩
  · intro readings lexer path span member
    obtain ⟨read, truthful⟩ := (Reachable.start.truthful countable).path countable path
    rcases List.mem_append.1 member with here | reported
    · obtain ⟨reading, present, rfl⟩ := List.mem_map.1 here
      exact (read reading present).measured countable
    · obtain ⟨diagnostic, present, rfl⟩ := List.mem_map.1 reported
      exact (truthful.reports diagnostic present).2.measured countable

end Lexer

end Offside
