import Offside.Listing.Render
import Offside.Proofs.Diagnostic.Queue
import Offside.Proofs.Lexer.Path
import Offside.Proofs.Source.ListedLines

/-! # The places a lexer hands out

However a lexer is driven, the spans of its tokens and of its diagnostics are true: they are the
ones that the source gives for the same characters. A true span is never cut short by the end of the
source, and a diagnostic about one can be shown.
-/

namespace Offside

namespace Source.TrueSpan

variable {source : Source} {span : Span}

/-- A true span follows the text before it and has its characters in the text behind. -/
theorem eq_spanAfter (countable : Text.Countable source.text) (valid : source.TrueSpan span) :
    ∃ before rest, source.text = before ++ rest ∧ span.length ≤ rest.length ∧
      span = Text.spanAfter before span.length := by
  obtain ⟨index, _, given⟩ := valid.given
  unfold span? at given
  split at given
  · rename_i enough
    have divided := (List.take_append_drop index source.text).symm
    refine ⟨_, _, divided, ?_, ?_⟩
    · rw [List.length_drop]
      omega
    · rw [divided] at countable
      simp only [countable.lineColumn] at given
      exact (Option.some.inj given).symm
  · contradiction

/-- A true span is not cut short. -/
theorem exists_substring (countable : Text.Countable source.text) (valid : source.TrueSpan span) :
    ∃ covered, source.substring span = .ok covered ∧ covered.length = span.length := by
  obtain ⟨before, rest, divided, fits, place⟩ := valid.eq_spanAfter countable
  refine ⟨rest.take span.length, ?_, List.length_take_of_le fits⟩
  rw [place, substring_spanAfter divided]
  rfl

/-- The lines of a true span can be listed: its last line has a number. -/
theorem exists_lines (countable : Text.Countable source.text) (valid : source.TrueSpan span) :
    ∃ lines, source.lines span = .ok lines := by
  obtain ⟨before, rest, divided, fits, place⟩ := valid.eq_spanAfter countable
  have start : span.start = Text.byteLength before := by rw [place]; rfl
  have line : span.line = before.count '\n' + 1 := by rw [place]; rfl
  exact ⟨_, lines_eq_filter countable divided start line fits⟩

end Source.TrueSpan

/-- A diagnostic about a true span can be shown, with colors and without. -/
theorem Diagnostic.exists_render {diagnostic : Diagnostic}
    (countable : Text.Countable diagnostic.source.text)
    (valid : diagnostic.source.TrueSpan diagnostic.span) (colors : Bool) :
    ∃ listing, diagnostic.render colors = .ok listing := by
  obtain ⟨lines, listed⟩ := valid.exists_lines countable
  unfold render
  dsimp only
  rw [if_pos valid.contained, listed]
  exact ⟨_, rfl⟩

/-- The flaws of a lexeme are diagnosed where they are. -/
theorem Flaw.trueSpan_diagnosis {source : Source} {before word rest : Text} {flaw : Flaw}
    (countable : Text.Countable source.text) (divided : source.text = before ++ (word ++ rest))
    (inside : flaw.Inside word.length) :
    source.TrueSpan (flaw.diagnosis source before word).span := by
  have bounded := inside.bounded
  apply Source.trueSpan_spanAfter countable (divided.trans (Text.append_cut ..))
  rw [List.length_append, List.length_drop]
  omega

namespace Lexer

namespace Step

variable {lexer next : Lexer} {before : Text} {reading : Reading}

/-- The span of what a step reads is true. -/
theorem trueSpan (step : Step lexer before reading next)
    (countable : Text.Countable lexer.source.text) (passed : lexer.Passed before) :
    lexer.source.TrueSpan reading.span := by
  have divided := passed.divided
  cases step with
  | finish spaces ahead =>
    rw [ahead, ← List.append_nil (before ++ _)] at divided
    exact Source.trueSpan_spanAfter countable divided (Nat.zero_le _)
  | newline spaces ahead =>
    rw [ahead, ← List.append_assoc] at divided
    exact Source.trueSpan_spanAfter countable divided (by simp)
  | lexeme spaces more cut =>
    rw [more, cut, ← List.append_assoc] at divided
    exact Source.trueSpan_spanAfter countable divided (by simp)

/-- What a step reports is about the source, and its spans are true. -/
theorem exists_reports (step : Step lexer before reading next)
    (countable : Text.Countable lexer.source.text) (passed : lexer.Passed before) :
    ∃ reports, next.queue = lexer.queue.pushAll reports ∧ ∀ diagnostic ∈ reports,
      diagnostic.source = lexer.source ∧ lexer.source.TrueSpan diagnostic.span := by
  have divided := passed.divided
  cases step with
  | finish => exact ⟨[], rfl, by simp⟩
  | newline => exact ⟨[], rfl, by simp⟩
  | @lexeme blanks word rest ahead first spaces more cut length =>
    rw [more, cut, ← List.append_assoc] at divided
    refine ⟨_, rfl, ?_⟩
    intro diagnostic member
    obtain ⟨flaw, present, rfl⟩ := List.mem_map.1 member
    have inside := (Lexeme.within_read first ahead).flaws flaw present
    rw [← length] at inside
    exact ⟨rfl, Flaw.trueSpan_diagnosis countable divided inside⟩

end Step

/-- The lexer reads this source, knows where it is, and has reported true spans of it only. -/
structure Truthful (source : Source) (lexer : Lexer) : Prop where
  source_eq : lexer.source = source
  passed : ∃ before, lexer.Passed before
  reports : ∀ diagnostic ∈ lexer.diagnostics,
    diagnostic.source = source ∧ source.TrueSpan diagnostic.span

namespace Truthful

variable {source : Source} {lexer next : Lexer} {reading : Reading}

/-- A step reads a true span and leaves the lexer truthful. -/
theorem step (countable : Text.Countable source.text) (truthful : Truthful source lexer)
    (scanned : lexer.scan = .ok (reading, next)) :
    source.TrueSpan reading.span ∧ Truthful source next := by
  obtain ⟨rfl, ⟨before, passed⟩, earlier⟩ := truthful
  have step := step_of_scan countable passed scanned
  obtain ⟨more, onward⟩ := step.passed passed
  obtain ⟨reports, queue, located⟩ := step.exists_reports countable passed
  refine ⟨step.trueSpan countable passed, step.source_eq, ⟨_, onward⟩, ?_⟩
  intro diagnostic member
  unfold diagnostics at member
  rw [queue] at member
  rcases Queue.mem_of_mem_pushAll member with old | new
  · exact earlier diagnostic old
  · exact located diagnostic new

/-- A truthful lexer can take a step. -/
theorem exists_scan (countable : Text.Countable source.text) (truthful : Truthful source lexer) :
    ∃ reading next, lexer.scan = .ok (reading, next) := by
  obtain ⟨rfl, ⟨before, passed⟩, _⟩ := truthful
  obtain ⟨reading, next, scanned, _⟩ := scan_step countable passed
  exact ⟨reading, next, scanned⟩

/-- Along a path every span read is true, and the lexer stays truthful. -/
theorem path {readings : List Reading} (countable : Text.Countable source.text)
    (truthful : Truthful source lexer) (path : Path lexer readings next) :
    (∀ reading ∈ readings, source.TrueSpan reading.span) ∧ Truthful source next := by
  induction path with
  | nil => exact ⟨by simp, truthful⟩
  | step _ scanned ih =>
    obtain ⟨before, onward⟩ := ih
    obtain ⟨last, further⟩ := onward.step countable scanned
    refine ⟨?_, further⟩
    intro reading member
    rcases List.mem_append.1 member with earlier | here
    · exact before reading earlier
    · rw [List.mem_singleton.1 here]
      exact last

/-- Handing over the diagnostics leaves the lexer truthful. -/
theorem take (truthful : Truthful source lexer) : Truthful source lexer.takeDiagnostics.2 := by
  obtain ⟨same, ⟨before, passed⟩, _⟩ := truthful
  refine ⟨same, ⟨before, passed.divided, passed.located⟩, ?_⟩
  intro diagnostic member
  exact absurd member List.not_mem_nil

end Truthful

/-- Every lexer that is reached in a countable source is truthful. -/
theorem Reachable.truthful {config : Queue.Config} {source : Source} {lexer : Lexer}
    (countable : Text.Countable source.text) (reached : Reachable config source lexer) :
    Truthful source lexer := by
  apply reached.preserves
  · refine ⟨rfl, ⟨[], passed_start config source⟩, ?_⟩
    intro diagnostic member
    exact absurd member List.not_mem_nil
  · intro lexer reading next truthful scanned
    exact (truthful.step countable scanned).2
  · intro lexer truthful
    exact truthful.take

/-- All that a lexer hands out says where it is in the source. -/
structure WellPlaced (source : Source) (lexer : Lexer) : Prop where
  /-- The next token can be read, and it covers as many characters as it says. -/
  next : ∃ token? after, lexer.next = .ok (token?, after) ∧ ∀ token ∈ token?,
    source.TrueSpan token.span ∧
      ∃ lexeme, source.substring token.span = .ok lexeme ∧ lexeme.length = token.span.length
  /-- So can all the tokens that are left, and so does each of them. -/
  run : ∃ tokens after, lexer.run = .ok (tokens, after) ∧ ∀ token ∈ tokens,
    source.TrueSpan token.span ∧
      ∃ lexeme, source.substring token.span = .ok lexeme ∧ lexeme.length = token.span.length
  /-- What has been reported can be shown in its place, before it is handed over and after. -/
  reported : ∀ diagnostic, diagnostic ∈ lexer.diagnostics ∨ diagnostic ∈ lexer.takeDiagnostics.1 →
    source.TrueSpan diagnostic.span ∧ ∀ colors, ∃ listing, diagnostic.render colors = .ok listing

/-- In a source of fewer characters than the largest counter value, every lexer that is reached
hands out true places only, whatever its queue accepts. -/
theorem Reachable.wellPlaced {config : Queue.Config} {source : Source} {lexer : Lexer}
    (short : source.text.length < Text.counterLimit) (reached : Reachable config source lexer) :
    WellPlaced source lexer := by
  have countable := Text.countable_of_length_lt short
  have truthful := reached.truthful countable
  refine ⟨?_, ?_, ?_⟩
  · obtain ⟨reading, after, scanned⟩ := truthful.exists_scan countable
    refine ⟨reading.token?, after, Fault.map_eq_ok_iff.2 ⟨_, scanned, rfl⟩, ?_⟩
    intro token member
    obtain ⟨kind, _, rfl⟩ := Option.map_eq_some_iff.1 member
    have valid := (truthful.step countable scanned).1
    exact ⟨valid, valid.exists_substring countable⟩
  · obtain ⟨before, passed⟩ := truthful.passed
    obtain ⟨tokens, after, ran⟩ := exists_run (truthful.source_eq ▸ countable) passed
    refine ⟨tokens, after, ran, ?_⟩
    obtain ⟨front, last, path, _, _, rfl⟩ := path_of_run ran
    intro token member
    obtain ⟨reading, read, rfl⟩ := List.mem_map.1 member
    have valid := (truthful.path countable path).1 reading read
    exact ⟨valid, valid.exists_substring countable⟩
  · intro diagnostic member
    have queued : diagnostic ∈ lexer.diagnostics := by
      rcases member with queued | handed
      · exact queued
      · exact (Queue.flush_perm lexer.queue).mem_iff.1 handed
    obtain ⟨rfl, valid⟩ := truthful.reports diagnostic queued
    exact ⟨valid, Diagnostic.exists_render countable valid⟩

/-- A literal that runs over a line feed to the end of the source and has a bad escape on the way
leaves two diagnostics with the lexer that has read it. -/
theorem Reachable.wellPlaced_unterminated :
    let source := Source.ofText ['\x22', 'ü', '\n', '\\', 'q']
    source.text.length < Text.counterLimit ∧
      ∃ lexer, Reachable .standard source lexer ∧ lexer.diagnostics.length = 2 ∧
        WellPlaced source lexer := by
  intro source
  have short : source.text.length < Text.counterLimit := by decide
  obtain ⟨token?, lexer, read, two⟩ : ∃ token? lexer,
      (Lexer.start .standard source).next = .ok (token?, lexer) ∧ lexer.diagnostics.length = 2 :=
    ⟨_, _, rfl, rfl⟩
  have reached : Reachable .standard source lexer := .next .start read
  exact ⟨short, lexer, reached, two, Reachable.wellPlaced short reached⟩

end Lexer

end Offside
