import Offside.Proofs.Diagnostic.Selection
import Offside.Proofs.Lexer.Driving

/-! # What the configuration of the queue changes

The queue takes no part in reading, so lexers with different configurations take the same path
through a source and differ in nothing but their queues. The diagnostics of one scan start in
different places, so none of them repeats another and only the limit can keep one out. What a lexer
with a limit has queued is therefore the front of what a lexer without one has queued.
-/

namespace Offside

/-- Diagnostics that start in different places do not repeat each other. -/
theorem Diagnostic.Apart.repeats_eq_false {first second : Diagnostic}
    (apart : Diagnostic.Apart first second) : second.repeats first = false := by
  apply Bool.eq_false_iff.2
  intro again
  have same : second.span = first.span := by
    simp only [Diagnostic.repeats, Bool.and_eq_true, decide_eq_true_eq] at again
    exact again.2
  rw [Diagnostic.Apart, same, or_self] at apart
  exact apart.asymm apart

namespace Lexer

/-- The lexer that stands in the same place and has queued what a configuration selects. -/
def withConfig (lexer : Lexer) (config : Queue.Config) : Lexer :=
  lexer.withQueue (.holding config lexer.queue.diagnostics)

theorem start_withConfig (config : Queue.Config) (source : Source) :
    (start .unlimited source).withConfig config = start config source := by
  rw [withConfig, start, start, Queue.empty_eq_holding config]
  rfl

/-- A step reads the same under every configuration, and what it reports is selected from. -/
theorem Step.withConfig {lexer next : Lexer} {before : Text} {reading : Reading}
    (step : Step lexer before reading next) (unlimited : lexer.queue.config = .unlimited)
    (config : Queue.Config) :
    Step (lexer.withConfig config) before reading (next.withConfig config) := by
  obtain ⟨reports, pushed, anyQueue⟩ := step.withQueue
  have queued : next.queue.diagnostics = lexer.queue.diagnostics ++ reports := by
    rw [pushed, Queue.diagnostics_pushAll_of_unlimited unlimited]
  have configured := anyQueue (.holding config lexer.queue.diagnostics)
  rw [Queue.pushAll_holding, ← queued] at configured
  exact configured

/-- So does a whole path. -/
theorem Path.withConfig {source : Source} {readings : List Reading} {lexer : Lexer}
    (countable : Text.Countable source.text) (path : Path (start .unlimited source) readings lexer)
    (config : Queue.Config) : Path (start config source) readings (lexer.withConfig config) := by
  induction path with
  | nil =>
    rw [start_withConfig]
    exact .nil
  | @step readings reading lexer next path scanned ih =>
    obtain ⟨rfl, before, _, _, orderly⟩ := (Reachable.start.path path).exists_orderly countable
    have passed := orderly.passed
    have step := step_of_scan countable passed scanned
    have configured := step.withConfig orderly.unlimited config
    exact .step ih (scan_of_step countable ⟨passed.divided, passed.located⟩ configured)

/-- Whatever a configuration accepts, a source of fewer characters than the largest counter value is
read as by a lexer that accepts everything: the tokens and the unit of indentation are the same, and
the diagnostics are the first ones up to the limit, if there is one. -/
theorem run_truncated (config : Queue.Config) (source : Source)
    (short : source.text.length < Text.counterLimit) :
    ∃ tokens full limited,
      (start .unlimited source).run = .ok (tokens, full) ∧
      (start config source).run = .ok (tokens, limited) ∧
      limited.unit? = full.unit? ∧
      limited.diagnostics =
        if config.errorLimit = 0 then full.diagnostics
        else full.diagnostics.take config.errorLimit := by
  have countable := Text.countable_of_length_lt short
  obtain ⟨tokens, full, ran⟩ := exists_run countable (passed_start .unlimited source)
  obtain ⟨front, last, path, goesOn, atEnd, rfl⟩ := path_of_run ran
  obtain ⟨_, _, _, _, orderly⟩ := (Reachable.start.path path).exists_orderly countable
  refine ⟨_, full, full.withConfig config, ran, ?_, rfl, ?_⟩
  · exact run_of_ending_path (path.withConfig countable config) goesOn atEnd
  · exact config.selection_of_pairwise (orderly.apart.imp fun apart => apart.repeats_eq_false)

/-- Three stray characters are met with room for two, where no repetition is accepted. -/
theorem run_truncated_twice :
    let source := Source.ofText ['$', '$', '\n', '\t', '$']
    source.text.length < Text.counterLimit ∧
      ∃ tokens full limited,
        (start .unlimited source).run = .ok (tokens, full) ∧
        (start ⟨2, true⟩ source).run = .ok (tokens, limited) ∧
        limited.unit? = full.unit? ∧
        limited.diagnostics = full.diagnostics.take 2 ∧
        full.diagnostics.map (·.span.start) = [0, 1, 4] ∧ full.unit? = some .tab := by
  intro source
  have short : source.text.length < Text.counterLimit := by decide
  obtain ⟨tokens, full, limited, ran, cut, unit, first⟩ := run_truncated ⟨2, true⟩ source short
  have read : ((start .unlimited source).run.toOption.map fun result =>
      (result.2.diagnostics.map (·.span.start), result.2.unit?)) = some ([0, 1, 4], some .tab) := by
    decide +kernel
  rw [ran] at read
  obtain ⟨starts, shown⟩ := Prod.mk.inj (Option.some.inj read)
  exact ⟨short, tokens, full, limited, ran, cut, unit, first, starts, shown⟩

end Lexer

end Offside
