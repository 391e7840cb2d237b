import Offside.Proofs.Lexer.Locations

/-! # What a lexer takes from the text ahead

Wherever a lexer has got to in a countable source, the lexeme that stands behind the spaces ahead
is what it takes next: as the next token, and as the first one of a run. The lexeme decides the kind
of the token and what is reported, and its place in the text decides the span.
-/

namespace Offside.Lexer

/-- The lexer takes `word`, which stands between two parts of its source, for a token of this kind,
or for a stray character if it has none, and offers these diagnostics to its queue. -/
structure Takes (lexer : Lexer) (front word rest : Text) (kind? : Option Kind)
    (reports : List Diagnostic) : Prop where
  divided : lexer.source.text = front ++ (word ++ rest)
  /-- Taken as the next token, it is passed and what is wrong with it is reported. -/
  next : ∃ after,
    lexer.next = .ok (kind?.map fun kind =>
      ⟨kind, Text.spanAfter front word.length, lexer.level⟩, after) ∧
    after.cursor.rest = rest ∧ after.queue = lexer.queue.pushAll reports
  /-- A run starts with the same token. -/
  run : ∃ tokens final, lexer.run =
    .ok (⟨kind?.getD .invalid, Text.spanAfter front word.length, lexer.level⟩ :: tokens, final)

/-- What a step reads starts the run of a countable source. -/
theorem exists_run_cons {lexer after : Lexer} {before : Text} {reading : Reading}
    (countable : Text.Countable lexer.source.text) (passed : lexer.Passed before)
    (scanned : lexer.scan = .ok (reading, after)) :
    ∃ tokens final, lexer.run = .ok (reading.token :: tokens, final) := by
  cases last : reading.isLast with
  | true => exact ⟨[], after, run_of_isLast scanned last⟩
  | false =>
    have step := step_of_scan countable passed scanned
    obtain ⟨more, onward⟩ := step.passed passed
    obtain ⟨tokens, final, ran⟩ := exists_run (step.source_eq ▸ countable) onward
    exact ⟨tokens, final, by rw [run_of_not_isLast scanned last, ran]; rfl⟩

/-- A lexer that has been reached takes the lexeme that stands behind the spaces ahead of it. -/
theorem Reachable.exists_takes {config : Queue.Config} {source : Source} {lexer : Lexer}
    {blanks ahead : Text} {first : Char} (countable : Text.Countable source.text)
    (reached : Reachable config source lexer) (spaces : ∀ c ∈ blanks, c = ' ')
    (more : lexer.cursor.rest = blanks ++ first :: ahead) (ordinary : first ≠ '\n')
    (visible : first ≠ ' ') :
    ∃ front, ∀ word rest, first :: ahead = word ++ rest →
      word.length = (Lexeme.read first ahead).length →
      lexer.Takes front word rest (Lexeme.read first ahead).kind?
        ((Lexeme.read first ahead).flaws.map fun flaw => flaw.diagnosis source front word) := by
  obtain ⟨rfl, ⟨before, passed⟩, _⟩ := reached.truthful countable
  refine ⟨before ++ blanks, ?_⟩
  intro word rest cut length
  have scanned := scan_of_step countable passed (.lexeme spaces more cut length ordinary visible)
  have divided := passed.divided
  rw [more, cut, ← List.append_assoc] at divided
  exact ⟨divided, ⟨_, Fault.map_eq_ok_iff.2 ⟨_, scanned, rfl⟩, rfl, rfl⟩,
    exists_run_cons countable passed scanned⟩

end Offside.Lexer
