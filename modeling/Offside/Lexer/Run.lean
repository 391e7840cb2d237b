import Offside.Lexer.Basic

/-! # Running the lexer

A lexer can be driven token by token or run to the end of its source. The run ends because every
step but the last leaves less text ahead.
-/

namespace Offside.Lexer

section Progress

variable {lexer next : Lexer} {mark : Cursor} {lexeme : Lexeme} {reading : Reading}

theorem exists_skip_of_enterLine (entered : lexer.enterLine = .ok next) :
    ∃ count, lexer.cursor.skip count = .ok next.cursor := by
  unfold enterLine at entered
  split at entered
  · obtain rfl := Except.ok.inj entered
    exact ⟨0, rfl⟩
  · obtain ⟨cursor, skipped, entered⟩ := Fault.bind_eq_ok_iff.1 entered
    obtain rfl := Except.ok.inj entered
    exact ⟨_, skipped⟩

/-- A lexeme is passed as a whole, and the indentation after a line feed with it. -/
theorem exists_skip_of_consume (consumed : lexer.consume mark lexeme = .ok (reading, next)) :
    (∃ more, mark.skip (lexeme.length + more) = .ok next.cursor) ∧
      reading.kind? = lexeme.kind? := by
  obtain ⟨stop, skipped, consumed⟩ := Fault.bind_eq_ok_iff.1 consumed
  obtain ⟨diagnostics, _, consumed⟩ := Fault.bind_eq_ok_iff.1 consumed
  dsimp only at consumed
  split at consumed
  · obtain ⟨entered, entering, consumed⟩ := Fault.bind_eq_ok_iff.1 consumed
    obtain ⟨rfl, rfl⟩ := Prod.mk.inj (Except.ok.inj consumed)
    obtain ⟨more, further⟩ := exists_skip_of_enterLine entering
    rw [Cursor.skip_skip skipped] at further
    exact ⟨⟨more, further⟩, rfl⟩
  · obtain ⟨rfl, rfl⟩ := Prod.mk.inj (Except.ok.inj consumed)
    exact ⟨⟨0, skipped⟩, rfl⟩

/-- A step passes spaces, and where it then stands it reads the end of the source or a lexeme. -/
theorem exists_mark_of_scan (scanned : lexer.scan = .ok (reading, next)) :
    ∃ blanks mark, lexer.cursor.skip blanks = .ok mark ∧
      (mark.rest = [] ∧ reading.isLast = true ∧ next.cursor = mark ∨
        ∃ first rest, mark.rest = first :: rest ∧
          lexer.consume mark (Lexeme.read first rest) = .ok (reading, next)) := by
  obtain ⟨⟨_, mark⟩, eaten, scanned⟩ := Fault.bind_eq_ok_iff.1 scanned
  obtain ⟨after, skipped, same⟩ := Fault.map_eq_ok_iff.1 eaten
  obtain ⟨_, rfl⟩ := Prod.mk.inj same
  refine ⟨_, after, skipped, ?_⟩
  dsimp only at scanned
  split at scanned
  · rename_i nothing
    obtain ⟨rfl, rfl⟩ := Prod.mk.inj (Except.ok.inj scanned)
    exact .inl ⟨nothing, rfl, rfl⟩
  · rename_i first rest ahead
    exact .inr ⟨first, rest, ahead, scanned⟩

/-- A step that does not read the end of the source leaves less text ahead. -/
theorem rest_length_lt_of_scan (scanned : lexer.scan = .ok (reading, next))
    (goesOn : reading.isLast = false) :
    next.cursor.rest.length < lexer.cursor.rest.length := by
  obtain ⟨blanks, mark, skipped, ⟨_, last, _⟩ | ⟨first, rest, ahead, consumed⟩⟩ :=
    exists_mark_of_scan scanned
  · rw [last] at goesOn
    contradiction
  · obtain ⟨⟨more, further⟩, _⟩ := exists_skip_of_consume consumed
    have positive := (Lexeme.read first rest).length_pos
    have left : mark.rest.length = lexer.cursor.rest.length - blanks := by
      rw [Cursor.rest_of_skip skipped, List.length_drop]
    rw [Cursor.rest_of_skip further, List.length_drop]
    rw [ahead, List.length_cons] at left ⊢
    omega

end Progress

/-- The next token, or none for a character that starts no token. At the end of the source the same
token is read again and again. -/
def next (lexer : Lexer) : Except Fault (Option Token × Lexer) :=
  lexer.scan.map fun (reading, after) => (reading.token?, after)

/-- All tokens up to and including the end of the source. A character that starts no token gives an
invalid token, so that the tokens account for the whole text. -/
def run (lexer : Lexer) : Except Fault (List Token × Lexer) :=
  match scanned : lexer.scan with
  | .error fault => .error fault
  | .ok (reading, after) =>
    if last : reading.isLast then
      .ok ([reading.token], after)
    else
      have := rest_length_lt_of_scan scanned (by simpa using last)
      (run after).map fun (tokens, done) => (reading.token :: tokens, done)
termination_by lexer.cursor.rest.length

/-- The diagnostics reported so far, in the order in which they were found. -/
def diagnostics (lexer : Lexer) : List Diagnostic := lexer.queue.diagnostics

/-- Hands over the diagnostics reported so far, in the order of their places. -/
def takeDiagnostics (lexer : Lexer) : List Diagnostic × Lexer :=
  let (diagnostics, queue) := lexer.queue.flush
  (diagnostics, { lexer with queue := queue })

end Offside.Lexer
