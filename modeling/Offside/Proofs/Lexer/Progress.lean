import Offside.Proofs.Lexer.Locations
import Offside.Proofs.Lexer.Tiling

/-! # How soon a lexer comes to the end

A step that does not read the end of the source goes forward by at least one character. So a run
takes at most one step more than there are characters ahead of it, and the end of the source is the
last thing it reads. To say how many steps a run takes, the run is compared with one that gives up
after a number of steps.
-/

namespace Offside

namespace Cursor

/-- The second cursor stands further on in the text that the first has ahead. -/
def Advances (here there : Cursor) : Prop :=
  ∃ part : Text, part ≠ [] ∧ here.rest = part ++ there.rest ∧
    there.location.byte = here.location.byte + Text.byteLength part ∧
    there.location.index = here.location.index + part.length

theorem advances_between {before part : Text} (nonempty : part ≠ []) (rest : Text) :
    (between before (part ++ rest)).Advances (between (before ++ part) rest) :=
  ⟨part, nonempty, rfl, Text.byteLength_append .., List.length_append⟩

end Cursor

namespace Lexer

/-- The tokens up to and including the end of the source, unless reading them takes more than
`limit` steps. -/
def runWithin : Nat → Lexer → Except Fault (Option (List Token × Lexer))
  | 0, _ => .ok none
  | limit + 1, lexer => do
    let (reading, after) ← lexer.scan
    if reading.isLast then
      .ok (some ([reading.token], after))
    else
      let rest? ← after.runWithin limit
      .ok (rest?.map fun (tokens, done) => (reading.token :: tokens, done))

section Steps

variable {lexer next final : Lexer} {reading : Reading} {readings : List Reading}
  {tokens : List Token}

/-- What is read within a number of steps is what a run reads. -/
theorem run_of_runWithin {limit : Nat}
    (ended : lexer.runWithin limit = .ok (some (tokens, final))) :
    lexer.run = .ok (tokens, final) ∧ tokens.length ≤ limit := by
  induction limit generalizing lexer tokens with
  | zero => simp [runWithin] at ended
  | succ limit ih =>
    obtain ⟨⟨reading, after⟩, scanned, ended⟩ := Fault.bind_eq_ok_iff.1 ended
    dsimp only at ended
    split at ended
    · rename_i last
      obtain ⟨rfl, rfl⟩ := Prod.mk.inj (Option.some.inj (Except.ok.inj ended))
      exact ⟨run_of_isLast scanned last, Nat.le_add_left 1 limit⟩
    · rename_i goesOn
      obtain ⟨rest?, further, ended⟩ := Fault.bind_eq_ok_iff.1 ended
      obtain ⟨⟨rest, done⟩, rfl, joined⟩ := Option.map_eq_some_iff.1 (Except.ok.inj ended)
      obtain ⟨rfl, rfl⟩ := Prod.mk.inj joined
      obtain ⟨ran, few⟩ := ih further
      rw [run_of_not_isLast scanned (by simpa using goesOn), ran]
      exact ⟨rfl, Nat.succ_le_succ few⟩

/-- What a run reads is read within one step for each token. -/
theorem runWithin_of_run {limit : Nat} (ran : lexer.run = .ok (tokens, final))
    (few : tokens.length ≤ limit) : lexer.runWithin limit = .ok (some (tokens, final)) := by
  fun_induction run lexer generalizing tokens limit with
  | case1 => contradiction
  | case2 lexer reading after scanned last =>
    obtain ⟨rfl, rfl⟩ := Prod.mk.inj (Except.ok.inj ran)
    obtain ⟨limit, rfl⟩ := Nat.exists_eq_add_of_le' few
    exact Fault.bind_eq_ok_iff.2 ⟨_, scanned, if_pos last⟩
  | case3 lexer reading after scanned goesOn _ ih =>
    obtain ⟨⟨rest, done⟩, further, joined⟩ := Fault.map_eq_ok_iff.1 ran
    obtain ⟨rfl, rfl⟩ := Prod.mk.inj joined
    cases limit with
    | zero => contradiction
    | succ limit =>
      have within := ih further (Nat.le_of_succ_le_succ few)
      refine Fault.bind_eq_ok_iff.2 ⟨_, scanned, ?_⟩
      dsimp only
      rw [if_neg goesOn, within]
      rfl

/-- A run takes one step for each of its tokens. -/
theorem runWithin_eq_some_iff {limit : Nat} :
    lexer.runWithin limit = .ok (some (tokens, final)) ↔
      lexer.run = .ok (tokens, final) ∧ tokens.length ≤ limit :=
  ⟨run_of_runWithin, fun ⟨ran, few⟩ => runWithin_of_run ran few⟩

theorem Passed.cursor_eq {before : Text} (passed : lexer.Passed before)
    (ended : lexer.cursor.rest = []) : lexer.cursor = .between lexer.source.text [] := by
  have located := passed.located
  rw [ended] at located
  rw [located, passed.divided, ended, List.append_nil]

/-- A lexer that has passed more of the same source, and has less of it ahead, has gone forward. -/
theorem Passed.advances {before more : Text} (passed : lexer.Passed before)
    (onward : next.Passed (before ++ more)) (source : next.source = lexer.source)
    (shorter : next.cursor.rest.length < lexer.cursor.rest.length) :
    lexer.cursor.Advances next.cursor := by
  have joined : before ++ lexer.cursor.rest = before ++ (more ++ next.cursor.rest) := by
    rw [← passed.divided, ← source, onward.divided, List.append_assoc]
  have ahead := List.append_cancel_left joined
  have nonempty : more ≠ [] := by
    rintro rfl
    rw [ahead, List.nil_append] at shorter
    exact Nat.lt_irrefl _ shorter
  rw [passed.located, onward.located, ahead]
  exact Cursor.advances_between nonempty _

/-- A step reads the end of the source and comes to stand there, or it goes forward. -/
theorem progress_of_scan {before : Text} (countable : Text.Countable lexer.source.text)
    (passed : lexer.Passed before) (scanned : lexer.scan = .ok (reading, next)) :
    reading.isLast = true ∧ next.cursor = .between lexer.source.text [] ∨
      reading.isLast = false ∧ lexer.cursor.Advances next.cursor := by
  have step := step_of_scan countable passed scanned
  obtain ⟨more, onward⟩ := step.passed passed
  cases last : reading.isLast with
  | true =>
    have arrived := onward.cursor_eq (step.ended passed last).1
    rw [step.source_eq] at arrived
    exact .inl ⟨rfl, arrived⟩
  | false =>
    have shorter := rest_length_lt_of_scan scanned last
    exact .inr ⟨rfl, passed.advances onward step.source_eq shorter⟩

/-- Before the end of the source is read, each step of a path takes a character at least. -/
theorem Path.length_le (path : Path lexer readings next)
    (goesOn : ∀ reading ∈ readings, reading.isLast = false) :
    readings.length + next.cursor.rest.length ≤ lexer.cursor.rest.length := by
  induction path with
  | nil => exact Nat.le_of_eq (Nat.zero_add _)
  | @step readings reading middle next path scanned ih =>
    have before := ih fun other member => goesOn other (List.mem_append_left _ member)
    have shorter := rest_length_lt_of_scan scanned (goesOn reading (by simp))
    rw [List.length_append, List.length_singleton]
    omega

/-- The last reading of a run is the end of the source, where the text ends. -/
theorem Path.last_eq {before : Text} (path : Path lexer (readings ++ [reading]) final)
    (countable : Text.Countable lexer.source.text) (passed : lexer.Passed before)
    (atEnd : reading.isLast = true) :
    reading.token.span = Text.spanAfter lexer.source.text 0 := by
  obtain ⟨middle, front, scanned⟩ := path.exists_last_step
  obtain ⟨source, beyond, onward⟩ := front.passed countable passed
  have step := step_of_scan (source ▸ countable) onward scanned
  rw [(step.ended onward atEnd).2, ← source, ← step.source_eq]
  rfl

end Steps

/-- The lexer comes to the end of the source in as many steps as there are characters ahead, and one
more. -/
structure Terminates (source : Source) (lexer : Lexer) : Prop where
  /-- One step reads the end of the source and comes to stand there, or it goes forward. -/
  step : ∃ reading next, lexer.scan = .ok (reading, next) ∧
    (reading.isLast = true ∧ next.cursor = .between source.text [] ∨
      reading.isLast = false ∧ lexer.cursor.Advances next.cursor)
  /-- A run takes no more steps than that and gives no more tokens. The last of them, and no other,
  is the end of the source: it covers nothing, and it stands where the text ends. -/
  run : ∃ front last final, lexer.run = .ok (front ++ [last], final) ∧
    lexer.runWithin (lexer.cursor.rest.length + 1) = .ok (some (front ++ [last], final)) ∧
    (front ++ [last]).length ≤ lexer.cursor.rest.length + 1 ∧
    (∀ token ∈ front, token.kind ≠ .endOfFile) ∧ last.kind = .endOfFile ∧
    last.span.length = 0 ∧ last.span.start = source.byteSize

/-- In a source of fewer characters than the largest counter value, every lexer that is reached
comes to the end in this number of steps. -/
theorem Reachable.terminates {config : Queue.Config} {source : Source} {lexer : Lexer}
    (short : source.text.length < Text.counterLimit) (reached : Reachable config source lexer) :
    Terminates source lexer := by
  have countable := Text.countable_of_length_lt short
  obtain ⟨rfl, ⟨before, passed⟩, _⟩ := reached.truthful countable
  constructor
  · obtain ⟨reading, next, scanned, _⟩ := scan_step countable passed
    exact ⟨reading, next, scanned, progress_of_scan countable passed scanned⟩
  · obtain ⟨tokens, final, ran⟩ := exists_run countable passed
    obtain ⟨front, last, path, goesOn, atEnd, rfl⟩ := path_of_run ran
    obtain ⟨middle, early, _⟩ := path.exists_last_step
    have few := early.length_le goesOn
    have count : (front.map Reading.token ++ [last.token]).length ≤
        lexer.cursor.rest.length + 1 := by
      rw [List.length_append, List.length_map, List.length_singleton]
      omega
    have place := path.last_eq countable passed atEnd
    rw [List.map_append] at ran
    refine ⟨_, last.token, final, ran, runWithin_eq_some_iff.2 ⟨ran, count⟩, count,
      Reading.kind_ne_endOfFile goesOn, (Reading.isLast_iff last).1 atEnd, ?_, ?_⟩
    · rw [place]
      rfl
    · rw [place]
      rfl

/-- Behind a name, what is left are a space, a stray character, a line that is indented and a
literal without an end. -/
theorem Reachable.terminates_unterminated :
    let source := Source.ofText ['a', ' ', '$', '\n', '\t', '\x22', 'é', '\\']
    source.text.length < Text.counterLimit ∧
      ∃ lexer, Reachable .standard source lexer ∧ lexer.cursor.rest.length = 7 ∧
        Terminates source lexer := by
  intro source
  have short : source.text.length < Text.counterLimit := by decide
  obtain ⟨token?, lexer, read, left⟩ : ∃ token? lexer,
      (Lexer.start .standard source).next = .ok (token?, lexer) ∧
        lexer.cursor.rest.length = 7 := ⟨_, _, rfl, rfl⟩
  have reached : Reachable .standard source lexer := .next .start read
  exact ⟨short, lexer, reached, left, Reachable.terminates short reached⟩

end Lexer

end Offside
