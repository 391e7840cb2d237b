import Offside.Lexer.Run
import Offside.Proofs.Lexer.Step

/-! # Paths of the lexer

A path is any number of steps in a row. A run is a path whose last reading, and no other, is the end
of the source; in a countable source every lexer on the way has such a run. The lexers that can be
reached from the start of a source, however it is driven, share what each step and each handing over
of diagnostics preserves.
-/

namespace Offside.Lexer

/-- A lexer gets from `first` to another one by these readings. -/
inductive Path (first : Lexer) : List Reading → Lexer → Prop
  | nil : Path first [] first
  | step {readings : List Reading} {reading : Reading} {lexer next : Lexer}
      (path : Path first readings lexer) (scanned : lexer.scan = .ok (reading, next)) :
      Path first (readings ++ [reading]) next

namespace Path

variable {first middle last : Lexer} {reading : Reading} {readings : List Reading}

theorem cons (scanned : first.scan = .ok (reading, middle)) (path : Path middle readings last) :
    Path first (reading :: readings) last := by
  induction path with
  | nil => exact .step .nil scanned
  | step _ further ih => exact .step ih further

/-- A path with a last reading ends with the step that reads it. -/
theorem exists_last_step (path : Path first (readings ++ [reading]) last) :
    ∃ middle, Path first readings middle ∧ middle.scan = .ok (reading, last) := by
  generalize joined : readings ++ [reading] = all at path
  cases path with
  | nil => simp at joined
  | step path scanned =>
    obtain ⟨rfl, same⟩ := List.append_inj' joined rfl
    obtain rfl := List.singleton_inj.1 same
    exact ⟨_, path, scanned⟩

/-- A path can be cut behind any of its readings. -/
theorem exists_cut {more : List Reading} (path : Path first (readings ++ more) last) :
    ∃ middle, Path first readings middle ∧ Path middle more last := by
  generalize joined : readings ++ more = all at path
  induction path generalizing more with
  | nil =>
    obtain ⟨rfl, rfl⟩ := List.append_eq_nil_iff.1 joined
    exact ⟨first, .nil, .nil⟩
  | @step earlier reading lexer next path scanned ih =>
    rcases more.eq_nil_or_concat with rfl | ⟨front, final, rfl⟩
    · obtain rfl : readings = earlier ++ [reading] := by rwa [List.append_nil] at joined
      exact ⟨next, .step path scanned, .nil⟩
    · rw [List.concat_eq_append] at joined ⊢
      rw [← List.append_assoc] at joined
      obtain ⟨same, here⟩ := List.append_inj' joined rfl
      obtain rfl := List.singleton_inj.1 here
      obtain ⟨middle, before, behind⟩ := ih same
      exact ⟨middle, before, .step behind scanned⟩

/-- What every step preserves is preserved along a path. -/
theorem preserves {motive : Lexer → Prop} (path : Path first readings last)
    (kept : ∀ lexer reading next, motive lexer → lexer.scan = .ok (reading, next) → motive next)
    (initial : motive first) : motive last := by
  induction path with
  | nil => exact initial
  | step _ scanned ih => exact kept _ _ _ ih scanned

/-- A path stays in its source, and the lexer at its end knows where it is. -/
theorem passed {before : Text} (path : Path first readings last)
    (countable : Text.Countable first.source.text) (passed : first.Passed before) :
    last.source = first.source ∧ ∃ beyond, last.Passed beyond := by
  induction path with
  | nil => exact ⟨rfl, before, passed⟩
  | step _ scanned ih =>
    obtain ⟨source, middle, onward⟩ := ih
    have step := step_of_scan (source ▸ countable) onward scanned
    obtain ⟨more, beyond⟩ := step.passed onward
    exact ⟨step.source_eq.trans source, _, beyond⟩

/-- What holds of the reading of every step in a source holds of all readings on a path. -/
theorem forall_readings {before : Text} {motive : Reading → Prop} (path : Path first readings last)
    (countable : Text.Countable first.source.text) (passed : first.Passed before)
    (each : ∀ lexer before reading next, lexer.source = first.source → lexer.Passed before →
      Step lexer before reading next → motive reading) :
    ∀ reading ∈ readings, motive reading := by
  induction path with
  | nil => simp
  | @step readings reading lexer next path scanned ih =>
    obtain ⟨source, middle, onward⟩ := path.passed countable passed
    have step := step_of_scan (source ▸ countable) onward scanned
    intro other member
    rcases List.mem_append.1 member with old | new
    · exact ih other old
    · rw [List.mem_singleton.1 new]
      exact each lexer middle reading next source onward step

end Path

section Run

variable {lexer next final : Lexer} {reading : Reading} {tokens : List Token}

theorem run_of_isLast (scanned : lexer.scan = .ok (reading, next)) (last : reading.isLast = true) :
    lexer.run = .ok ([reading.token], next) := by
  rw [run]
  split
  · simp_all
  · rename_i other after success
    obtain ⟨rfl, rfl⟩ := Prod.mk.inj (Except.ok.inj (success.symm.trans scanned))
    rw [dif_pos last]

theorem run_of_not_isLast (scanned : lexer.scan = .ok (reading, next))
    (goesOn : reading.isLast = false) :
    lexer.run = next.run.map fun (tokens, done) => (reading.token :: tokens, done) := by
  rw [run]
  split
  · simp_all
  · rename_i other after success
    obtain ⟨rfl, rfl⟩ := Prod.mk.inj (Except.ok.inj (success.symm.trans scanned))
    rw [dif_neg (by simp [goesOn])]

/-- A run is a path that reads the end of the source at its end and not before. -/
theorem path_of_run (ran : lexer.run = .ok (tokens, final)) :
    ∃ front last, Path lexer (front ++ [last]) final ∧ (∀ reading ∈ front, reading.isLast = false) ∧
      last.isLast = true ∧ tokens = (front ++ [last]).map Reading.token := by
  fun_induction run lexer generalizing tokens with
  | case1 => contradiction
  | case2 lexer reading after scanned last =>
    obtain ⟨rfl, rfl⟩ := Prod.mk.inj (Except.ok.inj ran)
    exact ⟨[], reading, .cons scanned .nil, by simp, last, rfl⟩
  | case3 lexer reading after scanned goesOn _ ih =>
    obtain ⟨⟨rest, done⟩, further, same⟩ := Fault.map_eq_ok_iff.1 ran
    obtain ⟨rfl, rfl⟩ := Prod.mk.inj same
    obtain ⟨front, last, path, before, atEnd, rfl⟩ := ih further
    refine ⟨reading :: front, last, .cons scanned path, ?_, atEnd, rfl⟩
    intro other member
    rcases List.mem_cons.1 member with rfl | later
    · simpa using goesOn
    · exact before other later

/-- A run can be taken up at any lexer on the way to the end. -/
theorem run_of_path {first middle : Lexer} {readings : List Reading}
    (path : Path first readings middle) (goesOn : ∀ reading ∈ readings, reading.isLast = false)
    (ran : middle.run = .ok (tokens, final)) :
    first.run = .ok (readings.map Reading.token ++ tokens, final) := by
  induction path generalizing tokens with
  | nil => exact ran
  | @step readings reading lexer next path scanned ih =>
    have here : lexer.run = .ok (reading.token :: tokens, final) := by
      rw [run_of_not_isLast scanned (goesOn reading (by simp)), ran]
      rfl
    rw [ih (fun other member => goesOn other (List.mem_append_left _ member)) here]
    simp

/-- A path that reads the end of the source at its end and not before is a run. -/
theorem run_of_ending_path {first : Lexer} {front : List Reading} {last : Reading}
    (path : Path first (front ++ [last]) final) (goesOn : ∀ reading ∈ front, reading.isLast = false)
    (atEnd : last.isLast = true) :
    first.run = .ok ((front ++ [last]).map Reading.token, final) := by
  obtain ⟨middle, before, scanned⟩ := path.exists_last_step
  rw [run_of_path before goesOn (run_of_isLast scanned atEnd)]
  simp

end Run

/-- In a countable source every lexer can be run to the end. -/
theorem exists_run {lexer : Lexer} {before : Text} (countable : Text.Countable lexer.source.text)
    (passed : lexer.Passed before) : ∃ tokens final, lexer.run = .ok (tokens, final) := by
  -- The text ahead shrinks with each step, so the induction is on its length.
  induction size : lexer.cursor.rest.length using Nat.strongRecOn generalizing lexer before with
  | ind size ih =>
    obtain ⟨reading, next, scanned, step⟩ := scan_step countable passed
    cases last : reading.isLast with
    | true => exact ⟨_, _, run_of_isLast scanned last⟩
    | false =>
      have shorter := rest_length_lt_of_scan scanned last
      obtain ⟨more, onward⟩ := step.passed passed
      rw [← step.source_eq] at countable
      obtain ⟨tokens, final, ran⟩ := ih _ (by omega) countable onward rfl
      exact ⟨_, _, by rw [run_of_not_isLast scanned last, ran]; rfl⟩

/-- The lexers that a source can be read with, whether token by token or by a run, and whether or
not diagnostics are handed over on the way. -/
inductive Reachable (config : Queue.Config) (source : Source) : Lexer → Prop
  | start : Reachable config source (.start config source)
  | next {lexer after : Lexer} {token? : Option Token} (reached : Reachable config source lexer)
      (read : lexer.next = .ok (token?, after)) : Reachable config source after
  | run {lexer after : Lexer} {tokens : List Token} (reached : Reachable config source lexer)
      (ran : lexer.run = .ok (tokens, after)) : Reachable config source after
  | take {lexer : Lexer} (reached : Reachable config source lexer) :
      Reachable config source lexer.takeDiagnostics.2

/-- What holds at the start, and is kept by steps and by handing over diagnostics, holds of every
lexer that is reached. -/
theorem Reachable.preserves {config : Queue.Config} {source : Source} {lexer : Lexer}
    {motive : Lexer → Prop} (reached : Reachable config source lexer)
    (initial : motive (.start config source))
    (step : ∀ lexer reading next, motive lexer → lexer.scan = .ok (reading, next) → motive next)
    (take : ∀ lexer, motive lexer → motive lexer.takeDiagnostics.2) : motive lexer := by
  induction reached with
  | start => exact initial
  | next _ read ih =>
    obtain ⟨⟨reading, after⟩, scanned, same⟩ := Fault.map_eq_ok_iff.1 read
    obtain ⟨_, rfl⟩ := Prod.mk.inj same
    exact step _ _ _ ih scanned
  | run _ ran ih =>
    obtain ⟨front, last, path, _⟩ := path_of_run ran
    exact path.preserves step ih
  | take _ ih => exact take _ ih

/-- A path leads from lexers that are reached to lexers that are reached. -/
theorem Reachable.path {config : Queue.Config} {source : Source} {first last : Lexer}
    {readings : List Reading} (reached : Reachable config source first)
    (path : Path first readings last) : Reachable config source last := by
  apply path.preserves _ reached
  intro lexer reading next reached scanned
  exact .next reached (Fault.map_eq_ok_iff.2 ⟨_, scanned, rfl⟩)

section End

variable {lexer next : Lexer} {before : Text} {reading : Reading}

/-- What a lexer reads at the end of its source. -/
def lastReading (lexer : Lexer) : Reading :=
  ⟨some .endOfFile, Text.spanAfter lexer.source.text 0, lexer.level⟩

/-- At the end of the source a lexer reads the end, and stays as it is. -/
theorem scan_at_end (countable : Text.Countable lexer.source.text) (passed : lexer.Passed before)
    (ended : lexer.cursor.rest = []) : lexer.scan = .ok (lexer.lastReading, lexer) := by
  obtain ⟨source, cursor, unit?, level, queue⟩ := lexer
  obtain ⟨divided, located⟩ := passed
  dsimp only at divided located ended
  rw [ended, List.append_nil] at divided
  rw [ended] at located
  have step : Step ⟨source, cursor, unit?, level, queue⟩ before
      ⟨some .endOfFile, Text.spanAfter (before ++ []) 0, level⟩
      ⟨source, .between (before ++ []) [], unit?, level, queue⟩ := .finish (by simp) ended
  have scanned := scan_of_step countable ⟨by simp [divided, ended], by rw [ended]; exact located⟩
    step
  rw [List.append_nil, ← located] at scanned
  rw [scanned, lastReading, divided]

/-- Reading the end leaves a lexer at the end. -/
theorem Step.ended (step : Step lexer before reading next) (passed : lexer.Passed before)
    (last : reading.isLast = true) : next.cursor.rest = [] ∧ reading = next.lastReading := by
  have divided := passed.divided
  cases step with
  | finish spaces ahead =>
    rw [ahead] at divided
    exact ⟨rfl, by rw [lastReading, divided]⟩
  | newline => simp [Reading.isLast] at last
  | @lexeme blanks word rest ahead first =>
    have marker := (Lexeme.marker_read first ahead).1
    simp [Reading.isLast, marker] at last

/-- A path has not met the end of the source, or it has met it once, where the run ends, and has
stayed there. -/
theorem Path.going_or_ended {first last : Lexer} {readings : List Reading}
    (path : Path first readings last) (countable : Text.Countable first.source.text)
    (passed : first.Passed before) :
    (∀ reading ∈ readings, reading.isLast = false) ∨
      last.cursor.rest = [] ∧ ∃ front count,
        readings = front ++ List.replicate (count + 1) last.lastReading ∧
        (∀ reading ∈ front, reading.isLast = false) ∧
        first.run = .ok (front.map Reading.token ++ [last.lastReading.token], last) := by
  induction path with
  | nil => exact .inl (by simp)
  | @step readings reading lexer next path scanned ih =>
    obtain ⟨source, middle, onward⟩ := path.passed countable passed
    have known : Text.Countable lexer.source.text := source ▸ countable
    rcases ih with going | ⟨ended, front, count, rfl, going, ran⟩
    · cases last : reading.isLast with
      | false =>
        left
        intro other member
        rcases List.mem_append.1 member with old | new
        · exact going other old
        · rw [List.mem_singleton.1 new, last]
      | true =>
        obtain ⟨ended, rfl⟩ := (step_of_scan known onward scanned).ended onward last
        exact .inr ⟨ended, readings, 0, rfl, going,
          run_of_path path going (run_of_isLast scanned last)⟩
    · -- At the end nothing changes any more, so the same is read once more.
      obtain ⟨rfl, rfl⟩ := Prod.mk.inj (Except.ok.inj
        (scanned.symm.trans (scan_at_end known onward ended)))
      refine .inr ⟨ended, front, count + 1, ?_, going, ran⟩
      rw [List.append_assoc, ← List.replicate_succ']

end End

theorem passed_start (config : Queue.Config) (source : Source) :
    (start config source).Passed [] := ⟨rfl, rfl⟩

end Offside.Lexer
