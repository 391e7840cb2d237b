import Offside.Lexer.Basic
import Offside.Proofs.Indentation
import Offside.Proofs.Lexeme.Shape
import Offside.Proofs.Place

/-! # What one step of the lexer does

A lexer that has passed a part of its source passes, in one step, some spaces, then a lexeme or the
end of the source, and behind a line feed also the indentation of the next line. The step relation
says so in terms of the text alone. In a countable source every step succeeds and does just that, so
later arguments are about texts and neither unfold the lexer nor meet its faults. The relation
leaves no choice: what it allows is what the lexer does.
-/

namespace Offside

/-- The diagnostic for a flaw of a lexeme that stands after a text. -/
def Flaw.diagnosis (flaw : Flaw) (source : Source) (before lexeme : Text) : Diagnostic :=
  flaw.problem.diagnose source (Text.spanAfter (before ++ lexeme.take flaw.offset) flaw.length)

namespace Lexer

/-- The lexer has passed this text: it is what stands before the cursor. -/
structure Passed (lexer : Lexer) (before : Text) : Prop where
  divided : lexer.source.text = before ++ lexer.cursor.rest
  located : lexer.cursor = .between before lexer.cursor.rest

/-- A lexer whose cursor moves over a part of the text ahead has passed that part too. -/
theorem Passed.advance {lexer next : Lexer} {before part after rest : Text}
    (passed : lexer.Passed before) (ahead : lexer.cursor.rest = part ++ rest)
    (source : next.source = lexer.source) (cursor : next.cursor = .between after rest)
    (joined : after = before ++ part) : next.Passed after := by
  refine ⟨?_, ?_⟩
  · rw [source, passed.divided, ahead, cursor, joined, Cursor.between_rest, List.append_assoc]
  · rw [cursor, Cursor.between_rest]

/-- A step of a lexer that has passed `before`: what is read, and the lexer afterwards. -/
inductive Step (lexer : Lexer) (before : Text) : Reading → Lexer → Prop
  /-- Only spaces are ahead, and the end of the source behind them. -/
  | finish {blanks : Text} (spaces : ∀ c ∈ blanks, c = ' ') (ahead : lexer.cursor.rest = blanks) :
      Step lexer before ⟨some .endOfFile, Text.spanAfter (before ++ blanks) 0, lexer.level⟩
        { lexer with cursor := .between (before ++ blanks) [] }
  /-- A line feed is read, and the indentation of the line behind it is taken up. -/
  | newline {blanks line rest : Text} {unit? : Option IndentUnit} (spaces : ∀ c ∈ blanks, c = ' ')
      (ahead : lexer.cursor.rest = blanks ++ '\n' :: line)
      (unit : unit? = IndentUnit.inForce lexer.unit? line)
      (indented : line = IndentUnit.indentation unit? line ++ rest) :
      Step lexer before ⟨some .endOfLine, Text.spanAfter (before ++ blanks) 1, lexer.level⟩
        { lexer with
          cursor :=
            .between (before ++ blanks ++ ['\n'] ++ IndentUnit.indentation unit? line) rest
          unit? := unit?
          level := IndentUnit.lineLevel unit? line }
  /-- Any other lexeme is read, and its flaws are reported. -/
  | lexeme {blanks word rest ahead : Text} {first : Char} (spaces : ∀ c ∈ blanks, c = ' ')
      (more : lexer.cursor.rest = blanks ++ first :: ahead) (cut : first :: ahead = word ++ rest)
      (length : word.length = (Lexeme.read first ahead).length) (ordinary : first ≠ '\n')
      (visible : first ≠ ' ') :
      Step lexer before
        ⟨(Lexeme.read first ahead).kind?, Text.spanAfter (before ++ blanks) word.length,
          lexer.level⟩
        { lexer with
          cursor := .between (before ++ blanks ++ word) rest
          queue := lexer.queue.pushAll ((Lexeme.read first ahead).flaws.map fun flaw =>
            flaw.diagnosis lexer.source (before ++ blanks) word) }

end Lexer

/-- In a countable text a flaw is found where its lexeme stands. -/
theorem Flaw.locate_between {before ahead : Text} {flaw : Flaw}
    (countable : Text.Countable (before ++ ahead)) (inside : flaw.Inside ahead.length) :
    flaw.locate (.between before ahead) =
      .ok (Text.spanAfter (before ++ ahead.take flaw.offset) flaw.length) := by
  have bounded := inside.bounded
  have regrouped :
      before ++ ahead.take flaw.offset ++ ahead.drop flaw.offset = before ++ ahead := by
    rw [List.append_assoc, List.take_append_drop]
  have covered : ((ahead.drop flaw.offset).take flaw.length).length = flaw.length := by
    rw [List.length_take, List.length_drop]
    omega
  unfold locate
  rw [Cursor.skip_between countable]
  change ((Cursor.between _ (ahead.drop flaw.offset)).skip flaw.length >>= _) = _
  rw [Cursor.skip_between (regrouped ▸ countable)]
  change Except.ok (Location.spanTo _ _) = _
  rw [Cursor.between_location, Cursor.between_location, Location.spanTo_after, covered]

/-- Steps that all succeed succeed together. -/
private theorem mapM_eq_ok {α β : Type} {step : α → Except Fault β} {result : α → β}
    {inputs : List α} (each : ∀ input ∈ inputs, step input = .ok (result input)) :
    inputs.mapM step = .ok (inputs.map result) := by
  induction inputs with
  | nil => rfl
  | cons input rest ih =>
    rw [List.mapM_cons, each input List.mem_cons_self,
      ih fun other member => each other (List.mem_cons_of_mem _ member)]
    rfl

namespace Lexer

section EnterLine

variable {lexer : Lexer}

theorem enterLine_of_inForce_eq_none
    (unsettled : IndentUnit.inForce lexer.unit? lexer.cursor.rest = none) :
    lexer.enterLine = .ok { lexer with level := 0 } := by
  rw [IndentUnit.inForce] at unsettled
  rw [enterLine, unsettled]

theorem enterLine_of_inForce_eq_some {unit : IndentUnit}
    (settled : IndentUnit.inForce lexer.unit? lexer.cursor.rest = some unit) :
    lexer.enterLine =
      lexer.cursor.skip (unit.levels lexer.cursor.rest * unit.width) >>= fun cursor =>
        .ok { lexer with
          cursor := cursor
          unit? := some unit
          level := unit.levels lexer.cursor.rest } := by
  rw [IndentUnit.inForce] at settled
  rw [enterLine, settled]

/-- At the start of a line the unit is settled, and the indentation is passed. -/
theorem enterLine_between {before line : Text} (countable : Text.Countable (before ++ line))
    (located : lexer.cursor = .between before line) :
    ∃ rest unit?, unit? = IndentUnit.inForce lexer.unit? line ∧
      line = IndentUnit.indentation unit? line ++ rest ∧
      lexer.enterLine = .ok { lexer with
        cursor := .between (before ++ IndentUnit.indentation unit? line) rest
        unit? := unit?
        level := IndentUnit.lineLevel unit? line } := by
  obtain ⟨source, cursor, known?, level, queue⟩ := lexer
  obtain rfl : cursor = .between before line := located
  obtain ⟨rest, joined⟩ :=
    IndentUnit.indentation_prefix (IndentUnit.inForce known? line) line
  refine ⟨rest, _, rfl, joined.symm, ?_⟩
  cases settled : IndentUnit.inForce known? line with
  | none =>
    have unknown : known? = none := IndentUnit.eq_none_of_inForce settled
    rw [settled, IndentUnit.indentation_none, List.nil_append] at joined
    rw [enterLine_of_inForce_eq_none settled, joined, unknown, IndentUnit.indentation_none,
      List.append_nil]
    rfl
  | some unit =>
    rw [settled, IndentUnit.indentation_some] at joined
    have size : (List.replicate (unit.levels line * unit.width) unit.character).length =
        unit.levels line * unit.width := List.length_replicate
    have taken : line.take (unit.levels line * unit.width) =
        List.replicate (unit.levels line * unit.width) unit.character := by
      conv => lhs; arg 2; rw [← joined]
      rw [List.take_left' size]
    have dropped : line.drop (unit.levels line * unit.width) = rest := by
      conv => lhs; arg 2; rw [← joined]
      rw [List.drop_left' size]
    rw [enterLine_of_inForce_eq_some settled, Cursor.between_rest, Cursor.skip_between countable,
      taken, dropped]
    rfl

end EnterLine

/-- A line feed is taken up together with the indentation behind it. -/
theorem consume_newline (lexer : Lexer) {before line : Text}
    (countable : Text.Countable (before ++ '\n' :: line)) :
    ∃ rest unit?, unit? = IndentUnit.inForce lexer.unit? line ∧
      line = IndentUnit.indentation unit? line ++ rest ∧
      lexer.consume (.between before ('\n' :: line)) .endOfLine =
        .ok (⟨some .endOfLine, Text.spanAfter before 1, lexer.level⟩,
          { lexer with
            cursor := .between (before ++ ['\n'] ++ IndentUnit.indentation unit? line) rest
            unit? := unit?
            level := IndentUnit.lineLevel unit? line }) := by
  have behind : Text.Countable (before ++ ['\n'] ++ line) := by simpa using countable
  have located : ({ lexer with cursor := .between (before ++ ['\n']) line } : Lexer).cursor =
      .between (before ++ ['\n']) line := rfl
  obtain ⟨rest, unit?, unit, indented, entered⟩ := enterLine_between behind located
  refine ⟨rest, unit?, unit, indented, ?_⟩
  refine Fault.bind_eq_ok_iff.2 ⟨_, Cursor.skip_between countable 1, ?_⟩
  refine Fault.bind_eq_ok_iff.2 ⟨[], rfl, ?_⟩
  refine Fault.bind_eq_ok_iff.2 ⟨_, entered, ?_⟩
  rw [Cursor.between_location, Cursor.between_location, Location.spanTo_after]
  rfl

/-- Any other lexeme is taken up with its flaws reported where they are. -/
theorem consume_lexeme (lexer : Lexer) {before ahead : Text} {lexeme : Lexeme}
    (countable : Text.Countable (before ++ ahead)) (within : lexeme.Within ahead.length)
    (ordinary : lexeme.kind? ≠ some .endOfLine) :
    lexer.consume (.between before ahead) lexeme =
      .ok (⟨lexeme.kind?, Text.spanAfter before lexeme.length, lexer.level⟩,
        { lexer with
          cursor := .between (before ++ ahead.take lexeme.length) (ahead.drop lexeme.length)
          queue := lexer.queue.pushAll (lexeme.flaws.map fun flaw =>
            flaw.diagnosis lexer.source before (ahead.take lexeme.length)) }) := by
  have reported : lexeme.flaws.mapM (fun flaw => flaw.report lexer.source (.between before ahead)) =
      .ok (lexeme.flaws.map fun flaw =>
        flaw.diagnosis lexer.source before (ahead.take lexeme.length)) := by
    apply mapM_eq_ok
    intro flaw member
    have inside := within.flaws flaw member
    have bounded := inside.bounded
    have wide : flaw.Inside ahead.length := ⟨inside.nonempty, Nat.le_trans bounded within.bounded⟩
    have offset : (ahead.take lexeme.length).take flaw.offset = ahead.take flaw.offset := by
      rw [List.take_take, Nat.min_eq_left (by omega)]
    unfold Flaw.report Flaw.diagnosis
    rw [Flaw.locate_between countable wide, offset]
    rfl
  have covered : (ahead.take lexeme.length).length = lexeme.length :=
    List.length_take_of_le within.bounded
  refine Fault.bind_eq_ok_iff.2 ⟨_, Cursor.skip_between countable lexeme.length, ?_⟩
  refine Fault.bind_eq_ok_iff.2 ⟨_, reported, ?_⟩
  rw [if_neg ordinary, Cursor.between_location, Cursor.between_location, Location.spanTo_after,
    covered]

/-- A lexeme has a character, so it opens with the one that decides what is read. -/
theorem exists_body_of_cut {first : Char} {ahead word rest : Text}
    (cut : first :: ahead = word ++ rest)
    (length : word.length = (Lexeme.read first ahead).length) :
    ∃ body, word = first :: body ∧ ahead = body ++ rest := by
  have positive := (Lexeme.read first ahead).length_pos
  cases word with
  | nil => exact absurd positive (by simp [← length])
  | cons c body =>
    obtain ⟨rfl, tail⟩ := List.cons.inj cut
    exact ⟨body, rfl, tail⟩

/-- Whatever is ahead of a lexer, there is a step for it to take. -/
theorem exists_step (lexer : Lexer) (before : Text) :
    ∃ reading next, Step lexer before reading next := by
  have joined : lexer.cursor.rest =
      lexer.cursor.rest.takeWhile (· = ' ') ++ lexer.cursor.rest.dropWhile (· = ' ') :=
    List.takeWhile_append_dropWhile.symm
  have spaces : ∀ c ∈ lexer.cursor.rest.takeWhile (· = ' '), c = ' ' := by
    intro c member
    simpa using List.all_eq_true.1 List.all_takeWhile c member
  cases next : lexer.cursor.rest.dropWhile (· = ' ') with
  | nil =>
    rw [next, List.append_nil] at joined
    exact ⟨_, _, .finish spaces joined⟩
  | cons first more =>
    have visible : first ≠ ' ' := by
      have stopped := List.head?_dropWhile_not (· = ' ') lexer.cursor.rest
      rw [next] at stopped
      simpa using stopped
    rw [next] at joined
    by_cases newline : first = '\n'
    · subst newline
      obtain ⟨rest, indented⟩ :=
        IndentUnit.indentation_prefix (IndentUnit.inForce lexer.unit? more) more
      exact ⟨_, _, .newline spaces joined rfl indented.symm⟩
    · have length : ((first :: more).take (Lexeme.read first more).length).length =
          (Lexeme.read first more).length :=
        List.length_take_of_le (Lexeme.within_read first more).bounded
      exact ⟨_, _, .lexeme spaces joined (List.take_append_drop _ _).symm length newline visible⟩

/-- Of the text ahead, a lexer skips just the spaces it starts with. -/
theorem eatWhile_spaces {lexer : Lexer} {before blanks rest : Text}
    (countable : Text.Countable lexer.source.text) (passed : lexer.Passed before)
    (spaces : ∀ c ∈ blanks, c = ' ') (ahead : lexer.cursor.rest = blanks ++ rest)
    (stops : ∀ c ∈ rest.head?, c ≠ ' ') :
    lexer.cursor.eatWhile (· = ' ') = .ok (blanks.length, .between (before ++ blanks) rest) := by
  have satisfied : ∀ c ∈ blanks, decide (c = ' ') = true := by simpa using spaces
  obtain ⟨taken, dropped⟩ : (blanks ++ rest).takeWhile (· = ' ') = blanks ∧
      (blanks ++ rest).dropWhile (· = ' ') = rest :=
    Text.takeWhile_dropWhile_append satisfied (by simpa using stops)
  have divided := passed.divided
  rw [divided] at countable
  rw [passed.located, Cursor.eatWhile_between countable, ahead, taken, dropped]

/-- In a countable source a lexer does what a step allows. -/
theorem scan_of_step {lexer next : Lexer} {reading : Reading} {before : Text}
    (countable : Text.Countable lexer.source.text) (passed : lexer.Passed before)
    (step : Step lexer before reading next) : lexer.scan = .ok (reading, next) := by
  have whole := passed.divided ▸ countable
  cases step with
  | @finish blanks spaces ahead =>
    have nothing : lexer.cursor.rest = blanks ++ [] := ahead.trans (List.append_nil _).symm
    have eaten := eatWhile_spaces countable passed spaces nothing (by simp)
    refine Fault.bind_eq_ok_iff.2 ⟨_, eaten, ?_⟩
    simp only [Cursor.between_rest, Cursor.between_location, Location.spanTo_after_self]
  | @newline blanks line rest unit? spaces ahead unit indented =>
    have eaten := eatWhile_spaces countable passed spaces ahead (by simp)
    rw [ahead, ← List.append_assoc] at whole
    obtain ⟨rest', unit'?, unit', indented', consumed⟩ := consume_newline lexer whole
    obtain rfl : unit'? = unit? := unit'.trans unit.symm
    obtain rfl : rest' = rest := List.append_cancel_left (indented'.symm.trans indented)
    exact Fault.bind_eq_ok_iff.2 ⟨_, eaten, consumed⟩
  | @lexeme blanks word rest ahead first spaces more cut length ordinary visible =>
    have eaten := eatWhile_spaces countable passed spaces more (by simpa using visible)
    rw [more, ← List.append_assoc] at whole
    have notLine : (Lexeme.read first ahead).kind? ≠ some .endOfLine :=
      fun marker => ordinary ((Lexeme.marker_read first ahead).2.1 marker)
    have taken : (first :: ahead).take word.length = word := by rw [cut, List.take_left]
    have dropped : (first :: ahead).drop word.length = rest := by rw [cut, List.drop_left]
    have consumed := consume_lexeme lexer whole (Lexeme.within_read first ahead) notLine
    rw [← length, taken, dropped] at consumed
    exact Fault.bind_eq_ok_iff.2 ⟨_, eaten, consumed⟩

/-- In a countable source a lexer can always take a step, and it does what steps do. -/
theorem scan_step {lexer : Lexer} {before : Text} (countable : Text.Countable lexer.source.text)
    (passed : lexer.Passed before) :
    ∃ reading next, lexer.scan = .ok (reading, next) ∧ Step lexer before reading next := by
  obtain ⟨reading, next, step⟩ := exists_step lexer before
  exact ⟨reading, next, scan_of_step countable passed step, step⟩

/-- Whatever a lexer reads from a countable source, it reads by a step. -/
theorem step_of_scan {lexer next : Lexer} {reading : Reading} {before : Text}
    (countable : Text.Countable lexer.source.text) (passed : lexer.Passed before)
    (scanned : lexer.scan = .ok (reading, next)) : Step lexer before reading next := by
  obtain ⟨_, _, success, step⟩ := scan_step countable passed
  obtain ⟨rfl, rfl⟩ := Prod.mk.inj (Except.ok.inj (scanned.symm.trans success))
  exact step

namespace Step

variable {lexer next : Lexer} {before : Text} {reading : Reading}

theorem source_eq (step : Step lexer before reading next) : next.source = lexer.source := by
  cases step <;> rfl

/-- After a step the lexer has passed more of the same text. -/
theorem passed (step : Step lexer before reading next) (passed : lexer.Passed before) :
    ∃ more, next.Passed (before ++ more) := by
  cases step with
  | finish spaces ahead =>
    exact ⟨_, passed.advance (ahead.trans (List.append_nil _).symm) rfl rfl rfl⟩
  | newline spaces ahead unit indented =>
    rw [indented, List.append_cons, ← List.append_assoc] at ahead
    refine ⟨_, passed.advance ahead rfl ?_ rfl⟩
    simp only [List.append_assoc]
  | lexeme spaces more cut length ordinary =>
    rw [cut, ← List.append_assoc] at more
    refine ⟨_, passed.advance more rfl ?_ rfl⟩
    simp only [List.append_assoc]

end Step

end Lexer

end Offside
