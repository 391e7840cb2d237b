import Offside.Proofs.Place

/-! # Moving a cursor

A cursor goes forward by characters, and it goes back only to where a mark was left. Its counters
are moved along apart from each other, but whatever moves have led to a place, they are the counts
of the text that lies before it. So a mark measures the text up to the cursor as the source does, as
long as the cursor has not gone back behind it.
-/

namespace Offside.Cursor

/-- What can be done with a cursor. -/
inductive Move where
  /-- Passing one character. -/
  | advance
  /-- Passing so many characters. -/
  | skip (count : Nat)
  /-- Passing all characters up to the first that fails a test. -/
  | eatWhile (test : Char → Bool)
  /-- Leaving a mark. -/
  | mark
  /-- Going to the mark with this number, the first one left being number zero, if there is one. -/
  | restore (number : Nat)

/-- A cursor and the marks left with it, the first one first. -/
structure Marked where
  cursor : Cursor
  marks : List Cursor
deriving DecidableEq, Repr

namespace Marked

/-- The cursor at the start of a text. -/
def ofText (text : Text) : Marked := ⟨.ofText text, []⟩

/-- Makes one move. -/
def move (marked : Marked) : Move → Except Fault Marked
  | .advance => marked.cursor.advance.map fun (_, next) => { marked with cursor := next }
  | .skip count => (marked.cursor.skip count).map fun next => { marked with cursor := next }
  | .eatWhile test =>
    (marked.cursor.eatWhile test).map fun (_, next) => { marked with cursor := next }
  | .mark => .ok { marked with marks := marked.marks ++ [marked.cursor] }
  | .restore number => .ok { marked with cursor := marked.marks[number]?.getD marked.cursor }

/-- Makes moves one after the other. -/
def moveAll (marked : Marked) (moves : List Move) : Except Fault Marked := moves.foldlM move marked

/-- Moves can be made if the first can, and the others can where it has led. -/
theorem moveAll_cons {marked next final : Marked} {first : Move} {rest : List Move}
    (moved : marked.move first = .ok next) (further : next.moveAll rest = .ok final) :
    marked.moveAll (first :: rest) = .ok final := by
  rw [moveAll, List.foldlM_cons]
  exact Fault.bind_eq_ok_iff.2 ⟨next, moved, further⟩

end Marked

/-- The cursor stands somewhere in the source, with the counters of that place. -/
def StandsIn (source : Source) (cursor : Cursor) : Prop :=
  ∃ before rest, source.text = before ++ rest ∧ cursor = between before rest

namespace StandsIn

variable {source : Source} {cursor : Cursor}

theorem place (countable : Text.Countable source.text) (stands : StandsIn source cursor) :
    ∃ passed, source.text = passed ++ cursor.rest ∧
      cursor.location.byte = Text.byteLength passed ∧ cursor.location.index = passed.length ∧
      source.lineColumn cursor.location.byte =
        .ok (cursor.location.line, cursor.location.column) := by
  obtain ⟨before, rest, divided, rfl⟩ := stands
  refine ⟨before, divided, rfl, rfl, (Source.lineColumn_byteLength divided).trans ?_⟩
  rw [divided] at countable
  exact congrArg _ countable.lineColumn

/-- Passing characters leads to another place in the source. -/
theorem skip (countable : Text.Countable source.text) (stands : StandsIn source cursor)
    (count : Nat) :
    ∃ passed next, cursor.skip count = .ok next ∧ StandsIn source next ∧
      cursor.rest = passed ++ next.rest ∧ passed.length = min count cursor.rest.length := by
  obtain ⟨before, rest, divided, rfl⟩ := stands
  refine ⟨rest.take count, _, skip_between (divided ▸ countable) count, ⟨_, _, ?_, rfl⟩,
    (List.take_append_drop count rest).symm, List.length_take⟩
  rw [divided, List.append_assoc, List.take_append_drop]

theorem advance (countable : Text.Countable source.text) (stands : StandsIn source cursor) :
    ∃ next, cursor.advance = .ok (cursor.rest.head?, next) ∧ StandsIn source next ∧
      next.rest = cursor.rest.tail := by
  obtain ⟨passed, next, skipped, there, _⟩ := stands.skip countable 1
  refine ⟨next, Fault.map_eq_ok_iff.2 ⟨next, skipped, rfl⟩, there, ?_⟩
  rw [rest_of_skip skipped, List.drop_one]

/-- Passing the characters that satisfy a test is passing as many as there are. -/
theorem eatWhile (countable : Text.Countable source.text) (stands : StandsIn source cursor)
    (test : Char → Bool) :
    ∃ passed next, cursor.eatWhile test = .ok (passed.length, next) ∧ StandsIn source next ∧
      cursor.rest = passed ++ next.rest ∧
      Text.Longest (fun word => ∀ c ∈ word, test c = true) passed cursor.rest := by
  obtain ⟨before, rest, divided, rfl⟩ := stands
  refine ⟨rest.takeWhile test, _, eatWhile_between (divided ▸ countable) test, ⟨_, _, ?_, rfl⟩,
    List.takeWhile_append_dropWhile.symm, Text.longest_takeWhile test rest⟩
  rw [divided, List.append_assoc, List.takeWhile_append_dropWhile]

end StandsIn

/-- The cursor and all marks stand in the source. -/
structure Marked.StandIn (source : Source) (marked : Marked) : Prop where
  cursor : StandsIn source marked.cursor
  marks : ∀ mark ∈ marked.marks, StandsIn source mark

namespace Marked.StandIn

variable {source : Source} {marked : Marked}

theorem ofText (source : Source) : StandIn source (.ofText source.text) :=
  ⟨⟨[], source.text, rfl, rfl⟩, fun _ member => absurd member List.not_mem_nil⟩

/-- A move can be made, and it leads to places in the source. -/
theorem move (countable : Text.Countable source.text) (stand : StandIn source marked)
    (move : Move) : ∃ next, marked.move move = .ok next ∧ StandIn source next := by
  cases move with
  | advance =>
    obtain ⟨next, advanced, there, _⟩ := stand.cursor.advance countable
    exact ⟨⟨next, marked.marks⟩, Fault.map_eq_ok_iff.2 ⟨_, advanced, rfl⟩, there, stand.marks⟩
  | skip count =>
    obtain ⟨_, next, skipped, there, _⟩ := stand.cursor.skip countable count
    exact ⟨⟨next, marked.marks⟩, Fault.map_eq_ok_iff.2 ⟨_, skipped, rfl⟩, there, stand.marks⟩
  | eatWhile test =>
    obtain ⟨_, next, eaten, there, _⟩ := stand.cursor.eatWhile countable test
    exact ⟨⟨next, marked.marks⟩, Fault.map_eq_ok_iff.2 ⟨_, eaten, rfl⟩, there, stand.marks⟩
  | mark =>
    refine ⟨_, rfl, stand.cursor, ?_⟩
    intro mark member
    rcases List.mem_append.1 member with old | new
    · exact stand.marks mark old
    · exact List.mem_singleton.1 new ▸ stand.cursor
  | restore number =>
    refine ⟨_, rfl, ?_, stand.marks⟩
    cases found : marked.marks[number]? with
    | none => exact stand.cursor
    | some mark => exact stand.marks mark (List.mem_of_getElem? found)

/-- So can any series of moves. -/
theorem moveAll (countable : Text.Countable source.text) (stand : StandIn source marked)
    (moves : List Move) : ∃ final, marked.moveAll moves = .ok final ∧ StandIn source final := by
  induction moves generalizing marked with
  | nil => exact ⟨marked, rfl, stand⟩
  | cons move rest ih =>
    obtain ⟨next, moved, stand⟩ := stand.move countable move
    obtain ⟨final, further, last⟩ := ih stand
    exact ⟨final, moveAll_cons moved further, last⟩

end Marked.StandIn

/-- What the mark measures up to the cursor. -/
structure MeasuresTo (source : Source) (mark cursor : Cursor) : Prop where
  spanFrom_iff : (∃ span, cursor.spanFrom mark = .ok span) ↔
    mark.location.byte ≤ cursor.location.byte
  sliceFrom_iff : (∃ slice, cursor.sliceFrom mark = .ok slice) ↔
    mark.location.byte ≤ cursor.location.byte
  /-- The span is the one that the source gives, and the text is what that span covers. -/
  measured : mark.location.byte ≤ cursor.location.byte → ∃ span slice,
    cursor.spanFrom mark = .ok span ∧ cursor.sliceFrom mark = .ok slice ∧
      source.span? mark.location.index (cursor.location.index - mark.location.index) = some span ∧
      source.substring span = .ok slice

theorem StandsIn.measuresTo {source : Source} {mark cursor : Cursor}
    (countable : Text.Countable source.text) (left : StandsIn source mark)
    (stands : StandsIn source cursor) : MeasuresTo source mark cursor := by
  refine ⟨?_, ?_, ?_⟩
  · unfold spanFrom
    split <;> simp_all
  · unfold sliceFrom
    split <;> simp_all
  · obtain ⟨before, rest, divided, rfl⟩ := left
    obtain ⟨longer, tail, redivided, rfl⟩ := stands
    intro reached
    obtain ⟨more, rfl, rfl⟩ :=
      Text.exists_of_byteLength_le (divided.symm.trans redivided) reached
    have length : (before ++ more).length - before.length = more.length := by
      rw [List.length_append, Nat.add_sub_cancel_left]
    refine ⟨Text.spanAfter before more.length, more, ?_, ?_, ?_, ?_⟩
    · rw [spanFrom, if_pos reached]
      exact congrArg _ (Location.spanTo_after before more)
    · rw [sliceFrom, if_pos reached]
      change Except.ok ((more ++ tail).take ((before ++ more).length - before.length)) = _
      rw [length, List.take_left]
    · change source.span? before.length ((before ++ more).length - before.length) = _
      rw [length]
      exact Source.span?_length countable divided (by simp)
    · rw [Source.substring_spanAfter divided, List.take_left]

/-- The cursor knows its place in the source and what is ahead, and its marks measure up to it. -/
structure Marked.Accounts (source : Source) (marked : Marked) : Prop where
  /-- The counters of the cursor are those of the text before it. -/
  place : ∃ passed, source.text = passed ++ marked.cursor.rest ∧
    marked.cursor.location.byte = Text.byteLength passed ∧
    marked.cursor.location.index = passed.length ∧
    source.lineColumn marked.cursor.location.byte =
      .ok (marked.cursor.location.line, marked.cursor.location.column)
  /-- One character is passed and returned, unless nothing is ahead. -/
  advance : ∃ next, marked.cursor.advance = .ok (marked.cursor.rest.head?, next) ∧
    next.rest = marked.cursor.rest.tail
  /-- As many characters are passed as are asked for, or all that are ahead. -/
  skip : ∀ count, ∃ passed next, marked.cursor.skip count = .ok next ∧
    marked.cursor.rest = passed ++ next.rest ∧
    passed.length = min count marked.cursor.rest.length
  /-- The longest row of characters that satisfy a test is passed, and they are counted. -/
  eatWhile : ∀ test, ∃ passed next, marked.cursor.eatWhile test = .ok (passed.length, next) ∧
    marked.cursor.rest = passed ++ next.rest ∧
    Text.Longest (fun word => ∀ c ∈ word, test c = true) passed marked.cursor.rest
  marks : ∀ mark ∈ marked.marks, MeasuresTo source mark marked.cursor

/-- Whatever moves are made from the start of a source of fewer characters than the largest counter
value, none fails, and they lead to where cursor and marks account for the source. -/
theorem Marked.moveAll_accounts {source : Source} (short : source.text.length < Text.counterLimit)
    (moves : List Move) :
    ∃ marked, (Marked.ofText source.text).moveAll moves = .ok marked ∧
      marked.Accounts source := by
  have countable := Text.countable_of_length_lt short
  obtain ⟨marked, moved, stand⟩ := (StandIn.ofText source).moveAll countable moves
  refine ⟨marked, moved, stand.cursor.place countable, ?_, ?_, ?_, ?_⟩
  · obtain ⟨next, advanced, _, left⟩ := stand.cursor.advance countable
    exact ⟨next, advanced, left⟩
  · intro count
    obtain ⟨passed, next, skipped, _, ahead⟩ := stand.cursor.skip countable count
    exact ⟨passed, next, skipped, ahead⟩
  · intro test
    obtain ⟨passed, next, eaten, _, ahead⟩ := stand.cursor.eatWhile countable test
    exact ⟨passed, next, eaten, ahead⟩
  · intro mark member
    exact (stand.marks mark member).measuresTo countable stand.cursor

/-- A mark is left in front of a line feed and another one on the next line. Back at the first one,
the cursor has the second one ahead. -/
theorem Marked.moveAll_accounts_back :
    let source := Source.ofText ['é', '\n', '→', 'x']
    let moves := [.eatWhile (· ≠ '\n'), .mark, .skip 2, .mark, .advance, .skip 5, .restore 0]
    source.text.length < Text.counterLimit ∧
      ∃ marked, (Marked.ofText source.text).moveAll moves = .ok marked ∧
        marked.cursor.location = ⟨2, 1, 1, 2⟩ ∧
        marked.marks.map Cursor.location = [⟨2, 1, 1, 2⟩, ⟨6, 3, 2, 2⟩] ∧
        marked.Accounts source := by
  intro source moves
  have short : source.text.length < Text.counterLimit := by decide
  obtain ⟨marked, moved, accounts⟩ := moveAll_accounts short moves
  have places : marked = ⟨between ['é'] ['\n', '→', 'x'],
      [between ['é'] ['\n', '→', 'x'], between ['é', '\n', '→'] ['x']]⟩ :=
    (Except.ok.inj moved).symm
  refine ⟨short, marked, moved, ?_, ?_, accounts⟩
  · rw [places]
    rfl
  · rw [places]
    rfl

end Offside.Cursor
