import Offside.Proofs.Place
import Offside.Proofs.Source.PhysicalLine

/-! # What the counters can hold

A text is too long for the counters if it has too many line feeds or a line with too many
characters. Walking through a text meets its limit exactly there: the walk reaches the end if and
only if the text is countable. A cursor that is advanced through a countable text stands, wherever
it has got to, between two parts of the text, so it can cut out what is ahead and measure from any
mark it has passed.
-/

namespace Offside

namespace Text

/-- The text has a line feed, or a line has a character, that cannot be counted any more. -/
def Overlong (text : Text) : Prop :=
  counterLimit ≤ text.count '\n' ∨ ∃ line ∈ splitLines text, counterLimit ≤ line.length

instance (text : Text) : Decidable (Overlong text) :=
  inferInstanceAs (Decidable (_ ∨ _))

theorem lastLine_of_not_mem {word : Text} (unbroken : '\n' ∉ word) : lastLine word = word :=
  lastLine_append_of_not_mem [] unbroken

/-- Every line is the last line of what the text begins with. -/
theorem exists_lastLine_eq {text line : Text} (member : line ∈ splitLines text) :
    ∃ before after, text = before ++ after ∧ lastLine before = line := by
  induction text using lines_induction with
  | last word unbroken =>
    rw [splitLines_of_not_mem unbroken, List.mem_singleton] at member
    exact ⟨word, [], (List.append_nil _).symm, (lastLine_of_not_mem unbroken).trans member.symm⟩
  | line word rest unbroken ih =>
    rw [splitLines_append unbroken] at member
    rcases List.mem_cons.1 member with rfl | later
    · exact ⟨_, '\n' :: rest, rfl, lastLine_of_not_mem unbroken⟩
    · obtain ⟨before, after, rfl, same⟩ := ih later
      refine ⟨word ++ '\n' :: before, after, by simp, ?_⟩
      rw [lastLine_append_newline, same]

/-- A text without a line feed begins the first line of every text that it begins. -/
theorem exists_line_append {word : Text} (unbroken : '\n' ∉ word) (after : Text) :
    ∃ more, word ++ more ∈ splitLines (word ++ after) := by
  by_cases broken : '\n' ∈ after
  · obtain ⟨more, rest, rfl, clean⟩ := List.eq_append_cons_of_mem broken
    refine ⟨more, ?_⟩
    rw [← List.append_assoc, splitLines_append (by simp [unbroken, clean])]
    exact List.mem_cons_self
  · refine ⟨after, ?_⟩
    rw [splitLines_of_not_mem (by simp [unbroken, broken])]
    exact List.mem_singleton_self _

/-- The last line of what a text begins with begins a line of the text. -/
theorem exists_line_lastLine (before after : Text) :
    ∃ more, lastLine before ++ more ∈ splitLines (before ++ after) := by
  induction before using lines_induction with
  | last word unbroken =>
    rw [lastLine_of_not_mem unbroken]
    exact exists_line_append unbroken after
  | line word rest unbroken ih =>
    obtain ⟨more, member⟩ := ih
    rw [lastLine_append_newline, List.append_assoc, List.cons_append, splitLines_append unbroken]
    exact ⟨more, List.mem_cons_of_mem _ member⟩

/-- A text is countable exactly if it is not too long. -/
theorem countable_iff {text : Text} : Countable text ↔ ¬ Overlong text := by
  constructor
  · rintro countable (newlines | ⟨line, member, long⟩)
    · have few := (countable text [] (List.append_nil _).symm).1
      omega
    · obtain ⟨before, after, divided, rfl⟩ := exists_lastLine_eq member
      have few := (countable before after divided).2
      omega
  · intro short
    obtain ⟨newlines, lines⟩ := not_or.1 short
    rintro before after rfl
    obtain ⟨more, member⟩ := exists_line_lastLine before after
    have line : ¬ counterLimit ≤ (lastLine before ++ more).length :=
      fun long => lines ⟨_, member, long⟩
    rw [List.count_append] at newlines
    rw [List.length_append] at line
    omega

/-- One more character can be counted if the line or the column it leads to can. -/
theorem Countable.append_singleton {before : Text} {c : Char} (countable : Countable before)
    (line : (before ++ [c]).count '\n' < counterLimit)
    (column : (lastLine (before ++ [c])).length < counterLimit) : Countable (before ++ [c]) := by
  intro front back divided
  rcases back.eq_nil_or_concat with rfl | ⟨rest, last, rfl⟩
  · rw [List.append_nil] at divided
    exact divided ▸ ⟨line, column⟩
  · rw [List.concat_eq_append, ← List.append_assoc] at divided
    exact countable front rest (List.append_inj' divided rfl).1

theorem length_le_byteLength (text : Text) : text.length ≤ byteLength text := by
  induction text with
  | nil => exact Nat.le_refl _
  | cons c rest ih =>
    have positive := c.utf8Size_pos
    rw [List.length_cons, byteLength_cons]
    omega

theorem byteLength_replicate (count : Nat) (c : Char) :
    byteLength (List.replicate count c) = count * c.utf8Size := by
  induction count with
  | zero => rw [List.replicate_zero, byteLength_nil, Nat.zero_mul]
  | succ count ih =>
    rw [List.replicate_succ, byteLength_cons, ih, Nat.succ_mul, Nat.add_comm]

end Text

namespace Location

variable {before passed text : Text} {c : Char} {next location : Location}

/-- A step that succeeds leads to a place that the counters hold. -/
theorem countable_of_step (countable : Text.Countable before)
    (stepped : (after before).step c = .ok next) : Text.Countable (before ++ [c]) := by
  have positive : 0 < Text.counterLimit := by decide
  obtain ⟨held, room⟩ := countable before [] (List.append_nil _).symm
  unfold step after at stepped
  split at stepped
  · rename_i newline
    split at stepped
    · rename_i line
      apply countable.append_singleton
      · simpa [newline] using line
      · simpa [newline, Text.lastLine_append_singleton] using positive
    · contradiction
  · rename_i ordinary
    split at stepped
    · rename_i column
      apply countable.append_singleton
      · simpa [ordinary] using held
      · simpa [ordinary, Text.lastLine_append_singleton] using column
    · contradiction

/-- So does a walk. -/
theorem countable_of_walk_after (countable : Text.Countable before)
    (walked : (after before).walk passed = .ok location) : Text.Countable (before ++ passed) := by
  induction passed generalizing before with
  | nil => rwa [List.append_nil]
  | cons c rest ih =>
    rw [walk_cons] at walked
    obtain ⟨next, stepped, onward⟩ := Fault.bind_eq_ok_iff.1 walked
    have further := countable_of_step countable stepped
    rw [step_after further] at stepped
    obtain rfl := Except.ok.inj stepped
    rw [List.append_cons]
    exact ih further onward

/-- A walk through a text reaches its end exactly if the text is countable. -/
theorem exists_walk_iff : (∃ location, start.walk text = .ok location) ↔ Text.Countable text := by
  constructor
  · rintro ⟨location, walked⟩
    have nothing : Text.Countable [] := Text.countable_of_length_lt (by decide)
    exact countable_of_walk_after nothing walked
  · intro countable
    have joined : Text.Countable ([] ++ text) := countable
    exact ⟨_, walk_after joined⟩

end Location

namespace Cursor

variable {source : Source} {text : Text} {cursor mark : Cursor} {count : Nat}

/-- The cursor has been advanced to where it stands from the start of the text. -/
def Along (text : Text) (cursor : Cursor) : Prop := ∃ count, (ofText text).skip count = .ok cursor

theorem Along.skip (along : mark.Along text) (skipped : mark.skip count = .ok cursor) :
    cursor.Along text := by
  obtain ⟨before, reached⟩ := along
  rw [skip_skip reached] at skipped
  exact ⟨_, skipped⟩

/-- Where a cursor has nothing ahead, the whole text has been walked through. -/
theorem Along.countable (along : cursor.Along text) (ended : cursor.rest = []) :
    Text.Countable text := by
  obtain ⟨count, skipped⟩ := along
  rw [rest_of_skip skipped] at ended
  obtain ⟨location, walked, _⟩ := Fault.map_eq_ok_iff.1 skipped
  have whole : text.take count = text := List.take_of_length_le (List.drop_eq_nil_iff.1 ended)
  exact Location.exists_walk_iff.1 ⟨location, whole ▸ walked⟩

/-- The cursor stands at a position of the source and has the text from there on ahead, and none of
its counters has run over. -/
structure InBounds (source : Source) (cursor : Cursor) : Prop where
  ahead : source.restFrom cursor.location.byte = .ok cursor.rest
  line : cursor.location.line ≤ Text.counterLimit
  column : cursor.location.column ≤ Text.counterLimit
  index : cursor.location.index ≤ Span.lengthLimit
  byte : cursor.location.byte ≤ Span.lengthLimit

/-- The span and the text from a mark to the cursor can be taken, and the text is what the mark has
ahead before what the cursor has ahead. -/
structure Measures (mark cursor : Cursor) : Prop where
  span : cursor.spanFrom mark = .ok (mark.location.spanTo cursor.location)
  index_le : mark.location.index ≤ cursor.location.index
  slice : ∃ covered, cursor.sliceFrom mark = .ok covered ∧ mark.rest = covered ++ cursor.rest

section Between

variable {before word rest : Text}

theorem inBounds_between (countable : Text.Countable source.text)
    (small : source.byteSize ≤ Span.lengthLimit) (divided : source.text = before ++ rest) :
    (between before rest).InBounds source := by
  obtain ⟨line, column⟩ := countable before rest divided
  have fits : Text.byteLength before ≤ source.byteSize := by
    rw [Source.byteSize, divided, Text.byteLength_append]
    exact Nat.le_add_right _ _
  refine ⟨Source.restFrom_eq_ok_iff.2 ⟨before, divided, rfl⟩, line, column, ?_, ?_⟩
  · exact Nat.le_trans (Text.length_le_byteLength before) (Nat.le_trans fits small)
  · exact Nat.le_trans fits small

theorem measures_between (before word rest : Text) :
    (between before (word ++ rest)).Measures (between (before ++ word) rest) := by
  have ordered : Text.byteLength before ≤ Text.byteLength (before ++ word) := by
    rw [Text.byteLength_append]
    exact Nat.le_add_right _ _
  refine ⟨if_pos ordered, ?_, word, ?_, rfl⟩
  · simp [Location.after]
  · refine (if_pos ordered).trans ?_
    simp [Location.after]

/-- In a countable text the cursors along the text are those between two parts of it. -/
theorem along_iff (countable : Text.Countable text) :
    cursor.Along text ↔ ∃ before rest, text = before ++ rest ∧ cursor = between before rest := by
  have joined : Text.Countable ([] ++ text) := countable
  have skipped : ∀ count, (ofText text).skip count =
      .ok (between ([] ++ text.take count) (text.drop count)) := skip_between joined
  constructor
  · rintro ⟨count, reached⟩
    obtain rfl := Except.ok.inj ((skipped count).symm.trans reached)
    exact ⟨text.take count, text.drop count, (List.take_append_drop _ _).symm, rfl⟩
  · rintro ⟨before, rest, rfl, rfl⟩
    refine ⟨before.length, ?_⟩
    rw [skipped, List.take_left, List.drop_left, List.nil_append]

/-- A cursor measures from every mark that it has been advanced from. -/
theorem Along.measures (countable : Text.Countable text) (along : mark.Along text)
    (skipped : mark.skip count = .ok cursor) : mark.Measures cursor := by
  obtain ⟨before, rest, rfl, rfl⟩ := (along_iff countable).1 along
  rw [skip_between countable] at skipped
  obtain rfl := Except.ok.inj skipped
  have measured := measures_between before (rest.take count) (rest.drop count)
  rwa [List.take_append_drop] at measured

end Between

end Cursor

end Offside
