import Offside.Cursor
import Offside.Proofs.Text.Lookahead
import Offside.Source.Position

/-! # Places in a text

A place in a text is known by the part of the text before it. A reader keeps the place as four
counters that it moves character by character; a source works the same place out anew from the part
before it. The two agree at every place of a text whose lines and columns the counters can hold, and
every text with fewer characters than the largest counter value is of that kind.
-/

namespace Offside

namespace Text

/-- One more character on the last line of a text, or a new last line. -/
theorem lastLine_append_singleton (before : Text) (c : Char) :
    lastLine (before ++ [c]) = if c = '\n' then [] else lastLine before ++ [c] := by
  unfold lastLine
  rw [List.reverse_append, List.reverse_singleton, List.singleton_append, List.takeWhile_cons]
  by_cases newline : c = '\n'
  · simp [newline]
  · simp [newline]

/-- What stands before a line feed has no part in the last line. -/
theorem lastLine_append_newline (word rest : Text) :
    lastLine (word ++ '\n' :: rest) = lastLine rest := by
  unfold lastLine
  rw [List.reverse_append, List.reverse_cons, List.append_assoc, List.singleton_append,
    takeWhile_append_cons (by decide)]

theorem lastLine_append_of_not_mem (before : Text) {more : Text} (unbroken : '\n' ∉ more) :
    lastLine (before ++ more) = lastLine before ++ more := by
  have ordinary : ∀ c ∈ more.reverse, decide (c ≠ '\n') = true := by
    intro c member
    apply decide_eq_true
    rintro rfl
    exact unbroken (List.mem_reverse.1 member)
  unfold lastLine
  rw [List.reverse_append, List.takeWhile_append_of_pos ordinary, List.reverse_append,
    List.reverse_reverse]

theorem length_lastLine_le (text : Text) : (lastLine text).length ≤ text.length := by
  unfold lastLine
  have bound := (List.takeWhile_prefix (l := text.reverse) (· ≠ '\n')).length_le
  rw [List.length_reverse] at bound ⊢
  exact bound

/-- At every place of the text, the line feeds before it and the characters between the last of them
and the place are few enough to be counted. -/
def Countable (text : Text) : Prop :=
  ∀ before after, text = before ++ after →
    before.count '\n' < counterLimit ∧ (lastLine before).length < counterLimit

/-- A text with fewer characters than the largest counter value is countable. -/
theorem countable_of_length_lt {text : Text} (short : text.length < counterLimit) :
    Countable text := by
  rintro before after rfl
  rw [List.length_append] at short
  have newlines : before.count '\n' ≤ before.length := List.count_le_length
  have column := length_lastLine_le before
  exact ⟨by omega, by omega⟩

/-- What a countable text begins with is countable. -/
theorem Countable.left {left right : Text} (countable : Countable (left ++ right)) :
    Countable left := by
  rintro before after rfl
  exact countable before (after ++ right) (List.append_assoc ..)

/-- A word that stands after a text can be cut in two, the first part going to the text. -/
theorem append_cut (before word rest : Text) (offset : Nat) :
    before ++ (word ++ rest) = before ++ word.take offset ++ (word.drop offset ++ rest) := by
  rw [List.append_assoc, ← List.append_assoc (word.take offset), List.take_append_drop]

/-- Of two texts that one text begins with, the one with fewer bytes begins the other. -/
theorem exists_of_byteLength_le {before rest longer tail : Text}
    (divided : before ++ rest = longer ++ tail) (le : byteLength before ≤ byteLength longer) :
    ∃ between, longer = before ++ between ∧ rest = between ++ tail := by
  rcases List.append_eq_append_iff.1 divided with ⟨between, longer, rest⟩ | ⟨extra, rfl, rest⟩
  · exact ⟨between, longer, rest⟩
  · rw [byteLength_append] at le
    obtain rfl := byteLength_eq_zero_iff.1 (by omega : byteLength extra = 0)
    exact ⟨[], by simp, by simpa using rest.symm⟩

/-- A text can be divided in one way only at a byte. -/
theorem append_inj_of_byteLength_eq {before rest before' rest' : Text}
    (divided : before ++ rest = before' ++ rest') (same : byteLength before = byteLength before') :
    before = before' ∧ rest = rest' := by
  have cut := splitAtByte?_append before rest
  rw [divided, same, splitAtByte?_append] at cut
  obtain ⟨front, back⟩ := Prod.mk.inj (Option.some.inj cut)
  exact ⟨front.symm, back.symm⟩

/-- More characters take more bytes. -/
theorem byteLength_take_lt {text : Text} {offset length : Nat} (less : offset < length)
    (fits : length ≤ text.length) :
    byteLength (text.take offset) < byteLength (text.take length) := by
  obtain ⟨more, rfl⟩ := Nat.exists_eq_add_of_lt less
  have one : offset < text.length := by omega
  rw [Nat.add_assoc, List.take_add, byteLength_append, List.drop_eq_getElem_cons one,
    List.take_succ_cons, byteLength_cons]
  have positive := text[offset].utf8Size_pos
  omega

/-- The span of the `length` characters that follow a text. -/
def spanAfter (before : Text) (length : Nat) : Span :=
  ⟨byteLength before, length, before.count '\n' + 1, (lastLine before).length + 1⟩

/-- The line and column of a place in a countable text are not cut off. -/
theorem Countable.lineColumn {before after : Text} (countable : Countable (before ++ after)) :
    lineColumn before = (before.count '\n' + 1, (lastLine before).length + 1) := by
  obtain ⟨line, column⟩ := countable before after rfl
  unfold Text.lineColumn
  rw [Nat.min_eq_left (by omega), Nat.min_eq_left (by omega)]

end Text

namespace Location

/-- The location after a text, read from the start. -/
def after (before : Text) : Location :=
  ⟨Text.byteLength before, before.length, before.count '\n' + 1, (Text.lastLine before).length + 1⟩

/-- The span from the end of a text to the end of the word that follows it. -/
theorem spanTo_after (before word : Text) :
    (after before).spanTo (after (before ++ word)) = Text.spanAfter before word.length := by
  simp [spanTo, after, Text.spanAfter]

theorem spanTo_after_self (before : Text) :
    (after before).spanTo (after before) = Text.spanAfter before 0 := by
  simpa using spanTo_after before []

theorem step_after {before : Text} {c : Char} (countable : Text.Countable (before ++ [c])) :
    (after before).step c = .ok (after (before ++ [c])) := by
  obtain ⟨line, column⟩ := countable (before ++ [c]) [] (List.append_nil _).symm
  unfold step after
  rw [Text.lastLine_append_singleton] at column
  by_cases newline : c = '\n'
  · subst newline
    rw [List.count_append, List.count_singleton_self] at line
    rw [if_pos rfl, if_pos line]
    simp [Text.lastLine_append_singleton]
  · rw [if_neg newline, List.length_append, List.length_singleton] at column
    rw [if_neg newline, if_pos column]
    simp [Text.lastLine_append_singleton, newline]

/-- Passing a text moves the location from the end of what came before to the end of both. -/
theorem walk_after {before passed : Text} (countable : Text.Countable (before ++ passed)) :
    (after before).walk passed = .ok (after (before ++ passed)) := by
  induction passed generalizing before with
  | nil => rw [List.append_nil, walk_nil]
  | cons c rest ih =>
    have regrouped : before ++ c :: rest = before ++ [c] ++ rest := by simp
    rw [regrouped] at countable ⊢
    rw [walk_cons, step_after countable.left]
    exact ih countable

end Location

namespace Cursor

/-- The cursor that has passed one text and has another ahead. -/
def between (before rest : Text) : Cursor := ⟨.after before, rest⟩

@[simp] theorem between_rest (before rest : Text) : (between before rest).rest = rest := rfl

@[simp] theorem between_location (before rest : Text) :
    (between before rest).location = .after before := rfl

theorem skip_between {before rest : Text} (countable : Text.Countable (before ++ rest))
    (count : Nat) :
    (between before rest).skip count =
      .ok (between (before ++ rest.take count) (rest.drop count)) := by
  have front : Text.Countable (before ++ rest.take count) := by
    rw [← List.take_append_drop count rest, ← List.append_assoc] at countable
    exact countable.left
  unfold skip
  rw [between_location, between_rest, Location.walk_after front]
  rfl

theorem eatWhile_between {before rest : Text} (countable : Text.Countable (before ++ rest))
    (test : Char → Bool) :
    (between before rest).eatWhile test = .ok ((rest.takeWhile test).length,
      between (before ++ rest.takeWhile test) (rest.dropWhile test)) := by
  have taken : rest.take (rest.takeWhile test).length = rest.takeWhile test :=
    List.prefix_iff_eq_take.1 (List.takeWhile_prefix test) |>.symm
  have dropped : rest.drop (rest.takeWhile test).length = rest.dropWhile test := by
    conv => lhs; arg 2; rw [← List.takeWhile_append_dropWhile (p := test) (l := rest)]
    exact List.drop_left
  unfold eatWhile
  simp only [between_rest]
  rw [skip_between countable, taken, dropped]
  rfl

end Cursor

namespace Source

/-- A span that says where its characters are: it is the one that the source itself gives for the
index of its first character, it lies in the source, and its line and column are those of its
start. -/
structure TrueSpan (source : Source) (span : Span) : Prop where
  given : ∃ index, source.positionOf? index = some span.start ∧
    source.span? index span.length = some span
  contained : source.contains span.start span.length = true
  located : source.lineColumn span.start = .ok (span.line, span.column)

section Divided

variable {source : Source} {before rest : Text}

theorem splitAt?_byteLength (divided : source.text = before ++ rest) :
    source.splitAt? (Text.byteLength before) = some (before, rest) := by
  rw [splitAt?, divided, Text.splitAtByte?_append]

theorem positionOf?_length (divided : source.text = before ++ rest) :
    source.positionOf? before.length = some (Text.byteLength before) := by
  unfold positionOf?
  rw [divided, List.take_left, if_pos (by simp)]

theorem contains_byteLength (divided : source.text = before ++ rest) {length : Nat} :
    source.contains (Text.byteLength before) length = true ↔ length ≤ rest.length := by
  unfold contains
  simp [splitAt?_byteLength divided]

theorem advance_byteLength (divided : source.text = before ++ rest) (count : Nat) :
    source.advance (Text.byteLength before) count =
      .ok (Text.byteLength before + Text.byteLength (rest.take count)) := by
  unfold advance restFrom
  rw [splitAt?_byteLength divided]
  rfl

theorem lineColumn_byteLength (divided : source.text = before ++ rest) :
    source.lineColumn (Text.byteLength before) = .ok (Text.lineColumn before) := by
  rw [lineColumn, splitAt?_byteLength divided]

/-- A span that follows a text covers the first characters of the rest. -/
theorem substring_spanAfter (divided : source.text = before ++ rest) (length : Nat) :
    source.substring (Text.spanAfter before length) = .ok (rest.take length) := by
  unfold substring restFrom
  rw [show (Text.spanAfter before length).start = Text.byteLength before from rfl,
    splitAt?_byteLength divided]
  rfl

/-- In a countable source, the span that is given for the index behind a text follows the text. -/
theorem span?_length (countable : Text.Countable source.text)
    (divided : source.text = before ++ rest) {length : Nat} (fits : length ≤ rest.length) :
    source.span? before.length length = some (Text.spanAfter before length) := by
  have enough : before.length + length ≤ source.text.length := by
    rw [divided, List.length_append]
    omega
  have front : source.text.take before.length = before := by rw [divided, List.take_left]
  rw [divided] at countable
  unfold span?
  rw [if_pos enough]
  simp only [front, countable.lineColumn]
  rfl

/-- In a countable source, the counters kept while reading and the places worked out from the text
give the same span. -/
theorem trueSpan_spanAfter (countable : Text.Countable source.text)
    (divided : source.text = before ++ rest) {length : Nat} (fits : length ≤ rest.length) :
    source.TrueSpan (Text.spanAfter before length) := by
  refine ⟨⟨before.length, positionOf?_length divided, span?_length countable divided fits⟩,
    (contains_byteLength divided).2 fits, (lineColumn_byteLength divided).trans ?_⟩
  rw [divided] at countable
  exact congrArg _ countable.lineColumn

end Divided

end Source

end Offside
