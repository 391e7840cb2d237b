import Offside.Proofs.Listing.Marks

/-! # What stands under a column

Here padding and marks are found by column, without going along the line. The characters of a line
that start behind a given byte are those from some column on. Of all such characters of the listed
lines, the first are marked, as many as the span is long. Under the other characters of the first
line, which stand before the span, there is padding: a tab under a tab and a space under any other.
-/

namespace Offside

namespace PhysicalLine

/-- The byte offset at which the character with this index starts. -/
def offsetAt (line : PhysicalLine) (index : Nat) : Nat :=
  line.start + Text.byteLength (line.text.take index)

/-- The indices of the characters that start at byte `start` or behind it. -/
def columnsFrom (line : PhysicalLine) (start : Nat) : List Nat :=
  (List.range line.text.length).filter fun index => start ≤ line.offsetAt index

/-- What a span of `length` characters that starts at byte `start` has under the character with this
index: a mark if the character is marked, and padding if it stands before the span. A span without
characters has no padding. -/
def drawnUnder (line : PhysicalLine) (start length : Nat) (marked : Prop) [Decidable marked]
    (index : Nat) : Option Char :=
  if marked then
    some (if line.offsetAt index = start then '^' else '~')
  else if 0 < length ∧ line.offsetAt index < start then
    line.text[index]?.map fun c => if c = '\t' then '\t' else ' '
  else
    none

/-- No character stands before the start of its line. -/
theorem start_le_offsetAt (line : PhysicalLine) (index : Nat) : line.start ≤ line.offsetAt index :=
  Nat.le_add_right _ _

variable {line : PhysicalLine} {start length index : Nat} {marked other : Prop} [Decidable marked]
  [Decidable other]

theorem drawnUnder_congr (same : marked ↔ other) :
    line.drawnUnder start length marked index = line.drawnUnder start length other index := by
  unfold drawnUnder
  simp only [same]

/-- Under a character that does not stand before the span there is no padding. -/
theorem drawnUnder_of_le (reached : start ≤ line.offsetAt index) :
    line.drawnUnder start length marked index =
      if marked then some (if line.offsetAt index = start then '^' else '~') else none := by
  rw [drawnUnder, if_neg (c := _ ∧ _) (fun before => absurd before.2 (Nat.not_lt.2 reached))]

end PhysicalLine

namespace Listing

/-- The characters of lines that start at byte `start` or behind it, in the order of the text. Each
is given by the index of its line and its own index in the line. -/
def charactersFrom (start : Nat) (lines : List (SourceLine × Nat)) : List (Nat × Nat) :=
  lines.flatMap fun (line, place) => (line.columnsFrom start).map fun index => (place, index)

/-- The characters of a line are those that start before byte `start` and then those behind it. -/
structure Parted (start : Nat) (line : PhysicalLine) (before behind : List (Nat × Char)) :
    Prop where
  joined : placed line.start line.text = before ++ behind
  before_lt : ∀ character ∈ before, character.1 < start
  le_behind : ∀ character ∈ behind, start ≤ character.1

theorem parted_markable (start : Nat) (line : PhysicalLine) :
    Parted start line ((placed line.start line.text).filter fun (offset, _) => offset < start)
      (markable start line) := by
  refine ⟨placed_eq_filter_append start line.start line.text, ?_, ?_⟩
  · intro character member
    simpa using (List.mem_filter.1 member).2
  · intro character member
    simpa using (List.mem_filter.1 member).2

namespace Parted

variable {start : Nat} {line : PhysicalLine} {before behind : List (Nat × Char)}

theorem getElem?_append (parted : Parted start line before behind) (index : Nat) :
    (before ++ behind)[index]? = line.text[index]?.map fun c => (line.offsetAt index, c) := by
  rw [← parted.joined, getElem?_placed]
  rfl

theorem length_text (parted : Parted start line before behind) :
    line.text.length = before.length + behind.length := by
  rw [← length_placed line.start, parted.joined, List.length_append]

/-- Up to some column the characters of a line start before a byte, and from there on behind it. -/
theorem start_le_offsetAt_iff (parted : Parted start line before behind) {index : Nat}
    (inside : index < line.text.length) :
    start ≤ line.offsetAt index ↔ before.length ≤ index := by
  have here := parted.getElem?_append index
  rw [List.getElem?_eq_getElem inside, Option.map_some] at here
  rcases Nat.lt_or_ge index before.length with early | late
  · rw [List.getElem?_append_left early] at here
    have less := parted.before_lt _ (List.mem_of_getElem? here)
    dsimp only at less
    omega
  · rw [List.getElem?_append_right late] at here
    have reached := parted.le_behind _ (List.mem_of_getElem? here)
    exact ⟨fun _ => late, fun _ => reached⟩

theorem columnsFrom_eq (parted : Parted start line before behind) :
    line.columnsFrom start = (List.range behind.length).map (before.length + ·) := by
  have size := parted.length_text
  have early : ∀ index ∈ List.range before.length,
      ¬ decide (start ≤ line.offsetAt index) = true := by
    intro index member
    have less := List.mem_range.1 member
    rw [decide_eq_true_eq, parted.start_le_offsetAt_iff (by omega)]
    omega
  have late : ∀ index ∈ (List.range behind.length).map (before.length + ·),
      decide (start ≤ line.offsetAt index) = true := by
    intro index member
    obtain ⟨more, among, rfl⟩ := List.mem_map.1 member
    have less := List.mem_range.1 among
    rw [decide_eq_true_eq, parted.start_le_offsetAt_iff (by omega)]
    exact Nat.le_add_right _ _
  rw [PhysicalLine.columnsFrom, size, List.range_add, List.filter_append,
    List.filter_eq_nil_iff.2 early, List.filter_eq_self.2 late, List.nil_append]

/-- The first columns behind a byte are those of the first characters there. -/
theorem mem_take_columnsFrom_iff (parted : Parted start line before behind)
    {remaining index : Nat} :
    index ∈ (line.columnsFrom start).take remaining ↔
      before.length ≤ index ∧ index < before.length + min remaining behind.length := by
  rw [parted.columnsFrom_eq, ← List.map_take, List.take_range, List.mem_map]
  constructor
  · rintro ⟨more, member, rfl⟩
    have less := List.mem_range.1 member
    omega
  · rintro ⟨low, high⟩
    exact ⟨index - before.length, List.mem_range.2 (by omega), by omega⟩

/-- Padding stands under the characters before the byte, in their columns. -/
theorem getElem?_padding (parted : Parted start line before behind) {remaining index : Nat}
    (positive : 0 < remaining) (early : index < before.length) :
    (before.map fun (_, c) => pad c)[index]? =
      line.drawnUnder start remaining (index ∈ (line.columnsFrom start).take remaining) index := by
  have size := parted.length_text
  have unmarked : index ∉ (line.columnsFrom start).take remaining := by
    rw [parted.mem_take_columnsFrom_iff]
    omega
  have less : line.offsetAt index < start := by
    rw [← Nat.not_le, parted.start_le_offsetAt_iff (by omega)]
    omega
  rw [PhysicalLine.drawnUnder, if_neg unmarked, if_pos ⟨positive, less⟩, List.getElem?_map,
    ← List.getElem?_append_left early, parted.getElem?_append, Option.map_map]
  rfl

/-- Marks stand under the first characters behind the byte, in their columns. -/
theorem getElem?_marks (parted : Parted start line before behind) {remaining index : Nat}
    (late : before.length ≤ index) :
    ((behind.take remaining).map (sign start))[index - before.length]? =
      line.drawnUnder start remaining (index ∈ (line.columnsFrom start).take remaining) index := by
  have size := parted.length_text
  have here := parted.getElem?_append index
  rw [List.getElem?_append_right late] at here
  rw [List.getElem?_map, List.getElem?_take, here, PhysicalLine.drawnUnder_congr
    (parted.mem_take_columnsFrom_iff.trans (and_iff_right late))]
  rcases Nat.lt_or_ge index line.text.length with inside | beyond
  · rw [PhysicalLine.drawnUnder_of_le ((parted.start_le_offsetAt_iff inside).2 late),
      List.getElem?_eq_getElem inside]
    by_cases marked : index - before.length < remaining
    · rw [if_pos marked, if_pos (by omega)]
      rfl
    · rw [if_neg marked, if_neg (by omega)]
      rfl
  · rw [PhysicalLine.drawnUnder, if_neg (c := index < _) (by omega),
      List.getElem?_eq_none beyond]
    simp

end Parted

theorem length_columnsFrom (start : Nat) (line : PhysicalLine) :
    (line.columnsFrom start).length = (markable start line).length := by
  rw [(parted_markable start line).columnsFrom_eq, List.length_map, List.length_range]

/-- Padding and marks stand under the characters of a line that they belong to. -/
theorem Marking.Marks.getElem?_drawn {marking : Marking} {start remaining : Nat}
    {line : PhysicalLine}
    (marks : marking.Marks start remaining line ((markable start line).take remaining))
    (index : Nat) :
    (marking.padding ++ marking.marks)[index]? =
      line.drawnUnder start remaining (index ∈ (line.columnsFrom start).take remaining) index := by
  have parted := parted_markable start line
  rw [marks.padding, marks.marks, padded]
  by_cases exhausted : remaining = 0
  · simp [exhausted, PhysicalLine.drawnUnder]
  · rw [if_neg exhausted]
    rcases Nat.lt_or_ge index
      ((placed line.start line.text).filter fun (offset, _) => offset < start).length with
      early | late
    · rw [List.getElem?_append_left (by rwa [List.length_map]),
        parted.getElem?_padding (Nat.pos_of_ne_zero exhausted) early]
    · rw [List.getElem?_append_right (by rwa [List.length_map]), List.length_map,
        parted.getElem?_marks late]

theorem mem_of_mem_charactersFrom {start place index : Nat} {lines : List (SourceLine × Nat)}
    (member : (place, index) ∈ charactersFrom start lines) : ∃ line, (line, place) ∈ lines := by
  obtain ⟨⟨line, other⟩, listed, among⟩ := List.mem_flatMap.1 member
  obtain ⟨column, _, same⟩ := List.mem_map.1 among
  obtain ⟨rfl, rfl⟩ := Prod.mk.inj same
  exact ⟨line, listed⟩

/-- What a line leaves of the characters to take is taken from the lines behind it. -/
theorem mem_take_charactersFrom_cons_iff {start remaining place first index : Nat}
    {line : SourceLine} {rest : List (SourceLine × Nat)} :
    (place, index) ∈ (charactersFrom start ((line, first) :: rest)).take remaining ↔
      place = first ∧ index ∈ (line.columnsFrom start).take remaining ∨
      (place, index) ∈
        (charactersFrom start rest).take (remaining - (line.columnsFrom start).length) := by
  rw [charactersFrom, List.flatMap_cons, List.take_append, List.mem_append, List.length_map,
    ← List.map_take, List.mem_map]
  apply or_congr_left
  constructor
  · rintro ⟨column, member, same⟩
    obtain ⟨rfl, rfl⟩ := Prod.mk.inj same
    exact ⟨rfl, member⟩
  · rintro ⟨rfl, member⟩
    exact ⟨index, member, rfl⟩

/-- Of the characters of all lines that start behind a byte, the first are marked, each in its own
column. Only the first line may start before that byte. -/
theorem getElem?_markLines {start remaining place : Nat} {lines : List SourceLine}
    {line : SourceLine} (first : Nat) (behind : ∀ line ∈ lines.tail, start ≤ line.start)
    (listed : lines[place]? = some line) :
    ∃ marking, (markLines start remaining lines)[place]? = some (line, marking) ∧
      ∀ index, (marking.padding ++ marking.marks)[index]? =
        line.drawnUnder start remaining
          ((first + place, index) ∈ (charactersFrom start (lines.zipIdx first)).take remaining)
          index := by
  induction lines generalizing first remaining place with
  | nil => contradiction
  | cons head rest ih =>
    have marks := marks_markLine start remaining head.toPhysicalLine
    rw [List.zipIdx_cons]
    cases place with
    | zero =>
      obtain rfl := Option.some.inj listed
      refine ⟨_, rfl, ?_⟩
      intro index
      have own : (first + 0, index) ∉ (charactersFrom start (rest.zipIdx (first + 1))).take
          (remaining - (head.columnsFrom start).length) := by
        intro member
        obtain ⟨line, later⟩ := mem_of_mem_charactersFrom (List.mem_of_mem_take member)
        exact absurd (List.le_snd_of_mem_zipIdx later) (Nat.not_succ_le_self first)
      rw [marks.getElem?_drawn]
      apply PhysicalLine.drawnUnder_congr
      rw [mem_take_charactersFrom_cons_iff, or_iff_left own, and_iff_right (Nat.add_zero first)]
    | succ place =>
      have listed_rest : rest[place]? = some line := listed
      have used : (markLine start remaining head.toPhysicalLine).marks.length =
          min remaining (head.columnsFrom start).length := by
        rw [marks.marks, List.length_map, List.length_take, length_columnsFrom]
      have left : remaining - (markLine start remaining head.toPhysicalLine).marks.length =
          remaining - (head.columnsFrom start).length := by omega
      obtain ⟨marking, found, drawn⟩ := ih (first + 1)
        (fun line member => behind line (List.mem_of_mem_tail member)) listed_rest
      refine ⟨marking, found, ?_⟩
      intro index
      have reached := Nat.le_trans (behind line (List.mem_of_getElem? listed_rest))
        (line.start_le_offsetAt index)
      have later : (first + (place + 1), index) ∈
          (charactersFrom start ((head, first) :: rest.zipIdx (first + 1))).take remaining ↔
          (first + 1 + place, index) ∈ (charactersFrom start (rest.zipIdx (first + 1))).take
            (remaining - (markLine start remaining head.toPhysicalLine).marks.length) := by
        have other : ¬ first + (place + 1) = first := by omega
        rw [mem_take_charactersFrom_cons_iff, or_iff_right (fun both => other both.1), left,
          Nat.add_assoc, Nat.add_comm 1 place]
      -- The line starts in the span, so it does not matter how much is left to mark for padding.
      rw [drawn, PhysicalLine.drawnUnder_of_le reached, PhysicalLine.drawnUnder_of_le reached]
      simp only [later]

end Listing

end Offside
