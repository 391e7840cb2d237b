import Offside.Listing.Marking
import Offside.Proofs.Source.LineWalk

/-! # What is marked under the lines of a span

Of the characters of the listed lines, those from the start of the span on can be marked, and the
first of them are, as many as the span is long. They need not be the characters of the span: its
line feeds are not marked, and in their place as many characters behind the span are, if its last
line has them.
-/

namespace Offside.Listing

section Placed

theorem placed_append (start : Nat) (left right : Text) :
    placed start (left ++ right) =
      placed start left ++ placed (start + Text.byteLength left) right := by
  induction left generalizing start with
  | nil => simp [placed]
  | cons c rest ih =>
    simp only [List.cons_append, placed, ih, Text.byteLength_cons, Nat.add_assoc]

theorem map_snd_placed (start : Nat) (text : Text) : (placed start text).map Prod.snd = text := by
  induction text generalizing start with
  | nil => rfl
  | cons c rest ih => rw [placed, List.map_cons, ih]

theorem length_placed (start : Nat) (text : Text) : (placed start text).length = text.length := by
  rw [← List.length_map (f := Prod.snd), map_snd_placed]

theorem getElem?_placed (start : Nat) (text : Text) (index : Nat) :
    (placed start text)[index]? =
      text[index]?.map fun c => (start + Text.byteLength (text.take index), c) := by
  induction text generalizing start index with
  | nil => simp [placed]
  | cons c rest ih =>
    cases index with
    | zero => simp [placed]
    | succ index => simp [placed, ih, Nat.add_assoc]

/-- Characters are placed behind the start. -/
theorem le_of_mem_placed {start : Nat} {text : Text} {character : Nat × Char}
    (member : character ∈ placed start text) : start ≤ character.1 := by
  obtain ⟨index, found⟩ := List.getElem?_of_mem member
  rw [getElem?_placed] at found
  obtain ⟨c, _, rfl⟩ := Option.map_eq_some_iff.1 found
  exact Nat.le_add_right _ _

theorem lt_of_mem_placed {start : Nat} {text : Text} {character : Nat × Char}
    (member : character ∈ placed start text) : character.1 < start + Text.byteLength text := by
  obtain ⟨index, found⟩ := List.getElem?_of_mem member
  rw [getElem?_placed] at found
  obtain ⟨c, here, rfl⟩ := Option.map_eq_some_iff.1 found
  have inside := (List.getElem?_eq_some_iff.1 here).1
  have less := Text.byteLength_take_lt inside (Nat.le_refl _)
  rw [List.take_length] at less
  exact Nat.add_lt_add_left less start

/-- Characters are placed in the order of the text. -/
theorem pairwise_placed (start : Nat) (text : Text) :
    (placed start text).Pairwise fun left right => left.1 < right.1 := by
  induction text generalizing start with
  | nil => exact .nil
  | cons c rest ih =>
    refine .cons ?_ (ih (start + c.utf8Size))
    intro character member
    have behind := le_of_mem_placed member
    have positive := c.utf8Size_pos
    dsimp only
    omega

/-- The characters from the end of a text on are those of the text behind it. -/
theorem filter_placed_append (origin : Nat) (head rest : Text) :
    (placed origin (head ++ rest)).filter
        (fun (offset, _) => origin + Text.byteLength head ≤ offset) =
      placed (origin + Text.byteLength head) rest := by
  have passed : (placed origin head).filter
      (fun (offset, _) => origin + Text.byteLength head ≤ offset) = [] := by
    apply List.filter_eq_nil_iff.2
    intro character member
    have before := lt_of_mem_placed member
    simpa using before
  have kept : (placed (origin + Text.byteLength head) rest).filter
      (fun (offset, _) => origin + Text.byteLength head ≤ offset) =
        placed (origin + Text.byteLength head) rest := by
    apply List.filter_eq_self.2
    intro character member
    exact decide_eq_true (le_of_mem_placed member)
  rw [placed_append, List.filter_append, passed, kept, List.nil_append]

/-- A text without line feeds is placed without any. -/
theorem filter_placed_of_not_mem (origin : Nat) {word : Text} (unbroken : '\n' ∉ word) :
    (placed origin word).filter (fun (_, c) => c ≠ '\n') = placed origin word := by
  apply List.filter_eq_self.2
  intro character member
  apply decide_eq_true
  intro newline
  apply unbroken
  rw [← newline, ← map_snd_placed origin word]
  exact List.mem_map_of_mem member

/-- Of a text, its first line and what stands behind the line feed are left. -/
theorem filter_placed_line (origin : Nat) {word : Text} (unbroken : '\n' ∉ word) (rest : Text) :
    (placed origin (word ++ '\n' :: rest)).filter (fun (_, c) => c ≠ '\n') =
      placed origin word ++
        (placed (origin + Text.byteLength word + 1) rest).filter fun (_, c) => c ≠ '\n' := by
  have newline : '\n'.utf8Size = 1 := rfl
  rw [placed_append, List.filter_append, filter_placed_of_not_mem origin unbroken, placed,
    List.filter_cons_of_neg (by simp), newline]

end Placed

/-- The characters of a line that a span from byte `start` on can have marked. -/
def markable (start : Nat) (line : PhysicalLine) : List (Nat × Char) :=
  (placed line.start line.text).filter fun (offset, _) => start ≤ offset

/-- The characters of a line that padding stands under, for a span that starts at byte `start` and
has `remaining` characters left to mark: those before the span, if any mark is to follow. -/
def padded (start remaining : Nat) (line : PhysicalLine) : List (Nat × Char) :=
  if remaining = 0 then []
  else (placed line.start line.text).filter fun (offset, _) => offset < start

/-- The mark under a character, for a span that starts at byte `start`. -/
def sign (start : Nat) (character : Nat × Char) : Char :=
  if character.1 = start then '^' else '~'

theorem not_mark_pad (c : Char) : ¬ (pad c = '^' ∨ pad c = '~') := by
  unfold pad
  split <;> decide

/-- The marking pads the first characters of a line and puts marks under the ones that follow. -/
structure Marking.Marks (marking : Marking) (start remaining : Nat) (line : PhysicalLine)
    (marked : List (Nat × Char)) : Prop where
  adjacent : padded start remaining line ++ marked <+: placed line.start line.text
  padding : marking.padding = (padded start remaining line).map fun (_, c) => pad c
  marks : marking.marks = marked.map (sign start)

/-- The characters before the span stand before the others. -/
theorem placed_eq_filter_append (start origin : Nat) (text : Text) :
    placed origin text = (placed origin text).filter (fun (offset, _) => offset < start) ++
      (placed origin text).filter fun (offset, _) => start ≤ offset := by
  induction text generalizing origin with
  | nil => rfl
  | cons c rest ih =>
    rw [placed]
    by_cases before : origin < start
    · rw [List.filter_cons_of_pos (by simpa using before),
        List.filter_cons_of_neg (by simpa using before), List.cons_append, ← ih]
    · have behind : ∀ character ∈ (origin, c) :: placed (origin + c.utf8Size) rest,
          start ≤ character.1 := by
        intro character member
        exact Nat.le_trans (Nat.le_of_not_lt before)
          (@le_of_mem_placed origin (c :: rest) character member)
      rw [List.filter_eq_nil_iff.2 (fun character member => by simpa using behind character member),
        List.filter_eq_self.2 (fun character member => by simpa using behind character member),
        List.nil_append]

/-- Going along a line up to the start of the span leaves what can be marked. -/
theorem dropWhile_placed (start origin : Nat) (text : Text) :
    (placed origin text).dropWhile (fun (offset, _) => offset < start) =
      (placed origin text).filter fun (offset, _) => start ≤ offset := by
  have passed : ∀ character ∈ (placed origin text).filter (fun (offset, _) => offset < start),
      (fun (offset, _) => decide (offset < start)) character = true := by
    intro character member
    exact (List.mem_filter.1 member).2
  have left : ∀ character ∈ (placed origin text).filter (fun (offset, _) => start ≤ offset),
      ¬ (fun (offset, _) => decide (offset < start)) character = true := by
    intro character member
    simpa using (List.mem_filter.1 member).2
  conv => lhs; rw [placed_eq_filter_append start]
  rw [List.dropWhile_append_of_pos passed]
  cases back : (placed origin text).filter fun (offset, _) => start ≤ offset with
  | nil => rfl
  | cons character rest =>
    rw [back] at left
    exact List.dropWhile_cons_of_neg (left character List.mem_cons_self)

/-- What is passed on the way is padded. -/
theorem takeWhile_placed (start origin : Nat) (text : Text) :
    (placed origin text).takeWhile (fun (offset, _) => offset < start) =
      (placed origin text).filter fun (offset, _) => offset < start := by
  have joined := List.takeWhile_append_dropWhile (l := placed origin text)
    (p := fun (offset, _) => decide (offset < start))
  rw [dropWhile_placed] at joined
  exact List.append_cancel_right (joined.trans (placed_eq_filter_append start origin text))

/-- Under a line, the first of its characters that can be marked are marked. -/
theorem marks_markLine (start remaining : Nat) (line : PhysicalLine) :
    (markLine start remaining line).Marks start remaining line
      ((markable start line).take remaining) := by
  by_cases exhausted : remaining = 0
  · rw [exhausted, List.take_zero]
    exact ⟨List.nil_prefix, rfl, rfl⟩
  · refine ⟨?_, ?_, ?_⟩
    · refine ⟨(markable start line).drop remaining, ?_⟩
      rw [padded, if_neg exhausted, List.append_assoc, List.take_append_drop, markable,
        ← placed_eq_filter_append]
    · rw [markLine, if_neg exhausted, padded, if_neg exhausted, ← takeWhile_placed]
    · rw [markLine, if_neg exhausted, markable, ← dropWhile_placed]
      rfl

/-- Of the characters of all lines that can be marked, the first are marked, each under its own
line. -/
theorem exists_marked (start remaining : Nat) (lines : List SourceLine) :
    ∃ marked : List (List (Nat × Char)), marked.length = lines.length ∧
      marked.flatten =
        (lines.flatMap fun line => markable start line.toPhysicalLine).take remaining ∧
      ∀ (index : Nat) line own, lines[index]? = some line → marked[index]? = some own →
      ∃ marking : Marking,
        (markLines start remaining lines)[index]? = some (line, marking) ∧
        marking.Marks start (remaining - (marked.take index).flatten.length) line.toPhysicalLine
          own := by
  induction lines generalizing remaining with
  | nil => exact ⟨[], rfl, by simp, by simp⟩
  | cons line rest ih =>
    have marks := marks_markLine start remaining line.toPhysicalLine
    have count : (markLine start remaining line.toPhysicalLine).marks.length =
        ((markable start line.toPhysicalLine).take remaining).length := by
      rw [marks.marks, List.length_map]
    -- What this line leaves of the length of the span is carried over to the other lines.
    obtain ⟨marked, size, flat, each⟩ :=
      ih (remaining - (markLine start remaining line.toPhysicalLine).marks.length)
    refine ⟨(markable start line.toPhysicalLine).take remaining :: marked, ?_, ?_, ?_⟩
    · rw [List.length_cons, List.length_cons, size]
    · rw [List.flatten_cons, flat, count, List.flatMap_cons, List.take_append, List.length_take]
      congr 2
      omega
    · intro index other own listed taken
      cases index with
      | zero =>
        obtain rfl := Option.some.inj listed
        obtain rfl := Option.some.inj taken
        exact ⟨_, rfl, marks⟩
      | succ index =>
        obtain ⟨marking, found, under⟩ := each index other own listed taken
        refine ⟨marking, found, ?_⟩
        rw [List.take_succ_cons, List.flatten_cons, List.length_append, ← count, ← Nat.sub_sub]
        exact under

end Offside.Listing

namespace Offside.Text

/-- What stands behind a stretch of text on the last line that is listed for it. -/
def lineEnd (covered after : Text) : Text :=
  if covered.getLast? = some '\n' ∧ '\n' ∉ after then [] else after.takeWhile (· ≠ '\n')

theorem lineEnd_of_not_mem {word : Text} (unbroken : '\n' ∉ word) (after : Text) :
    lineEnd word after = after.takeWhile (· ≠ '\n') := by
  have other : word.getLast? ≠ some '\n' := fun last => unbroken (List.mem_of_getLast? last)
  rw [lineEnd, if_neg (fun ends => other ends.1)]

/-- The start of the first line has no part in where the last line ends. -/
theorem lineEnd_append {head : Text} (unbroken : '\n' ∉ head) (covered after : Text) :
    lineEnd (head ++ covered) after = lineEnd covered after := by
  cases covered with
  | nil => rw [List.append_nil, lineEnd_of_not_mem unbroken, lineEnd_of_not_mem List.not_mem_nil]
  | cons c rest =>
    rw [lineEnd, List.getLast?_append_of_ne_nil _ (List.cons_ne_nil c rest), lineEnd]

/-- Nor has any line before another one that is listed. -/
theorem lineEnd_append_newline (word : Text) {rest after : Text}
    (goesOn : ¬ (rest = [] ∧ '\n' ∉ after)) :
    lineEnd (word ++ '\n' :: rest) after = lineEnd rest after := by
  cases rest with
  | nil =>
    have later : '\n' ∈ after := by simpa using goesOn
    rw [lineEnd, if_neg (fun ends => ends.2 later), lineEnd, if_neg (fun ends => ends.2 later)]
  | cons c more =>
    rw [lineEnd, List.getLast?_append_of_ne_nil _ (by simp), List.getLast?_cons_cons, lineEnd]

theorem listedCount_append {head : Text} (unbroken : '\n' ∉ head) (covered after : Text) :
    listedCount (head ++ covered) after = listedCount covered after := by
  induction covered using lines_induction with
  | last word clean =>
    rw [listedCount_of_not_mem (by simp [unbroken, clean]), listedCount_of_not_mem clean]
  | line word rest clean _ =>
    rw [← List.append_assoc, listedCount_append_newline (by simp [unbroken, clean]),
      listedCount_append_newline clean]

end Offside.Text

namespace Offside.Listing

open PhysicalLine in
/-- The characters of the lines listed for a stretch of text, from the start of its first line on:
all but the line feeds. -/
theorem flatMap_placed_layout (origin : Nat) (covered after : Text) :
    ((layout origin (Text.splitLines (covered ++ after))).take
        (Text.listedCount covered after)).flatMap (fun line => placed line.start line.text) =
      (placed origin (covered ++ Text.lineEnd covered after)).filter fun (_, c) => c ≠ '\n' := by
  induction covered using Text.lines_induction generalizing origin with
  | last word clean =>
    obtain ⟨rest, shape⟩ := exists_layout_eq_cons origin (word ++ after)
    have unbroken : '\n' ∉ word ++ after.takeWhile (· ≠ '\n') := by
      rw [List.mem_append, not_or]
      exact ⟨clean, fun member => by simpa using List.all_eq_true.1 List.all_takeWhile _ member⟩
    rw [shape, Text.listedCount_of_not_mem clean, List.take_succ_cons, List.take_zero,
      List.flatMap_singleton, Text.takeWhile_append_of_not_mem clean,
      Text.lineEnd_of_not_mem clean, filter_placed_of_not_mem origin unbroken]
  | line word rest clean ih =>
    have onward := ih (origin + Text.byteLength word + 1)
    rw [List.append_assoc, List.cons_append, layout_append clean,
      Text.listedCount_append_newline clean]
    by_cases final : rest = [] ∧ '\n' ∉ after
    · -- The last line feed of the text is covered, and no line is listed behind it.
      obtain ⟨rfl, last⟩ := final
      rw [if_pos ⟨rfl, last⟩, List.take_succ_cons, List.take_zero, List.flatMap_singleton,
        Text.lineEnd, if_pos ⟨by simp, last⟩, List.append_nil, filter_placed_line origin clean]
      simp [placed]
    · rw [if_neg final, List.take_succ_cons, List.flatMap_cons, onward,
        Text.lineEnd_append_newline word final, List.append_assoc, List.cons_append,
        filter_placed_line origin clean]

/-- The numbers of lines have no part in what can be marked. -/
theorem flatMap_markable_numbered (start first : Nat) (lines : List PhysicalLine) :
    (PhysicalLine.numbered first lines).flatMap (fun line => markable start line.toPhysicalLine) =
      lines.flatMap (markable start) := by
  rw [← List.flatMap_map SourceLine.toPhysicalLine, PhysicalLine.map_toPhysicalLine_numbered]

/-- The characters of the lines listed for a span that the span can have marked: its own and those
behind it on its last line, but for the line feeds. -/
theorem flatMap_markable {source : Source} {span : Span} {before covered after : Text}
    (divides : source.Divides span before covered after) :
    (source.walked before covered after).flatMap (markable span.start) =
      (placed span.start (covered ++ Text.lineEnd covered after)).filter
        fun (_, c) => c ≠ '\n' := by
  obtain ⟨divided, start, _⟩ := divides
  obtain ⟨opening, head, rfl, opens, unbroken⟩ := Text.exists_opensLine before
  have whole := flatMap_placed_layout (Text.byteLength opening) (head ++ covered) after
  rw [Text.listedCount_append unbroken, Text.lineEnd_append unbroken] at whole
  have behind := filter_placed_append (Text.byteLength opening) head
    (covered ++ Text.lineEnd covered after)
  rw [← Text.byteLength_append, ← start] at behind
  calc _ = ((source.walked (opening ++ head) covered after).flatMap
        fun line => placed line.start line.text).filter fun (offset, _) => span.start ≤ offset := by
        rw [List.filter_flatMap]
        rfl
    _ = ((placed (Text.byteLength opening) (head ++ (covered ++ Text.lineEnd covered after))).filter
          fun (offset, _) => span.start ≤ offset).filter fun (_, c) => c ≠ '\n' := by
        rw [Source.walked_eq opens unbroken divided, whole, List.append_assoc, List.filter_comm]
    _ = _ := by rw [behind]

end Offside.Listing
