import Offside.Listing.Render
import Offside.Proofs.Listing.Columns

/-! # The layout of a listing

A listing without colors is read back row by row. Between the header and the note stand the rows of
the gutter, whose bar is found at one index in all of them: an empty one, and for each listed line
the row of its text and the row of its marks.
-/

namespace Offside

namespace Text

/-- A line feed parts the lines before it from those behind it. -/
theorem splitLines_append_newline (left right : Text) :
    splitLines (left ++ '\n' :: right) = splitLines left ++ splitLines right := by
  induction left using lines_induction with
  | last word clean =>
    rw [splitLines_append clean, splitLines_of_not_mem clean, List.singleton_append]
  | line word rest clean ih =>
    rw [List.append_assoc, List.cons_append, splitLines_append clean, splitLines_append clean, ih,
      List.cons_append]

/-- Rows that are written one under the other are read back as the lines of each. -/
theorem splitLines_intercalate {rows : List Text} (nonempty : rows ≠ []) :
    splitLines (['\n'].intercalate rows) = rows.flatMap splitLines := by
  induction rows with
  | nil => contradiction
  | cons row rest ih =>
    cases rest with
    | nil => simp
    | cons next more =>
      rw [List.intercalate_cons_cons, List.append_assoc, List.singleton_append, List.flatMap_cons,
        splitLines_append_newline, ih (List.cons_ne_nil next more)]

end Text

namespace Listing

section Digits

/-- Digits are no control characters. -/
theorem not_mem_digits {c : Char} (control : c.toNat < 32) (n : Nat) : c ∉ digits n := by
  intro member
  have digit := Nat.isDigit_of_mem_toDigits (by omega) (by omega) member
  simp only [Char.isDigit, Bool.and_eq_true, decide_eq_true_eq] at digit
  have least : 48 ≤ c.toNat := UInt32.le_iff_toNat_le.1 digit.1
  omega

/-- A number no larger than another has no more digits. -/
theorem length_digits_le {small large : Nat} (order : small ≤ large) :
    (digits small).length ≤ (digits large).length := by
  have bound := (Nat.length_toDigits_le_iff (by omega) Nat.length_toDigits_pos).1
    (Nat.le_refl (digits large).length)
  exact (Nat.length_toDigits_le_iff (by omega) Nat.length_toDigits_pos).2
    (Nat.lt_of_le_of_lt order bound)

end Digits

section Rows

/-- The text of the header. -/
def heading (diagnostic : Diagnostic) : Text :=
  diagnostic.severity.label.toList ++ ": ".toList ++ diagnostic.issue.label.toList ++
    " @ ".toList ++ diagnostic.source.path.toList ++ ":".toList ++ digits diagnostic.span.line ++
    ":".toList ++ digits diagnostic.span.column ++ ":".toList

theorem write_header (diagnostic : Diagnostic) :
    (header diagnostic).write false = heading diagnostic := by
  have same (part : String) : toString part = part := rfl
  simp [Row.write, header, heading, Span.place, same, digits]

/-- Only the path brings control characters into the header. -/
theorem count_heading_of_control (diagnostic : Diagnostic) {c : Char} (control : c.toNat < 32) :
    (heading diagnostic).count c = diagnostic.source.path.toList.count c := by
  have numbers (n : Nat) : (digits n).count c = 0 :=
    List.count_eq_zero_of_not_mem (not_mem_digits control n)
  have printed (word : String) (visible : ∀ other ∈ word.toList, 32 ≤ other.toNat) :
      word.toList.count c = 0 :=
    List.count_eq_zero_of_not_mem fun member => absurd control (Nat.not_lt.2 (visible c member))
  have severity : ∀ other ∈ diagnostic.severity.label.toList, 32 ≤ other.toNat := by
    cases diagnostic.severity <;> simp [Severity.label]
  have issue : ∀ other ∈ diagnostic.issue.label.toList, 32 ≤ other.toNat := by
    cases diagnostic.issue <;> simp [Issue.label]
  simp only [heading, List.count_append, numbers, printed _ severity, printed _ issue,
    printed ": " (by simp), printed " @ " (by simp), printed ":" (by simp), Nat.zero_add,
    Nat.add_zero]

theorem count_heading (diagnostic : Diagnostic) :
    (heading diagnostic).count '\n' = diagnostic.source.path.toList.count '\n' :=
  count_heading_of_control diagnostic (by decide)

/-- The text of the note. -/
def noteText (diagnostic : Diagnostic) : Text := ("Note: " ++ diagnostic.message).toList

theorem write_note (diagnostic : Diagnostic) :
    (note diagnostic).write false = noteText diagnostic := by
  have same (part : String) : toString part = part := rfl
  rw [note, Row.write, List.flatMap_singleton, Piece.write_false, same, same, noteText]

/-- The text of a row of the gutter: what stands before the bar and what stands behind it. -/
def gutterText (gutter content : Text) : Text := gutter ++ '|' :: content

/-- The number of a line, with spaces up to the width of the gutter. -/
def numberText (width number : Nat) : Text :=
  digits number ++ List.replicate (width - (digits number).length) ' '

/-- A number with fewer digits than the gutter is wide fills the gutter. -/
theorem length_numberText {width number : Nat} (narrow : (digits number).length < width) :
    (numberText width number).length = width := by
  rw [numberText, List.length_append, List.length_replicate]
  omega

theorem write_blankGutter (width : Nat) :
    (blankGutter width).write false = gutterText (List.replicate width ' ') [] := by
  simp [Row.write, blankGutter, bar, gutterText]

theorem write_lineRow (width : Nat) (line : SourceLine) :
    (lineRow width line).write false =
      gutterText (numberText width line.number) (' ' :: line.text) := by
  simp [Row.write, lineRow, bar, gutterText, numberText]

theorem write_markRow (severity : Severity) (width : Nat) (marking : Marking) :
    (markRow severity width marking).write false =
      gutterText (List.replicate width ' ') (' ' :: (marking.padding ++ marking.marks)) := by
  simp [Row.write, markRow, blankGutter, bar, gutterText]

/-- The rows of the gutter, read back. -/
def gutterRows (span : Span) (lines : List SourceLine) : List Text :=
  let width := gutterWidth span.line lines.length
  gutterText (List.replicate width ' ') [] ::
    (markLines span.start span.length lines).flatMap fun (line, marking) =>
      [gutterText (numberText width line.number) (' ' :: line.text),
        gutterText (List.replicate width ' ') (' ' :: (marking.padding ++ marking.marks))]

section Control

variable {c : Char}

theorem ne_of_control (control : c.toNat < 32) (other : Char) (visible : 32 ≤ other.toNat) :
    c ≠ other := by
  rintro rfl
  omega

theorem not_mem_gutterText (control : c.toNat < 32) {gutter content : Text} (left : c ∉ gutter)
    (right : c ∉ content) : c ∉ gutterText gutter content := by
  simp [gutterText, left, right, ne_of_control control '|' (by decide)]

theorem not_mem_numberText (control : c.toNat < 32) (width number : Nat) :
    c ∉ numberText width number := by
  simp [numberText, not_mem_digits control, ne_of_control control ' ' (by decide)]

end Control

/-- The characters that can stand under a line. -/
def signs : Text := ['\t', ' ', '^', '~']

/-- Padding and marks are made of these characters. -/
theorem Marking.Marks.mem_signs {marking : Marking} {start remaining : Nat}
    {line : PhysicalLine} {marked : List (Nat × Char)}
    (marks : marking.Marks start remaining line marked) :
    ∀ c ∈ marking.padding ++ marking.marks, c ∈ signs := by
  have padding (c : Char) : pad c ∈ signs := by
    unfold pad
    split <;> decide
  have sign (character : Nat × Char) : sign start character ∈ signs := by
    unfold sign
    split <;> decide
  intro c member
  rw [marks.padding, marks.marks] at member
  rcases List.mem_append.1 member with before | under
  · obtain ⟨character, _, rfl⟩ := List.mem_map.1 before
    exact padding character.2
  · obtain ⟨character, _, rfl⟩ := List.mem_map.1 under
    exact sign character

theorem mem_of_mem_markLines {start remaining : Nat} {lines : List SourceLine} {line : SourceLine}
    {marking : Marking} (member : (line, marking) ∈ markLines start remaining lines) :
    line ∈ lines ∧ ∀ c ∈ marking.padding ++ marking.marks, c ∈ signs := by
  induction lines generalizing remaining with
  | nil => contradiction
  | cons first rest ih =>
    rcases List.mem_cons.1 member with same | later
    · obtain ⟨rfl, rfl⟩ := Prod.mk.inj same
      have marks := marks_markLine start remaining line.toPhysicalLine
      exact ⟨List.mem_cons_self, marks.mem_signs⟩
    · obtain ⟨listed, known⟩ := ih later
      exact ⟨List.mem_cons_of_mem first listed, known⟩

/-- A listing is read back as the lines of its header, the rows of the gutter and the lines of its
note. -/
theorem splitLines_writeRows (diagnostic : Diagnostic) {lines : List SourceLine}
    (unbroken : ∀ line ∈ lines, '\n' ∉ line.text) :
    Text.splitLines (writeRows false (rows diagnostic lines)) =
      Text.splitLines (heading diagnostic) ++ gutterRows diagnostic.span lines ++
        Text.splitLines (noteText diagnostic) := by
  have spaces (width : Nat) : '\n' ∉ List.replicate width ' ' := by simp
  have blank (width : Nat) : Text.splitLines ((blankGutter width).write false) =
      [gutterText (List.replicate width ' ') []] := by
    rw [write_blankGutter]
    exact Text.splitLines_of_not_mem
      (not_mem_gutterText (by decide) (spaces width) List.not_mem_nil)
  -- No row of the gutter holds a line feed, so each of them is read back as it is.
  have inner (width : Nat) : ∀ entry ∈ markLines diagnostic.span.start diagnostic.span.length lines,
      [lineRow width entry.1, markRow diagnostic.severity width entry.2].flatMap
          (fun row => Text.splitLines (row.write false)) =
        [gutterText (numberText width entry.1.number) (' ' :: entry.1.text),
          gutterText (List.replicate width ' ') (' ' :: (entry.2.padding ++ entry.2.marks))] := by
    intro (line, marking) member
    obtain ⟨listed, known⟩ := mem_of_mem_markLines member
    have content : '\n' ∉ ' ' :: line.text := by simp [unbroken line listed]
    have clean : '\n' ∉ marking.padding ++ marking.marks :=
      fun newline => absurd (known _ newline) (by decide)
    have under : '\n' ∉ ' ' :: (marking.padding ++ marking.marks) := by simpa using clean
    rw [List.flatMap_cons, List.flatMap_cons, write_lineRow, write_markRow,
      Text.splitLines_of_not_mem
        (not_mem_gutterText (by decide) (not_mem_numberText (by decide) width _) content),
      Text.splitLines_of_not_mem (not_mem_gutterText (by decide) (spaces width) under)]
    rfl
  rw [writeRows, Text.splitLines_intercalate (by simp [rows]), List.flatMap_map, rows,
    List.flatMap_append, List.flatMap_append, List.flatMap_assoc, List.flatMap_congr (inner _)]
  simp [blank, write_header, write_note, gutterRows]

end Rows

/-- Of two rows for each entry, the first ones stand at even indices and the others at odd ones. -/
theorem getElem?_flatMap_pair {α β : Type} (f g : α → β) (entries : List α) (index : Nat) :
    (entries.flatMap fun entry => [f entry, g entry])[2 * index]? = entries[index]?.map f ∧
      (entries.flatMap fun entry => [f entry, g entry])[2 * index + 1]? =
        entries[index]?.map g := by
  induction entries generalizing index with
  | nil => simp
  | cons entry rest ih =>
    cases index with
    | zero => simp
    | succ index =>
      obtain ⟨first, second⟩ := ih index
      exact ⟨first, second⟩

section Gutter

variable {span : Span} {lines : List SourceLine}

/-- The lines have numbers that go up from the number of the span's line. -/
def Numbered (span : Span) (lines : List SourceLine) : Prop :=
  ∀ (index : Nat) line, lines[index]? = some line → line.number = span.line + index

/-- Each line number leaves room for a space in the gutter. -/
theorem length_digits_lt (numbered : Numbered span lines) {line : SourceLine}
    (listed : line ∈ lines) :
    (digits line.number).length < gutterWidth span.line lines.length := by
  obtain ⟨index, found⟩ := List.getElem?_of_mem listed
  have inside := (List.getElem?_eq_some_iff.1 found).1
  have fewer := length_digits_le (show line.number ≤ span.line + lines.length by
    rw [numbered index line found]
    omega)
  exact Nat.lt_succ_of_le fewer

theorem length_markLines (start remaining : Nat) (lines : List SourceLine) :
    (markLines start remaining lines).length = lines.length := by
  induction lines generalizing remaining with
  | nil => rfl
  | cons line rest ih => rw [markLines, List.length_cons, ih, List.length_cons]

theorem length_gutterRows (span : Span) (lines : List SourceLine) :
    (gutterRows span lines).length = 2 * lines.length + 1 := by
  rw [gutterRows, List.length_cons, List.length_flatMap]
  simp [length_markLines, Nat.mul_comm]

/-- The row of a line and the row under it. -/
theorem getElem?_gutterRows {index : Nat} {line : SourceLine} {marking : Marking}
    (marked : (markLines span.start span.length lines)[index]? = some (line, marking)) :
    (gutterRows span lines)[2 * index + 1]? =
        some (gutterText (numberText (gutterWidth span.line lines.length) line.number)
          (' ' :: line.text)) ∧
      (gutterRows span lines)[2 * index + 2]? =
        some (gutterText (List.replicate (gutterWidth span.line lines.length) ' ')
          (' ' :: (marking.padding ++ marking.marks))) := by
  have pair := getElem?_flatMap_pair
    (fun (line, _) => gutterText (numberText (gutterWidth span.line lines.length) line.number)
      (' ' :: line.text))
    (fun (_, marking) => gutterText (List.replicate (gutterWidth span.line lines.length) ' ')
      (' ' :: (marking.padding ++ marking.marks)))
    (markLines span.start span.length lines) index
  rw [marked] at pair
  exact pair

/-- What stands before the bar fills the gutter and ends with a space. -/
theorem exists_of_mem_gutterRows (numbered : Numbered span lines) {row : Text}
    (member : row ∈ gutterRows span lines) :
    ∃ gutter content, row = gutterText gutter content ∧
      gutter.length = gutterWidth span.line lines.length ∧ gutter.getLast? = some ' ' := by
  have spaces (width : Nat) (positive : 0 < width) :
      (List.replicate width ' ').getLast? = some ' ' := by
    rw [List.getLast?_replicate, if_neg (by omega)]
  have blank (content : Text) : ∃ gutter other,
      gutterText (List.replicate (gutterWidth span.line lines.length) ' ') content =
        gutterText gutter other ∧ gutter.length = gutterWidth span.line lines.length ∧
          gutter.getLast? = some ' ' :=
    ⟨_, content, rfl, List.length_replicate, spaces _ (Nat.succ_pos _)⟩
  rcases List.mem_cons.1 member with rfl | inner
  · exact blank []
  · obtain ⟨⟨line, marking⟩, entry, among⟩ := List.mem_flatMap.1 inner
    have narrow := length_digits_lt numbered (mem_of_mem_markLines entry).1
    rcases List.mem_cons.1 among with rfl | under
    · refine ⟨_, _, rfl, length_numberText narrow, ?_⟩
      rw [numberText, List.getLast?_append, spaces _ (by omega)]
      rfl
    · obtain rfl := List.mem_singleton.1 under
      exact blank _

/-- Behind the bar and a space stands the content of a row. -/
theorem drop_gutterText {gutter : Text} {width : Nat} (fills : gutter.length = width)
    (content : Text) : (gutterText gutter (' ' :: content)).drop (width + 2) = content := by
  rw [gutterText, ← fills, List.drop_length_add_append]
  rfl

theorem getElem?_gutterText {gutter : Text} {width : Nat} (fills : gutter.length = width)
    (content : Text) (column : Nat) :
    (gutterText gutter (' ' :: content))[width + 2 + column]? = content[column]? := by
  rw [← List.getElem?_drop, drop_gutterText fills]

/-- The row of marks under a line comes behind the header, the empty row of the gutter and the rows
of the lines before. -/
theorem getElem?_splitLines_writeRows {diagnostic : Diagnostic} {lines : List SourceLine}
    {line : SourceLine} {marking : Marking} {place : Nat}
    (unbroken : ∀ line ∈ lines, '\n' ∉ line.text)
    (marked : (markLines diagnostic.span.start diagnostic.span.length lines)[place]? =
      some (line, marking)) :
    (Text.splitLines (writeRows false (rows diagnostic lines)))[
        diagnostic.source.path.toList.count '\n' + 2 * place + 3]? =
      some (gutterText (List.replicate (gutterWidth diagnostic.span.line lines.length) ' ')
        (' ' :: (marking.padding ++ marking.marks))) := by
  have inside := (List.getElem?_eq_some_iff.1 marked).1
  rw [length_markLines] at inside
  have header : (Text.splitLines (heading diagnostic)).length =
      diagnostic.source.path.toList.count '\n' + 1 := by
    rw [Text.length_splitLines, count_heading]
  have gutter := length_gutterRows diagnostic.span lines
  have behind : diagnostic.source.path.toList.count '\n' + 2 * place + 3 -
      (diagnostic.source.path.toList.count '\n' + 1) = 2 * place + 2 := by omega
  rw [splitLines_writeRows diagnostic unbroken, List.append_assoc,
    List.getElem?_append_right (by omega), header, behind, List.getElem?_append_left (by omega),
    (getElem?_gutterRows marked).2]

end Gutter

/-- How a line with this index is shown in a gutter of a given width, when the `marked` characters
of all lines are marked: by `row`, with `under` below it. Each character is given by the index of
its line and its own index in the line. -/
structure Shows (span : Span) (width : Nat) (marked : List (Nat × Nat)) (place : Nat)
    (line : SourceLine) (row under : Text) : Prop where
  /-- The line number is aligned to the left, and the text of the line follows the bar. -/
  row_eq : row = Nat.toDigits 10 line.number ++
    List.replicate (width - (Nat.toDigits 10 line.number).length) ' ' ++ '|' :: ' ' :: line.text
  narrow : (Nat.toDigits 10 line.number).length < width
  blank : under.take (width + 2) = List.replicate width ' ' ++ ['|', ' ']
  /-- Behind the bar the characters of the line stand in columns, and below them in the same columns
  what the span has under each. -/
  columns : ∀ index, row[width + 2 + index]? = line.text[index]? ∧
    under[width + 2 + index]? =
      line.drawnUnder span.start span.length ((place, index) ∈ marked) index

/-- The rows are those of a listing of the diagnostic, with these lines and a gutter so wide. -/
structure Aligned (diagnostic : Diagnostic) (lines : List SourceLine) (width : Nat)
    (rows : List Text) : Prop where
  size : rows.length = 2 * lines.length + 3
  header : rows[0]? = some (heading diagnostic)
  opening : rows[1]? = some (List.replicate width ' ' ++ ['|'])
  note : rows[2 * lines.length + 2]? = some (noteText diagnostic)
  /-- In every row of the gutter a space and the bar follow each other at the same indices. -/
  bars : ∀ (index : Nat) row, 0 < index → index < 2 * lines.length + 2 → rows[index]? = some row →
    (row.take width).getLast? = some ' ' ∧ row[width]? = some '|'
  /-- Of all characters of the lines from the start of the span on, as many are marked as the span
  is long, or all if there are fewer. -/
  shown : ∀ (place : Nat) line, lines[place]? = some line → ∃ row under,
    rows[2 * place + 2]? = some row ∧ rows[2 * place + 3]? = some under ∧
      Shows diagnostic.span width
        ((charactersFrom diagnostic.span.start lines.zipIdx).take diagnostic.span.length) place line
        row under

/-- The rows of the gutter show the lines. -/
theorem exists_shows {span : Span} {lines : List SourceLine} {line : SourceLine} {place : Nat}
    (numbered : Numbered span lines) (behind : ∀ line ∈ lines.tail, span.start ≤ line.start)
    (listed : lines[place]? = some line) : ∃ row under,
      (gutterRows span lines)[2 * place + 1]? = some row ∧
        (gutterRows span lines)[2 * place + 2]? = some under ∧
        Shows span (gutterWidth span.line lines.length)
          ((charactersFrom span.start lines.zipIdx).take span.length) place line row under := by
  obtain ⟨marking, found, drawn⟩ := getElem?_markLines 0 behind listed
  have narrow := length_digits_lt numbered (List.mem_of_getElem? listed)
  obtain ⟨row, under⟩ := getElem?_gutterRows found
  refine ⟨_, _, row, under, rfl, narrow, ?_, ?_⟩
  · rw [gutterText, List.take_append, List.take_of_length_le (by simp), List.length_replicate,
      Nat.add_sub_cancel_left]
    rfl
  · intro index
    rw [getElem?_gutterText (length_numberText narrow), getElem?_gutterText List.length_replicate,
      drawn, Nat.zero_add]
    exact ⟨rfl, rfl⟩

/-- The header, the rows of the gutter and the note have the layout of a listing. -/
theorem aligned_rows (diagnostic : Diagnostic) {lines : List SourceLine}
    (numbered : Numbered diagnostic.span lines)
    (behind : ∀ line ∈ lines.tail, diagnostic.span.start ≤ line.start) :
    Aligned diagnostic lines (gutterWidth diagnostic.span.line lines.length)
      (heading diagnostic :: (gutterRows diagnostic.span lines ++ [noteText diagnostic])) := by
  have size := length_gutterRows diagnostic.span lines
  -- Behind the header the rows of the gutter are found one index later.
  have inner (index : Nat) (inside : index < 2 * lines.length + 1) :
      (heading diagnostic ::
          (gutterRows diagnostic.span lines ++ [noteText diagnostic]))[index + 1]? =
        (gutterRows diagnostic.span lines)[index]? := by
    rw [List.getElem?_cons_succ, List.getElem?_append_left (by omega)]
  refine ⟨?_, rfl, ?_, ?_, ?_, ?_⟩
  · rw [List.length_cons, List.length_append, size, List.length_singleton]
  · rw [inner 0 (by omega)]
    rfl
  · rw [List.getElem?_cons_succ, List.getElem?_append_right (by omega), size, Nat.sub_self]
    rfl
  · intro index row positive inside found
    obtain ⟨before, rfl⟩ := Nat.exists_eq_add_one_of_ne_zero (Nat.ne_of_gt positive)
    rw [inner before (by omega)] at found
    obtain ⟨gutter, content, rfl, fills, last⟩ :=
      exists_of_mem_gutterRows numbered (List.mem_of_getElem? found)
    rw [← fills, gutterText, List.take_left, List.getElem?_append_right (Nat.le_refl _),
      Nat.sub_self]
    exact ⟨last, rfl⟩
  · intro place line listed
    have inside := (List.getElem?_eq_some_iff.1 listed).1
    obtain ⟨row, under, upper, lower, shows⟩ := exists_shows numbered behind listed
    refine ⟨row, under, ?_, ?_, shows⟩
    · rw [inner _ (by omega), upper]
    · rw [inner _ (by omega), lower]

end Listing

namespace Source.Walk

variable {source : Source} {span : Span} {before covered after : Text} {listed : List SourceLine}

theorem numbered (walk : source.Walk span before covered after listed) :
    Listing.Numbered span listed :=
  fun index line found => (walk.present index line found).1

/-- Only the first line may start before the span. -/
theorem start_le (walk : source.Walk span before covered after listed) :
    ∀ line ∈ listed.tail, span.start ≤ line.start := by
  intro line later
  cases listed with
  | nil => contradiction
  | cons first rest =>
    have opened := walk.first first (Option.mem_def.2 rfl)
    have passed := PhysicalLine.stop_lt_of_mem walk.consecutive (List.mem_map_of_mem later)
    omega

theorem unbroken (walk : source.Walk span before covered after listed) :
    ∀ line ∈ listed, '\n' ∉ line.text := by
  intro line member
  obtain ⟨index, found⟩ := List.getElem?_of_mem member
  obtain ⟨_, _, _, between⟩ := (walk.present index line found).2
  exact between.unbroken

end Source.Walk

namespace Diagnostic

open Listing

theorem render_eq {diagnostic : Diagnostic} {lines : List SourceLine}
    (contained : diagnostic.source.contains diagnostic.span.start diagnostic.span.length = true)
    (listed : diagnostic.source.lines diagnostic.span = .ok lines) (colors : Bool) :
    diagnostic.render colors = .ok (writeRows colors (rows diagnostic lines)) := by
  rw [render, if_pos contained, listed]
  rfl

/-- Nothing is listed for a span that does not lie in the source, or has no lines. -/
theorem exists_of_render {diagnostic : Diagnostic} {colors : Bool} {listing : Text}
    (rendered : diagnostic.render colors = .ok listing) :
    diagnostic.source.contains diagnostic.span.start diagnostic.span.length = true ∧
      ∃ lines, diagnostic.source.lines diagnostic.span = .ok lines ∧
        writeRows colors (rows diagnostic lines) = listing := by
  unfold render at rendered
  dsimp only at rendered
  split at rendered
  · rename_i contained
    exact ⟨contained, Fault.map_eq_ok_iff.1 rendered⟩
  · contradiction

/-- A diagnostic whose span lies in its source is listed in rows of one layout, if neither its path
nor its message has a line feed and its lines can be numbered. -/
theorem render_aligned (diagnostic : Diagnostic) (covered : Text)
    (contained : diagnostic.source.contains diagnostic.span.start diagnostic.span.length = true)
    (path : '\n' ∉ diagnostic.source.path.toList) (message : '\n' ∉ diagnostic.message.toList)
    (covers : diagnostic.source.substring diagnostic.span = .ok covered)
    (counted : diagnostic.span.line + covered.count '\n' ≤ Text.counterLimit) :
    ∃ lines listing, diagnostic.source.lines diagnostic.span = .ok lines ∧
      diagnostic.render false = .ok listing ∧
      Aligned diagnostic lines
        ((Nat.toDigits 10 (diagnostic.span.line + lines.length)).length + 1)
        (Text.splitLines listing) := by
  obtain ⟨before, same, after, divides⟩ := Source.contains_iff_divides.1 contained
  obtain rfl := Except.ok.inj (divides.substring_eq.symm.trans covers)
  have listed := Source.lines_eq_walked divides counted
  have walk := Source.walk_numbered_walked divides
  generalize PhysicalLine.numbered _ _ = lines at listed walk
  have single : '\n' ∉ heading diagnostic := by
    rw [← List.count_eq_zero, count_heading]
    exact List.count_eq_zero_of_not_mem path
  have last : '\n' ∉ noteText diagnostic := by simp [noteText, message]
  refine ⟨lines, _, listed, render_eq contained listed false, ?_⟩
  rw [splitLines_writeRows diagnostic walk.unbroken, Text.splitLines_of_not_mem single,
    Text.splitLines_of_not_mem last, List.append_assoc]
  exact aligned_rows diagnostic walk.numbered walk.start_le

/-- Behind a tab the span covers a character of two bytes, a line feed and the first character of
the next line. The numbers of the two lines have one digit and two. -/
theorem render_aligned_tabbed :
    let diagnostic : Diagnostic :=
      ⟨.ofText ['\t', 'é', '\n', 'b', '\n'], .invalidString, ⟨1, 3, 9, 2⟩, "bad"⟩
    diagnostic.source.contains diagnostic.span.start diagnostic.span.length = true ∧
      '\n' ∉ diagnostic.source.path.toList ∧ '\n' ∉ diagnostic.message.toList ∧
      diagnostic.source.substring diagnostic.span = .ok ['é', '\n', 'b'] ∧
      diagnostic.span.line + ['é', '\n', 'b'].count '\n' ≤ Text.counterLimit ∧
      ∃ lines listing, diagnostic.source.lines diagnostic.span = .ok lines ∧
        diagnostic.render false = .ok listing ∧
        Text.splitLines listing =
          ["Error: Invalid String Literal @ <NoPath>:9:2:".toList,
            "   |".toList,
            "9  | \té".toList,
            "   | \t^".toList,
            "10 | b".toList,
            "   | ~".toList,
            "Note: bad".toList] ∧
        Aligned diagnostic lines
          ((Nat.toDigits 10 (diagnostic.span.line + lines.length)).length + 1)
          (Text.splitLines listing) := by
  intro diagnostic
  have contained :
      diagnostic.source.contains diagnostic.span.start diagnostic.span.length = true := by decide
  have path : '\n' ∉ diagnostic.source.path.toList := by decide
  have message : '\n' ∉ diagnostic.message.toList := by decide
  have covers : diagnostic.source.substring diagnostic.span = .ok ['é', '\n', 'b'] := by decide
  have counted : diagnostic.span.line + ['é', '\n', 'b'].count '\n' ≤ Text.counterLimit := by decide
  obtain ⟨lines, listing, listed, rendered, aligned⟩ :=
    render_aligned diagnostic ['é', '\n', 'b'] contained path message covers counted
  refine ⟨contained, path, message, covers, counted, lines, listing, listed, rendered, ?_, aligned⟩
  obtain rfl := Except.ok.inj rendered
  decide

end Diagnostic

end Offside
