import Mathlib.Data.List.Chain
import Offside.Source.Lines

/-! # The lines of a source

A line of a text stands between the start of the text or a line feed and a line feed or the end of
the text, and holds no line feed itself. The lines that are laid out for a source are all the lines
of this kind, one behind the other, and the number of each is one more than the number of line feeds
before it.
-/

namespace Offside

namespace Text

theorem byteLength_append_newline (word rest : Text) :
    byteLength (word ++ '\n' :: rest) = byteLength word + 1 + byteLength rest := by
  have one : '\n'.utf8Size = 1 := rfl
  rw [byteLength_append, byteLength_cons]
  omega

/-- A text is a line without a line feed, or such a line, a line feed and another text. -/
theorem lines_induction {motive : Text → Prop} (last : ∀ word, '\n' ∉ word → motive word)
    (line : ∀ word rest, '\n' ∉ word → motive rest → motive (word ++ '\n' :: rest))
    (text : Text) : motive text := by
  induction size : text.length using Nat.strongRecOn generalizing text with
  | ind size ih =>
    by_cases broken : '\n' ∈ text
    · obtain ⟨word, rest, rfl, unbroken⟩ := List.eq_append_cons_of_mem broken
      rw [List.length_append, List.length_cons] at size
      exact line word rest unbroken (ih rest.length (by omega) rest rfl)
    · exact last text broken

theorem splitLines_of_not_mem {word : Text} (unbroken : '\n' ∉ word) :
    splitLines word = [word] := by
  induction word with
  | nil => rfl
  | cons c rest ih =>
    rw [List.mem_cons, not_or] at unbroken
    rw [splitLines, if_neg (Ne.symm unbroken.1), ih unbroken.2]
    rfl

theorem splitLines_append {word : Text} (unbroken : '\n' ∉ word) (rest : Text) :
    splitLines (word ++ '\n' :: rest) = word :: splitLines rest := by
  induction word with
  | nil => rfl
  | cons c more ih =>
    rw [List.mem_cons, not_or] at unbroken
    rw [List.cons_append, splitLines, if_neg (Ne.symm unbroken.1), ih unbroken.2]
    rfl

/-- A text that begins another one and holds a line feed goes past the first line of the other. -/
theorem exists_of_newline_mem {word rest before tail : Text} (unbroken : '\n' ∉ word)
    (divided : word ++ '\n' :: rest = before ++ tail) (broken : '\n' ∈ before) :
    ∃ more, before = word ++ '\n' :: more ∧ rest = more ++ tail := by
  rcases List.append_eq_append_iff.1 divided with ⟨front, longer, same⟩ | ⟨back, shorter, _⟩
  · cases front with
    | nil =>
      rw [longer, List.append_nil] at broken
      exact absurd broken unbroken
    | cons c more =>
      obtain ⟨rfl, rest⟩ := List.cons.inj same
      exact ⟨more, longer, rest⟩
  · rw [shorter] at unbroken
    exact absurd (List.mem_append_left back broken) unbroken

/-- One that holds no line feed stays within the first line of the other. -/
theorem exists_of_newline_not_mem {word rest before tail : Text}
    (divided : word ++ '\n' :: rest = before ++ tail) (unbroken : '\n' ∉ before) :
    ∃ more, word = before ++ more := by
  rcases List.append_eq_append_iff.1 divided with ⟨more, longer, same⟩ | ⟨more, shorter, _⟩
  · cases more with
    | nil => exact ⟨[], by rw [longer, List.append_nil, List.append_nil]⟩
    | cons c more =>
      obtain ⟨rfl, _⟩ := List.cons.inj same
      rw [longer] at unbroken
      exact absurd (by simp) unbroken
  · exact ⟨more, shorter⟩

/-- What stands behind a line: its line feed and the text that follows, or else nothing. -/
def EndsLine (terminated : Bool) (after : Text) : Prop :=
  if terminated then after.head? = some '\n' else after = []

theorem takeWhile_line {terminated : Bool} {word after : Text} (unbroken : '\n' ∉ word)
    (ends : EndsLine terminated after) : (word ++ after).takeWhile (· ≠ '\n') = word := by
  have inside : ∀ c ∈ word, decide (c ≠ '\n') = true := by
    intro c member
    apply decide_eq_true
    rintro rfl
    exact unbroken member
  rw [List.takeWhile_append_of_pos inside]
  cases terminated with
  | false =>
    have nothing : after = [] := ends
    simp [nothing]
  | true =>
    obtain ⟨rest, rfl⟩ := List.head?_eq_some_iff.1 ends
    simp

/-- A line starts at the start of the text or behind a line feed. -/
def OpensLine (before : Text) : Prop := before = [] ∨ before.getLast? = some '\n'

theorem OpensLine.eq_nil {before : Text} (opens : OpensLine before) (unbroken : '\n' ∉ before) :
    before = [] := by
  rcases opens with empty | ended
  · exact empty
  · exact absurd (List.mem_of_getLast? ended) unbroken

/-- Only what stands behind a line feed decides whether a line starts there. -/
theorem opensLine_append_newline (word more : Text) :
    OpensLine (word ++ '\n' :: more) ↔ OpensLine more := by
  cases more with
  | nil => simp [OpensLine]
  | cons c rest => simp [OpensLine, List.getLast?_cons_cons]

end Text

namespace PhysicalLine

/-- Lines with their numbers, when the first of them has the number `first`. -/
def numbered (first : Nat) (lines : List PhysicalLine) : List SourceLine :=
  lines.mapIdx fun offset line => ⟨line, first + offset⟩

@[simp] theorem numbered_nil (first : Nat) : numbered first [] = [] := rfl

theorem numbered_cons (first : Nat) (line : PhysicalLine) (rest : List PhysicalLine) :
    numbered first (line :: rest) = ⟨line, first⟩ :: numbered (first + 1) rest := by
  unfold numbered
  rw [List.mapIdx_cons]
  simp only [Nat.add_zero, Nat.add_assoc, Nat.add_comm 1]

theorem mem_of_mem_numbered {first : Nat} {lines : List PhysicalLine} {line : SourceLine}
    (member : line ∈ numbered first lines) : line.toPhysicalLine ∈ lines := by
  obtain ⟨index, bound, rfl⟩ := List.mem_mapIdx.1 member
  exact List.getElem_mem bound

theorem filter_numbered_cons (test : PhysicalLine → Bool) (first : Nat) (line : PhysicalLine)
    (rest : List PhysicalLine) :
    (numbered first (line :: rest)).filter (fun line => test line.toPhysicalLine) =
      if test line then
        ⟨line, first⟩ :: (numbered (first + 1) rest).filter fun line => test line.toPhysicalLine
      else
        (numbered (first + 1) rest).filter fun line => test line.toPhysicalLine := by
  rw [numbered_cons, List.filter_cons]

theorem layout_of_not_mem {word : Text} (unbroken : '\n' ∉ word) (start : Nat) :
    layout start (Text.splitLines word) = [⟨start, word, false⟩] := by
  rw [Text.splitLines_of_not_mem unbroken, layout]

theorem layout_append {word : Text} (unbroken : '\n' ∉ word) (rest : Text) (start : Nat) :
    layout start (Text.splitLines (word ++ '\n' :: rest)) =
      ⟨start, word, true⟩ ::
        layout (start + Text.byteLength word + 1) (Text.splitLines rest) := by
  rw [Text.splitLines_append unbroken]
  cases lines : Text.splitLines rest with
  | nil => exact absurd lines (Text.splitLines_ne_nil rest)
  | cons next more => rw [layout]

end PhysicalLine

/-- The line stands between two texts, the first of which starts at byte `origin` and on line
`first`. -/
structure SourceLine.Between (line : SourceLine) (origin first : Nat) (before after : Text) :
    Prop where
  opens : Text.OpensLine before
  unbroken : '\n' ∉ line.text
  ends : Text.EndsLine line.terminated after
  start : line.start = origin + Text.byteLength before
  number : line.number = first + before.count '\n'

/-- A line behind another one is a line of the text that goes on behind the line feed. -/
theorem SourceLine.between_append_newline {line : SourceLine} {origin first : Nat}
    {word before after : Text} (unbroken : '\n' ∉ word) :
    line.Between origin first (word ++ '\n' :: before) after ↔
      line.Between (origin + Text.byteLength word + 1) (first + 1) before after := by
  have size : origin + Text.byteLength (word ++ '\n' :: before) =
      origin + Text.byteLength word + 1 + Text.byteLength before := by
    rw [Text.byteLength_append_newline]
    omega
  have count : first + (word ++ '\n' :: before).count '\n' = first + 1 + before.count '\n' := by
    rw [List.count_append, List.count_eq_zero_of_not_mem unbroken, List.count_cons_self]
    omega
  constructor
  · rintro ⟨opens, clean, ends, start, number⟩
    exact ⟨(Text.opensLine_append_newline word before).1 opens, clean, ends, start.trans size,
      number.trans count⟩
  · rintro ⟨opens, clean, ends, start, number⟩
    exact ⟨(Text.opensLine_append_newline word before).2 opens, clean, ends, start.trans size.symm,
      number.trans count.symm⟩

namespace PhysicalLine

/-- The lines laid out for a text are all its lines, with their numbers. -/
theorem mem_numbered_layout_iff {text : Text} {origin first : Nat} {line : SourceLine} :
    line ∈ numbered first (layout origin (Text.splitLines text)) ↔
      ∃ before after, text = before ++ line.text ++ after ∧
        line.Between origin first before after := by
  obtain ⟨⟨start, content, terminated⟩, number⟩ := line
  induction text using Text.lines_induction generalizing origin first with
  | last word clean =>
    rw [layout_of_not_mem clean, numbered_cons, numbered_nil, List.mem_singleton]
    constructor
    · rintro ⟨⟩
      exact ⟨[], [], by simp, .inl rfl, clean, rfl, rfl, rfl⟩
    · rintro ⟨before, after, rfl, opens, unbroken, ends, place, count⟩
      simp only [List.mem_append, not_or] at clean
      obtain rfl := opens.eq_nil clean.1.1
      cases terminated with
      | true => exact absurd (List.mem_of_head? ends) clean.2
      | false =>
        obtain rfl : after = [] := ends
        simp_all
  | line word rest clean ih =>
    rw [layout_append clean, numbered_cons, List.mem_cons, ih]
    constructor
    · rintro (⟨⟨⟩⟩ | ⟨before, after, rfl, between⟩)
      · exact ⟨[], '\n' :: rest, rfl, .inl rfl, clean, rfl, rfl, rfl⟩
      · exact ⟨word ++ '\n' :: before, after, by simp,
          (SourceLine.between_append_newline clean).2 between⟩
    · rintro ⟨before, after, divided, between⟩
      by_cases broken : '\n' ∈ before
      · rw [List.append_assoc] at divided
        obtain ⟨more, rfl, tail⟩ := Text.exists_of_newline_mem clean divided broken
        refine .inr ⟨more, after, by rw [tail, List.append_assoc], ?_⟩
        exact (SourceLine.between_append_newline clean).1 between
      · obtain ⟨opens, unbroken, ends, place, count⟩ := between
        obtain rfl := opens.eq_nil broken
        -- Both lines go up to the first line feed of the text.
        have whole : word = content := by
          have front := congrArg (List.takeWhile (· ≠ '\n')) divided
          have newline : Text.EndsLine true ('\n' :: rest) := rfl
          rw [Text.takeWhile_line clean newline] at front
          exact front.trans (Text.takeWhile_line unbroken ends)
        subst whole
        have behind : '\n' :: rest = after := List.append_cancel_left divided
        cases terminated with
        | false =>
          have nothing : after = [] := ends
          rw [nothing] at behind
          contradiction
        | true => simp_all

/-- The next line starts behind the line feed of this one. -/
def Follows (line next : PhysicalLine) : Prop := next.start = line.stop + 1

/-- Lines are laid out one behind the other. -/
theorem isChain_layout (start : Nat) (texts : List Text) :
    (layout start texts).IsChain Follows := by
  fun_induction layout start texts with
  | case1 => exact .nil
  | case2 start text => exact .singleton _
  | case3 start text next rest ih =>
    cases rest with
    | nil => exact .cons_cons rfl ih
    | cons third more => exact .cons_cons rfl ih

/-- Every later line starts behind the end of an earlier one. -/
theorem stop_lt_of_mem {line other : PhysicalLine} {rest : List PhysicalLine}
    (chain : (line :: rest).IsChain Follows) (later : other ∈ rest) : line.stop < other.start := by
  induction rest generalizing line with
  | nil => contradiction
  | cons next more ih =>
    obtain ⟨follows, onward⟩ := List.isChain_cons_cons.1 chain
    unfold Follows at follows
    rcases List.mem_cons.1 later with rfl | further
    · omega
    · have bound := ih onward further
      unfold stop at bound
      omega

/-- Lines laid out one behind the other are in the order of their starts. -/
theorem pairwise_numbered {lines : List PhysicalLine} (chain : lines.IsChain Follows)
    (first : Nat) :
    (numbered first lines).Pairwise fun left right => left.start < right.start := by
  induction lines generalizing first with
  | nil => exact .nil
  | cons line rest ih =>
    rw [numbered_cons]
    apply List.Pairwise.cons
    · intro other member
      have later := stop_lt_of_mem chain (mem_of_mem_numbered member)
      exact Nat.lt_of_le_of_lt (Nat.le_add_right _ _) later
    · exact ih chain.tail (first + 1)

end PhysicalLine

end Offside
