import Offside.Proofs.Source.ListedLines

/-! # The lines a span touches

A line feed belongs to the line it ends. A span touches the lines that own a character of it, or the
line that holds its place if it has none. Those lines are listed for it, and one more: where the
last character of the span is a line feed, the line behind it is listed too, provided that another
line feed ends that line. A line behind the span that the end of the text ends is left out.
-/

namespace Offside

/-- Whether the line owns the character at a position: one of its own, or the line feed that ends
it. -/
def PhysicalLine.owns (line : PhysicalLine) (position : Nat) : Bool :=
  line.start ≤ position && (position < line.stop || (position = line.stop && line.terminated))

namespace Source

/-- The line is one of the source: it is found between a place where lines start and one where they
end, and it has the number of line feeds before it, counting from one. -/
def HasLine (source : Source) (line : SourceLine) : Prop :=
  ∃ before after, source.text = before ++ line.text ++ after ∧ line.Between 0 1 before after

/-- The line owns a character of the span, or holds the place of a span that has none. -/
def Touches (source : Source) (span : Span) (line : PhysicalLine) : Prop :=
  if span.length = 0 then
    line.start ≤ span.start ∧ span.start ≤ line.stop
  else
    ∃ offset < span.length, ∃ position, source.advance span.start offset = .ok position ∧
      line.owns position = true

/-- The line starts where a span with characters ends, and a line feed ends the line. -/
def FollowedBy (source : Source) (span : Span) (line : PhysicalLine) : Prop :=
  0 < span.length ∧ source.advance span.start span.length = .ok line.start ∧ line.terminated = true

/-- The last character of the span is a line feed, and another one comes later. -/
def EndsAtTerminatedLine (source : Source) (span : Span) : Prop :=
  ∃ before covered after, source.text = before ++ covered ++ after ∧
    Text.byteLength before = span.start ∧ covered.length = span.length ∧
    covered.getLast? = some '\n' ∧ '\n' ∈ after

/-- A line that no line feed ends goes on to the end of the source. -/
theorem HasLine.stop_eq {source : Source} {line : SourceLine} (present : source.HasLine line)
    (unterminated : line.terminated = false) : line.stop = source.byteSize := by
  obtain ⟨before, after, divided, between⟩ := present
  have ends := between.ends
  rw [unterminated] at ends
  obtain rfl : after = [] := ends
  rw [PhysicalLine.stop, between.start, byteSize, divided]
  simp

/-- From its start to its end a line owns every place of the source but the last. -/
theorem HasLine.owns {source : Source} {line : SourceLine} (present : source.HasLine line)
    {position : Nat} (low : line.start ≤ position) (high : position ≤ line.stop)
    (inside : position < source.byteSize) : line.owns position = true := by
  cases ended : line.terminated with
  | true =>
    simp only [PhysicalLine.owns, ended, Bool.and_true, Bool.and_eq_true, Bool.or_eq_true,
      decide_eq_true_eq]
    omega
  | false =>
    have final := present.stop_eq ended
    simp only [PhysicalLine.owns, Bool.and_eq_true, Bool.or_eq_true, decide_eq_true_eq]
    omega

section Divided

variable {source : Source} {span : Span} {before rest : Text}

theorem mem_numbered_iff {line : SourceLine} :
    line ∈ PhysicalLine.numbered 1 source.physicalLines ↔ source.HasLine line :=
  PhysicalLine.mem_numbered_layout_iff

theorem followedBy_iff (divided : source.text = before ++ rest)
    (start : span.start = Text.byteLength before) {line : PhysicalLine} :
    source.FollowedBy span line ↔ 0 < span.length ∧
      line.start = Text.byteLength before + Text.byteLength (rest.take span.length) ∧
      line.terminated = true := by
  rw [FollowedBy, start, advance_byteLength divided, Except.ok.injEq, eq_comm (a := line.start)]

theorem byteLength_take_le_byteSize (divided : source.text = before ++ rest) (length : Nat) :
    Text.byteLength before + Text.byteLength (rest.take length) ≤ source.byteSize := by
  have joined := Text.byteLength_append (rest.take length) (rest.drop length)
  rw [List.take_append_drop] at joined
  rw [byteSize, divided, Text.byteLength_append]
  omega

/-- Every place from the start of a stretch of characters to before its end is the place of one of
them. -/
theorem exists_advance {front tail : Text} {length : Nat} (divided : source.text = before ++ rest)
    (around : source.text = front ++ tail)
    (low : Text.byteLength before ≤ Text.byteLength front)
    (high : Text.byteLength front < Text.byteLength before + Text.byteLength (rest.take length)) :
    ∃ offset < length,
      source.advance (Text.byteLength before) offset = .ok (Text.byteLength front) := by
  obtain ⟨passed, rfl, rfl⟩ := Text.exists_of_byteLength_le (divided.symm.trans around) low
  rw [Text.byteLength_append] at high ⊢
  have taken : (passed ++ tail).take passed.length = passed := List.take_left
  refine ⟨passed.length, ?_, by rw [advance_byteLength divided, taken]⟩
  by_contra more
  rcases Nat.lt_or_eq_of_le (Nat.le_of_not_lt more) with shorter | equal
  · have size := Text.byteLength_take_lt shorter
      (show passed.length ≤ (passed ++ tail).length by simp)
    rw [taken] at size
    omega
  · rw [equal, taken] at high
    omega

/-- A span with characters touches the lines that start before its end and end behind its start. -/
theorem touches_iff (divided : source.text = before ++ rest)
    (start : span.start = Text.byteLength before) (fits : span.length ≤ rest.length)
    (positive : 0 < span.length) {line : SourceLine} (present : source.HasLine line) :
    source.Touches span line.toPhysicalLine ↔ Text.byteLength before ≤ line.stop ∧
      line.start < Text.byteLength before + Text.byteLength (rest.take span.length) := by
  rw [Touches, if_neg (by omega), start]
  constructor
  · rintro ⟨offset, less, position, advanced, owned⟩
    rw [advance_byteLength divided] at advanced
    obtain rfl := Except.ok.inj advanced
    have size := Text.byteLength_take_lt less fits
    unfold PhysicalLine.owns at owned
    simp only [Bool.and_eq_true, Bool.or_eq_true, decide_eq_true_eq] at owned
    omega
  · rintro ⟨reaches, starts⟩
    have total := byteLength_take_le_byteSize divided span.length
    -- The line owns the start of the span, or the span has the start of the line.
    by_cases within : line.start ≤ Text.byteLength before
    · have inside : Text.byteLength before <
          Text.byteLength before + Text.byteLength (rest.take span.length) := by
        have size := Text.byteLength_take_lt positive fits
        omega
      obtain ⟨offset, less, advanced⟩ := exists_advance divided divided (Nat.le_refl _) inside
      exact ⟨offset, less, _, advanced, present.owns within reaches (by omega)⟩
    · have owned := present.owns (Nat.le_refl _) (Nat.le_add_right _ _) (by omega)
      obtain ⟨front, after, around, between⟩ := present
      have place : line.start = Text.byteLength front := between.start.trans (Nat.zero_add _)
      rw [List.append_assoc] at around
      obtain ⟨offset, less, advanced⟩ := exists_advance divided around (by omega) (place ▸ starts)
      exact ⟨offset, less, _, advanced, place ▸ owned⟩

/-- A span that a terminated line follows ends with a line feed, and another one comes later. -/
theorem endsAtTerminatedLine_of_followedBy (divided : source.text = before ++ rest)
    (start : span.start = Text.byteLength before) (fits : span.length ≤ rest.length)
    {line : SourceLine} (present : source.HasLine line)
    (followed : source.FollowedBy span line.toPhysicalLine) : source.EndsAtTerminatedLine span := by
  obtain ⟨front, after, around, between⟩ := present
  obtain ⟨positive, place, terminated⟩ := (followedBy_iff divided start).1 followed
  have regrouped : source.text = before ++ rest.take span.length ++ rest.drop span.length := by
    rw [List.append_assoc, List.take_append_drop, divided]
  have same : Text.byteLength (before ++ rest.take span.length) = Text.byteLength front := by
    rw [Text.byteLength_append, ← place, between.start, Nat.zero_add]
  rw [List.append_assoc] at around
  obtain ⟨rfl, tail⟩ := Text.append_inj_of_byteLength_eq (regrouped.symm.trans around) same
  have length : (rest.take span.length).length = span.length := List.length_take_of_le fits
  have nonempty : rest.take span.length ≠ [] := by
    intro empty
    rw [empty, List.length_nil] at length
    omega
  refine ⟨before, rest.take span.length, rest.drop span.length, regrouped, start.symm, length,
    ?_, ?_⟩
  · rcases between.opens with empty | ended
    · exact absurd (List.append_eq_nil_iff.1 empty).2 nonempty
    · rwa [List.getLast?_append_of_ne_nil _ nonempty] at ended
  · have ends := between.ends
    rw [terminated] at ends
    rw [tail]
    exact List.mem_append_right _ (List.mem_of_head? ends)

/-- A terminated line follows every span that ends with a line feed before another one. -/
theorem EndsAtTerminatedLine.exists_followedBy (ends : source.EndsAtTerminatedLine span) :
    ∃ line, source.HasLine line ∧ source.FollowedBy span line.toPhysicalLine := by
  obtain ⟨before, covered, after, divided, start, length, ended, later⟩ := ends
  obtain ⟨word, more, rfl, unbroken⟩ := List.eq_append_cons_of_mem later
  have nonempty : covered ≠ [] := by
    rintro rfl
    contradiction
  refine ⟨⟨⟨Text.byteLength (before ++ covered), word, true⟩,
    1 + (before ++ covered).count '\n'⟩, ⟨before ++ covered, '\n' :: more, ?_, ?_⟩, ?_⟩
  · rw [divided]
    simp
  · refine ⟨.inr ?_, unbroken, rfl, (Nat.zero_add _).symm, rfl⟩
    rw [List.getLast?_append_of_ne_nil _ nonempty]
    exact ended
  · rw [List.append_assoc] at divided
    rw [followedBy_iff divided start.symm, ← length, List.take_left]
    exact ⟨List.length_pos_iff.2 nonempty, Text.byteLength_append .., rfl⟩

/-- The lines listed for a span are those it touches, and the line that follows it. -/
theorem listedFor_iff (divided : source.text = before ++ rest)
    (start : span.start = Text.byteLength before) (fits : span.length ≤ rest.length)
    {line : SourceLine} (present : source.HasLine line) :
    line.listedFor (Text.byteLength before)
        (Text.byteLength before + Text.byteLength (rest.take span.length)) = true ↔
      source.Touches span line.toPhysicalLine ∨ source.FollowedBy span line.toPhysicalLine := by
  rw [followedBy_iff divided start]
  simp only [PhysicalLine.listedFor, PhysicalLine.reachedBy, Bool.and_eq_true, Bool.or_eq_true,
    decide_eq_true_eq]
  have order : line.start ≤ line.stop := Nat.le_add_right _ _
  rcases Nat.eq_zero_or_pos span.length with empty | positive
  · rw [Touches, if_pos empty, start, empty, List.take_zero, Text.byteLength_nil]
    omega
  · rw [touches_iff divided start fits positive present]
    have size := Text.byteLength_take_lt positive fits
    constructor
    · rintro ⟨reaches, within | starts | ⟨behind, terminated⟩⟩
      · exact .inl ⟨reaches, by omega⟩
      · exact .inl ⟨reaches, starts⟩
      · exact .inr ⟨positive, behind, terminated⟩
    · rintro (⟨reaches, starts⟩ | ⟨_, behind, terminated⟩)
      · exact ⟨reaches, .inr (.inl starts)⟩
      · exact ⟨by omega, .inr (.inr ⟨behind, terminated⟩)⟩

/-- A span does not touch the line that follows it. -/
theorem not_touches_of_followedBy (divided : source.text = before ++ rest)
    (start : span.start = Text.byteLength before) (fits : span.length ≤ rest.length)
    {line : SourceLine} (present : source.HasLine line)
    (followed : source.FollowedBy span line.toPhysicalLine) :
    ¬ source.Touches span line.toPhysicalLine := by
  obtain ⟨positive, behind, _⟩ := (followedBy_iff divided start).1 followed
  rw [touches_iff divided start fits positive present, behind]
  omega

theorem exists_of_contains (contained : source.contains span.start span.length = true) :
    ∃ before rest, source.text = before ++ rest ∧ span.start = Text.byteLength before ∧
      span.length ≤ rest.length := by
  unfold contains at contained
  split at contained
  · rename_i before rest cut
    obtain ⟨divided, size⟩ := Text.eq_append_of_splitAtByte? cut
    exact ⟨before, rest, divided, size.symm, by simpa using contained⟩
  · contradiction

end Divided

/-- The lines listed for a span, when they are these. -/
structure Lists (source : Source) (span : Span) (listed : List SourceLine) : Prop where
  /-- The lines stand in their order, and none of them twice. -/
  ordered : listed.Pairwise fun left right => left.start < right.start
  /-- They are the lines that the span touches and the terminated line that follows it. -/
  members : ∀ line, line ∈ listed ↔ source.HasLine line ∧
    (source.Touches span line.toPhysicalLine ∨ source.FollowedBy span line.toPhysicalLine)
  /-- For a span without characters there is one. -/
  single : span.length = 0 → ∃ line, listed = [line]
  /-- They are the lines that the span touches, and no other, unless the span ends with a line feed
  and another one comes later. -/
  exact_iff : (∀ line, line ∈ listed ↔ source.HasLine line ∧
    source.Touches span line.toPhysicalLine) ↔ ¬ source.EndsAtTerminatedLine span

/-- In a source of fewer characters than the largest counter value, the lines of every span that
lies in it and has the number of its own line can be listed. -/
theorem exists_listing (source : Source) (span : Span)
    (contained : source.contains span.start span.length = true)
    (located : (source.lineColumn span.start).map Prod.fst = .ok span.line)
    (short : source.text.length < Text.counterLimit) :
    ∃ listed, source.lines span = .ok listed ∧ source.Lists span listed := by
  have countable := Text.countable_of_length_lt short
  obtain ⟨before, rest, divided, start, fits⟩ := exists_of_contains contained
  have line : span.line = before.count '\n' + 1 := by
    rw [divided] at countable
    rw [lineColumn, start, splitAt?_byteLength divided] at located
    dsimp only at located
    rw [countable.lineColumn] at located
    exact (Except.ok.inj located).symm
  have members : ∀ line, line ∈ (PhysicalLine.numbered 1 source.physicalLines).filter (fun line =>
      line.listedFor (Text.byteLength before)
        (Text.byteLength before + Text.byteLength (rest.take span.length))) ↔
      source.HasLine line ∧
        (source.Touches span line.toPhysicalLine ∨ source.FollowedBy span line.toPhysicalLine) := by
    intro line
    rw [List.mem_filter, mem_numbered_iff]
    apply and_congr_right
    intro present
    exact listedFor_iff divided start fits present
  refine ⟨_, lines_eq_filter countable divided start line fits, ?_, members, ?_, ?_⟩
  · exact (PhysicalLine.pairwise_numbered source.isChain_physicalLines 1).filter _
  · intro empty
    rw [empty, List.take_zero, Text.byteLength_nil, Nat.add_zero]
    exact exists_listed_at divided
  · constructor
    · intro precise ends
      obtain ⟨line, present, followed⟩ := ends.exists_followedBy
      have touched := ((precise line).1 ((members line).2 ⟨present, .inr followed⟩)).2
      exact not_touches_of_followedBy divided start fits present followed touched
    · intro alone line
      rw [members]
      apply and_congr_right
      intro present
      apply or_iff_left
      intro followed
      exact alone (endsAtTerminatedLine_of_followedBy divided start fits present followed)

/-- The span covers the second line with its line feed, and the end of the text ends the third. -/
theorem exists_listing_inner :
    let source := Source.ofText ['é', '\n', 'b', '\n', 'c']
    let span : Span := ⟨3, 2, 2, 1⟩
    source.contains span.start span.length = true ∧
      (source.lineColumn span.start).map Prod.fst = .ok span.line ∧
      source.text.length < Text.counterLimit ∧
      ∃ listed, source.lines span = .ok listed ∧ source.Lists span listed :=
  ⟨by decide, by decide, by decide,
    exists_listing _ _ (by decide) (by decide) (by decide)⟩

/-- The span covers the first line with its line feed, and a line feed ends the second, which is
listed although the span does not touch it. -/
theorem lines_untouched :
    let source := Source.ofText ['a', '\n', 'b', '\n']
    let span : Span := ⟨0, 2, 1, 1⟩
    source.contains span.start span.length = true ∧
      (source.lineColumn span.start).map Prod.fst = .ok span.line ∧
      source.text.length < Text.counterLimit ∧
      ∃ listed line, source.lines span = .ok listed ∧ line ∈ listed ∧ source.HasLine line ∧
        ¬ source.Touches span line.toPhysicalLine := by
  intro source span
  have present : source.HasLine ⟨⟨2, ['b'], true⟩, 2⟩ :=
    ⟨['a', '\n'], ['\n'], rfl, .inr rfl, by decide, rfl, rfl, rfl⟩
  have divided : source.text = [] ++ source.text := rfl
  have followed : source.FollowedBy span ⟨2, ['b'], true⟩ := ⟨by decide, rfl, rfl⟩
  refine ⟨by decide, by decide, by decide, [⟨⟨0, ['a'], true⟩, 1⟩, ⟨⟨2, ['b'], true⟩, 2⟩],
    ⟨⟨2, ['b'], true⟩, 2⟩, rfl, by simp, present, ?_⟩
  exact not_touches_of_followedBy divided rfl (by decide) present followed

end Source

end Offside
