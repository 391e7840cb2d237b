import Offside.Proofs.Source.TouchedLines

/-! # The walk from line to line

The lines listed for a span are found by a walk that starts in the line of the span's start and
decides at each line feed whether to go on. Here the walk is given its closed form: of all the lines
of the source, leave out as many as there are line feeds before the span, and of the others take one
more than there are line feeds in the span. It is one fewer where the last line feed of the text is
the last character of the span, for then nothing stands behind it that could be a line to list.
-/

namespace Offside

namespace Text

/-- A text goes up to the start of its last line, and ends with that line. -/
theorem exists_opensLine (before : Text) :
    ∃ opening head, before = opening ++ head ∧ OpensLine opening ∧ '\n' ∉ head := by
  induction before using lines_induction with
  | last word clean => exact ⟨[], word, rfl, .inl rfl, clean⟩
  | line word rest clean ih =>
    obtain ⟨opening, head, rfl, opens, unbroken⟩ := ih
    exact ⟨word ++ '\n' :: opening, head, by simp, (opensLine_append_newline word opening).2 opens,
      unbroken⟩

theorem count_append_of_not_mem (before : Text) {word : Text} (unbroken : '\n' ∉ word) :
    (before ++ word).count '\n' = before.count '\n' := by
  rw [List.count_append, List.count_eq_zero_of_not_mem unbroken, Nat.add_zero]

/-- What goes up to the first line feed behind a word has the word in front. -/
theorem takeWhile_append_of_not_mem {word : Text} (unbroken : '\n' ∉ word) (rest : Text) :
    (word ++ rest).takeWhile (· ≠ '\n') = word ++ rest.takeWhile (· ≠ '\n') := by
  apply List.takeWhile_append_of_pos
  intro c member
  apply decide_eq_true
  rintro rfl
  exact unbroken member

/-- The number of lines listed for a stretch of text with another text behind it. -/
def listedCount (covered after : Text) : Nat :=
  if 0 < covered.count '\n' ∧ covered.getLast? = some '\n' ∧ '\n' ∉ after then
    covered.count '\n'
  else
    covered.count '\n' + 1

theorem listedCount_of_not_mem {word : Text} (unbroken : '\n' ∉ word) (after : Text) :
    listedCount word after = 1 := by
  rw [listedCount, List.count_eq_zero_of_not_mem unbroken, if_neg (by omega)]

theorem listedCount_pos (covered after : Text) : 0 < listedCount covered after := by
  unfold listedCount
  split <;> omega

/-- Behind a line feed the walk goes on as if it had started there, unless the text ends there, or
another line of it that no line feed ends. -/
theorem listedCount_append_newline {word : Text} (unbroken : '\n' ∉ word) (rest after : Text) :
    listedCount (word ++ '\n' :: rest) after =
      if rest = [] ∧ '\n' ∉ after then 1 else listedCount rest after + 1 := by
  have count : (word ++ '\n' :: rest).count '\n' = rest.count '\n' + 1 := by
    rw [List.count_append, List.count_eq_zero_of_not_mem unbroken, List.count_cons_self,
      Nat.zero_add]
  unfold listedCount
  rw [count]
  cases rest with
  | nil => by_cases final : '\n' ∈ after <;> simp [final]
  | cons c more =>
    have last : (word ++ '\n' :: c :: more).getLast? = (c :: more).getLast? := by
      rw [List.getLast?_append_of_ne_nil _ (by simp), List.getLast?_cons_cons]
    have positive : (c :: more).getLast? = some '\n' → 0 < (c :: more).count '\n' :=
      fun ended => List.count_pos_iff.2 (List.mem_of_getLast? ended)
    rw [last, if_neg (show ¬ (c :: more = [] ∧ '\n' ∉ after) by simp)]
    by_cases ends : (c :: more).getLast? = some '\n' ∧ '\n' ∉ after
    · rw [if_pos ⟨Nat.succ_pos _, ends⟩, if_pos ⟨positive ends.1, ends⟩]
    · rw [if_neg (fun both => ends both.2), if_neg (fun both => ends both.2)]

/-- Every character of a stretch of text stands on a line listed for it. -/
theorem count_take_lt_listedCount {covered : Text} {offset : Nat} (inside : offset < covered.length)
    (after : Text) : (covered.take offset).count '\n' < listedCount covered after := by
  have joined : covered.count '\n' =
      (covered.take offset).count '\n' + (covered.drop offset).count '\n' := by
    rw [← List.count_append, List.take_append_drop]
  unfold listedCount
  split
  · rename_i ends
    -- The last character is a line feed, and it stands behind the ones before `offset`.
    have last : '\n' ∈ covered.drop offset := by
      apply List.mem_of_getLast?
      rw [List.getLast?_drop, if_neg (by omega)]
      exact ends.2.1
    have positive := List.count_pos_iff.2 last
    omega
  · omega

end Text

namespace PhysicalLine

theorem map_toPhysicalLine_numbered (first : Nat) (lines : List PhysicalLine) :
    (numbered first lines).map SourceLine.toPhysicalLine = lines := by
  induction lines generalizing first with
  | nil => rfl
  | cons line rest ih => rw [numbered_cons, List.map_cons, ih]

/-- Every line is among the numbered ones. -/
theorem exists_mem_numbered (first : Nat) {lines : List PhysicalLine} {line : PhysicalLine}
    (member : line ∈ lines) : ∃ other ∈ numbered first lines, other.toPhysicalLine = line := by
  rw [← map_toPhysicalLine_numbered first lines] at member
  exact List.mem_map.1 member

theorem getElem?_numbered (first : Nat) (lines : List PhysicalLine) (index : Nat) :
    (numbered first lines)[index]? = lines[index]?.map fun line => ⟨line, first + index⟩ := by
  unfold numbered
  rw [List.getElem?_mapIdx]

/-- The lines of a text begin with what stands before its first line feed. -/
theorem exists_layout_eq_cons (start : Nat) (text : Text) :
    ∃ rest, layout start (Text.splitLines text) =
      ⟨start, text.takeWhile (· ≠ '\n'), decide ('\n' ∈ text)⟩ :: rest := by
  induction text using Text.lines_induction with
  | last word clean =>
    have whole := Text.takeWhile_append_of_not_mem clean []
    rw [List.append_nil, List.takeWhile_nil, List.append_nil] at whole
    exact ⟨[], by rw [layout_of_not_mem clean, whole, decide_eq_false clean]⟩
  | line word rest clean =>
    have front := Text.takeWhile_append_of_not_mem clean ('\n' :: rest)
    rw [List.takeWhile_cons_of_neg (by simp), List.append_nil] at front
    exact ⟨_, by rw [layout_append clean, front, decide_eq_true (by simp)]⟩

/-- The lines of a text from a line start on are those of what stands behind it. -/
theorem drop_layout {opening : Text} (opens : Text.OpensLine opening) (origin : Nat) (rest : Text) :
    (layout origin (Text.splitLines (opening ++ rest))).drop (opening.count '\n') =
      layout (origin + Text.byteLength opening) (Text.splitLines rest) := by
  induction opening using Text.lines_induction generalizing origin with
  | last word clean =>
    obtain rfl := opens.eq_nil clean
    rfl
  | line word more clean ih =>
    have count : (word ++ '\n' :: more).count '\n' = more.count '\n' + 1 := by
      rw [List.count_append, List.count_eq_zero_of_not_mem clean, List.count_cons_self,
        Nat.zero_add]
    rw [List.append_assoc, List.cons_append, layout_append clean, count, List.drop_succ_cons,
      ih ((Text.opensLine_append_newline word more).1 opens), Text.byteLength_append_newline]
    congr 1
    omega

/-- The walk through a text that starts behind `head` on its first line, up to behind `covered`. -/
theorem listedUpTo_layout {head : Text} (unbroken : '\n' ∉ head) (start : Nat)
    (covered after : Text) :
    listedUpTo (start + Text.byteLength head + Text.byteLength covered)
        (layout start (Text.splitLines (head ++ covered ++ after))) =
      (layout start (Text.splitLines (head ++ covered ++ after))).take
        (Text.listedCount covered after) := by
  induction covered using Text.lines_induction generalizing start head with
  | last word clean =>
    obtain ⟨rest, shape⟩ := exists_layout_eq_cons start (head ++ word ++ after)
    rw [shape, Text.takeWhile_append_of_not_mem (by simp [unbroken, clean]),
      listedUpTo_eq_singleton,
      Text.listedCount_of_not_mem clean, List.take_succ_cons, List.take_zero]
    simp only [stop, Text.byteLength_append]
    omega
  | line word rest clean ih =>
    have regrouped : head ++ (word ++ '\n' :: rest) ++ after =
        head ++ word ++ '\n' :: (rest ++ after) := by simp
    have onward := ih List.not_mem_nil (start + Text.byteLength (head ++ word) + 1)
    obtain ⟨lines, shape⟩ :=
      exists_layout_eq_cons (start + Text.byteLength (head ++ word) + 1) (rest ++ after)
    have stop_eq : start + Text.byteLength head + Text.byteLength (word ++ '\n' :: rest) =
        start + Text.byteLength (head ++ word) + 1 + Text.byteLength rest := by
      rw [Text.byteLength_append_newline, Text.byteLength_append]
      omega
    rw [List.nil_append, Text.byteLength_nil, Nat.add_zero, shape] at onward
    rw [regrouped, layout_append (by simp [unbroken, clean]), shape, stop_eq, listedUpTo,
      Text.listedCount_append_newline clean]
    have passed : start + Text.byteLength (head ++ word) <
        start + Text.byteLength (head ++ word) + 1 + Text.byteLength rest := by omega
    by_cases final : rest = [] ∧ '\n' ∉ after
    · obtain ⟨rfl, last⟩ := final
      rw [if_neg (by simp [last]), if_pos ⟨rfl, last⟩, List.take_succ_cons, List.take_zero]
    · have goesOn : '\n' ∈ rest ++ after ∨ 0 < Text.byteLength rest := by
        by_cases nothing : rest = []
        · exact .inl (List.mem_append_right _ (by simpa [nothing] using final))
        · exact .inr (Nat.pos_of_ne_zero (mt Text.byteLength_eq_zero_iff.1 nothing))
      rw [if_pos ⟨passed, by simpa using goesOn⟩, if_neg final, List.take_succ_cons, onward]

end PhysicalLine

namespace Source

/-- The span covers this part of the source, with these texts before and behind it. -/
structure Divides (source : Source) (span : Span) (before covered after : Text) : Prop where
  divided : source.text = before ++ covered ++ after
  start : span.start = Text.byteLength before
  length : span.length = covered.length

section Divided

variable {source : Source} {span : Span} {before covered after : Text}

/-- A span lies in a source exactly if it divides it. -/
theorem contains_iff_divides :
    source.contains span.start span.length = true ↔
      ∃ before covered after, source.Divides span before covered after := by
  constructor
  · intro contained
    obtain ⟨before, rest, divided, start, fits⟩ := exists_of_contains contained
    refine ⟨before, rest.take span.length, rest.drop span.length, ?_, start, ?_⟩
    · rw [List.append_assoc, List.take_append_drop, divided]
    · rw [List.length_take_of_le fits]
  · rintro ⟨before, covered, after, divided, start, length⟩
    rw [List.append_assoc] at divided
    rw [start, contains_byteLength divided, length, List.length_append]
    omega

theorem Divides.substring_eq (divides : source.Divides span before covered after) :
    source.substring span = .ok covered := by
  have behind := restFrom_eq_ok_iff.2
    ⟨before, divides.divided.trans (List.append_assoc ..), divides.start.symm⟩
  rw [substring, behind, divides.length]
  exact congrArg Except.ok List.take_left

/-- The lines of a span in its own place can be numbered in a countable source. -/
theorem Divides.counted (divides : source.Divides span before covered after)
    (countable : Text.Countable source.text) (line : span.line = before.count '\n' + 1) :
    span.line + covered.count '\n' ≤ Text.counterLimit := by
  have few := (countable _ _ divides.divided).1
  rw [List.count_append] at few
  omega

/-- Whether the last character of a span is a line feed with another one behind it is seen from the
one division of the source by the span. -/
theorem Divides.endsAtTerminatedLine_iff (divides : source.Divides span before covered after) :
    source.EndsAtTerminatedLine span ↔ covered.getLast? = some '\n' ∧ '\n' ∈ after := by
  constructor
  · rintro ⟨front, inner, behind, divided, start, length, ended, later⟩
    have same := divided.symm.trans divides.divided
    rw [List.append_assoc, List.append_assoc] at same
    obtain ⟨rfl, tail⟩ := Text.append_inj_of_byteLength_eq same (start.trans divides.start)
    obtain ⟨rfl, rfl⟩ := List.append_inj tail (length.trans divides.length)
    exact ⟨ended, later⟩
  · rintro ⟨ended, later⟩
    exact ⟨before, covered, after, divides.divided, divides.start.symm, divides.length.symm, ended,
      later⟩

/-- The lines listed for a span in its own place are all touched by it, unless it ends with a line
feed and another one comes later. -/
theorem touches_listed_iff (countable : Text.Countable source.text)
    (divides : source.Divides span before covered after) (line : span.line = before.count '\n' + 1)
    {lines : List SourceLine} (listed : source.lines span = .ok lines) :
    (∀ line ∈ lines, source.Touches span line.toPhysicalLine) ↔
      ¬ source.EndsAtTerminatedLine span := by
  have divided : source.text = before ++ (covered ++ after) := by
    rw [divides.divided, List.append_assoc]
  have fits : span.length ≤ (covered ++ after).length := by
    rw [divides.length, List.length_append]
    exact Nat.le_add_right _ _
  rw [lines_eq_filter countable divided divides.start line fits] at listed
  obtain rfl := Except.ok.inj listed
  constructor
  · intro touched ends
    obtain ⟨line, present, followed⟩ := ends.exists_followedBy
    apply not_touches_of_followedBy divided divides.start fits present followed
    apply touched
    rw [List.mem_filter, mem_numbered_iff]
    exact ⟨present, (listedFor_iff divided divides.start fits present).2 (.inr followed)⟩
  · intro alone line member
    rw [List.mem_filter, mem_numbered_iff] at member
    obtain ⟨present, chosen⟩ := member
    rcases (listedFor_iff divided divides.start fits present).1 chosen with touched | followed
    · exact touched
    · exact absurd
        (endsAtTerminatedLine_of_followedBy divided divides.start fits present followed) alone

/-- The lines of a source from a line start on are those of what stands behind it. -/
theorem drop_physicalLines {opening rest : Text} (opens : Text.OpensLine opening)
    (divided : source.text = opening ++ rest) :
    source.physicalLines.drop (opening.count '\n') =
      PhysicalLine.layout (Text.byteLength opening) (Text.splitLines rest) := by
  have dropped := PhysicalLine.drop_layout opens 0 rest
  rwa [Nat.zero_add, ← divided] at dropped

/-- The line with as many lines before it as there are line feeds before a place holds the place. -/
theorem exists_line_at {front tail : Text} (divided : source.text = front ++ tail) :
    ∃ line, source.physicalLines[front.count '\n']? = some line ∧
      line.start ≤ Text.byteLength front ∧ Text.byteLength front ≤ line.stop := by
  obtain ⟨opening, head, rfl, opens, unbroken⟩ := Text.exists_opensLine front
  obtain ⟨rest, shape⟩ :=
    PhysicalLine.exists_layout_eq_cons (Text.byteLength opening) (head ++ tail)
  have dropped := drop_physicalLines opens (divided.trans (List.append_assoc ..))
  rw [shape, Text.takeWhile_append_of_not_mem unbroken] at dropped
  have here : source.physicalLines[(opening ++ head).count '\n']? =
      some ⟨Text.byteLength opening, head ++ tail.takeWhile (· ≠ '\n'),
        decide ('\n' ∈ head ++ tail)⟩ := by
    rw [Text.count_append_of_not_mem opening unbroken, ← List.head?_drop, dropped, List.head?_cons]
  refine ⟨_, here, ?_, ?_⟩
  · rw [Text.byteLength_append]
    exact Nat.le_add_right _ _
  · simp only [PhysicalLine.stop, Text.byteLength_append]
    omega

/-- Lines are dropped up to the one that holds the start of the span. -/
theorem dropWhile_physicalLines {front tail : Text} (divided : source.text = front ++ tail) :
    source.physicalLines.dropWhile (fun line => line.stop < Text.byteLength front) =
      source.physicalLines.drop (front.count '\n') := by
  have joined := List.takeWhile_append_dropWhile (l := source.physicalLines)
    (p := fun line => line.stop < Text.byteLength front)
  conv => rhs; arg 2; rw [← joined]
  rw [List.drop_left' (length_takeWhile_physicalLines divided)]

/-- The lines that the walk finds for a stretch of the source. -/
def walked (source : Source) (before covered after : Text) : List PhysicalLine :=
  (source.physicalLines.drop (before.count '\n')).take (Text.listedCount covered after)

/-- The walk starts with the line that `head` opens. -/
theorem walked_eq {opening head : Text} (opens : Text.OpensLine opening) (unbroken : '\n' ∉ head)
    (divided : source.text = opening ++ head ++ covered ++ after) :
    source.walked (opening ++ head) covered after =
      (PhysicalLine.layout (Text.byteLength opening)
        (Text.splitLines (head ++ covered ++ after))).take (Text.listedCount covered after) := by
  rw [walked, Text.count_append_of_not_mem opening unbroken, drop_physicalLines opens]
  rw [divided, List.append_assoc, List.append_assoc, List.append_assoc]

/-- The walk of a span that lies in the source fails only if the lines cannot be numbered. -/
theorem lines_eq_ite (divides : source.Divides span before covered after) :
    source.lines span =
      if span.line + covered.count '\n' ≤ Text.counterLimit then
        .ok (PhysicalLine.numbered span.line (source.walked before covered after))
      else
        .error .counterOverflow := by
  obtain ⟨divided, start, length⟩ := divides
  obtain ⟨opening, head, rfl, opens, unbroken⟩ := Text.exists_opensLine before
  have grouped : source.text = opening ++ head ++ (covered ++ after) := by
    rw [divided, List.append_assoc]
  have lines : source.physicalLines.dropWhile
      (fun line => line.stop < Text.byteLength (opening ++ head)) =
        PhysicalLine.layout (Text.byteLength opening)
          (Text.splitLines (head ++ covered ++ after)) := by
    rw [dropWhile_physicalLines grouped, Text.count_append_of_not_mem opening unbroken,
      drop_physicalLines opens]
    rw [grouped, List.append_assoc, List.append_assoc]
  have found := PhysicalLine.listedUpTo_layout unbroken (Text.byteLength opening) covered after
  rw [← walked_eq opens unbroken divided, ← lines, ← Text.byteLength_append] at found
  rw [Source.lines, start, splitAt?_byteLength grouped]
  dsimp only
  rw [if_neg (by rw [length, List.length_append]; omega), length, List.take_left, found]
  rfl

/-- The walk of a span that lies in the source, as long as the lines can be numbered. -/
theorem lines_eq_walked (divides : source.Divides span before covered after)
    (counted : span.line + covered.count '\n' ≤ Text.counterLimit) :
    source.lines span =
      .ok (PhysicalLine.numbered span.line (source.walked before covered after)) := by
  rw [lines_eq_ite divides, if_pos counted]

/-- A span that does not lie in the source is refused, and no other span is. -/
theorem lines_refused_iff :
    (source.lines span = .error (.spanStartsOutside source.path span) ∨
        source.lines span = .error (.spanRunsPast source.path span)) ↔
      source.contains span.start span.length = false := by
  unfold lines contains
  cases source.splitAt? span.start with
  | none => simp
  | some parts =>
    obtain ⟨before, rest⟩ := parts
    by_cases short : rest.length < span.length
    · simp [short]
    · have fits := Nat.le_of_not_lt short
      simp only [if_neg short, decide_eq_true fits]
      split <;> simp

end Divided

/-- What the walk from line to line finds for a span that covers `covered` between two texts. -/
structure Walk (source : Source) (span : Span) (before covered after : Text)
    (listed : List SourceLine) : Prop where
  nonempty : listed ≠ []
  /-- Numbers go up from the number that the span has for its line. The lines themselves are lines
  of the source, from the one behind as many line feeds as there are before the span on. -/
  present : ∀ index line, listed[index]? = some line → line.number = span.line + index ∧
    source.HasLine ⟨line.toPhysicalLine, before.count '\n' + 1 + index⟩
  /-- The first line holds the start of the span. -/
  first : ∀ line ∈ listed.head?, line.start ≤ span.start ∧ span.start ≤ line.stop
  /-- Each line stands directly behind the one before it. -/
  consecutive : (listed.map SourceLine.toPhysicalLine).IsChain PhysicalLine.Follows
  /-- Every character of the span belongs to one of the lines, or is the line feed that ends it. -/
  covering : ∀ offset < span.length, ∃ position line,
    source.advance span.start offset = .ok position ∧ line ∈ listed ∧ line.owns position = true
  /-- There is one line more than there are line feeds in the span, unless the last of all line
  feeds is its last character. -/
  length : listed.length =
    if 0 < covered.count '\n' ∧ covered.getLast? = some '\n' ∧ '\n' ∉ after then
      covered.count '\n'
    else
      covered.count '\n' + 1

section Walk

variable {source : Source} {span : Span} {before covered after : Text}

/-- A line that is listed is found among all lines, behind those that start before the span. -/
theorem getElem?_walked {index : Nat} (inside : index < Text.listedCount covered after) :
    (source.walked before covered after)[index]? =
      source.physicalLines[before.count '\n' + index]? := by
  rw [walked, List.getElem?_take_of_lt inside, List.getElem?_drop]

theorem hasLine_of_getElem? {line : PhysicalLine} {index : Nat}
    (found : source.physicalLines[index]? = some line) : source.HasLine ⟨line, 1 + index⟩ := by
  apply mem_numbered_iff.1
  apply List.mem_of_getElem? (i := index)
  rw [PhysicalLine.getElem?_numbered, found, Option.map_some]

/-- Each character of a span is owned by a line that is listed for it. -/
theorem exists_owner (divides : source.Divides span before covered after) {offset : Nat}
    (inside : offset < span.length) :
    ∃ position line, source.advance span.start offset = .ok position ∧
      line ∈ source.walked before covered after ∧
      line.owns position = true := by
  obtain ⟨divided, start, length⟩ := divides
  rw [length] at inside
  have grouped : source.text = before ++ (covered ++ after) := by rw [divided, List.append_assoc]
  have cut : source.text = before ++ covered.take offset ++ (covered.drop offset ++ after) :=
    grouped.trans (Text.append_cut ..)
  have few := Text.count_take_lt_listedCount inside after
  obtain ⟨line, found, low, high⟩ := exists_line_at cut
  rw [List.count_append] at found
  refine ⟨Text.byteLength (before ++ covered.take offset), line, ?_, ?_, ?_⟩
  · rw [start, advance_byteLength grouped, List.take_append_of_le_length (Nat.le_of_lt inside),
      Text.byteLength_append]
  · apply List.mem_of_getElem?
    rw [getElem?_walked few, found]
  · apply (hasLine_of_getElem? found).owns low high
    rw [byteSize, cut, Text.byteLength_append _ (_ ++ _)]
    have more : covered.drop offset ++ after ≠ [] := by simp [inside]
    have positive := Nat.pos_of_ne_zero (mt Text.byteLength_eq_zero_iff.1 more)
    omega

/-- The lines that are listed are as many as they should be: the source has them all. -/
theorem length_walked (divides : source.Divides span before covered after) :
    (source.walked before covered after).length = Text.listedCount covered after := by
  have few : Text.listedCount covered after ≤ covered.count '\n' + 1 := by
    unfold Text.listedCount
    split <;> omega
  rw [walked, List.length_take, List.length_drop, physicalLines, PhysicalLine.length_layout,
    Text.length_splitLines, divides.divided, List.count_append, List.count_append]
  omega

/-- The walk of every span that lies in a source, as long as the lines can be numbered. -/
theorem walk_numbered_walked (divides : source.Divides span before covered after) :
    source.Walk span before covered after
      (PhysicalLine.numbered span.line (source.walked before covered after)) := by
  have positive := Text.listedCount_pos covered after
  have size := length_walked divides
  refine ⟨?_, ?_, ?_, ?_, ?_, ?_⟩
  · apply List.ne_nil_of_length_pos
    rw [PhysicalLine.numbered, List.length_mapIdx, size]
    exact positive
  · intro index line found
    rw [PhysicalLine.getElem?_numbered] at found
    obtain ⟨physical, here, rfl⟩ := Option.map_eq_some_iff.1 found
    have inside : index < Text.listedCount covered after :=
      size ▸ (List.getElem?_eq_some_iff.1 here).1
    rw [getElem?_walked inside] at here
    refine ⟨rfl, ?_⟩
    rw [Nat.add_comm _ 1, Nat.add_assoc]
    exact hasLine_of_getElem? here
  · intro line found
    rw [List.head?_eq_getElem?, PhysicalLine.getElem?_numbered, getElem?_walked positive,
      Nat.add_zero] at found
    obtain ⟨physical, here, rfl⟩ := Option.map_eq_some_iff.1 found
    obtain ⟨other, same, low, high⟩ := exists_line_at (divides.divided.trans (List.append_assoc ..))
    obtain rfl := Option.some.inj (here.symm.trans same)
    rw [divides.start]
    exact ⟨low, high⟩
  · rw [PhysicalLine.map_toPhysicalLine_numbered]
    exact (source.isChain_physicalLines.drop _).take _
  · intro offset inside
    obtain ⟨position, physical, advanced, member, owned⟩ := exists_owner divides inside
    obtain ⟨line, listed, rfl⟩ := PhysicalLine.exists_mem_numbered span.line member
    exact ⟨position, line, advanced, listed, owned⟩
  · rw [PhysicalLine.numbered, List.length_mapIdx, size, Text.listedCount]

end Walk

/-- The lines of a span are refused exactly if the span does not lie in the source. Otherwise, and
if the lines can be numbered, the walk from line to line finds them. -/
theorem lines_walk (source : Source) (span : Span) :
    ((source.lines span = .error (.spanStartsOutside source.path span) ∨
        source.lines span = .error (.spanRunsPast source.path span)) ↔
      source.contains span.start span.length = false) ∧
    (source.contains span.start span.length = true → ∃ before covered after,
      source.Divides span before covered after ∧
      (span.line + covered.count '\n' ≤ Text.counterLimit → ∃ listed,
        source.lines span = .ok listed ∧ source.Walk span before covered after listed)) := by
  refine ⟨lines_refused_iff, ?_⟩
  intro contained
  obtain ⟨before, covered, after, divides⟩ := contains_iff_divides.1 contained
  refine ⟨before, covered, after, divides, ?_⟩
  intro counted
  exact ⟨_, lines_eq_walked divides counted, walk_numbered_walked divides⟩

/-- The span covers the second line with its line feed, which is the last one of the text, and has a
number of its own for that line. -/
theorem lines_walk_final :
    let source := Source.ofText ['é', '\n', 'b', '\n', 'c']
    let span : Span := ⟨3, 2, 99, 1⟩
    source.contains span.start span.length = true ∧ ∃ before covered after,
      source.Divides span before covered after ∧
      span.line + covered.count '\n' ≤ Text.counterLimit ∧ ∃ listed,
        source.lines span = .ok listed ∧ source.Walk span before covered after listed := by
  intro source span
  have contained : source.contains span.start span.length = true := by decide
  obtain ⟨before, covered, after, divides, walk⟩ := (lines_walk source span).2 contained
  have counted : span.line + covered.count '\n' ≤ Text.counterLimit := by
    have few : covered.count '\n' ≤ covered.length := List.count_le_length
    have two : covered.length = 2 := divides.length.symm
    have limit : 99 + 2 ≤ Text.counterLimit := by decide
    change 99 + covered.count '\n' ≤ Text.counterLimit
    omega
  exact ⟨contained, before, covered, after, divides, counted, walk counted⟩

end Source

end Offside
