import Offside.Text.Newline

/-! # Line ends in one pass

Line ends are normalized in two passes over the whole text: the first drops the carriage returns
that a line feed follows, the second replaces those that are left. One pass from left to right gives
the same. What it does with a part of a text does not depend on the rest, unless the cut goes
through a carriage return and its line feed, and it undoes any change of the line ends of a
normalized text.
-/

namespace Offside.Text

/-- The text with each carriage return replaced by a line feed, together with the line feed that
follows it, if one does. -/
def replaceReturns : Text → Text
  | [] => []
  | '\r' :: '\n' :: rest => '\n' :: replaceReturns rest
  | '\r' :: rest => '\n' :: replaceReturns rest
  | c :: rest => c :: replaceReturns rest

/-- The text with its lines ended by something else than line feeds. -/
def endLinesBy (ending text : Text) : Text := text.flatMap fun c => if c = '\n' then ending else [c]

/-- The first text ends with the carriage return, and the second begins with the line feed, of one
line end. -/
def PartsPair (left right : Text) : Prop := left.getLast? = some '\r' ∧ right.head? = some '\n'

section Equations

variable {c : Char} {rest : Text}

theorem normalizeNewlines_pair (rest : Text) :
    normalizeNewlines ('\r' :: '\n' :: rest) = '\n' :: normalizeNewlines rest := rfl

/-- A character that does not open a pair is replaced or kept by itself. -/
theorem normalizeNewlines_cons (unpaired : ¬ PartsPair [c] rest) :
    normalizeNewlines (c :: rest) = (if c = '\r' then '\n' else c) :: normalizeNewlines rest := by
  rw [normalizeNewlines, joinReturns, List.map_cons, normalizeNewlines]
  rintro more rfl rfl
  exact unpaired ⟨rfl, rfl⟩

theorem normalizeNewlines_cons_of_ne (kept : c ≠ '\r') (rest : Text) :
    normalizeNewlines (c :: rest) = c :: normalizeNewlines rest := by
  rw [normalizeNewlines_cons fun pair => kept (Option.some.inj pair.1), if_neg kept]

end Equations

/-- The two passes give what the one pass gives. -/
theorem normalizeNewlines_eq_replaceReturns (text : Text) :
    normalizeNewlines text = replaceReturns text := by
  fun_induction replaceReturns text with
  | case1 => rfl
  | case2 rest ih => rw [normalizeNewlines_pair, ih]
  | case3 rest unpaired ih =>
    have alone : ¬ PartsPair ['\r'] rest := by
      rintro ⟨_, head⟩
      obtain ⟨more, rfl⟩ := List.head?_eq_some_iff.1 head
      exact unpaired more rfl
    rw [normalizeNewlines_cons alone, if_pos rfl, ih]
  | case4 c rest _ kept ih => rw [normalizeNewlines_cons_of_ne kept, ih]

/-- What has no carriage return is left as it is. -/
theorem normalizeNewlines_of_not_mem {text : Text} (clean : '\r' ∉ text) :
    normalizeNewlines text = text := by
  induction text with
  | nil => rfl
  | cons c rest ih =>
    obtain ⟨other, clean⟩ : '\r' ≠ c ∧ '\r' ∉ rest := by simpa using clean
    rw [normalizeNewlines_cons_of_ne other.symm, ih clean]

theorem isNormalized_iff {text : Text} : text.isNormalized = true ↔ '\r' ∉ text := by
  simp [isNormalized]

/-- A text is left as it is exactly if it has no carriage return. -/
theorem normalizeNewlines_eq_self_iff {text : Text} :
    normalizeNewlines text = text ↔ '\r' ∉ text := by
  constructor
  · intro same
    have clean := return_not_mem_normalizeNewlines text
    rwa [same] at clean
  · exact normalizeNewlines_of_not_mem

section Append

variable {left right : Text}

/-- Two texts are normalized each by itself if they do not part a pair. -/
theorem normalizeNewlines_append (apart : ¬ PartsPair left right) :
    normalizeNewlines (left ++ right) = normalizeNewlines left ++ normalizeNewlines right := by
  induction left using joinReturns.induct with
  | case1 => rfl
  | case2 rest ih =>
    have behind : ¬ PartsPair rest right := by
      rintro ⟨last, head⟩
      exact apart ⟨by rw [List.getLast?_cons, List.getLast?_cons, last]; rfl, head⟩
    rw [List.cons_append, List.cons_append, normalizeNewlines_pair, normalizeNewlines_pair,
      ih behind, List.cons_append]
  | case3 c rest unpaired ih =>
    have behind : ¬ PartsPair rest right := by
      rintro ⟨last, head⟩
      exact apart ⟨by rw [List.getLast?_cons, last]; rfl, head⟩
    have alone : ¬ PartsPair [c] rest := by
      rintro ⟨last, head⟩
      obtain ⟨more, rfl⟩ := List.head?_eq_some_iff.1 head
      exact unpaired more (Option.some.inj last) rfl
    -- The character behind `c` is the first of `rest`, or of `right` if there is no rest.
    have alone' : ¬ PartsPair [c] (rest ++ right) := by
      cases rest with
      | nil => exact apart
      | cons => exact alone
    rw [List.cons_append, normalizeNewlines_cons alone, normalizeNewlines_cons alone', ih behind,
      List.cons_append]

/-- A pair that is parted gives two line feeds where the whole text has one. -/
theorem length_normalizeNewlines_append (pair : PartsPair left right) :
    (normalizeNewlines left ++ normalizeNewlines right).length =
      (normalizeNewlines (left ++ right)).length + 1 := by
  obtain ⟨last, head⟩ := pair
  obtain ⟨front, rfl⟩ := List.getLast?_eq_some_iff.1 last
  obtain ⟨tail, rfl⟩ := List.head?_eq_some_iff.1 head
  have whole : normalizeNewlines (front ++ '\r' :: '\n' :: tail) =
      normalizeNewlines front ++ normalizeNewlines ('\r' :: '\n' :: tail) :=
    normalizeNewlines_append (by simp [PartsPair])
  have first : normalizeNewlines (front ++ ['\r']) =
      normalizeNewlines front ++ normalizeNewlines ['\r'] :=
    normalizeNewlines_append (by simp [PartsPair])
  have one : normalizeNewlines ['\r'] = ['\n'] := rfl
  rw [List.append_assoc, List.singleton_append, whole, first, one, normalizeNewlines_pair,
    normalizeNewlines_cons_of_ne (by decide)]
  simp only [List.length_append, List.length_cons, List.length_nil]
  omega

theorem normalizeNewlines_append_iff :
    normalizeNewlines (left ++ right) = normalizeNewlines left ++ normalizeNewlines right ↔
      ¬ PartsPair left right := by
  refine ⟨?_, normalizeNewlines_append⟩
  intro same pair
  have longer := length_normalizeNewlines_append pair
  rw [same] at longer
  omega

end Append

section EndLinesBy

variable {ending text : Text}

theorem endLinesBy_newline (ending rest : Text) :
    endLinesBy ending ('\n' :: rest) = ending ++ endLinesBy ending rest := by
  rw [endLinesBy, List.flatMap_cons, if_pos rfl, ← endLinesBy]

theorem endLinesBy_cons {c : Char} (inner : c ≠ '\n') (ending rest : Text) :
    endLinesBy ending (c :: rest) = c :: endLinesBy ending rest := by
  rw [endLinesBy, List.flatMap_cons, if_neg inner, ← endLinesBy, List.singleton_append]

theorem newline_not_mem_endLinesBy (other : '\n' ∉ ending) : '\n' ∉ endLinesBy ending text := by
  intro member
  obtain ⟨c, _, image⟩ := List.mem_flatMap.1 member
  split at image
  · exact other image
  · rename_i inner
    exact inner (List.mem_singleton.1 image).symm

/-- Lines that are ended by both characters, or by a carriage return, are normalized to what they
were. -/
theorem normalizeNewlines_endLinesBy (known : ending = ['\r', '\n'] ∨ ending = ['\r'])
    (clean : '\r' ∉ text) : normalizeNewlines (endLinesBy ending text) = text := by
  induction text with
  | nil => rfl
  | cons c rest ih =>
    obtain ⟨other, later⟩ : '\r' ≠ c ∧ '\r' ∉ rest := by simpa using clean
    by_cases newline : c = '\n'
    · subst newline
      rw [endLinesBy_newline]
      rcases known with rfl | rfl
      · rw [List.cons_append, List.singleton_append, normalizeNewlines_pair, ih later]
      · have alone : ¬ PartsPair ['\r'] (endLinesBy ['\r'] rest) := fun pair =>
          newline_not_mem_endLinesBy (by decide) (List.mem_of_mem_head? pair.2)
        rw [List.singleton_append, normalizeNewlines_cons alone, if_pos rfl, ih later]
    · rw [endLinesBy_cons newline, normalizeNewlines_cons_of_ne other.symm, ih later]

end EndLinesBy

/-- What normalizing the line ends of a text comes to. -/
structure NewlineLaws (text : Text) : Prop where
  /-- It can be done in one pass from left to right. -/
  onePass : normalizeNewlines text = replaceReturns text
  /-- It leaves no carriage return. -/
  clean : '\r' ∉ normalizeNewlines text
  /-- It changes a text exactly if that has a carriage return. -/
  unchanged_iff : normalizeNewlines text = text ↔ '\r' ∉ text
  /-- A text is taken over as it is exactly if it is its own result. -/
  takenOver_iff : text.isNormalized = true ↔ normalizeNewlines text = text
  /-- Doing it again changes nothing. -/
  idempotent : normalizeNewlines (normalizeNewlines text) = normalizeNewlines text
  /-- It can be done in parts, unless a carriage return is parted from its line feed. -/
  append_iff : ∀ more,
    normalizeNewlines (text ++ more) = normalizeNewlines text ++ normalizeNewlines more ↔
      ¬ (text.getLast? = some '\r' ∧ more.head? = some '\n')
  /-- It restores the line feeds that were replaced by other line ends. -/
  restores : '\r' ∉ text → normalizeNewlines (endLinesBy ['\r', '\n'] text) = text ∧
    normalizeNewlines (endLinesBy ['\r'] text) = text

theorem newlineLaws (text : Text) : NewlineLaws text := by
  have clean := return_not_mem_normalizeNewlines text
  refine ⟨normalizeNewlines_eq_replaceReturns text, clean, normalizeNewlines_eq_self_iff,
    isNormalized_iff.trans normalizeNewlines_eq_self_iff.symm, normalizeNewlines_of_not_mem clean,
    fun more => normalizeNewlines_append_iff, ?_⟩
  intro normalized
  exact ⟨normalizeNewlines_endLinesBy (.inl rfl) normalized,
    normalizeNewlines_endLinesBy (.inr rfl) normalized⟩

example :
    normalizeNewlines ['\r', '\r', '\n', '\n', '\r', 'a'] = ['\n', '\n', '\n', '\n', 'a'] := by
  decide

end Offside.Text
