import Offside.Text.Basic

/-! # Looking ahead in a text

A run of characters ends where its test first fails, and a pattern is found where it first occurs,
without looking further than its end. So nothing that is read this way depends on what stands behind
a character that ends the run and occurs in no pattern.
-/

namespace Offside.Text

/-- A run of characters that satisfy a test ends where the test first fails. -/
theorem takeWhile_dropWhile_append {test : Char → Bool} {run rest : Text}
    (satisfied : ∀ c ∈ run, test c = true) (stops : ∀ c ∈ rest.head?, test c = false) :
    (run ++ rest).takeWhile test = run ∧ (run ++ rest).dropWhile test = rest := by
  rw [List.takeWhile_append_of_pos satisfied, List.dropWhile_append_of_pos satisfied]
  cases rest with
  | nil => simp
  | cons c more => simp [stops c rfl]

/-- Every text divides where a test first fails. -/
theorem exists_run (test : Char → Bool) (text : Text) :
    ∃ run rest, text = run ++ rest ∧ (∀ c ∈ run, test c = true) ∧
      ∀ c ∈ rest.head?, test c = false := by
  refine ⟨text.takeWhile test, text.dropWhile test, List.takeWhile_append_dropWhile.symm,
    List.all_eq_true.1 List.all_takeWhile, ?_⟩
  intro c head
  have stopped := List.head?_dropWhile_not test text
  rw [Option.mem_def.1 head] at stopped
  simpa using stopped

/-- The longest of the texts with a property that another text can begin with. -/
structure Longest (property : Text → Prop) (word text : Text) : Prop where
  begins : word <+: text
  holds : property word
  longest : ∀ other, other <+: text → property other → other.length ≤ word.length

/-- The run of characters at the front of a text is the longest one of those that satisfy a test. -/
theorem longest_takeWhile (test : Char → Bool) (text : Text) :
    Longest (fun word => ∀ c ∈ word, test c = true) (text.takeWhile test) text := by
  refine ⟨List.takeWhile_prefix test, List.all_eq_true.1 List.all_takeWhile, ?_⟩
  rintro other ⟨rest, rfl⟩ satisfied
  rw [List.takeWhile_append_of_pos satisfied, List.length_append]
  exact Nat.le_add_right _ _

section Break

variable {c : Char} {front more : Text}

/-- What stops at a character takes nothing from behind it. -/
theorem takeWhile_append_cons {test : Char → Bool} (stops : test c = false) :
    (front ++ c :: more).takeWhile test = front.takeWhile test := by
  induction front with
  | nil => simp [stops]
  | cons d rest ih => simp [List.takeWhile_cons, ih]

theorem dropWhile_append_cons {test : Char → Bool} (stops : test c = false) :
    (front ++ c :: more).dropWhile test = front.dropWhile test ++ c :: more := by
  induction front with
  | nil => simp [stops]
  | cons d rest ih =>
    simp only [List.cons_append, List.dropWhile_cons, ih]
    split <;> rfl

/-- A word without a character is not found across it. -/
theorem isPrefixOf_append_cons {word : Text} (absent : c ∉ word) :
    word.isPrefixOf (front ++ c :: more) = word.isPrefixOf front := by
  induction word generalizing front with
  | nil => simp
  | cons d word ih =>
    obtain ⟨other, absent⟩ : c ≠ d ∧ c ∉ word := by simpa using absent
    cases front with
    | nil => simp [List.isPrefixOf, other.symm]
    | cons e front => simp [List.isPrefixOf, ih absent]

end Break

/-- Where a pattern is found, the text goes on with it. -/
theorem prefix_drop_of_indexOf? {pattern text : Text} {index : Nat}
    (found : indexOf? pattern text = some index) : pattern <+: text.drop index := by
  fun_induction indexOf? pattern text generalizing index with
  | case1 empty => simp_all [List.isEmpty_iff]
  | case2 => simp at found
  | case3 c rest here =>
    obtain rfl := Option.some.inj found
    simpa using here
  | case4 c rest elsewhere ih =>
    obtain ⟨later, inner, rfl⟩ := Option.map_eq_some_iff.1 found
    simpa using ih inner

/-- A pattern is found at the front of a text that begins with it. -/
theorem indexOf?_append (pattern other : Text) : indexOf? pattern (pattern ++ other) = some 0 := by
  cases pattern with
  | nil => cases other <;> simp [indexOf?]
  | cons c pattern => simp [indexOf?]

/-- A pattern that occurs in a text is found, and no later than where it occurs. -/
theorem exists_indexOf?_le (pattern front rest : Text) :
    ∃ index ≤ front.length, indexOf? pattern (front ++ pattern ++ rest) = some index := by
  induction front with
  | nil => exact ⟨0, Nat.le_refl 0, indexOf?_append pattern rest⟩
  | cons c front ih =>
    obtain ⟨index, bound, found⟩ := ih
    rw [List.cons_append, List.cons_append, indexOf?]
    by_cases here : pattern.isPrefixOf (c :: (front ++ pattern ++ rest)) = true
    · exact ⟨0, Nat.zero_le _, if_pos here⟩
    · exact ⟨index + 1, Nat.succ_le_succ bound, by rw [if_neg here, found]; rfl⟩

/-- A pattern that occurs in a text is found where it first occurs. -/
theorem exists_first_of_infix {pattern text : Text} (occurs : pattern <:+: text) :
    ∃ inner rest, text = inner ++ pattern ++ rest ∧
      (∀ earlier later, text = earlier ++ pattern ++ later → inner.length ≤ earlier.length) ∧
      indexOf? pattern text = some inner.length := by
  obtain ⟨front, behind, joined⟩ := occurs
  obtain ⟨index, bound, found⟩ := exists_indexOf?_le pattern front behind
  rw [joined] at found
  obtain ⟨rest, dropped⟩ := prefix_drop_of_indexOf? found
  have inside : (text.take index).length = index := by
    apply List.length_take_of_le
    rw [← joined, List.append_assoc, List.length_append]
    exact Nat.le_add_right_of_le bound
  refine ⟨text.take index, rest, ?_, ?_, by rw [inside, found]⟩
  · rw [List.append_assoc, dropped, List.take_append_drop]
  · intro earlier later other
    obtain ⟨first, before, same⟩ := exists_indexOf?_le pattern earlier later
    rw [← other, found] at same
    rw [inside, Option.some.inj same]
    exact before

/-- A pattern that does not occur in a text is not found. -/
theorem indexOf?_eq_none {pattern text : Text} (absent : ¬ pattern <:+: text) :
    indexOf? pattern text = none := by
  cases found : indexOf? pattern text with
  | none => rfl
  | some index =>
    exact absurd ((prefix_drop_of_indexOf? found).isInfix.trans (List.drop_suffix _ _).isInfix)
      absent

/-- A pattern is found by looking no further than its end. -/
theorem indexOf?_take_append {pattern text : Text} {index : Nat}
    (found : indexOf? pattern text = some index) (other : Text) :
    indexOf? pattern (text.take (index + pattern.length) ++ other) = some index := by
  fun_induction indexOf? pattern text generalizing index with
  | case1 empty =>
    obtain rfl := List.isEmpty_iff.1 empty
    obtain rfl := Option.some.inj found
    exact indexOf?_append [] other
  | case2 => simp at found
  | case3 c rest here =>
    obtain rfl := Option.some.inj found
    rw [Nat.zero_add, ← List.prefix_iff_eq_take.1 (List.isPrefixOf_iff_prefix.1 here)]
    exact indexOf?_append pattern other
  | case4 c rest elsewhere ih =>
    obtain ⟨later, inner, rfl⟩ := Option.map_eq_some_iff.1 found
    have absent : ¬ pattern.isPrefixOf (c :: (rest.take (later + pattern.length) ++ other)) := by
      intro here
      have bound := (prefix_drop_of_indexOf? inner).length_le
      rw [List.length_drop] at bound
      have shown : pattern <+: c :: rest.take (later + pattern.length) := by
        apply List.prefix_of_prefix_length_le (List.isPrefixOf_iff_prefix.1 here)
          (List.prefix_append (c :: rest.take (later + pattern.length)) other)
        rw [List.length_cons, List.length_take]
        omega
      apply elsewhere
      exact List.isPrefixOf_iff_prefix.2
        (shown.trans (List.prefix_cons_inj c |>.2 (List.take_prefix _ _)))
    rw [Nat.add_right_comm, List.take_succ_cons, List.cons_append, indexOf?, if_neg absent,
      ih inner]
    rfl

end Offside.Text
