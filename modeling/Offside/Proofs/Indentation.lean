import Offside.Indentation
import Offside.Proofs.Text.Lookahead

/-! # The indentation of a line

The unit in force on a line is the one that an earlier line has fixed, or else the one that the line
itself shows. The whole units at the start of the line are its indentation, and their number is its
level: the largest number of copies of the unit that the line starts with.
-/

namespace Offside.IndentUnit

/-- The unit in force on a line, given the unit in force before it. -/
def inForce (unit? : Option IndentUnit) (line : Text) : Option IndentUnit := unit? <|> detect? line

/-- A unit that was in force before a line stays in force. -/
theorem eq_none_of_inForce {unit? : Option IndentUnit} {line : Text}
    (unsettled : inForce unit? line = none) : unit? = none := by
  cases unit? with
  | none => rfl
  | some unit => simp [inForce] at unsettled

/-- How many units a line is indented by. -/
def lineLevel (unit? : Option IndentUnit) (line : Text) : Nat :=
  unit?.elim 0 fun unit => unit.levels line

/-- The whole units at the start of a line, as a text. -/
def indentation (unit? : Option IndentUnit) (line : Text) : Text :=
  unit?.elim [] fun unit => List.replicate (unit.levels line * unit.width) unit.character

@[simp] theorem indentation_none (line : Text) : indentation none line = [] := rfl

@[simp] theorem indentation_some (unit : IndentUnit) (line : Text) :
    indentation (some unit) line = List.replicate (unit.levels line * unit.width) unit.character :=
  rfl

/-- A text begins with so many copies of a character exactly if its first run has so many. -/
private theorem replicate_prefix_iff {c : Char} {text : Text} {count : Nat} :
    List.replicate count c <+: text ↔ count ≤ (text.takeWhile (· = c)).length := by
  constructor
  · rintro ⟨rest, rfl⟩
    have satisfied : ∀ d ∈ List.replicate count c, decide (d = c) = true := by
      intro d member
      exact decide_eq_true (List.eq_of_mem_replicate member)
    rw [List.takeWhile_append_of_pos satisfied, List.length_append, List.length_replicate]
    exact Nat.le_add_right _ _
  · intro bound
    have uniform : text.takeWhile (· = c) = List.replicate (text.takeWhile (· = c)).length c := by
      apply List.eq_replicate_iff.2
      refine ⟨rfl, ?_⟩
      intro d member
      have satisfied := List.all_eq_true.1 (List.all_takeWhile (p := (· = c)) (l := text)) d member
      simpa using satisfied
    refine List.IsPrefix.trans ?_ (List.takeWhile_prefix (· = c))
    rw [uniform]
    exact ⟨List.replicate ((text.takeWhile (· = c)).length - count) c, by
      rw [List.replicate_append_replicate, Nat.add_sub_cancel' bound]⟩

/-- The unit as a text, so many times in a row. -/
def copies (unit : IndentUnit) (count : Nat) : Text := (List.replicate count unit.text).flatten

/-- A line starts with as many copies of a unit as it has levels, and with no more. -/
theorem copies_prefix_iff {unit : IndentUnit} {count : Nat} {line : Text} :
    unit.copies count <+: line ↔ count ≤ unit.levels line := by
  rw [copies, text, List.flatten_replicate_replicate, replicate_prefix_iff, levels,
    Nat.le_div_iff_mul_le unit.width_pos]

/-- A line starts with its indentation. -/
theorem indentation_prefix (unit? : Option IndentUnit) (line : Text) :
    indentation unit? line <+: line := by
  cases unit? with
  | none => exact List.nil_prefix
  | some unit => exact replicate_prefix_iff.2 (Nat.div_mul_le_self _ _)

/-- Indentation is spaces, unless lines are indented by tabs. -/
theorem indentation_eq_replicate (unit? : Option IndentUnit) (line : Text) :
    ∃ count, indentation unit? line =
      List.replicate count (if unit? = some .tab then '\t' else ' ') := by
  cases unit? with
  | none => exact ⟨0, rfl⟩
  | some unit =>
    refine ⟨unit.levels line * unit.width, ?_⟩
    cases unit <;> rfl

theorem newline_not_mem_indentation (unit? : Option IndentUnit) (line : Text) :
    '\n' ∉ indentation unit? line := by
  obtain ⟨count, same⟩ := indentation_eq_replicate unit? line
  rw [same]
  intro member
  have character := List.eq_of_mem_replicate member
  split at character <;> contradiction

/-- A line has no more levels than its indentation has characters. -/
theorem lineLevel_le_length (unit? : Option IndentUnit) (line : Text) :
    lineLevel unit? line ≤ (indentation unit? line).length := by
  cases unit? with
  | none => exact Nat.le_refl _
  | some unit =>
    rw [indentation_some, List.length_replicate]
    exact Nat.le_mul_of_pos_right _ unit.width_pos

section Shown

variable {line : Text} {unit other : IndentUnit}

/-- A line that starts with a unit shows one, and the unit it shows is no smaller. -/
theorem exists_detect?_of_prefix (starts : other.text <+: line) :
    ∃ unit, detect? line = some unit ∧ unit.text <+: line ∧
      other.text.length ≤ unit.text.length := by
  have tried : other ∈ [tab, fourSpaces, twoSpaces] := by cases other <;> decide
  have known : (detect? line).isSome = true :=
    List.find?_isSome.2 ⟨other, tried, List.isPrefixOf_iff_prefix.2 starts⟩
  obtain ⟨unit, shown⟩ := Option.isSome_iff_exists.1 known
  have fits : unit.text <+: line := by simpa using List.find?_some shown
  refine ⟨unit, shown, fits, Nat.le_of_not_lt fun shorter => ?_⟩
  -- The larger unit would begin with the smaller, so these could only be the two rows of spaces.
  have nested := List.prefix_of_prefix_length_le fits starts (Nat.le_of_lt shorter)
  have spaces : unit = twoSpaces ∧ other = fourSpaces := by
    revert nested shorter
    cases unit <;> cases other <;> decide
  obtain ⟨rfl, rfl⟩ := spaces
  rw [detect?, List.find?_cons, List.find?_cons, List.isPrefixOf_iff_prefix.2 starts] at shown
  split at shown <;> simp at shown

/-- The unit that a line shows is the largest of those that it starts with. -/
theorem detect?_eq_some_iff :
    detect? line = some unit ↔ unit.text <+: line ∧
      ∀ other : IndentUnit, other.text <+: line → other.text.length ≤ unit.text.length := by
  constructor
  · intro shown
    have fits : unit.text <+: line := by simpa using List.find?_some shown
    refine ⟨fits, fun other starts => ?_⟩
    obtain ⟨same, shown', _, larger⟩ := exists_detect?_of_prefix starts
    obtain rfl := Option.some.inj (shown'.symm.trans shown)
    exact larger
  · rintro ⟨fits, largest⟩
    obtain ⟨found, shown, starts, larger⟩ := exists_detect?_of_prefix fits
    have length := Nat.le_antisymm (largest found starts) larger
    have same : found.text = unit.text :=
      (List.prefix_of_prefix_length_le starts fits (Nat.le_of_eq length)).eq_of_length length
    have alike : found = unit := by
      revert same
      cases found <;> cases unit <;> decide
    rw [shown, alike]

end Shown

section NextLine

/-- What is behind a line feed does not show the unit of the line before it. -/
theorem detect?_append_newline (line more : Text) :
    detect? (line ++ '\n' :: more) = detect? line := by
  have absent : ∀ unit : IndentUnit, '\n' ∉ unit.text := by
    intro unit
    cases unit <;> decide
  simp only [detect?, Text.isPrefixOf_append_cons (absent _)]

theorem levels_append_newline (unit : IndentUnit) (line more : Text) :
    unit.levels (line ++ '\n' :: more) = unit.levels line := by
  have run : (line ++ '\n' :: more).takeWhile (· = unit.character) =
      line.takeWhile (· = unit.character) :=
    Text.takeWhile_append_cons (by cases unit <;> decide)
  rw [levels, run, levels]

theorem inForce_append_newline (unit? : Option IndentUnit) (line more : Text) :
    inForce unit? (line ++ '\n' :: more) = inForce unit? line := by
  rw [inForce, detect?_append_newline, inForce]

theorem lineLevel_append_newline (unit? : Option IndentUnit) (line more : Text) :
    lineLevel unit? (line ++ '\n' :: more) = lineLevel unit? line := by
  simp only [lineLevel, levels_append_newline]

theorem indentation_append_newline (unit? : Option IndentUnit) (line more : Text) :
    indentation unit? (line ++ '\n' :: more) = indentation unit? line := by
  simp only [indentation, levels_append_newline]

end NextLine

/-- One space before anything else is no indentation. -/
theorem detect?_space_cons {c : Char} (visible : c ≠ ' ') (more : Text) :
    detect? (' ' :: c :: more) = none := by
  have one : ∀ unit : IndentUnit, ¬ unit.text <+: ' ' :: c :: more := by
    intro unit
    cases unit <;> simp [text, width, character, List.replicate_succ, visible.symm]
  apply List.find?_eq_none.2
  intro unit _ shown
  exact one unit (List.isPrefixOf_iff_prefix.1 shown)

end Offside.IndentUnit
