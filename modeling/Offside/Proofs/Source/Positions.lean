import Mathlib.Order.Fin.Basic
import Mathlib.Order.Hom.Set
import Offside.Proofs.Place

/-! # Positions as indices of characters

Positions are byte offsets, but each of them stands for an index: the number of characters before
it. The indices are in the order of the positions and leave none of them out, so whatever a source
is asked at a position, the answer is what arithmetic on indices gives. A byte offset that is no
position has no index, and there every request is refused.
-/

namespace Offside.Source

section Index

variable {source : Source} {before rest : Text} {index position : Nat}

/-- The position of an index has so many characters before it. -/
theorem positionOf?_eq_some_iff :
    source.positionOf? index = some position ↔
      ∃ before rest, source.text = before ++ rest ∧ before.length = index ∧
        Text.byteLength before = position := by
  constructor
  · intro found
    unfold positionOf? at found
    split at found
    · rename_i inside
      exact ⟨_, _, (List.take_append_drop index source.text).symm, List.length_take_of_le inside,
        Option.some.inj found⟩
    · contradiction
  · rintro ⟨before, rest, divided, rfl, rfl⟩
    exact positionOf?_length divided

theorem positionOf?_eq_none (beyond : source.text.length < index) :
    source.positionOf? index = none := if_neg (Nat.not_le_of_lt beyond)

/-- The positions are those of the indices up to the number of characters. -/
theorem isPosition_iff_exists_index :
    source.isPosition position = true ↔
      ∃ index, index ≤ source.text.length ∧ source.positionOf? index = some position := by
  rw [isPosition_iff]
  constructor
  · rintro ⟨before, rest, divided, rfl⟩
    refine ⟨_, ?_, positionOf?_length divided⟩
    rw [divided, List.length_append]
    omega
  · rintro ⟨index, _, found⟩
    obtain ⟨before, rest, divided, _, size⟩ := positionOf?_eq_some_iff.1 found
    exact ⟨before, rest, divided, size⟩

/-- A larger index has a later position. -/
theorem lt_of_index_lt {later target : Nat} (found : source.positionOf? index = some position)
    (behind : source.positionOf? later = some target) (less : index < later) :
    position < target := by
  unfold positionOf? at found behind
  split at behind
  · rename_i inside
    rw [if_pos (by omega)] at found
    rw [← Option.some.inj found, ← Option.some.inj behind]
    exact Text.byteLength_take_lt less inside
  · contradiction

theorem restFrom_byteLength (divided : source.text = before ++ rest) :
    source.restFrom (Text.byteLength before) = .ok rest :=
  restFrom_eq_ok_iff.2 ⟨before, divided, rfl⟩

theorem distance_byteLength {between : Text} (divided : source.text = before ++ (between ++ rest)) :
    source.distance (Text.byteLength before) (Text.byteLength (before ++ between)) =
      .ok between.length := by
  rw [Text.byteLength_append, distance, if_neg (by omega)]
  refine Fault.bind_eq_ok_iff.2 ⟨_, restFrom_byteLength divided, ?_⟩
  rw [Nat.add_sub_cancel_left, Text.splitAtByte?_append]

/-- Of a text, the part between two indices is what the first leaves of what the second takes. -/
theorem extract_append (before rest : Text) (length : Nat) :
    (before ++ rest).extract before.length
        (min (before.length + length) (before ++ rest).length) = rest.take length := by
  rw [List.extract, List.drop_left, List.length_append, Nat.add_min_add_left,
    Nat.add_sub_cancel_left, List.take_eq_take_iff]
  omega

theorem isSome_span?_iff {length : Nat} :
    (source.span? index length).isSome = true ↔ index + length ≤ source.text.length := by
  unfold span?
  split
  · rename_i fits
    exact ⟨fun _ => fits, fun _ => rfl⟩
  · rename_i exceeds
    exact ⟨nofun, fun fits => absurd fits exceeds⟩

/-- A span says where the characters before it end. -/
theorem eq_of_span? (divided : source.text = before ++ rest) {length : Nat} {span : Span}
    (given : source.span? before.length length = some span) :
    span.start = Text.byteLength before ∧ span.length = length ∧
      source.lineColumn (Text.byteLength before) = .ok (span.line, span.column) := by
  have front : source.text.take before.length = before := by rw [divided, List.take_left]
  unfold span? at given
  split at given
  · rw [front] at given
    obtain rfl := Option.some.inj given
    exact ⟨rfl, rfl, lineColumn_byteLength divided⟩
  · contradiction

/-- A byte offset that is no position has no text behind it. -/
theorem restFrom_eq_error (off : source.isPosition position = false) :
    source.restFrom position = .error (.offBoundary source.path position) := by
  have nothing : source.splitAt? position = none := by simpa [isPosition] using off
  rw [restFrom, nothing]

end Index

/-- What a source answers at the position of an index is found by counting characters. -/
structure Counts (source : Source) (index position : Nat) : Prop where
  /-- Going forward is adding to the index, up to the end of the source. -/
  advance : ∀ count, ∃ target,
    source.positionOf? (min (index + count) source.text.length) = some target ∧
      source.advance position count = .ok target
  /-- The distance to a later position is the difference of the indices. -/
  distance : ∀ later target, index ≤ later → source.positionOf? later = some target →
    source.distance position target = .ok (later - index)
  /-- The character is the one with the index, and there is none at the end of the source. -/
  charAt : source.charAt position = .ok source.text[index]?
  contains : ∀ count, source.contains position count = true ↔ index + count ≤ source.text.length
  /-- A span from here covers the characters from the index on, up to the end of the source. -/
  substring : ∀ span, span.start = position → source.substring span =
    .ok (source.text.extract index (min (index + span.length) source.text.length))
  /-- There is a span of so many characters exactly if they all lie in the source. -/
  isSome_span? : ∀ count,
    (source.span? index count).isSome = true ↔ index + count ≤ source.text.length
  /-- It starts here, and its line and column are those of the position. -/
  span?_eq : ∀ count span, source.span? index count = some span →
    span.start = position ∧ span.length = count ∧
      source.lineColumn position = .ok (span.line, span.column)

/-- What a source is asked at a byte offset that is no position is refused for that reason. -/
structure Refuses (source : Source) (position : Nat) : Prop where
  contains : ∀ count, source.contains position count = false
  charAt : source.charAt position = .error (.offBoundary source.path position)
  advance : ∀ count,
    source.advance position count = .error (.offBoundary source.path position)
  substring : ∀ span, span.start = position →
    source.substring span = .error (.offBoundary source.path position)
  distance : ∀ target, position ≤ target →
    source.distance position target = .error (.offBoundary source.path position)

theorem counts_of_positionOf? {source : Source} {index position : Nat}
    (found : source.positionOf? index = some position) : source.Counts index position := by
  obtain ⟨before, rest, divided, rfl, rfl⟩ := positionOf?_eq_some_iff.1 found
  have total : source.text.length = before.length + rest.length := by
    rw [divided, List.length_append]
  refine ⟨?_, ?_, ?_, ?_, ?_, ?_, ?_⟩
  · intro count
    refine ⟨_, positionOf?_eq_some_iff.2 ⟨before ++ rest.take count, rest.drop count, ?_, ?_,
      Text.byteLength_append ..⟩, advance_byteLength divided count⟩
    · rw [divided, List.append_assoc, List.take_append_drop]
    · rw [List.length_append, List.length_take, total]
      omega
  · intro later target order behind
    obtain ⟨longer, tail, redivided, rfl, rfl⟩ := positionOf?_eq_some_iff.1 behind
    obtain ⟨between, rfl⟩ := List.prefix_of_prefix_length_le ⟨rest, divided.symm⟩
      ⟨tail, redivided.symm⟩ order
    rw [distance_byteLength (redivided.trans (List.append_assoc ..)), List.length_append,
      Nat.add_sub_cancel_left]
  · rw [charAt, restFrom_byteLength divided, divided,
      List.getElem?_append_right (Nat.le_refl _), Nat.sub_self, ← List.head?_eq_getElem?]
    rfl
  · intro count
    rw [contains_byteLength divided, total]
    omega
  · intro span starts
    rw [substring, starts, restFrom_byteLength divided, divided, extract_append]
    rfl
  · exact fun count => isSome_span?_iff
  · exact fun count span => eq_of_span? divided

theorem refuses_of_isPosition_eq_false {source : Source} {position : Nat}
    (off : source.isPosition position = false) : source.Refuses position := by
  have nothing := restFrom_eq_error off
  refine ⟨?_, ?_, ?_, ?_, ?_⟩
  · intro count
    have cut : source.splitAt? position = none := by simpa [isPosition] using off
    rw [contains, cut]
  · rw [charAt, nothing]
    rfl
  · intro count
    rw [advance, nothing]
    rfl
  · rintro span rfl
    rw [substring, nothing]
    rfl
  · intro target after
    rw [distance, if_neg (Nat.not_lt.2 after), nothing]
    rfl

section Order

variable (source : Source)

theorem positionOf?_val (index : Fin (source.text.length + 1)) :
    source.positionOf? index = some (Text.byteLength (source.text.take index)) :=
  if_pos (Nat.le_of_lt_succ index.isLt)

/-- The position of an index. -/
def place (index : Fin (source.text.length + 1)) :
    {position // source.isPosition position = true} :=
  ⟨Text.byteLength (source.text.take index), isPosition_iff_exists_index.2
    ⟨index, Nat.le_of_lt_succ index.isLt, source.positionOf?_val index⟩⟩

theorem strictMono_place : StrictMono source.place := by
  intro index later less
  exact lt_of_index_lt (source.positionOf?_val index) (source.positionOf?_val later) less

theorem surjective_place : Function.Surjective source.place := by
  rintro ⟨position, valid⟩
  obtain ⟨index, inside, found⟩ := isPosition_iff_exists_index.1 valid
  have known := source.positionOf?_val ⟨index, Nat.lt_succ_of_le inside⟩
  exact ⟨_, Subtype.ext (Option.some.inj (known.symm.trans found))⟩

end Order

/-- Arithmetic on positions is arithmetic on the indices of characters. -/
structure CharacterArithmetic (source : Source) : Prop where
  /-- The indices from zero up to the number of characters stand for all the positions, in order. -/
  places : ∃ place :
      Fin (source.text.length + 1) ≃o {position // source.isPosition position = true},
    ∀ index, source.positionOf? index.val = some (place index).val
  beyond : ∀ index, source.text.length < index → source.positionOf? index = none
  counts : ∀ index position, source.positionOf? index = some position → source.Counts index position
  refuses : ∀ position, source.isPosition position = false → source.Refuses position

/-- So it is in every source, whatever its characters take in bytes. -/
theorem characterArithmetic (source : Source) : source.CharacterArithmetic := by
  refine ⟨⟨source.strictMono_place.orderIsoOfSurjective source.place source.surjective_place, ?_⟩,
    ?_, ?_, ?_⟩
  · exact source.positionOf?_val
  · exact fun index => positionOf?_eq_none
  · exact fun index position => counts_of_positionOf?
  · exact fun position => refuses_of_isPosition_eq_false

example : (List.range 6).map (ofText ['a', 'é', '€', '😀']).positionOf? =
    [some 0, some 1, some 3, some 6, some 10, none] := by decide

end Offside.Source
