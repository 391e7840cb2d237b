/-! # Texts, measured in characters and in bytes

A text is a list of characters. Positions in it are byte offsets into its UTF-8 form, while lengths
count characters, so every operation on a position first cuts the text at a byte offset. The cut
exists exactly when the offset falls on a character boundary, and it is then the only way of writing
the text as two parts of which the first has that many bytes.
-/

namespace Offside

/-- The text of a source, or a part of it. -/
abbrev Text := List Char

namespace Text

/-- The number of bytes a text takes in UTF-8. -/
def byteLength : Text → Nat
  | [] => 0
  | c :: rest => c.utf8Size + byteLength rest

@[simp] theorem byteLength_nil : byteLength [] = 0 := rfl

@[simp] theorem byteLength_cons (c : Char) (rest : Text) :
    byteLength (c :: rest) = c.utf8Size + byteLength rest := rfl

@[simp] theorem byteLength_append (left right : Text) :
    byteLength (left ++ right) = byteLength left + byteLength right := by
  induction left with
  | nil => simp
  | cons c rest ih => rw [List.cons_append, byteLength_cons, byteLength_cons, ih, Nat.add_assoc]

/-- Only the empty text takes no bytes. -/
theorem byteLength_eq_zero_iff {text : Text} : byteLength text = 0 ↔ text = [] := by
  cases text with
  | nil => simp
  | cons c rest =>
    have positive := c.utf8Size_pos
    simp only [byteLength_cons, reduceCtorEq, iff_false]
    omega

/-- Cuts a text after its first `offset` bytes, if that is a place between two characters. -/
def splitAtByte? : Nat → Text → Option (Text × Text)
  | 0, text => some ([], text)
  | _ + 1, [] => none
  | offset + 1, c :: rest =>
    if c.utf8Size ≤ offset + 1 then
      (splitAtByte? (offset + 1 - c.utf8Size) rest).map fun (before, after) => (c :: before, after)
    else
      none

@[simp] theorem splitAtByte?_zero (text : Text) : splitAtByte? 0 text = some ([], text) := by
  cases text <;> rfl

/-- A cut loses nothing, and its first part has the requested number of bytes. -/
theorem eq_append_of_splitAtByte? {offset : Nat} {text before after : Text}
    (cut : splitAtByte? offset text = some (before, after)) :
    text = before ++ after ∧ byteLength before = offset := by
  fun_induction splitAtByte? offset text generalizing before after with
  | case1 text => simp_all
  | case2 => simp at cut
  | case3 offset c rest fits ih =>
    obtain ⟨⟨front, back⟩, inner, same⟩ := Option.map_eq_some_iff.1 cut
    obtain ⟨rfl, rfl⟩ := Prod.mk.inj same
    obtain ⟨joined, size⟩ := ih inner
    exact ⟨by simp [joined], by simp only [byteLength_cons, size]; omega⟩
  | case4 => simp at cut

/-- Every way of writing a text as two parts is a cut at the size of the first. -/
theorem splitAtByte?_append (before after : Text) :
    splitAtByte? (byteLength before) (before ++ after) = some (before, after) := by
  induction before with
  | nil => simp
  | cons c rest ih =>
    have positive := c.utf8Size_pos
    obtain ⟨size, sizeEq⟩ : ∃ size, byteLength (c :: rest) = size + 1 :=
      ⟨byteLength (c :: rest) - 1, by simp only [byteLength_cons]; omega⟩
    have left : size + 1 - c.utf8Size = byteLength rest := by
      simp only [byteLength_cons] at sizeEq; omega
    have fits : c.utf8Size ≤ size + 1 := by
      simp only [byteLength_cons] at sizeEq; omega
    simp [sizeEq, splitAtByte?, fits, left, ih]

/-- A cut is the same thing as a division of the text whose first part has `offset` bytes. -/
theorem splitAtByte?_eq_some_iff {offset : Nat} {text before after : Text} :
    splitAtByte? offset text = some (before, after) ↔
      text = before ++ after ∧ byteLength before = offset := by
  constructor
  · exact eq_append_of_splitAtByte?
  · rintro ⟨rfl, rfl⟩
    exact splitAtByte?_append before after

/-- The number of characters before the first occurrence of `pattern`, if it occurs. -/
def indexOf? (pattern : Text) : Text → Option Nat
  | [] => if pattern.isEmpty then some 0 else none
  | c :: rest =>
    if pattern.isPrefixOf (c :: rest) then some 0 else (indexOf? pattern rest).map (· + 1)

end Text

end Offside
