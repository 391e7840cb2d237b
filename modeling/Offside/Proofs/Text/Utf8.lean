import Mathlib.Data.Set.List
import Mathlib.Order.Bounds.Defs
import Offside.Text.Utf8

/-! # Bytes that encode a text

A character is encoded by a sequence of one to four bytes that holds the number of its code point.
The sequence is the shortest that can hold the number, and the numbers are those of characters, so
bytes that hold a number in a longer form, or one that is no character's, occur in no encoding.
Decoding accepts the encodings of texts and nothing else. Of other bytes it reads as many as encode
a text, and no longer part from their start on does.
-/

namespace Offside.Text

section Sequences

/-- The byte holds six bits of a number, as every byte of a sequence but the first does. -/
def HoldsBits (byte : UInt8) (bits : Nat) : Prop := byte.toNat = 0x80 + bits ∧ bits < 0x40

/-- The bytes hold the number in as few bytes as can hold it. The first byte says how many they are,
and holds what bits the others leave over. -/
inductive StandsFor : List UInt8 → Nat → Prop where
  | one {a : UInt8} {n : Nat} (first : a.toNat = n) (less : n < 0x80) : StandsFor [a] n
  | two {a b : UInt8} {x y n : Nat} (first : a.toNat = 0xc0 + x) (second : HoldsBits b y)
      (sum : n = 0x40 * x + y) (least : 0x80 ≤ n) (less : n < 0x800) : StandsFor [a, b] n
  | three {a b c : UInt8} {x y z n : Nat} (first : a.toNat = 0xe0 + x) (second : HoldsBits b y)
      (third : HoldsBits c z) (sum : n = 0x1000 * x + 0x40 * y + z) (least : 0x800 ≤ n)
      (less : n < 0x10000) : StandsFor [a, b, c] n
  | four {a b c d : UInt8} {x y z w n : Nat} (first : a.toNat = 0xf0 + x) (second : HoldsBits b y)
      (third : HoldsBits c z) (fourth : HoldsBits d w)
      (sum : n = 0x40000 * x + 0x1000 * y + 0x40 * z + w) (least : 0x10000 ≤ n)
      (less : n < 0x200000) : StandsFor [a, b, c, d] n

/-- The bytes stand for a number that is no surrogate and not past the last code point. -/
def WellFormed (sequence : List UInt8) : Prop :=
  ∃ n, StandsFor sequence n ∧ (n < 0xd800 ∨ 0xdfff < n ∧ n < 0x110000)

theorem toNat_ofNat_add {bits mark : Nat} (fits : bits + mark < 0x100) :
    (UInt8.ofNat (bits + mark)).toNat = mark + bits := by
  rw [UInt8.toNat_ofNat_of_lt' fits, Nat.add_comm]

theorem holdsBits_ofNat (n : Nat) : HoldsBits (UInt8.ofNat (n % 0x40 + 0x80)) (n % 0x40) :=
  ⟨toNat_ofNat_add (by omega), Nat.mod_lt _ (by decide)⟩

/-- A character is encoded by bytes that stand for its code point. -/
theorem standsFor_utf8EncodeChar (c : Char) : StandsFor (String.utf8EncodeChar c) c.toNat := by
  have valid : c.val.toNat < 0xd800 ∨ 0xdfff < c.val.toNat ∧ c.val.toNat < 0x110000 := c.valid
  change StandsFor _ c.val.toNat
  unfold String.utf8EncodeChar
  generalize c.val.toNat = n at valid
  dsimp only
  split
  · exact .one (UInt8.toNat_ofNat_of_lt' (by change n < 0x100; omega)) (by omega)
  split
  · exact .two (toNat_ofNat_add (by omega)) (holdsBits_ofNat n) (by omega) (by omega) (by omega)
  split
  · exact .three (toNat_ofNat_add (by omega)) (holdsBits_ofNat _) (holdsBits_ofNat n) (by omega)
      (by omega) (by omega)
  · exact .four (toNat_ofNat_add (by omega)) (holdsBits_ofNat _) (holdsBits_ofNat _)
      (holdsBits_ofNat n) (by omega) (by omega) (by omega)

/-- No other bytes stand for the same number. -/
theorem StandsFor.unique {sequence other : List UInt8} {n : Nat} (left : StandsFor sequence n)
    (right : StandsFor other n) : sequence = other := by
  -- A number that fits into one of the lengths is too large or too small for the others.
  cases left <;> cases right <;>
    simp only [HoldsBits, List.cons.injEq, and_true, ← UInt8.toNat_inj] at * <;> omega

/-- The well-formed sequences are the encodings of characters. -/
theorem wellFormed_iff {sequence : List UInt8} :
    WellFormed sequence ↔ sequence ∈ Set.range String.utf8EncodeChar := by
  constructor
  · rintro ⟨n, stands, valid⟩
    have same : (Char.ofNatAux n valid).toNat = n := UInt32.toNat_ofNatLT ..
    exact ⟨_, StandsFor.unique (standsFor_utf8EncodeChar _) (same ▸ stands)⟩
  · rintro ⟨c, rfl⟩
    exact ⟨c.toNat, standsFor_utf8EncodeChar c, c.valid⟩

/-- The encodings of texts are well-formed sequences laid one behind the other. -/
theorem exists_utf8Encode_iff {bytes : ByteArray} :
    (∃ text : Text, bytes = text.utf8Encode) ↔
      ∃ sequences : List (List UInt8), (∀ sequence ∈ sequences, WellFormed sequence) ∧
        bytes = sequences.flatten.toByteArray := by
  constructor
  · rintro ⟨text, rfl⟩
    refine ⟨text.map String.utf8EncodeChar, ?_, rfl⟩
    intro sequence member
    obtain ⟨c, _, rfl⟩ := List.mem_map.1 member
    exact wellFormed_iff.2 ⟨c, rfl⟩
  · rintro ⟨sequences, wellFormed, rfl⟩
    have encoded : sequences ∈ Set.range (List.map String.utf8EncodeChar) := by
      rw [Set.range_list_map]
      exact fun sequence member => wellFormed_iff.1 (wellFormed sequence member)
    obtain ⟨text, rfl⟩ := encoded
    exact ⟨text, rfl⟩

end Sequences

section Decoding

/-- A text is encoded in as many bytes as it is said to take. -/
theorem size_utf8Encode (text : Text) : text.utf8Encode.size = byteLength text := by
  induction text with
  | nil => rfl
  | cons c rest ih =>
    rw [List.utf8Encode_cons, ByteArray.size_append, ih, List.utf8Encode_singleton,
      List.size_toByteArray, String.length_utf8EncodeChar, byteLength_cons]

theorem size_utf8Encode_singleton (c : Char) : [c].utf8Encode.size = c.utf8Size := by
  rw [size_utf8Encode, byteLength_cons, byteLength_nil, Nat.add_zero]

theorem utf8DecodeChar?_append (front back : ByteArray) :
    (front ++ back).utf8DecodeChar? front.size = back.utf8DecodeChar? 0 := by
  rw [ByteArray.utf8DecodeChar?_eq_utf8DecodeChar?_extract,
    ByteArray.extract_append_eq_right rfl ByteArray.size_append]

/-- Behind the last byte there is no more text. -/
theorem decodeFrom_size (bytes : ByteArray) : decodeFrom bytes bytes.size = .ok [] := by
  rw [decodeFrom, if_neg (Nat.lt_irrefl _)]

/-- Bytes that start with no character are not decoded. -/
theorem decodeFrom_of_none (front : ByteArray) {back : ByteArray} (more : 0 < back.size)
    (bad : back.utf8DecodeChar? 0 = none) :
    decodeFrom (front ++ back) front.size = .error front.size := by
  rw [decodeFrom, if_pos (by rw [ByteArray.size_append]; omega), utf8DecodeChar?_append, bad]

/-- From bytes that start with a character it is read, and decoding goes on behind it. -/
theorem decodeFrom_character (front : ByteArray) (c : Char) (back : ByteArray) :
    decodeFrom (front ++ ([c].utf8Encode ++ back)) front.size =
      (decodeFrom (front ++ [c].utf8Encode ++ back) (front ++ [c].utf8Encode).size).map
        (c :: ·) := by
  have positive := c.utf8Size_pos
  have inside : front.size < (front ++ ([c].utf8Encode ++ back)).size := by
    simp only [ByteArray.size_append, size_utf8Encode_singleton]
    omega
  rw [decodeFrom, if_pos inside, utf8DecodeChar?_append,
    List.utf8DecodeChar?_utf8Encode_singleton_append, ByteArray.append_assoc,
    ByteArray.size_append, size_utf8Encode_singleton]

/-- From bytes that start with the encoding of a text it is read, and decoding goes on behind it. -/
theorem decodeFrom_text (front : ByteArray) (text : Text) (back : ByteArray) :
    decodeFrom (front ++ (text.utf8Encode ++ back)) front.size =
      (decodeFrom (front ++ text.utf8Encode ++ back) (front ++ text.utf8Encode).size).map
        (text ++ ·) := by
  induction text generalizing front with
  | nil =>
    simp only [List.utf8Encode_nil, ByteArray.empty_append, ByteArray.append_empty]
    cases decodeFrom (front ++ back) front.size <;> rfl
  | cons c rest ih =>
    have onward := ih (front ++ [c].utf8Encode)
    rw [List.utf8Encode_cons, ByteArray.append_assoc, decodeFrom_character, onward]
    simp only [ByteArray.append_assoc]
    cases decodeFrom _ _ <;> rfl

/-- Decoding reads all bytes as a text, or it reads a text and is stuck behind it. -/
theorem decodeFrom_outcome (front back : ByteArray) :
    (∃ text : Text, back = text.utf8Encode ∧ decodeFrom (front ++ back) front.size = .ok text) ∨
      ∃ (text : Text) (bad : ByteArray), back = text.utf8Encode ++ bad ∧
        decodeFrom (front ++ back) front.size = .error (front ++ text.utf8Encode).size := by
  induction size : back.size using Nat.strongRecOn generalizing front back with
  | ind size ih =>
    subst size
    rcases Nat.eq_zero_or_pos back.size with none | more
    · obtain rfl := ByteArray.size_eq_zero_iff.1 none
      refine .inl ⟨[], rfl, ?_⟩
      rw [ByteArray.append_empty, decodeFrom_size]
    cases here : back.utf8DecodeChar? 0 with
    | none =>
      refine .inr ⟨[], back, by simp, ?_⟩
      rw [decodeFrom_of_none front more here]
      simp
    | some c =>
      obtain ⟨later, rfl⟩ := ByteArray.exists_of_utf8DecodeChar?_eq_some here
      rw [← List.utf8Encode_singleton] at *
      have shorter : later.size < ([c].utf8Encode ++ later).size := by
        have positive := c.utf8Size_pos
        rw [ByteArray.size_append, size_utf8Encode_singleton]
        omega
      rw [decodeFrom_character]
      rcases ih _ shorter (front ++ [c].utf8Encode) later rfl with
        ⟨text, rfl, read⟩ | ⟨text, bad, rfl, stuck⟩
      · refine .inl ⟨c :: text, List.utf8Encode_cons.symm, ?_⟩
        rw [read]
        rfl
      · have joined : (c :: text).utf8Encode = [c].utf8Encode ++ text.utf8Encode :=
          List.utf8Encode_cons
        refine .inr ⟨c :: text, bad, ?_, ?_⟩
        · rw [joined, ByteArray.append_assoc]
        · rw [stuck, joined, ByteArray.append_assoc]
          rfl

end Decoding

section Decode

variable {bytes : ByteArray}

/-- The sizes of the encodings of texts that the bytes begin with. -/
def encodedSizes (bytes : ByteArray) : Set Nat :=
  {size | ∃ (text : Text) (rest : ByteArray), bytes = text.utf8Encode ++ rest ∧
    text.utf8Encode.size = size}

theorem decode_eq (bytes : ByteArray) :
    decode bytes = decodeFrom (ByteArray.empty ++ bytes) ByteArray.empty.size := by
  rw [ByteArray.empty_append]
  rfl

/-- The encodings of texts are decoded to these texts, and nothing else is. -/
theorem decode_eq_ok_iff {text : Text} : decode bytes = .ok text ↔ bytes = text.utf8Encode := by
  rw [decode_eq]
  constructor
  · intro read
    rcases decodeFrom_outcome .empty bytes with ⟨other, encoded, same⟩ | ⟨other, bad, _, stuck⟩
    · rw [same] at read
      rw [encoded, Except.ok.inj read]
    · rw [stuck] at read
      contradiction
  · rintro rfl
    have whole := decodeFrom_text .empty text .empty
    simp only [ByteArray.append_empty] at whole
    rw [whole, decodeFrom_size]
    exact congrArg _ (List.append_nil text)

/-- What is not decoded is refused behind the longest encoding of a text that it begins with. -/
theorem isGreatest_of_decode {offset : Nat} (refused : decode bytes = .error offset) :
    IsGreatest (encodedSizes bytes) offset := by
  rw [decode_eq] at refused
  constructor
  · rcases decodeFrom_outcome .empty bytes with ⟨text, _, read⟩ | ⟨text, bad, begins, stuck⟩
    · rw [read] at refused
      contradiction
    · rw [stuck, ByteArray.empty_append] at refused
      exact ⟨text, bad, begins, Except.error.inj refused⟩
  · rintro size ⟨text, rest, rfl, rfl⟩
    rw [decodeFrom_text] at refused
    rcases decodeFrom_outcome (.empty ++ text.utf8Encode) rest with
      ⟨more, _, read⟩ | ⟨more, bad, _, stuck⟩
    · rw [read] at refused
      contradiction
    · rw [stuck] at refused
      have behind := Except.error.inj refused
      simp only [ByteArray.size_append] at behind
      omega

end Decode

end Offside.Text
