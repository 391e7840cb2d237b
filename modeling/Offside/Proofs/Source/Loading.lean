import Offside.Proofs.Text.LineEnds
import Offside.Proofs.Text.Utf8
import Offside.Source.Basic

/-! # Loading the content of a file

The bytes of a file are loaded exactly if they encode a text, and the source is then that text with
its line ends normalized. Other bytes are refused, and the refusal says how many of them are good:
as many as the longest text takes whose encoding the content begins with.
-/

namespace Offside.Source

section Load

variable {path : String} {bytes : ByteArray}

/-- What encodes a text is loaded as the text with its line ends normalized. -/
theorem load_of_eq {text : Text} (encoded : bytes = text.utf8Encode) :
    load path (some bytes) = .ok ⟨path, Text.normalizeNewlines text⟩ := by
  simp only [load, Text.decode_eq_ok_iff.2 encoded]

/-- What encodes no text is refused behind the longest text that it begins with. -/
theorem exists_refusal (path : String) (noText : ¬ ∃ text : Text, bytes = text.utf8Encode) :
    ∃ offset, load path (some bytes) = .error (.notUtf8 path offset) ∧
      IsGreatest (Text.encodedSizes bytes) offset := by
  cases decoded : Text.decode bytes with
  | ok text => exact absurd ⟨text, Text.decode_eq_ok_iff.1 decoded⟩ noText
  | error offset =>
    refine ⟨offset, ?_, Text.isGreatest_of_decode decoded⟩
    simp only [load, decoded]

end Load

/-- What loading a file with this content comes to. -/
structure LoadLaws (path : String) (bytes : ByteArray) : Prop where
  /-- It succeeds exactly if the content encodes a text. -/
  succeeds_iff : (∃ source, load path (some bytes) = .ok source) ↔
    ∃ text : Text, bytes = text.utf8Encode
  /-- Then the source is this text with its line ends normalized. -/
  loads : ∀ text : Text, bytes = text.utf8Encode →
    load path (some bytes) = .ok ⟨path, Text.normalizeNewlines text⟩
  /-- It is the very text if that has no carriage return. -/
  unchanged : ∀ text : Text, bytes = text.utf8Encode → '\r' ∉ text →
    load path (some bytes) = .ok ⟨path, text⟩
  /-- Otherwise the refusal names the size of the longest encoding of a text that the content begins
  with. -/
  refuses : (¬ ∃ text : Text, bytes = text.utf8Encode) →
    ∃ offset, load path (some bytes) = .error (.notUtf8 path offset) ∧
      IsGreatest (Text.encodedSizes bytes) offset
  /-- Content that encodes a text is made up of sequences that hold the code points of characters,
  each in the shortest form. -/
  wellFormed : (∃ text : Text, bytes = text.utf8Encode) ↔
    ∃ sequences : List (List UInt8), (∀ sequence ∈ sequences, Text.WellFormed sequence) ∧
      bytes = sequences.flatten.toByteArray

theorem loadLaws (path : String) (bytes : ByteArray) : LoadLaws path bytes := by
  refine ⟨⟨?_, ?_⟩, fun text => load_of_eq, ?_, exists_refusal path,
    Text.exists_utf8Encode_iff⟩
  · rintro ⟨source, loaded⟩
    by_contra noText
    obtain ⟨offset, refused, _⟩ := exists_refusal path noText
    rw [refused] at loaded
    contradiction
  · rintro ⟨text, encoded⟩
    exact ⟨_, load_of_eq encoded⟩
  · intro text encoded clean
    rw [load_of_eq encoded, Text.normalizeNewlines_of_not_mem clean]

/-- A surrogate behind a character of three bytes. -/
example : load "a" (some ⟨#[0xe2, 0x82, 0xac, 0xed, 0xa0, 0x80]⟩) = .error (.notUtf8 "a" 3) := by
  cbv

end Offside.Source
