import Offside.Text.Basic

/-! # Reading bytes as UTF-8

Decoding is strict: overlong forms, surrogates, values past the last code point and cut-off
sequences are all refused. A refusal names the offset at which the first bad sequence starts, so all
bytes before it are the encoding of some text.
-/

namespace Offside.Text

/-- Decodes the bytes from `offset` on, or gives the offset of the first sequence that is no
character. -/
def decodeFrom (bytes : ByteArray) (offset : Nat) : Except Nat Text :=
  if offset < bytes.size then
    match bytes.utf8DecodeChar? offset with
    | some c => (decodeFrom bytes (offset + c.utf8Size)).map (c :: ·)
    | none => .error offset
  else
    .ok []
termination_by bytes.size - offset
decreasing_by have := c.utf8Size_pos; omega

/-- The text that `bytes` encode, or the offset of the first sequence that encodes no character. -/
def decode (bytes : ByteArray) : Except Nat Text := decodeFrom bytes 0

end Offside.Text
