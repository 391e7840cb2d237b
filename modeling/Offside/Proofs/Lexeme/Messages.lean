import Mathlib.Logic.Function.Defs
import Offside.Lexeme.Problem

/-! # What a message tells

A message names the character that it is about in a form that no other character has: a letter or a
sign behind a backslash, the digits of the code point, or the character itself. So the problem that
a message reports can be told from the message.
-/

namespace Offside

namespace Text

/-- Digits of a number in hexadecimal are told by their characters. -/
theorem digitChar_inj {left right : Nat} (small : left < 16) (small' : right < 16)
    (same : left.digitChar = right.digitChar) : left = right := by
  have table : ∀ left < 16, ∀ right < 16,
      Nat.digitChar left = Nat.digitChar right → left = right := by decide
  exact table left small right small' same

/-- A number in hexadecimal is told by its digits. -/
theorem toDigits_injective : Function.Injective (Nat.toDigits 16) := by
  intro left right same
  induction left using Nat.strongRecOn generalizing right with
  | ind left ih =>
    rw [Nat.toDigits_eq_if (by decide), Nat.toDigits_eq_if (n := right) (by decide)] at same
    split at same <;> split at same
    · rename_i small small'
      exact digitChar_inj small small' (List.singleton_inj.1 same)
    -- One digit is not as many as several.
    · simpa using congrArg List.length same
    · simpa using congrArg List.length same
    · rename_i large _
      obtain ⟨front, last⟩ := List.append_inj' same rfl
      have high := ih (left / 16) (by omega) front
      have low := digitChar_inj (Nat.mod_lt left (by decide)) (Nat.mod_lt right (by decide))
        (List.singleton_inj.1 last)
      omega

/-- The characters that have a short form, with what stands behind the backslash of this form. -/
def shortForms : List (Char × Char) :=
  [('\x00', '0'), ('\t', 't'), ('\r', 'r'), ('\n', 'n'), ('\'', '\''), ('"', '"'), ('\\', '\\')]

/-- A character is shown in its short form, by the digits of its code point, or as itself. -/
theorem escapeChar_cases (c : Char) :
    (∃ sign, (c, sign) ∈ shortForms ∧ (escapeChar c).toList = ['\\', sign]) ∨
      (escapeChar c).toList = '\\' :: 'u' :: '\x7b' :: (Nat.toDigits 16 c.toNat ++ ['\x7d']) ∨
      (escapeChar c).toList = [c] := by
  fun_cases escapeChar c with
  | case8 => exact .inr (.inl (by simp))
  | case9 => exact .inr (.inr (by simp))
  | _ => exact .inl ⟨_, by decide, rfl⟩

/-- No two characters are shown alike. -/
theorem escapeChar_injective : Function.Injective escapeChar := by
  intro left right same
  have shown := congrArg String.toList same
  rcases escapeChar_cases left with ⟨sign, short, form⟩ | form | form
  · rcases escapeChar_cases right with ⟨sign', short', form'⟩ | form' | form' <;>
      rw [form, form'] at shown
    · have table : ∀ entry ∈ shortForms, ∀ other ∈ shortForms,
          entry.2 = other.2 → entry.1 = other.1 := by decide
      exact table _ short _ short' (by simpa using shown)
    · simp at shown
    · simp at shown
  · rcases escapeChar_cases right with ⟨sign', short', form'⟩ | form' | form' <;>
      rw [form, form'] at shown
    · simp at shown
    · simp only [List.cons.injEq, true_and, List.append_cancel_right_eq] at shown
      exact Char.toNat_inj.1 (toDigits_injective shown)
    · simp at shown
  · rcases escapeChar_cases right with ⟨sign', short', form'⟩ | form' | form' <;>
      rw [form, form'] at shown
    · simp at shown
    · simp at shown
    · exact List.singleton_inj.1 shown

end Text

namespace Problem

theorem message_invalidEscape (escaped : Char) : (invalidEscape escaped).message =
    "invalid escape sequence '\\" ++ Text.escapeChar escaped ++ "'; valid escapes are " ++
      "\\c \\n \\r \\b \\\\ \\\" \\0" := by
  have valid : " ".intercalate (escapable.map fun c => String.ofList ['\\', c]) =
      "\\c \\n \\r \\b \\\\ \\\" \\0" := by decide
  -- Interpolated strings are put through `toString`, which changes nothing about a string.
  have same (part : String) : toString part = part := rfl
  unfold message
  dsimp only
  rw [valid, same, same, same, same]

theorem message_strayCharacter (found : Char) : (strayCharacter found).message =
    "unrecognized character '" ++ Text.escapeChar found ++ "'" := by
  have same (part : String) : toString part = part := rfl
  unfold message
  dsimp only
  rw [same, same, same]

/-- What the message of a problem begins with, whatever character it names. -/
def opening : Problem → Text
  | unterminatedString => ['u', 'n', 't', 'e', 'r', 'm', 'i', 'n', 'a', 't', 'e', 'd', ' ', 's']
  | unterminatedRaw => ['u', 'n', 't', 'e', 'r', 'm', 'i', 'n', 'a', 't', 'e', 'd', ' ', 'r']
  | invalidEscape _ => ['i', 'n']
  | strayCharacter _ => ['u', 'n', 'r']

theorem opening_prefix (problem : Problem) : problem.opening <+: problem.message.toList := by
  cases problem with
  | unterminatedString | unterminatedRaw => decide
  | invalidEscape escaped =>
    have begins : ['i', 'n'] <+: "invalid escape sequence '\\".toList := by decide
    rw [message_invalidEscape, String.append_assoc, String.append_assoc, String.toList_append]
    exact begins.trans (List.prefix_append _ _)
  | strayCharacter found =>
    have begins : ['u', 'n', 'r'] <+: "unrecognized character '".toList := by decide
    rw [message_strayCharacter, String.append_assoc, String.toList_append]
    exact begins.trans (List.prefix_append _ _)

/-- No two problems are worded alike. -/
theorem message_injective : Function.Injective message := by
  intro left right same
  have nested := List.prefix_or_prefix_of_prefix (same ▸ left.opening_prefix) right.opening_prefix
  cases left with
  | unterminatedString =>
    cases right with
    | unterminatedString => rfl
    | unterminatedRaw | invalidEscape | strayCharacter => simp [opening] at nested
  | unterminatedRaw =>
    cases right with
    | unterminatedRaw => rfl
    | unterminatedString | invalidEscape | strayCharacter => simp [opening] at nested
  | invalidEscape escaped =>
    cases right with
    | invalidEscape other =>
      have shown : Text.escapeChar escaped = Text.escapeChar other := by
        simpa [message_invalidEscape, String.append_assoc] using same
      rw [Text.escapeChar_injective shown]
    | unterminatedString | unterminatedRaw | strayCharacter => simp [opening] at nested
  | strayCharacter found =>
    cases right with
    | strayCharacter other =>
      have shown : Text.escapeChar found = Text.escapeChar other := by
        simpa [message_strayCharacter] using same
      rw [Text.escapeChar_injective shown]
    | unterminatedString | unterminatedRaw | invalidEscape => simp [opening] at nested

end Problem

end Offside
