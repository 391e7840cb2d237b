import Mathlib.Data.List.Infix
import Offside.Proofs.Lexeme.Locality
import Offside.Proofs.Lexeme.Messages
import Offside.Proofs.Lexer.Taking

/-! # Quoted literals

The text behind a double quote is divided into units: a backslash with the character that it
escapes, or a single character. The whole text can be divided, whether it belongs to the literal or
not, and the literal ends with the first unit that is a double quote. Each escape before it that
means nothing is reported where it stands. Where no unit is a double quote, the literal goes on to
the end of the source and is reported as a whole, after its escapes.
-/

namespace Offside

namespace Lexeme

namespace QuotedUnit

/-- The characters of a unit. -/
def spelling : QuotedUnit → Text
  | plain c => [c]
  | escape c => ['\\', c]

/-- The characters of several units, one behind the other. -/
def spell (units : List QuotedUnit) : Text := units.flatMap spelling

/-- Divides a text into units. A backslash at the end of the text is a unit of its own. -/
def split : Text → List QuotedUnit
  | [] => []
  | '\\' :: c :: rest => .escape c :: split rest
  | c :: rest => .plain c :: split rest

/-- Whether a unit is in order: an escape has to mean something. -/
def isValid : QuotedUnit → Bool
  | plain _ => true
  | escape c => c ∈ escapable

/-- The escapes that mean nothing, each with the units before it. -/
def offences (units : List QuotedUnit) : List (List QuotedUnit × Char) :=
  (units.inits.zip units).filterMap fun
    | (_, .plain _) => none
    | (before, .escape c) => if c ∈ escapable then none else some (before, c)

/-- Dividing a text into units loses nothing. -/
theorem spell_split (text : Text) : spell (split text) = text := by
  fun_induction split text with
  | case1 => rfl
  | case2 c rest ih => exact congrArg (['\\', c] ++ ·) ih
  | case3 c rest _ ih => exact congrArg ([c] ++ ·) ih

theorem length_spell (units : List QuotedUnit) : (spell units).length = total units := by
  induction units with
  | nil => rfl
  | cons unit rest ih =>
    have joined : spell (unit :: rest) = unit.spelling ++ spell rest := rfl
    rw [joined, List.length_append, ih]
    cases unit <;> rfl

/-- An escape is an offence of its own unless it is a valid one, and what is wrong behind a unit is
wrong with that unit before it. -/
theorem offences_cons (unit : QuotedUnit) (rest : List QuotedUnit) :
    offences (unit :: rest) =
      (match unit with
        | plain _ => []
        | escape c => if c ∈ escapable then [] else [([], c)]) ++
      (offences rest).map fun (before, c) => (unit :: before, c) := by
  unfold offences
  rw [List.inits_cons, List.zip_cons_cons, List.zip_map_left, ← List.singleton_append,
    List.filterMap_append, List.filterMap_map, List.map_filterMap]
  congr 1
  · cases unit with
    | plain c => rfl
    | escape c => by_cases valid : c ∈ escapable <;> simp [valid]
  · apply List.filterMap_congr
    rintro ⟨before, inner⟩ _
    cases inner with
    | plain c => rfl
    | escape c => by_cases valid : c ∈ escapable <;> simp [valid]

theorem prefix_of_mem_offences {units before : List QuotedUnit} {c : Char}
    (member : (before, c) ∈ offences units) : before ++ [.escape c] <+: units := by
  induction units generalizing before with
  | nil => simp [offences] at member
  | cons unit rest ih =>
    rw [offences_cons] at member
    rcases List.mem_append.1 member with here | later
    · cases unit with
      | plain d => simp at here
      | escape d =>
        obtain ⟨-, rfl, rfl⟩ : d ∉ escapable ∧ before = [] ∧ c = d := by simpa using here
        simp
    · obtain ⟨⟨inner, d⟩, found, same⟩ := List.mem_map.1 later
      obtain ⟨rfl, rfl⟩ := Prod.mk.inj same
      exact List.cons_prefix_cons.2 ⟨rfl, ih found⟩

/-- The flaws of units are their offences, each where it stands. -/
theorem flawsFrom_eq_map (offset : Nat) (units : List QuotedUnit) :
    flawsFrom offset units =
      (offences units).map fun (before, c) => ⟨.invalidEscape c, offset + total before, 2⟩ := by
  induction units generalizing offset with
  | nil => rfl
  | cons unit rest ih =>
    have shifted : flawsFrom (offset + unit.length) rest =
        ((offences rest).map fun (before, c) => (unit :: before, c)).map
          fun (before, c) => ⟨.invalidEscape c, offset + total before, 2⟩ := by
      rw [ih, List.map_map]
      apply List.map_congr_left
      rintro ⟨before, c⟩ _
      simp only [Function.comp_apply, total, Nat.add_assoc]
    rw [offences_cons, List.map_append, ← shifted]
    cases unit with
    | plain c => rfl
    | escape c =>
      by_cases valid : c ∈ escapable
      · simp [flawsFrom, valid, length]
      · simp [flawsFrom, valid, length]

/-- Units without an offence are all in order. -/
theorem isEmpty_offences (units : List QuotedUnit) :
    (offences units).isEmpty = units.all isValid := by
  induction units with
  | nil => rfl
  | cons unit rest ih =>
    rw [offences_cons, List.all_cons, ← ih]
    cases unit with
    | plain c => simp [isValid]
    | escape c => by_cases valid : c ∈ escapable <;> simp [isValid, valid]

/-- The first units of a row are spelled by its first characters. -/
theorem take_spell {before units : List QuotedUnit} (first : before <+: units) (rest : Text) :
    (spell units ++ rest).take (total before) = spell before := by
  obtain ⟨more, rfl⟩ := first
  have joined : spell (before ++ more) = spell before ++ spell more := List.flatMap_append
  rw [joined, List.append_assoc, ← length_spell, List.take_left]

end QuotedUnit

/-- Reading the inside of a literal divides the text into units up to the first double quote. -/
theorem QuotedBody.read_eq (text : Text) :
    QuotedBody.read text = ⟨(QuotedUnit.split text).takeWhile (· ≠ .plain '\x22'),
      decide (.plain '\x22' ∈ QuotedUnit.split text)⟩ := by
  fun_induction QuotedBody.read text with
  | case1 => rfl
  | case2 rest => simp [QuotedUnit.split]
  | case3 c rest ih => simp [QuotedUnit.split, ih, QuotedBody.cons]
  | case4 c rest notQuote notEscape ih =>
    have other : c ≠ '\x22' := fun quote => notQuote quote
    have unit : QuotedUnit.split (c :: rest) = .plain c :: QuotedUnit.split rest := by
      rw [QuotedUnit.split]
      exact notEscape
    simp [unit, ih, QuotedBody.cons, other, other.symm]

/-- A text without a double quote among its units is the inside of a literal as a whole. -/
theorem QuotedUnit.spell_takeWhile_of_not_mem {text : Text}
    (unclosed : .plain '\x22' ∉ QuotedUnit.split text) :
    QuotedUnit.spell ((QuotedUnit.split text).takeWhile (· ≠ .plain '\x22')) = text := by
  rw [List.takeWhile_eq_self_iff.2, QuotedUnit.spell_split]
  intro unit member
  apply decide_eq_true
  rintro rfl
  exact unclosed member

/-- One with a double quote among its units goes on with it behind the inside of the literal. -/
theorem QuotedUnit.exists_of_mem {text : Text} (closed : .plain '\x22' ∈ QuotedUnit.split text) :
    ∃ rest, text = QuotedUnit.spell ((QuotedUnit.split text).takeWhile (· ≠ .plain '\x22')) ++
      '\x22' :: rest := by
  obtain ⟨inner, behind, shape, before⟩ := List.eq_append_cons_of_mem closed
  have satisfied : ∀ unit ∈ inner, decide (unit ≠ .plain '\x22') = true := by
    intro unit member
    apply decide_eq_true
    rintro rfl
    exact before member
  have joined : QuotedUnit.spell (inner ++ .plain '\x22' :: behind) =
      QuotedUnit.spell inner ++ '\x22' :: QuotedUnit.spell behind := by
    simp [QuotedUnit.spell, QuotedUnit.spelling]
  refine ⟨QuotedUnit.spell behind, ?_⟩
  rw [shape, List.takeWhile_append_of_pos satisfied, List.takeWhile_cons_of_neg (by simp),
    List.append_nil, ← joined, ← shape, QuotedUnit.spell_split]

/-- The literal before a text with a double quote among its units. -/
theorem quoted_of_mem {text : Text} (closed : .plain '\x22' ∈ QuotedUnit.split text) :
    let inner := (QuotedUnit.split text).takeWhile (· ≠ .plain '\x22')
    quoted text = ⟨some (if inner.all QuotedUnit.isValid then .quoted else .invalid),
      QuotedUnit.total inner + 2, QuotedUnit.flawsFrom 1 inner, by omega⟩ := by
  intro inner
  have clean : (QuotedUnit.flawsFrom 1 inner).isEmpty = inner.all QuotedUnit.isValid := by
    rw [QuotedUnit.flawsFrom_eq_map, List.isEmpty_map, QuotedUnit.isEmpty_offences]
  simp only [quoted, QuotedBody.read_eq, decide_eq_true closed, if_true]
  rw [← clean]

/-- The literal before a text without one is not closed. -/
theorem quoted_of_not_mem {text : Text} (unclosed : .plain '\x22' ∉ QuotedUnit.split text) :
    let inner := (QuotedUnit.split text).takeWhile (· ≠ .plain '\x22')
    quoted text = ⟨some .invalid, text.length + 1,
      QuotedUnit.flawsFrom 1 inner ++ [⟨.unterminatedString, 0, text.length + 1⟩], by omega⟩ := by
  intro inner
  have whole : QuotedUnit.total inner = text.length := by
    rw [← QuotedUnit.length_spell, QuotedUnit.spell_takeWhile_of_not_mem unclosed]
  simp only [quoted, QuotedBody.read_eq, decide_eq_false unclosed, Bool.false_eq_true, if_false]
  simp only [← whole, inner]

end Lexeme

namespace Lexer

open Lexeme

/-- What is reported about an escape whose backslash stands behind `front`. -/
def escapeReport (source : Source) (front : Text) (c : Char) : Diagnostic :=
  ⟨source, .invalidString, Text.spanAfter front 2,
    "invalid escape sequence '\\" ++ Text.escapeChar c ++ "'; valid escapes are " ++
      "\\c \\n \\r \\b \\\\ \\\" \\0"⟩

/-- What is reported about the inside of a literal whose opening quote stands behind `front`: its
escapes that mean nothing, one after the other. -/
def escapeReports (source : Source) (front : Text) (inner : List QuotedUnit) : List Diagnostic :=
  (QuotedUnit.offences inner).map fun (before, c) =>
    escapeReport source (front ++ '\x22' :: QuotedUnit.spell before) c

/-- What is reported about a literal without an end that stands behind `front`. -/
def unterminatedReport (source : Source) (front literal : Text) : Diagnostic :=
  ⟨source, .invalidString, Text.spanAfter front literal.length, "unterminated string literal"⟩

theorem diagnose_invalidEscape (source : Source) (front : Text) (c : Char) :
    (Problem.invalidEscape c).diagnose source (Text.spanAfter front 2) =
      escapeReport source front c := by
  rw [Problem.diagnose, Problem.message_invalidEscape]
  rfl

/-- The flaws of the inside of a literal are reported where the escapes stand. -/
theorem diagnoses_flawsFrom (source : Source) (front rest : Text) (units : List QuotedUnit) :
    ((QuotedUnit.flawsFrom 1 units).map fun flaw =>
        flaw.diagnosis source front ('\x22' :: (QuotedUnit.spell units ++ rest))) =
      escapeReports source front units := by
  rw [QuotedUnit.flawsFrom_eq_map, List.map_map, escapeReports]
  apply List.map_congr_left
  rintro ⟨before, c⟩ member
  have first := (List.prefix_append before [.escape c]).trans
    (QuotedUnit.prefix_of_mem_offences member)
  have taken : ('\x22' :: (QuotedUnit.spell units ++ rest)).take (1 + QuotedUnit.total before) =
      '\x22' :: QuotedUnit.spell before := by
    rw [Nat.add_comm, List.take_succ_cons, QuotedUnit.take_spell first]
  simp only [Function.comp_apply, Flaw.diagnosis, taken, diagnose_invalidEscape]

end Lexer

end Offside
