import Offside.Lexeme.Read
import Offside.Proofs.Text.Lookahead

/-! # The shape of a lexeme

Whatever a text begins with, the lexeme read from its front lies in the text, and its flaws lie in
the lexeme. A lexeme is sound and without flaws, or a stray character with one flaw that covers it,
or a malformed literal, which opens with a double quote and has string flaws only.
-/

namespace Offside

/-- The flaw covers at least one of so many characters, and none beyond them. -/
structure Flaw.Inside (flaw : Flaw) (length : Nat) : Prop where
  nonempty : 0 < flaw.length
  bounded : flaw.offset + flaw.length ≤ length

namespace Lexeme

namespace QuotedUnit

/-- Each flaw of a row of units is an escape of two characters that belongs to the row. -/
theorem mem_flawsFrom {offset : Nat} {units : List QuotedUnit} {flaw : Flaw}
    (member : flaw ∈ flawsFrom offset units) :
    (∃ c, flaw.problem = .invalidEscape c) ∧ flaw.length = 2 ∧
      flaw.offset + flaw.length ≤ offset + total units := by
  fun_induction flawsFrom offset units with
  | case1 => simp at member
  | case2 offset c rest ih =>
    obtain ⟨problem, two, bound⟩ := ih member
    exact ⟨problem, two, by rw [total_plain]; omega⟩
  | case3 offset c rest later valid ih =>
    obtain ⟨problem, two, bound⟩ := ih member
    exact ⟨problem, two, by rw [total_escape]; omega⟩
  | case4 offset c rest later bad ih =>
    rcases List.mem_cons.1 member with rfl | further
    · exact ⟨⟨c, rfl⟩, rfl, by rw [total_escape]; dsimp only; omega⟩
    · obtain ⟨problem, two, bound⟩ := ih further
      exact ⟨problem, two, by rw [total_escape]; omega⟩

/-- A row of units has no more flaws than characters. -/
theorem length_flawsFrom_le (offset : Nat) (units : List QuotedUnit) :
    (flawsFrom offset units).length ≤ total units := by
  fun_induction flawsFrom offset units with
  | case1 => exact Nat.le_refl _
  | case2 offset c rest ih =>
    rw [total_plain]
    omega
  | case3 offset c rest later valid ih =>
    rw [total_escape]
    exact Nat.le_add_left_of_le ih
  | case4 offset c rest later bad ih =>
    rw [total_escape, List.length_cons, Nat.add_comm]
    exact Nat.add_le_add (Nat.le_succ 1) ih

end QuotedUnit

/-- The units of a quoted body lie in the text it is read from, with the closing quote behind them;
a body that is not closed takes up the whole text. -/
theorem QuotedBody.total_units_read (text : Text) :
    if (QuotedBody.read text).closed then
      QuotedUnit.total (QuotedBody.read text).units + 1 ≤ text.length
    else
      QuotedUnit.total (QuotedBody.read text).units = text.length := by
  fun_induction QuotedBody.read text with
  | case1 => simp
  | case2 rest => simp
  | case3 c rest ih =>
    simp only [QuotedBody.cons, List.length_cons, QuotedUnit.total_escape]
    split at ih <;> simp_all <;> omega
  | case4 c rest _ _ ih =>
    simp only [QuotedBody.cons, List.length_cons, QuotedUnit.total_plain]
    split at ih <;> simp_all <;> omega

/-- The lexeme lies in a text of so many characters, and its flaws lie in the lexeme. -/
structure Within (lexeme : Lexeme) (length : Nat) : Prop where
  bounded : lexeme.length ≤ length
  flaws : ∀ flaw ∈ lexeme.flaws, flaw.Inside lexeme.length

/-- How the lexeme that starts with a character turns out. -/
inductive Outcome (first : Char) (lexeme : Lexeme) : Prop
  | sound {kind : Kind} (read : lexeme.kind? = some kind) (valid : kind ≠ .invalid)
      (flawless : lexeme.flaws = [])
  | stray (same : lexeme = .stray first) (unquoted : first ≠ '\x22')
  | malformed (quote : first = '\x22') (read : lexeme.kind? = some .invalid)
      (flawed : lexeme.flaws ≠ [])
      (issues : ∀ flaw ∈ lexeme.flaws, flaw.problem.issue = .invalidString)

section Literals

theorem within_quoted (rest : Text) : (quoted rest).Within (rest.length + 1) := by
  have size := QuotedBody.total_units_read rest
  fun_cases quoted rest with
  | case1 body inner badEscapes closed =>
    rw [if_pos closed] at size
    refine ⟨?_, ?_⟩
    · change QuotedUnit.total (QuotedBody.read rest).units + 2 ≤ _
      omega
    · intro flaw member
      obtain ⟨_, two, bound⟩ := QuotedUnit.mem_flawsFrom member
      refine ⟨by omega, ?_⟩
      change _ ≤ QuotedUnit.total body.units + 2
      omega
  | case2 body inner badEscapes unclosed =>
    rw [if_neg unclosed] at size
    refine ⟨?_, ?_⟩
    · change QuotedUnit.total (QuotedBody.read rest).units + 1 ≤ _
      omega
    · intro flaw member
      rcases List.mem_append.1 member with escape | whole
      · obtain ⟨_, two, bound⟩ := QuotedUnit.mem_flawsFrom escape
        refine ⟨by omega, ?_⟩
        change _ ≤ QuotedUnit.total body.units + 1
        omega
      · obtain rfl := List.mem_singleton.1 whole
        exact ⟨Nat.succ_pos _, by simp⟩

theorem within_raw (rest : Text) : (raw rest).Within (rest.length + 3) := by
  unfold raw
  split
  · rename_i inner found
    have bound := (Text.prefix_drop_of_indexOf? found).length_le
    have three : tripleQuote.length = 3 := rfl
    rw [List.length_drop, three] at bound
    exact ⟨by dsimp only; omega, by simp⟩
  · refine ⟨Nat.le_refl _, ?_⟩
    intro flaw member
    obtain rfl := List.mem_singleton.1 member
    exact ⟨Nat.succ_pos _, by simp⟩

theorem outcome_quoted (rest : Text) : Outcome '\x22' (quoted rest) := by
  have escapes : ∀ flaw ∈ QuotedUnit.flawsFrom 1 (QuotedBody.read rest).units,
      flaw.problem.issue = .invalidString := by
    intro flaw member
    obtain ⟨⟨c, problem⟩, _⟩ := QuotedUnit.mem_flawsFrom member
    rw [problem]
    rfl
  fun_cases quoted rest with
  | case1 body inner badEscapes closed =>
    by_cases clean : badEscapes = []
    · exact .sound rfl (by simp [clean]) clean
    · exact .malformed rfl (by simp [clean]) clean escapes
  | case2 body inner badEscapes unclosed =>
    refine .malformed rfl rfl (by simp) ?_
    intro flaw member
    rcases List.mem_append.1 member with escape | whole
    · exact escapes flaw escape
    · obtain rfl := List.mem_singleton.1 whole
      rfl

theorem outcome_raw (rest : Text) : Outcome '\x22' (raw rest) := by
  unfold raw
  split
  · exact .sound rfl (by simp) rfl
  · refine .malformed rfl rfl (by simp) ?_
    intro flaw member
    obtain rfl := List.mem_singleton.1 member
    rfl

end Literals

section Words

theorem within_word (first : Char) (rest : Text) : (word first rest).Within (rest.length + 1) := by
  have bound := (List.takeWhile_prefix (l := rest) isWordPart).length_le
  exact ⟨by simpa [word] using bound, by simp [word]⟩

theorem fractionLength_le (rest : Text) : fractionLength rest ≤ rest.length := by
  fun_cases fractionLength rest with
  | case1 digit rest isDigit =>
    have bound := (List.takeWhile_prefix (l := rest) isNumberPart).length_le
    simp only [List.length_cons]
    omega
  | case2 => simp
  | case3 => simp

theorem within_number (rest : Text) : (number rest).Within (rest.length + 1) := by
  have whole : (rest.takeWhile isNumberPart).length + (rest.dropWhile isNumberPart).length =
      rest.length := by
    rw [← List.length_append, List.takeWhile_append_dropWhile]
  have fraction := fractionLength_le (rest.dropWhile isNumberPart)
  refine ⟨?_, by simp [number]⟩
  change 1 + (rest.takeWhile isNumberPart).length + fractionLength (rest.dropWhile isNumberPart) ≤ _
  omega

/-- No reserved word stands for a marker or for something invalid. -/
theorem plain_of_reserved {word : Text} {kind : Kind} (reserved : Kind.reserved? word = some kind) :
    kind ≠ .invalid ∧ kind ≠ .endOfFile ∧ kind ≠ .endOfLine := by
  have table : ∀ kind ∈ Kind.reservedKinds,
      kind ≠ .invalid ∧ kind ≠ .endOfFile ∧ kind ≠ .endOfLine := by decide
  exact table kind (Kind.reserved?_eq_some_iff.1 reserved).1

theorem plain_word (first : Char) (rest : Text) : ∃ kind, (word first rest).kind? = some kind ∧
    kind ≠ .invalid ∧ kind ≠ .endOfFile ∧ kind ≠ .endOfLine := by
  refine ⟨_, rfl, ?_⟩
  cases reserved : Kind.reserved? (first :: rest.takeWhile isWordPart) with
  | none => decide
  | some kind => exact plain_of_reserved reserved

theorem plain_number (rest : Text) : ∃ kind, (number rest).kind? = some kind ∧
    kind ≠ .invalid ∧ kind ≠ .endOfFile ∧ kind ≠ .endOfLine := by
  refine ⟨_, rfl, ?_⟩
  split <;> decide

end Words

theorem within_ofOperator {first : Char} {rest suffix : Text} {sign : Operator}
    (read : Operator.read? first rest = some (suffix, sign)) :
    (ofOperator suffix sign).Within (rest.length + 1) := by
  have begins := (Operator.spelling_of_read? read).2
  exact ⟨Nat.succ_le_succ begins.length_le, by simp [ofOperator]⟩

/-- The lexeme at the front of a text lies in it, with all its flaws. -/
theorem within_read (first : Char) (rest : Text) :
    (read first rest).Within (rest.length + 1) := by
  fun_cases read first rest with
  | case1 => exact ⟨Nat.succ_le_succ (Nat.zero_le _), by simp [endOfLine]⟩
  | case2 _ _ body => exact within_raw body
  | case3 => exact within_quoted rest
  | case4 => exact within_word first rest
  | case5 => exact within_number rest
  | case6 _ _ _ _ _ _ _ signed => exact within_ofOperator signed
  | case7 =>
    refine ⟨Nat.succ_le_succ (Nat.zero_le _), ?_⟩
    intro flaw member
    obtain rfl := List.mem_singleton.1 member
    exact ⟨Nat.one_pos, Nat.le_refl _⟩

/-- A lexeme has no more flaws than characters. -/
theorem length_flaws_read_le (first : Char) (rest : Text) :
    (read first rest).flaws.length ≤ (read first rest).length := by
  fun_cases read first rest with
  | case1 => exact Nat.zero_le _
  | case2 _ _ body =>
    unfold raw
    split
    · exact Nat.zero_le _
    · exact Nat.succ_le_succ (Nat.zero_le _)
  | case3 =>
    have escapes := QuotedUnit.length_flawsFrom_le 1 (QuotedBody.read rest).units
    unfold quoted
    dsimp only
    split
    · exact Nat.le_trans escapes (Nat.le_add_right _ 2)
    · simpa using escapes
  | case4 => exact Nat.zero_le _
  | case5 => exact Nat.zero_le _
  | case6 => exact Nat.zero_le _
  | case7 => exact Nat.le_refl _

/-- Every lexeme is sound, a stray character or a malformed literal. -/
theorem outcome_read (first : Char) (rest : Text) : Outcome first (read first rest) := by
  fun_cases read first rest with
  | case1 => exact .sound rfl (by decide) rfl
  | case2 _ quote body =>
    rw [quote]
    exact outcome_raw body
  | case3 _ quote =>
    rw [quote]
    exact outcome_quoted rest
  | case4 =>
    obtain ⟨kind, read, valid, _⟩ := plain_word first rest
    exact .sound read valid rfl
  | case5 =>
    obtain ⟨kind, read, valid, _⟩ := plain_number rest
    exact .sound read valid rfl
  | case6 => exact .sound rfl (by simp) rfl
  | case7 _ _ unquoted => exact .stray rfl unquoted

/-- No lexeme is the end of the source, and only a line feed is the end of a line. -/
theorem marker_read (first : Char) (rest : Text) :
    (read first rest).kind? ≠ some .endOfFile ∧
      ((read first rest).kind? = some .endOfLine ↔ first = '\n') := by
  fun_cases read first rest with
  | case1 _ newline => simp [endOfLine, newline]
  | case2 other _ body =>
    unfold raw
    split <;> simp [other]
  | case3 other =>
    unfold quoted
    dsimp only
    split
    · split <;> simp [other]
    · simp [other]
  | case4 _ other =>
    obtain ⟨kind, read, _, notFile, notLine⟩ := plain_word first rest
    simp [read, notFile, notLine, other]
  | case5 _ other =>
    obtain ⟨kind, read, _, notFile, notLine⟩ := plain_number rest
    simp [read, notFile, notLine, other]
  | case6 _ other => simp [ofOperator, other]
  | case7 _ other => simp [stray, other]

end Lexeme

end Offside
