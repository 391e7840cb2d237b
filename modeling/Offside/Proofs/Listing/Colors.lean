import Offside.Proofs.Listing.Layout

/-! # Colors in a listing

A color sequence is an escape sign with a bracket, digits and semicolons, and the letter that ends
it. Pieces of a listing are colored by such sequences before and behind them, so a listing with
colors is the listing without them again once all sequences are deleted. This holds wherever the
listing without colors has no escape sign of its own.
-/

namespace Offside

namespace Text

/-- Whether a character can stand between the bracket of a color sequence and its end. -/
def isParameter (c : Char) : Bool := c.isDigit || c = ';'

/-- What stands behind the color sequence that a text begins with, if it begins with one. -/
def behindSequence? : Text → Option Text
  | '\x1b' :: '[' :: rest =>
    match rest.dropWhile isParameter with
    | 'm' :: behind => some behind
    | _ => none
  | _ => none

/-- The text is a color sequence. -/
def IsSequence (text : Text) : Prop :=
  ∃ parameters, (∀ c ∈ parameters, isParameter c = true) ∧
    text = '\x1b' :: '[' :: (parameters ++ ['m'])

/-- A text begins with a color sequence exactly if something is found behind one. -/
theorem behindSequence?_eq_some_iff {text behind : Text} :
    behindSequence? text = some behind ↔ ∃ code, IsSequence code ∧ text = code ++ behind := by
  constructor
  · intro found
    unfold behindSequence? at found
    split at found
    · rename_i rest
      split at found
      · rename_i behind' stop
        obtain rfl := Option.some.inj found
        refine ⟨_, ⟨rest.takeWhile isParameter, List.all_eq_true.1 List.all_takeWhile, rfl⟩, ?_⟩
        simp [← stop]
      · contradiction
    · contradiction
  · rintro ⟨_, ⟨parameters, satisfied, rfl⟩, rfl⟩
    have stops : ∀ c ∈ ('m' :: behind).head?, isParameter c = false := by
      simp [isParameter, Char.isDigit]
    have cut := (takeWhile_dropWhile_append satisfied stops).2
    simp [behindSequence?, cut]

/-- A sequence has characters, so less is left behind it. -/
theorem length_lt_of_behindSequence? {text behind : Text}
    (found : behindSequence? text = some behind) : behind.length < text.length := by
  obtain ⟨code, ⟨parameters, _, rfl⟩, rfl⟩ := behindSequence?_eq_some_iff.1 found
  simp only [List.cons_append, List.append_assoc, List.length_cons, List.length_append]
  omega

/-- The text with all color sequences deleted. -/
def stripSequences (text : Text) : Text :=
  match text with
  | [] => []
  | c :: rest =>
    match found : behindSequence? (c :: rest) with
    | some behind =>
      have := length_lt_of_behindSequence? found
      stripSequences behind
    | none => c :: stripSequences rest
termination_by text.length
decreasing_by
  · assumption
  · exact Nat.lt_succ_self rest.length

@[simp] theorem stripSequences_nil : stripSequences [] = [] := by
  rw [stripSequences]

/-- A sequence is deleted as a whole. -/
theorem stripSequences_append_sequence {code : Text} (sequence : IsSequence code) (rest : Text) :
    stripSequences (code ++ rest) = stripSequences rest := by
  have begins : behindSequence? (code ++ rest) = some rest :=
    behindSequence?_eq_some_iff.2 ⟨code, sequence, rfl⟩
  obtain ⟨parameters, _, rfl⟩ := sequence
  rw [List.cons_append] at begins ⊢
  rw [stripSequences]
  split
  · rename_i behind found
    exact congrArg stripSequences (Option.some.inj (found.symm.trans begins))
  · rename_i found
    rw [begins] at found
    contradiction

/-- What has no escape sign is kept as it is. -/
theorem stripSequences_append_of_not_mem {word : Text} (clean : '\x1b' ∉ word) (rest : Text) :
    stripSequences (word ++ rest) = word ++ stripSequences rest := by
  induction word with
  | nil => rfl
  | cons c word ih =>
    obtain ⟨other, clean⟩ : '\x1b' ≠ c ∧ '\x1b' ∉ word := by simpa using clean
    rw [List.cons_append, stripSequences]
    split
    · rename_i behind found
      obtain ⟨_, ⟨_, _, rfl⟩, same⟩ := behindSequence?_eq_some_iff.1 found
      exact absurd (List.cons.inj same).1.symm other
    · rw [ih clean, List.cons_append]

end Text

namespace Listing

theorem Style.isSequence_reset : Text.IsSequence reset := by
  refine ⟨['0'], ?_, rfl⟩
  simp [Text.isParameter]

/-- Every color is turned on by a sequence. -/
theorem Style.isSequence_of_code? {style : Style} {code : Text}
    (colored : style.code? = some code) : Text.IsSequence code := by
  have sequence (digit : Char) (isDigit : digit.isDigit = true) :
      Text.IsSequence ['\x1b', '[', '1', ';', '3', digit, 'm'] := by
    refine ⟨['1', ';', '3', digit], ?_, rfl⟩
    simp [Text.isParameter, isDigit]
  cases style with
  | plain => contradiction
  | gutter =>
    obtain rfl := Option.some.inj colored
    exact sequence '4' (by decide)
  | accent severity =>
    cases severity with
    | error =>
      obtain rfl := Option.some.inj colored
      exact sequence '1' (by decide)
    | warning =>
      obtain rfl := Option.some.inj colored
      exact sequence '3' (by decide)
    | info =>
      obtain rfl := Option.some.inj colored
      exact sequence '6' (by decide)

section Strip

open Text

/-- The sequences around a piece are deleted. -/
theorem stripSequences_write_piece {piece : Piece} (clean : '\x1b' ∉ piece.text) (rest : Text) :
    stripSequences (piece.write true ++ rest) = piece.write false ++ stripSequences rest := by
  rw [Piece.write_false]
  unfold Piece.write
  split
  · exact stripSequences_append_of_not_mem clean rest
  · rename_i code colored
    split
    · rw [List.append_assoc, List.append_assoc,
        stripSequences_append_sequence (Style.isSequence_of_code? colored),
        stripSequences_append_of_not_mem clean,
        stripSequences_append_sequence Style.isSequence_reset]
    · exact stripSequences_append_of_not_mem clean rest

/-- So are those in a row. -/
theorem stripSequences_write_row {row : Row} (clean : '\x1b' ∉ row.write false) (rest : Text) :
    stripSequences (row.write true ++ rest) = row.write false ++ stripSequences rest := by
  induction row with
  | nil => rfl
  | cons piece more ih =>
    simp only [Row.write, List.flatMap_cons, List.mem_append, not_or, Piece.write_false] at clean ih
    simp only [Row.write, List.flatMap_cons, List.append_assoc]
    rw [stripSequences_write_piece clean.1, ih clean.2]

/-- So are those in several rows. -/
theorem stripSequences_writeRows {rows : List Row}
    (clean : ∀ row ∈ rows, '\x1b' ∉ row.write false) :
    stripSequences (writeRows true rows) = writeRows false rows := by
  induction rows with
  | nil => exact stripSequences_nil
  | cons row rest ih =>
    obtain ⟨here, later⟩ := List.forall_mem_cons.1 clean
    have behind := ih later
    unfold writeRows at behind ⊢
    cases rest with
    | nil => simpa using stripSequences_write_row here []
    | cons next more =>
      simp only [List.map_cons, List.intercalate_cons_cons, List.append_assoc] at behind ⊢
      rw [stripSequences_write_row here, stripSequences_append_of_not_mem (by decide), behind]

end Strip

/-- Rows written one under the other have no characters but their own and line feeds. -/
theorem not_mem_writeRows {rows : List Row} {colors : Bool} {c : Char} (ordinary : c ≠ '\n')
    (clean : ∀ row ∈ rows, c ∉ row.write colors) : c ∉ writeRows colors rows := by
  induction rows with
  | nil => exact List.not_mem_nil
  | cons row rest ih =>
    obtain ⟨here, later⟩ := List.forall_mem_cons.1 clean
    have behind := ih later
    unfold writeRows at behind ⊢
    cases rest with
    | nil => simpa using here
    | cons next more =>
      simp only [List.map_cons, List.intercalate_cons_cons, List.mem_append, List.mem_singleton,
        not_or] at behind ⊢
      exact ⟨⟨here, ordinary⟩, behind⟩

/-- A listing without colors has an escape sign only where its path, its message or one of its lines
has one. -/
theorem escape_not_mem_rows {diagnostic : Diagnostic} {lines : List SourceLine}
    (path : '\x1b' ∉ diagnostic.source.path.toList) (message : '\x1b' ∉ diagnostic.message.toList)
    (listed : ∀ line ∈ lines, '\x1b' ∉ line.text) :
    ∀ row ∈ rows diagnostic lines, '\x1b' ∉ row.write false := by
  have control : '\x1b'.toNat < 32 := by decide
  have spaces (width : Nat) : '\x1b' ∉ List.replicate width ' ' := by simp
  intro row member
  rcases List.mem_append.1 member with upper | last
  · rcases List.mem_append.1 upper with opening | inner
    · rcases List.mem_cons.1 opening with rfl | second
      · rw [write_header, ← List.count_eq_zero, count_heading_of_control diagnostic control]
        exact List.count_eq_zero_of_not_mem path
      · rw [List.mem_singleton.1 second, write_blankGutter]
        exact not_mem_gutterText control (spaces _) List.not_mem_nil
    · obtain ⟨⟨line, marking⟩, entry, among⟩ := List.mem_flatMap.1 inner
      obtain ⟨present, known⟩ := mem_of_mem_markLines entry
      rcases List.mem_cons.1 among with rfl | under
      · rw [write_lineRow]
        exact not_mem_gutterText control (not_mem_numberText control _ _)
          (by simpa using listed line present)
      · rw [List.mem_singleton.1 under, write_markRow]
        have clean : '\x1b' ∉ marking.padding ++ marking.marks :=
          fun escape => absurd (known _ escape) (by decide)
        exact not_mem_gutterText control (spaces _) (by simpa using clean)
  · rw [List.mem_singleton.1 last, write_note]
    simpa [noteText] using message

end Listing

namespace Diagnostic

open Listing

/-- Colors change nothing about a listing but the sequences they put into it: without these it is
the listing without colors, which has none. There is a listing with colors exactly if there is one
without, and the reasons why there is none are the same. -/
theorem render_colors (diagnostic : Diagnostic)
    (path : '\x1b' ∉ diagnostic.source.path.toList) (message : '\x1b' ∉ diagnostic.message.toList)
    (listed : ∀ lines, diagnostic.source.lines diagnostic.span = .ok lines →
      ∀ line ∈ lines, '\x1b' ∉ line.text) :
    (diagnostic.render true).map Text.stripSequences = diagnostic.render false ∧
      (∀ plain, diagnostic.render false = .ok plain → '\x1b' ∉ plain) ∧
      ∀ fault, diagnostic.render true = .error fault ↔ diagnostic.render false = .error fault := by
  unfold render
  dsimp only
  split
  · cases outcome : diagnostic.source.lines diagnostic.span with
    | error fault => exact ⟨rfl, nofun, fun other => Iff.rfl⟩
    | ok lines =>
      have clean := escape_not_mem_rows path message (listed lines outcome)
      refine ⟨congrArg Except.ok (stripSequences_writeRows clean), ?_, fun fault => ⟨nofun, nofun⟩⟩
      intro plain written
      obtain rfl := Except.ok.inj written
      exact not_mem_writeRows (by decide) clean
  · exact ⟨rfl, nofun, fun other => Iff.rfl⟩

/-- A message that looks like the end of a color sequence, and a span over two lines of which the
first has a tab before it. -/
theorem render_colors_across :
    let diagnostic : Diagnostic :=
      ⟨⟨"[1;31m", ['\t', 'é', '\n', 'm']⟩, .invalidString, ⟨1, 3, 1, 2⟩, "[0m"⟩
    '\x1b' ∉ diagnostic.source.path.toList ∧ '\x1b' ∉ diagnostic.message.toList ∧
      ∃ plain colored lines, diagnostic.source.lines diagnostic.span = .ok lines ∧
        (∀ line ∈ lines, '\x1b' ∉ line.text) ∧ diagnostic.render false = .ok plain ∧
        diagnostic.render true = .ok colored ∧ colored.count '\x1b' = 16 ∧
        Text.stripSequences colored = plain ∧ '\x1b' ∉ plain := by
  intro diagnostic
  have path : '\x1b' ∉ diagnostic.source.path.toList := by decide
  have message : '\x1b' ∉ diagnostic.message.toList := by decide
  obtain ⟨lines, shown, unmarked⟩ : ∃ lines,
      diagnostic.source.lines diagnostic.span = .ok lines ∧ ∀ line ∈ lines, '\x1b' ∉ line.text :=
    ⟨_, rfl, by decide⟩
  obtain ⟨colored, rendered, sequences⟩ : ∃ colored,
      diagnostic.render true = .ok colored ∧ colored.count '\x1b' = 16 := ⟨_, rfl, by decide⟩
  obtain ⟨stripped, clean, _⟩ := render_colors diagnostic path message fun others listed => by
    obtain rfl := Except.ok.inj (listed.symm.trans shown)
    exact unmarked
  rw [rendered] at stripped
  exact ⟨path, message, _, colored, lines, shown, unmarked, stripped.symm, rendered, sequences, rfl,
    clean _ stripped.symm⟩

end Diagnostic

end Offside
