import Offside.Proofs.Listing.Layout

/-! # Carets and tildes

The marks of a listing are read off its rows again, each together with the character above it. They
stand in the order of the text, and at most the first of them is a caret. It is one if the span
starts with a character that can be marked. If the span starts with a line feed, nothing stands
above a caret, and all marks of the listing are tildes.
-/

namespace Offside

namespace Listing

/-- A character and what stands under it, as the offset of the character with its mark, if it has
one. -/
def drawn? (column : (Nat × Char) × Char) : Option (Nat × Char) :=
  if column.2 = '^' ∨ column.2 = '~' then some (column.1.1, column.2) else none

/-- Padding is no mark. -/
theorem drawn?_pad (character : Nat × Char) : drawn? (character, pad character.2) = none :=
  if_neg (not_mark_pad character.2)

theorem sign_eq_or (start : Nat) (character : Nat × Char) :
    sign start character = '^' ∨ sign start character = '~' := by
  unfold sign
  split
  · exact .inl rfl
  · exact .inr rfl

theorem sign_eq_caret_iff {start : Nat} {character : Nat × Char} :
    sign start character = '^' ↔ character.1 = start := by
  unfold sign
  split <;> simp [*]

theorem drawn?_sign (start : Nat) (character : Nat × Char) :
    drawn? (character, sign start character) = some (character.1, sign start character) :=
  if_pos (sign_eq_or start character)

/-- Under a line, the marks are read off as they were put under its characters. -/
theorem Marking.Marks.filterMap_drawn? {marking : Marking} {start remaining : Nat}
    {line : PhysicalLine} {marked : List (Nat × Char)}
    (marks : marking.Marks start remaining line marked) :
    ((placed line.start line.text).zip (marking.padding ++ marking.marks)).filterMap drawn? =
      marked.map fun character => (character.1, sign start character) := by
  obtain ⟨rest, joined⟩ := marks.adjacent
  have passed : ((padded start remaining line).zip marking.padding).filterMap drawn? = [] := by
    rw [marks.padding, ← List.map_prod_left_eq_zip, List.filterMap_map,
      List.filterMap_eq_nil_iff]
    intro character _
    exact drawn?_pad character
  have kept : (marked.zip marking.marks).filterMap drawn? =
      marked.map fun character => (character.1, sign start character) := by
    rw [marks.marks, ← List.map_prod_left_eq_zip, List.filterMap_map, ← List.filterMap_eq_map]
    exact List.filterMap_congr fun character _ => drawn?_sign start character
  have behind : (marked ++ rest).zip marking.marks = marked.zip marking.marks := by
    rw [← List.append_nil marking.marks, List.zip_append (by rw [marks.marks, List.length_map]),
      List.zip_nil_right, List.append_nil, List.append_nil]
  rw [← joined, List.append_assoc,
    List.zip_append (by rw [marks.padding, List.length_map]), behind, List.filterMap_append, passed,
    kept, List.nil_append]

/-- The first character to mark is the one at the start, unless that is a line feed. -/
theorem start_eq_iff {start length : Nat} {text : Text} {first : Nat × Char}
    {rest : List (Nat × Char)}
    (marked : ((placed start text).filter fun (_, c) => c ≠ '\n').take length = first :: rest) :
    first.1 = start ↔ text.head? ≠ some '\n' := by
  have member : first ∈ (placed start text).filter fun (_, c) => c ≠ '\n' :=
    List.mem_of_mem_take (marked ▸ List.mem_cons_self)
  cases text with
  | nil => contradiction
  | cons c more =>
    by_cases newline : c = '\n'
    · subst newline
      rw [placed, List.filter_cons_of_neg (by simp)] at member
      have behind := le_of_mem_placed (List.mem_of_mem_filter member)
      have positive := '\n'.utf8Size_pos
      simp only [List.head?_cons, ne_eq, not_true_eq_false, iff_false]
      omega
    · cases length with
      | zero => contradiction
      | succ length =>
        rw [placed, List.filter_cons_of_pos (by simpa using newline), List.take_succ_cons] at marked
        obtain rfl := (List.cons.inj marked).1
        simpa using newline

end Listing

/-- At the start of a span stands the first character that it covers, or the one behind it. -/
theorem Source.Divides.charAt_start {source : Source} {span : Span} {before covered after : Text}
    (divides : source.Divides span before covered after) :
    source.charAt span.start = .ok (covered ++ after).head? := by
  have behind := restFrom_eq_ok_iff.2
    ⟨before, divides.divided.trans (List.append_assoc ..), divides.start.symm⟩
  rw [charAt, behind]
  rfl

namespace Diagnostic

open Listing

/-- The characters of the lines that have a mark under them in the listing, by their byte offsets,
with these marks: line by line, and from left to right in each of them. -/
def drawnMarks (diagnostic : Diagnostic) (lines : List SourceLine) (listing : Text) :
    List (Nat × Char) :=
  lines.zipIdx.flatMap fun (line, place) =>
    let row := (Text.splitLines listing).getD
      (diagnostic.source.path.toList.count '\n' + 2 * place + 3) []
    let under := row.drop (gutterWidth diagnostic.span.line lines.length + 2)
    ((placed line.start line.text).zip under).filterMap drawn?

/-- The marks drawn in a listing are those of the characters to mark. -/
theorem drawnMarks_writeRows {diagnostic : Diagnostic} {lines : List SourceLine}
    (unbroken : ∀ line ∈ lines, '\n' ∉ line.text) :
    diagnostic.drawnMarks lines (writeRows false (rows diagnostic lines)) =
      ((lines.flatMap fun line => markable diagnostic.span.start line.toPhysicalLine).take
        diagnostic.span.length).map
          fun character => (character.1, sign diagnostic.span.start character) := by
  obtain ⟨marked, size, flat, each⟩ :=
    exists_marked diagnostic.span.start diagnostic.span.length lines
  rw [← flat, List.map_flatten, drawnMarks, List.flatMap_def]
  congr 1
  apply List.ext_getElem?
  intro place
  rw [List.getElem?_map, List.getElem?_zipIdx, List.getElem?_map]
  rcases Nat.lt_or_ge place lines.length with inside | beyond
  · have listed := List.getElem?_eq_getElem inside
    have own := List.getElem?_eq_getElem (size ▸ inside)
    obtain ⟨marking, found, marks⟩ := each place _ _ listed own
    have row := getElem?_splitLines_writeRows unbroken found
    rw [listed, own, Option.map_some, Option.map_some, Option.map_some, ← marks.filterMap_drawn?]
    dsimp only
    rw [Nat.zero_add, List.getD_eq_getElem?_getD, row, Option.getD_some,
      drop_gutterText List.length_replicate]
  · rw [List.getElem?_eq_none beyond, List.getElem?_eq_none (size ▸ beyond)]
    rfl

/-- The marks stand in the order of the text. At most the first of them is a caret, and it is one
exactly if the span does not start with a line feed. -/
structure Carets (diagnostic : Diagnostic) (marks : List (Nat × Char)) : Prop where
  ordered : marks.Pairwise fun left right => left.1 < right.1
  first : ∀ mark ∈ marks.head?,
    (mark.2 = '^' ∨ mark.2 = '~') ∧
    (mark.2 = '^' ↔ diagnostic.source.charAt diagnostic.span.start ≠ .ok (some '\n'))
  others : ∀ mark ∈ marks.tail, mark.2 = '~'

/-- A caret stands under the start of the span and nowhere else. -/
theorem carets_sign {diagnostic : Diagnostic} {before covered after : Text}
    (divides : diagnostic.source.Divides diagnostic.span before covered after) :
    diagnostic.Carets
      ((((placed diagnostic.span.start (covered ++ Text.lineEnd covered after)).filter
        fun (_, c) => c ≠ '\n').take diagnostic.span.length).map
          fun character => (character.1, sign diagnostic.span.start character)) := by
  have chosen := (List.take_sublist diagnostic.span.length _).trans
    (List.filter_sublist (p := fun (_, c) => c ≠ '\n')
      (l := placed diagnostic.span.start (covered ++ Text.lineEnd covered after)))
  have ordered := (pairwise_placed ..).sublist chosen
  cases marked : ((placed diagnostic.span.start (covered ++ Text.lineEnd covered after)).filter
      fun (_, c) => c ≠ '\n').take diagnostic.span.length with
  | nil => exact ⟨.nil, nofun, nofun⟩
  | cons first rest =>
    rw [marked] at chosen ordered
    have nonempty : covered ≠ [] := by
      rintro rfl
      rw [divides.length] at marked
      contradiction
    refine ⟨List.pairwise_map.2 ordered, ?_, ?_⟩
    · intro mark found
      obtain rfl := Option.some.inj found
      have starts := start_eq_iff marked
      rw [List.head?_append_of_ne_nil _ nonempty] at starts
      refine ⟨sign_eq_or .., sign_eq_caret_iff.trans (starts.trans ?_)⟩
      rw [divides.charAt_start, List.head?_append_of_ne_nil _ nonempty, ne_eq, ne_eq,
        Except.ok.injEq]
    · intro mark member
      obtain ⟨other, later, rfl⟩ := List.mem_map.1 member
      have least := le_of_mem_placed (chosen.mem List.mem_cons_self)
      have behind := List.rel_of_pairwise_cons ordered later
      exact if_neg (by omega)

/-- Where a diagnostic is listed, the first of its marks is a caret unless the span starts with a
line feed, and the others are tildes. -/
theorem render_carets (diagnostic : Diagnostic) (listing : Text)
    (rendered : diagnostic.render false = .ok listing) :
    ∃ lines, diagnostic.source.lines diagnostic.span = .ok lines ∧
      diagnostic.Carets (diagnostic.drawnMarks lines listing) := by
  obtain ⟨contained, lines, listed, rfl⟩ := exists_of_render rendered
  obtain ⟨before, covered, after, divides⟩ := Source.contains_iff_divides.1 contained
  refine ⟨lines, listed, ?_⟩
  rw [Source.lines_eq_ite divides] at listed
  split at listed
  · obtain rfl := Except.ok.inj listed
    rw [drawnMarks_writeRows (Source.walk_numbered_walked divides).unbroken,
      flatMap_markable_numbered, flatMap_markable divides]
    exact carets_sign divides
  · contradiction

/-- The span covers the last two characters of a line, its line feed and the first character of the
next line. A mark is left over for the character behind it. -/
theorem render_carets_across :
    let diagnostic : Diagnostic :=
      ⟨.ofText ['a', 'é', 'c', '\n', 'd', 'e'], .invalidString, ⟨1, 4, 1, 2⟩, "bad"⟩
    ∃ listing lines, diagnostic.render false = .ok listing ∧
      diagnostic.source.lines diagnostic.span = .ok lines ∧
      diagnostic.drawnMarks lines listing = [(1, '^'), (3, '~'), (5, '~'), (6, '~')] ∧
      diagnostic.Carets (diagnostic.drawnMarks lines listing) := by
  intro diagnostic
  obtain ⟨lines, listed, carets⟩ := render_carets diagnostic _ rfl
  obtain rfl := Except.ok.inj listed
  exact ⟨_, _, rfl, rfl, by decide, carets⟩

/-- The span covers a line feed and the character behind it, which is the only one marked. -/
theorem render_without_caret :
    let diagnostic : Diagnostic := ⟨.ofText ['a', '\n', 'b'], .invalidString, ⟨1, 2, 1, 2⟩, "bad"⟩
    diagnostic.source.contains diagnostic.span.start diagnostic.span.length = true ∧
      ∃ listing lines, diagnostic.render false = .ok listing ∧
        diagnostic.source.lines diagnostic.span = .ok lines ∧
        diagnostic.drawnMarks lines listing = [(2, '~')] := by
  intro diagnostic
  refine ⟨by decide, _, _, rfl, rfl, ?_⟩
  decide

end Diagnostic

end Offside
