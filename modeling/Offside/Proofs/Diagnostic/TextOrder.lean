import Mathlib.Data.Prod.Lex
import Offside.Proofs.Diagnostic.Selection
import Offside.Proofs.Source.Positions

/-! # Lines and columns in the order of the text

The line and the column of a position are worked out apart from each other, yet together they put
the positions of a source in the order of the text. So a queue, which knows only lines and columns,
hands over the diagnostics about one source in the order of the bytes at which they start.
-/

namespace Offside.Source

section Order

variable {source : Source} {position later : Nat}

/-- A later position is on a later line, or in a later column of the same line. -/
theorem lineColumn_lt (countable : Text.Countable source.text)
    (valid : source.isPosition position = true) (valid' : source.isPosition later = true)
    (less : position < later) :
    ∃ place next, source.lineColumn position = .ok place ∧ source.lineColumn later = .ok next ∧
      toLex place < toLex next := by
  obtain ⟨before, rest, divided, rfl⟩ := isPosition_iff.1 valid
  obtain ⟨longer, tail, redivided, rfl⟩ := isPosition_iff.1 valid'
  obtain ⟨more, rfl, -⟩ :=
    Text.exists_of_byteLength_le (divided.symm.trans redivided) (Nat.le_of_lt less)
  have further : more ≠ [] := by
    rintro rfl
    rw [List.append_nil] at less
    omega
  have order := Text.place_lt_of_append before further
  have here : Text.lineColumn before = _ := Text.Countable.lineColumn (divided ▸ countable)
  have there : Text.lineColumn (before ++ more) = _ :=
    Text.Countable.lineColumn (redivided ▸ countable)
  refine ⟨_, _, lineColumn_byteLength divided, lineColumn_byteLength redivided, ?_⟩
  rw [here, there, Prod.Lex.toLex_lt_toLex]
  dsimp only
  omega

theorem lineColumn_ne_of_lt (countable : Text.Countable source.text)
    (valid : source.isPosition position = true) (valid' : source.isPosition later = true)
    (less : position < later) : source.lineColumn position ≠ source.lineColumn later := by
  obtain ⟨place, next, here, there, order⟩ := lineColumn_lt countable valid valid' less
  rw [here, there]
  intro same
  rw [Except.ok.inj same] at order
  exact lt_irrefl _ order

end Order

section Spans

variable {source : Source} {span other : Span}

/-- The span is one that the source gives. -/
def Gives (source : Source) (span : Span) : Prop :=
  ∃ index length, source.span? index length = some span

/-- A span that the source gives starts at a position and says its line and column. -/
theorem Gives.located (given : source.Gives span) :
    source.isPosition span.start = true ∧
      source.lineColumn span.start = .ok (span.line, span.column) := by
  obtain ⟨index, length, given⟩ := given
  have inside : index + length ≤ source.text.length :=
    isSome_span?_iff.1 (Option.isSome_of_eq_some given)
  have divided := (List.take_append_drop index source.text).symm
  have size : (source.text.take index).length = index := List.length_take_of_le (by omega)
  obtain ⟨start, _, located⟩ := eq_of_span? divided (size.symm ▸ given)
  rw [start]
  exact ⟨isPosition_iff.2 ⟨_, _, divided, rfl⟩, located⟩

/-- What starts at an earlier byte starts in an earlier place. -/
theorem Gives.before_of_lt (countable : Text.Countable source.text) (given : source.Gives span)
    (given' : source.Gives other) (less : span.start < other.start) : span.Before other := by
  obtain ⟨valid, located⟩ := given.located
  obtain ⟨valid', located'⟩ := given'.located
  obtain ⟨place, next, here, there, order⟩ := lineColumn_lt countable valid valid' less
  obtain rfl := Except.ok.inj (located.symm.trans here)
  obtain rfl := Except.ok.inj (located'.symm.trans there)
  exact Prod.Lex.toLex_lt_toLex.1 order

/-- Spans of a source that start at the same byte start in the same place. -/
theorem Gives.not_before_of_eq (given : source.Gives span) (given' : source.Gives other)
    (same : span.start = other.start) : ¬ span.Before other := by
  have located := given.located.2
  rw [same, given'.located.2] at located
  obtain ⟨line, column⟩ := Prod.mk.inj (Except.ok.inj located)
  unfold Span.Before
  omega

/-- Spans of a source are in the order of places exactly if they are in the order of bytes. -/
theorem Gives.before_iff (countable : Text.Countable source.text) (given : source.Gives span)
    (given' : source.Gives other) : span.Before other ↔ span.start < other.start := by
  refine ⟨?_, given.before_of_lt countable given'⟩
  intro before
  by_contra notLess
  rcases Nat.lt_or_eq_of_le (Nat.le_of_not_lt notLess) with greater | same
  · exact before.asymm (given'.before_of_lt countable given greater)
  · exact given.not_before_of_eq given' same.symm before

/-- A span of a source is not before another exactly if it starts at no earlier byte. -/
theorem Gives.not_before_iff (countable : Text.Countable source.text) (given : source.Gives span)
    (given' : source.Gives other) : ¬ other.Before span ↔ span.start ≤ other.start := by
  rw [given'.before_iff countable given, Nat.not_lt]

end Spans

section Flush

variable {source : Source} {queue : Queue}

/-- What is handed over is in the order of the text. -/
theorem pairwise_flush (countable : Text.Countable source.text)
    (given : ∀ diagnostic ∈ queue.diagnostics, source.Gives diagnostic.span) :
    queue.flush.1.Pairwise fun left right => left.span.start ≤ right.span.start := by
  apply (Diagnostic.sortByPlace_sorted queue.diagnostics).imp_of_mem
  intro left right member member' noEarlier
  have queued := given left (queue.flush_perm.mem_iff.1 member)
  have queued' := given right (queue.flush_perm.mem_iff.1 member')
  exact (queued.not_before_iff countable queued').1 noEarlier

/-- What starts at one byte is handed over as it was queued. -/
theorem filter_flush (countable : Text.Countable source.text)
    (given : ∀ diagnostic ∈ queue.diagnostics, source.Gives diagnostic.span) (start : Nat) :
    (queue.flush.1.filter fun diagnostic => diagnostic.span.start = start) =
      queue.diagnostics.filter fun diagnostic => diagnostic.span.start = start := by
  apply Diagnostic.filter_sortByPlace
  apply List.pairwise_of_forall_mem_list
  intro left member right member'
  obtain ⟨queued, here⟩ := List.mem_filter.1 member
  obtain ⟨queued', there⟩ := List.mem_filter.1 member'
  rw [(given left queued).not_before_iff countable (given right queued'),
    of_decide_eq_true here, of_decide_eq_true there]

end Flush

/-- The places of a source are in the order of its text. -/
structure KeepsTextOrder (source : Source) : Prop where
  /-- A later position has a later place, where lines are compared before columns. -/
  lineColumn_lt : ∀ position later, source.isPosition position = true →
    source.isPosition later = true → position < later →
      ∃ place next, source.lineColumn position = .ok place ∧ source.lineColumn later = .ok next ∧
        toLex place < toLex next
  /-- So every place is that of one position only. -/
  injective : ∀ position other, source.isPosition position = true →
    source.isPosition other = true → source.lineColumn position = source.lineColumn other →
      position = other
  /-- Diagnostics about spans of the source are handed over in the order of the bytes at which they
  start, and those that start at the same byte in the order in which they were queued. -/
  flush : ∀ queue : Queue, (∀ diagnostic ∈ queue.diagnostics, ∃ index length,
      source.span? index length = some diagnostic.span) →
    queue.flush.1.Perm queue.diagnostics ∧
      (queue.flush.1.Pairwise fun left right => left.span.start ≤ right.span.start) ∧
      ∀ start, (queue.flush.1.filter fun diagnostic => diagnostic.span.start = start) =
        queue.diagnostics.filter fun diagnostic => diagnostic.span.start = start

/-- In a source of fewer characters than the largest counter value, places keep the order of the
text. -/
theorem keepsTextOrder {source : Source} (short : source.text.length < Text.counterLimit) :
    source.KeepsTextOrder := by
  have countable := Text.countable_of_length_lt short
  refine ⟨fun position later => lineColumn_lt countable, ?_, ?_⟩
  · intro position other valid valid' same
    rcases Nat.lt_trichotomy position other with less | equal | greater
    · exact absurd same (lineColumn_ne_of_lt countable valid valid' less)
    · exact equal
    · exact absurd same.symm (lineColumn_ne_of_lt countable valid' valid greater)
  · intro queue given
    exact ⟨queue.flush_perm, pairwise_flush countable given, filter_flush countable given⟩

/-- A diagnostic behind an empty line is queued before one about the line feed in front of it. -/
theorem keepsTextOrder_emptyLine :
    let source := ofText ['é', '\n', '\n', '€']
    let late : Diagnostic := ⟨source, .invalidCharacter, ⟨4, 1, 3, 1⟩, "late"⟩
    let early : Diagnostic := ⟨source, .invalidCharacter, ⟨2, 1, 1, 2⟩, "early"⟩
    let queue : Queue := ⟨.unlimited, [late, early], 2⟩
    source.text.length < Text.counterLimit ∧
      source.span? 3 1 = some late.span ∧ source.span? 1 1 = some early.span ∧
      queue.flush.1.Perm [late, early] ∧
      queue.flush.1.Pairwise fun left right => left.span.start ≤ right.span.start := by
  intro source late early queue
  have short : source.text.length < Text.counterLimit := by decide
  have behind : source.span? 3 1 = some late.span := by decide
  have before : source.span? 1 1 = some early.span := by decide
  have given : ∀ diagnostic ∈ queue.diagnostics, ∃ index length,
      source.span? index length = some diagnostic.span := by
    intro diagnostic member
    have known : diagnostic = late ∨ diagnostic = early := by simpa [queue] using member
    rcases known with rfl | rfl
    · exact ⟨3, 1, behind⟩
    · exact ⟨1, 1, before⟩
  obtain ⟨perm, ordered, _⟩ := (keepsTextOrder short).flush queue given
  exact ⟨short, behind, before, perm, ordered⟩

end Offside.Source
