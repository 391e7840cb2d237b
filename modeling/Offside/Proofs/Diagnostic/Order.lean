import Mathlib.Data.List.Pairwise
import Offside.Proofs.Diagnostic.Queue
import Offside.Proofs.Place

/-! # The order of places

Going on in a text leads to a later line, or to a later column of the same line, so lines and
columns put the places of a text in the order of the text. Diagnostics that start in different
places can be put in order in one way only. Handing them over in two batches gives the same as
handing them over at once, as long as the first batch starts before the second.
-/

namespace Offside

namespace Text

/-- More text leads to a later line, or further along the same one. -/
theorem place_lt_of_append (before : Text) {more : Text} (further : more ≠ []) :
    before.count '\n' < (before ++ more).count '\n' ∨
      before.count '\n' = (before ++ more).count '\n' ∧
        (lastLine before).length < (lastLine (before ++ more)).length := by
  rw [List.count_append]
  by_cases newline : '\n' ∈ more
  · have positive := List.count_pos_iff.2 newline
    left
    omega
  · right
    rw [List.count_eq_zero_of_not_mem newline, lastLine_append_of_not_mem before newline,
      List.length_append]
    exact ⟨rfl, Nat.lt_add_of_pos_right (List.length_pos_iff.2 further)⟩

end Text

/-- The first span starts on an earlier line, or on the same line in an earlier column. -/
def Span.Before (left right : Span) : Prop :=
  left.line < right.line ∨ left.line = right.line ∧ left.column < right.column

instance (left right : Span) : Decidable (left.Before right) :=
  inferInstanceAs (Decidable (_ ∨ _))

namespace Span.Before

variable {first second : Span}

theorem asymm (left : first.Before second) : ¬ second.Before first := by
  unfold Before at *
  omega

/-- What starts behind more text starts later. -/
theorem spanAfter (before : Text) {more : Text} (further : more ≠ []) (length length' : Nat) :
    (Text.spanAfter before length).Before (Text.spanAfter (before ++ more) length') := by
  have later := Text.place_lt_of_append before further
  simp only [Before, Text.spanAfter]
  omega

end Span.Before

namespace Diagnostic

/-- The diagnostic is about a place in this text, and not about its end. -/
def StartsIn (diagnostic : Diagnostic) (text : Text) : Prop :=
  ∃ part more, text = part ++ more ∧ more ≠ [] ∧
    diagnostic.span = Text.spanAfter part diagnostic.span.length

namespace StartsIn

variable {diagnostic : Diagnostic} {text : Text}

theorem append (inside : diagnostic.StartsIn text) (more : Text) :
    diagnostic.StartsIn (text ++ more) := by
  obtain ⟨part, rest, rfl, nonempty, span⟩ := inside
  exact ⟨part, rest ++ more, List.append_assoc .., by simp [nonempty], span⟩

/-- A diagnostic about a place in a text starts before what comes behind the text. -/
theorem before (inside : diagnostic.StartsIn text) (more : Text) (length : Nat) :
    diagnostic.span.Before (Text.spanAfter (text ++ more) length) := by
  obtain ⟨part, rest, rfl, nonempty, span⟩ := inside
  rw [span, List.append_assoc]
  exact .spanAfter part (by simp [nonempty]) _ _

end StartsIn

theorem startsNoLater_iff (left right : Diagnostic) :
    left.startsNoLater right = true ↔ ¬ right.span.Before left.span := by
  simp only [startsNoLater, Span.Before, Bool.or_eq_true, Bool.and_eq_true, decide_eq_true_eq]
  omega

/-- The diagnostics start in different places. -/
def Apart (left right : Diagnostic) : Prop :=
  left.span.Before right.span ∨ right.span.Before left.span

instance : Std.Symm Apart := ⟨fun _ _ => Or.symm⟩

/-- Diagnostics in the order of their places. -/
def sortByPlace (diagnostics : List Diagnostic) : List Diagnostic :=
  diagnostics.mergeSort startsNoLater

theorem sortByPlace_perm (diagnostics : List Diagnostic) :
    (sortByPlace diagnostics).Perm diagnostics := List.mergeSort_perm ..

/-- None of them starts before one that stands in front of it. -/
theorem sortByPlace_sorted (diagnostics : List Diagnostic) :
    (sortByPlace diagnostics).Pairwise fun left right => ¬ right.span.Before left.span :=
  (Queue.flush_sorted ⟨.unlimited, diagnostics, 0⟩).imp (startsNoLater_iff _ _).1

/-- Two batches, of which the first starts before the second, can be put in order one by one. -/
theorem sortByPlace_append {left right : List Diagnostic} (apart : (left ++ right).Pairwise Apart)
    (before : ∀ earlier ∈ left, ∀ later ∈ right, earlier.span.Before later.span) :
    sortByPlace (left ++ right) = sortByPlace left ++ sortByPlace right := by
  have joined : (sortByPlace left ++ sortByPlace right).Perm (left ++ right) :=
    (sortByPlace_perm left).append (sortByPlace_perm right)
  apply List.Perm.eq_of_pairwise _ (sortByPlace_sorted _) _
    ((sortByPlace_perm _).trans joined.symm)
  · -- Diagnostics of which neither starts later start in one place, so they are the same.
    intro one other member member' noLater noEarlier
    by_contra different
    rcases apart.forall ((sortByPlace_perm _).mem_iff.1 member) (joined.mem_iff.1 member')
      different with earlier | later
    · exact noEarlier earlier
    · exact noLater later
  · apply List.pairwise_append.2
    refine ⟨sortByPlace_sorted left, sortByPlace_sorted right, ?_⟩
    intro earlier member later member'
    have order := before earlier ((sortByPlace_perm _).mem_iff.1 member) later
      ((sortByPlace_perm _).mem_iff.1 member')
    exact order.asymm

end Diagnostic

end Offside
