import Offside.Span

/-! # Faults

A fault is a request that cannot be met because its caller broke a rule: a position that is not a
place in the text, a span that does not lie in it, marks taken in the wrong order, or a counter that
can count no further. Nothing a user writes in a source causes one, short of a text too long for the
counters.
-/

namespace Offside

/-- Why a request could not be met. -/
inductive Fault where
  /-- The position is past the end of the text or inside a character. -/
  | offBoundary (path : String) (position : Nat)
  /-- The position has no line and column, for the same reasons. -/
  | unlocated (path : String) (position : Nat)
  /-- A distance was asked for from a position back to an earlier one. -/
  | backward (origin target : Nat)
  /-- The span starts at no place in the text. -/
  | spanStartsOutside (path : String) (span : Span)
  /-- The span covers more characters than are left in the text. -/
  | spanRunsPast (path : String) (span : Span)
  /-- A diagnostic is about a span that does not lie in its source. -/
  | diagnosticOutside (path : String) (span : Span)
  /-- A span was asked for from a mark that the cursor has not reached. -/
  | markAhead
  /-- The text between two places was asked for, of which the second is no place at or after the
  first. -/
  | badSlice
  /-- A counter has reached its largest value. -/
  | counterOverflow
deriving DecidableEq, Repr

/-- The wording of a fault. The last two have none. -/
def Fault.message? : Fault → Option String
  | .offBoundary path position =>
    some s!"position @{position} is outside `{path}` or not on a character boundary"
  | .unlocated path position => some s!"position @{position} is outside `{path}`"
  | .backward origin target => some s!"distance from @{origin} back to @{target}"
  | .spanStartsOutside path span => some s!"span {span.describe} starts outside `{path}`"
  | .spanRunsPast path span => some s!"span {span.describe} runs past the end of `{path}`"
  | .diagnosticOutside path span => some s!"diagnostic span {span.describe} lies outside `{path}`"
  | .markAhead => some "span start is ahead of the cursor"
  | .badSlice => none
  | .counterOverflow => none

namespace Fault

/-- Two steps in a row succeed exactly when both do. -/
theorem bind_eq_ok_iff {α β : Type} {first : Except Fault α} {second : α → Except Fault β}
    {result : β} :
    (first >>= second) = .ok result ↔ ∃ value, first = .ok value ∧ second value = .ok result := by
  cases first with
  | error fault => simp [bind, Except.bind]
  | ok value => simp [bind, Except.bind]

/-- A step with its result changed succeeds exactly when the step does. -/
theorem map_eq_ok_iff {α β : Type} {step : Except Fault α} {change : α → β} {result : β} :
    step.map change = .ok result ↔ ∃ value, step = .ok value ∧ change value = result := by
  cases step with
  | error fault => simp [Except.map]
  | ok value => simp [Except.map]

end Fault

end Offside
