import Offside.Text.Basic

/-! # Line ends

Files mark the end of a line by a line feed, by a carriage return, or by both in that order. A text
is normalized when only line feeds are left.
-/

namespace Offside.Text

/-- Whether a text has no carriage return, so that normalizing leaves it alone. -/
def isNormalized (text : Text) : Bool := !text.contains '\r'

/-- Drops every carriage return that a line feed follows. -/
def joinReturns : Text → Text
  | [] => []
  | '\r' :: '\n' :: rest => '\n' :: joinReturns rest
  | c :: rest => c :: joinReturns rest

/-- Replaces each line end by one line feed. -/
def normalizeNewlines (text : Text) : Text :=
  (joinReturns text).map fun c => if c = '\r' then '\n' else c

/-- A normalized text has no carriage return. -/
theorem return_not_mem_normalizeNewlines (text : Text) : '\r' ∉ normalizeNewlines text := by
  intro member
  obtain ⟨c, _, result⟩ := List.mem_map.1 member
  split at result
  · exact absurd result (by decide)
  · contradiction

end Offside.Text
