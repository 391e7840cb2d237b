import Offside.Source.Basic
import Offside.Span

/-! # Diagnostics

A diagnostic says what is wrong with a part of a source. How serious it is follows from the issue.
-/

namespace Offside

/-- How serious a finding is. -/
inductive Severity where
  | error | warning | info
deriving DecidableEq, Repr

/-- The word for a severity. -/
def Severity.label : Severity → String
  | error => "Error"
  | warning => "Warning"
  | info => "Info"

/-- What can be wrong with a source. -/
inductive Issue where
  | internalError | invalidString | invalidCharacter
deriving DecidableEq, Repr

namespace Issue

/-- The title of an issue. -/
def label : Issue → String
  | internalError => "Internal Error"
  | invalidString => "Invalid String Literal"
  | invalidCharacter => "Invalid Character"

/-- How serious an issue is. -/
def severity : Issue → Severity
  | internalError | invalidString | invalidCharacter => .error

end Issue

/-- An issue found in a span of a source, with a message that gives the details. -/
structure Diagnostic where
  source : Source
  issue : Issue
  span : Span
  message : String
deriving DecidableEq, Repr

namespace Diagnostic

/-- How serious the diagnostic is. -/
def severity (diagnostic : Diagnostic) : Severity := diagnostic.issue.severity

/-- Whether the diagnostic is an error. -/
def isError (diagnostic : Diagnostic) : Bool := diagnostic.severity = .error

/-- Whether two diagnostics report the same issue in the same place, whatever their messages. -/
def repeats (later earlier : Diagnostic) : Bool :=
  later.issue = earlier.issue && later.span = earlier.span

/-- Whether the first diagnostic starts on an earlier line than the second, or on the same line and
in no later column. -/
def startsNoLater (left right : Diagnostic) : Bool :=
  left.span.line < right.span.line ||
    (left.span.line = right.span.line && left.span.column ≤ right.span.column)

theorem startsNoLater_trans (first second third : Diagnostic)
    (left : first.startsNoLater second = true) (right : second.startsNoLater third = true) :
    first.startsNoLater third = true := by
  simp only [startsNoLater, Bool.or_eq_true, Bool.and_eq_true, decide_eq_true_eq] at *
  omega

/-- Of two diagnostics, one starts no later than the other. -/
theorem startsNoLater_total (first second : Diagnostic) :
    (first.startsNoLater second || second.startsNoLater first) = true := by
  simp only [startsNoLater, Bool.or_eq_true, Bool.and_eq_true, decide_eq_true_eq]
  omega

/-- Every issue is serious enough to be an error. -/
theorem isError_eq_true (diagnostic : Diagnostic) : diagnostic.isError = true := by
  obtain ⟨source, issue, span, message⟩ := diagnostic
  cases issue <;> rfl

end Diagnostic

end Offside
