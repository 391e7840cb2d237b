import Offside.Listing.Render

/-! # Writing diagnostics to a terminal

A terminal writes each listing followed by an empty line, and at the end one sentence that counts
errors and warnings. What is written is returned as text.
-/

namespace Offside

/-- When to use colors. -/
inductive ColorMode where
  /-- If the output goes to an interactive terminal. -/
  | auto
  | always
  | never
deriving DecidableEq, Repr

namespace ColorMode

/-- The mode used when none is chosen. -/
def standard : ColorMode := .auto

/-- Whether colors are used, given whether the output is interactive. -/
def usesColors (mode : ColorMode) (interactive : Bool) : Bool :=
  match mode with
  | auto => interactive
  | always => true
  | never => false

end ColorMode

/-- Where diagnostics are written to. -/
structure Terminal where
  colors : Bool
deriving DecidableEq, Repr

namespace Terminal

/-- The terminal for a color mode and a kind of output. -/
def ofMode (mode : ColorMode) (interactive : Bool) : Terminal := ⟨mode.usesColors interactive⟩

/-- What is written for one diagnostic: its listing and an empty line, or nothing if there is no
listing. -/
def emit (terminal : Terminal) (diagnostic : Diagnostic) : Except Fault Text :=
  (diagnostic.render terminal.colors).map (· ++ ['\n', '\n'])

/-- What is written for several diagnostics. The first that has no listing ends the writing; what
was written before it stays, and its fault is returned. -/
def emitAll (terminal : Terminal) : List Diagnostic → Text × Option Fault
  | [] => ([], none)
  | diagnostic :: rest =>
    match terminal.emit diagnostic with
    | .error fault => ([], some fault)
    | .ok written =>
      let (more, fault?) := terminal.emitAll rest
      (written ++ more, fault?)

/-- A number of things, with the noun in the plural unless there is exactly one. -/
def countOf (count : Nat) (noun : String) : String :=
  s!"{count} {noun}" ++ if count = 1 then "" else "s"

/-- The sentence that ends a report, or nothing if there is nothing to count. -/
def summary (terminal : Terminal) (errors warnings : Nat) : Text :=
  if 0 < errors then
    let also := if 0 < warnings then " and " ++ countOf warnings "warning" else ""
    Listing.Row.write terminal.colors
      [⟨.accent .error, Severity.error.label.toList⟩,
        ⟨.plain, (": lexing failed with " ++ countOf errors "error" ++ also ++ "\n").toList⟩]
  else if 0 < warnings then
    Listing.Row.write terminal.colors
      [⟨.accent .warning, Severity.warning.label.toList⟩,
        ⟨.plain, (": " ++ countOf warnings "warning" ++ " emitted\n").toList⟩]
  else
    []

end Terminal

end Offside
