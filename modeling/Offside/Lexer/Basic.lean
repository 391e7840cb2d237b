import Offside.Cursor
import Offside.Diagnostic.Queue
import Offside.Indentation
import Offside.Lexeme.Read
import Offside.Token.Basic

/-! # The lexer

A lexer walks through a source and turns it into tokens. Spaces between lexemes are skipped. After
each line feed the whole units of indentation at the start of the next line are taken up, and their
number is the level of all tokens up to and including the next line feed. Every step before the end
of the source passes at least one character, so a run comes to an end.
-/

namespace Offside

/-- The state of reading a source. -/
structure Lexer where
  source : Source
  cursor : Cursor
  /-- The unit of indentation, once an indented line has shown it. -/
  unit? : Option IndentUnit
  /-- How many units the present line is indented by. -/
  level : Nat
  /-- The diagnostics reported so far. -/
  queue : Queue
deriving DecidableEq, Repr

/-- What one step of the lexer has read. -/
structure Reading where
  /-- The kind, unless it was a character that starts no token. -/
  kind? : Option Kind
  span : Span
  indent : Nat
deriving DecidableEq, Repr

namespace Reading

/-- The token read, where a character that starts no token counts as none. -/
def token? (reading : Reading) : Option Token :=
  reading.kind?.map fun kind => ⟨kind, reading.span, reading.indent⟩

/-- The token read, where a character that starts no token counts as an invalid one. -/
def token (reading : Reading) : Token :=
  ⟨reading.kind?.getD .invalid, reading.span, reading.indent⟩

/-- Whether the end of the source was read. -/
def isLast (reading : Reading) : Bool := reading.kind? = some .endOfFile

end Reading

namespace Flaw

/-- The span of a flaw in a lexeme that starts at the cursor. -/
def locate (flaw : Flaw) (start : Cursor) : Except Fault Span := do
  let first ← start.skip flaw.offset
  let last ← first.skip flaw.length
  .ok (first.location.spanTo last.location)

/-- The diagnostic for a flaw in a lexeme that starts at the cursor. -/
def report (flaw : Flaw) (source : Source) (start : Cursor) : Except Fault Diagnostic :=
  (flaw.locate start).map (flaw.problem.diagnose source)

end Flaw

namespace Lexer

/-- The lexer at the start of a source, reporting to a queue of this configuration. -/
def start (config : Queue.Config) (source : Source) : Lexer :=
  ⟨source, .ofText source.text, none, 0, .empty config⟩

/-- Takes up the indentation of the line that starts at the cursor. The first line that is indented
fixes the unit. -/
def enterLine (lexer : Lexer) : Except Fault Lexer :=
  match lexer.unit? <|> IndentUnit.detect? lexer.cursor.rest with
  | none => .ok { lexer with level := 0 }
  | some unit => do
    let level := unit.levels lexer.cursor.rest
    let cursor ← lexer.cursor.skip (level * unit.width)
    .ok { lexer with cursor := cursor, unit? := some unit, level := level }

/-- Takes up a lexeme that starts at the cursor `mark`, after whatever was skipped before it. -/
def consume (lexer : Lexer) (mark : Cursor) (lexeme : Lexeme) : Except Fault (Reading × Lexer) := do
  let stop ← mark.skip lexeme.length
  let diagnostics ← lexeme.flaws.mapM fun flaw => flaw.report lexer.source mark
  let reading : Reading := ⟨lexeme.kind?, mark.location.spanTo stop.location, lexer.level⟩
  let after := { lexer with cursor := stop, queue := lexer.queue.pushAll diagnostics }
  if lexeme.kind? = some .endOfLine then
    let entered ← after.enterLine
    .ok (reading, entered)
  else
    .ok (reading, after)

/-- Skips spaces and reads one lexeme, or the end of the source. -/
def scan (lexer : Lexer) : Except Fault (Reading × Lexer) := do
  let (_, mark) ← lexer.cursor.eatWhile (· = ' ')
  match mark.rest with
  | [] =>
    .ok (⟨some .endOfFile, mark.location.spanTo mark.location, lexer.level⟩,
      { lexer with cursor := mark })
  | first :: rest => lexer.consume mark (Lexeme.read first rest)

end Lexer

end Offside
