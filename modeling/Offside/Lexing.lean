import Offside.Lexer.Run
import Offside.Listing.Terminal

/-! # Lexing a whole source

The usual ways to use the lexer: all tokens with all diagnostics, or the same with the diagnostics
already written out for a terminal.
-/

namespace Offside

/-- All that lexing a source gives. -/
structure Lexed where
  tokens : List Token
  /-- The diagnostics in the order of their places. -/
  diagnostics : List Diagnostic
deriving DecidableEq, Repr

namespace Lexed

/-- Whether a diagnostic is an error. -/
def hasErrors (lexed : Lexed) : Bool := lexed.diagnostics.any Diagnostic.isError

end Lexed

/-- Lexes a source, reporting everything that is wrong with it. -/
def lex (source : Source) : Except Fault Lexed := do
  let (tokens, lexer) ← (Lexer.start .unlimited source).run
  .ok ⟨tokens, lexer.takeDiagnostics.1⟩

/-- The outcome of lexing a source for a terminal. -/
structure Report where
  tokens : List Token
  /-- The unit of indentation that the source turned out to use. -/
  unit? : Option IndentUnit
  /-- Everything written: the listings and the summary. -/
  output : Text
deriving DecidableEq, Repr

/-- Lexes a source and writes its diagnostics and a summary to a terminal. -/
def report (config : Queue.Config) (terminal : Terminal) (source : Source) :
    Except Fault Report := do
  let (tokens, lexer) ← (Lexer.start config source).run
  let diagnostics := lexer.takeDiagnostics.1
  match terminal.emitAll diagnostics with
  | (_, some fault) => .error fault
  | (written, none) =>
    let errors := diagnostics.countP Diagnostic.isError
    .ok ⟨tokens, lexer.unit?, written ++ terminal.summary errors 0⟩

end Offside
