import Offside.Lexing
import Offside.Proofs.Indentation
import Offside.Proofs.Lexeme.Shape
import Offside.Proofs.Lexeme.Messages
import Offside.Proofs.Place
import Offside.Proofs.Lexer.Step
import Offside.Proofs.Lexer.Path
import Offside.Proofs.Lexer.Tiling
import Offside.Proofs.Lexer.Locations
import Offside.Proofs.Lexer.Reports
import Offside.Proofs.Source.ListedLines
import Offside.Proofs.Source.TouchedLines
import Offside.Proofs.Diagnostic.Order
import Offside.Proofs.Lexer.QueueOrder
import Offside.Proofs.Lexer.Driving
import Offside.Proofs.Lexeme.Locality
import Offside.Proofs.Lexer.Appending
import Offside.Proofs.Lexer.Relexing
import Offside.Proofs.Diagnostic.Selection
import Offside.Proofs.Lexer.Truncation
import Offside.Proofs.Lexer.LineStarts
import Offside.Proofs.Counting
import Offside.Proofs.Lexer.Limits
import Offside.Proofs.Source.LineWalk
import Offside.Proofs.Lexer.Taking
import Offside.Proofs.Lexer.QuotedLiterals
import Offside.Proofs.Listing.Marks
import Offside.Proofs.Listing.Columns
import Offside.Proofs.Listing.Layout
import Offside.Proofs.Lexer.MarkedSpans
import Offside.Proofs.Lexer.RawLiterals
import Offside.Proofs.Lexer.Operators
import Offside.Proofs.Lexeme.Grammar
import Offside.Proofs.Lexer.WordsAndNumbers
import Offside.Proofs.Listing.Carets
import Offside.Proofs.Lexer.Progress
import Offside.Proofs.Listing.Colors
import Offside.Proofs.Source.Positions
import Offside.Proofs.Text.LineEnds
import Offside.Proofs.Text.Utf8
import Offside.Proofs.Source.Loading
import Offside.Proofs.Diagnostic.TextOrder
import Offside.Proofs.Cursor
