import PayoffLexer.Session.Operation
import PayoffLexer.Toml.Settings
import PayoffLexer.Token.Binding
import PayoffLexer.Proofs.Cursor.Between
import PayoffLexer.Proofs.Characters
import PayoffLexer.Proofs.Cursor.Lookahead
import PayoffLexer.Proofs.Lexeme.Front
import PayoffLexer.Proofs.Lexeme.Solid
import PayoffLexer.Proofs.Lexer.Scans
import PayoffLexer.Proofs.Session.Steps
import PayoffLexer.Proofs.Session.Reachable
import PayoffLexer.Proofs.Lexer.Lexemes
import PayoffLexer.Proofs.Session.Pull
import PayoffLexer.Proofs.Tiling
import PayoffLexer.Proofs.Lexeme.Grammar
import PayoffLexer.Proofs.Munch
import PayoffLexer.Proofs.Reports
import PayoffLexer.Proofs.Cursor.Columns
import PayoffLexer.Proofs.Excerpts
import PayoffLexer.Proofs.Carets
import PayoffLexer.Proofs.Lexeme.Boundary
import PayoffLexer.Proofs.Progress
import PayoffLexer.Proofs.Concatenation
import PayoffLexer.Proofs.RoundTrip
import PayoffLexer.Proofs.Cursor.Moves
import PayoffLexer.Proofs.Cursor.Tracking
import PayoffLexer.Proofs.Cursor.Glances
import PayoffLexer.Proofs.Locations
import PayoffLexer.Proofs.Ranges
import PayoffLexer.Proofs.Vocabulary.Lookup
import PayoffLexer.Proofs.Session.Words
import PayoffLexer.Proofs.Halting
import PayoffLexer.Proofs.Stream
import PayoffLexer.Proofs.Rewinding
import PayoffLexer.Proofs.Relabelling
import PayoffLexer.Proofs.Log
import PayoffLexer.Proofs.Toml.Grammar
import PayoffLexer.Proofs.Toml.Forms
import PayoffLexer.Proofs.Toml.Strings
import PayoffLexer.Proofs.Toml.Documents
import PayoffLexer.Proofs.Persistence
import PayoffLexer.Proofs.Lexeme.Numbers
import PayoffLexer.Proofs.Numbers
import PayoffLexer.Proofs.Exponents
import PayoffLexer.Proofs.Vocabulary.Offers
import PayoffLexer.Proofs.Reservations
import PayoffLexer.Proofs.Acceptance
import PayoffLexer.Proofs.Lexeme.Lookahead
import PayoffLexer.Proofs.Lookahead
import PayoffLexer.Proofs.Decimal.Literals
import PayoffLexer.Proofs.Restart
import PayoffLexer.Proofs.Values
import PayoffLexer.Proofs.Points
