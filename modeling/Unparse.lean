import Unparse.BuildError
import Unparse.Expr.Basic
import Unparse.Expr.Build
import Unparse.Expr.Comprehension
import Unparse.Expr.Equality
import Unparse.Expr.Text
import Unparse.ExprKind
import Unparse.Identifier
import Unparse.Level
import Unparse.Literal
import Unparse.ModulePath
import Unparse.Number.Binary64
import Unparse.Number.Decimal
import Unparse.Number.Shortest
import Unparse.Operator
import Unparse.Outline
import Unparse.Reserved
import Unparse.Sheet
import Unparse.Slot
import Unparse.Stmt.Basic
import Unparse.Stmt.Definition
import Unparse.Stmt.Equality
import Unparse.Stmt.Header
import Unparse.Stmt.Outline
import Unparse.Stmt.Simple
import Unparse.Stmt.Text
import Unparse.Stmt.Try
import Unparse.Text.Blank
import Unparse.Text.CodeRanges
import Unparse.Text.FormatText
import Unparse.Text.Hex
import Unparse.Text.Quoted
import Unparse.Text.Visible
import Unparse.Text.WordChar
import Unparse.Proofs.Token
import Unparse.Proofs.Spelling
import Unparse.Proofs.Grammar
import Unparse.Proofs.Reader
import Unparse.Proofs.OperatorForm
import Unparse.Proofs.Layout
import Unparse.Proofs.Nesting
import Unparse.Proofs.Charset
import Unparse.Proofs.LineBreaks
import Unparse.Proofs.Construction
import Unparse.Proofs.Bare
import Unparse.Proofs.Builders
import Unparse.Proofs.Yield
import Unparse.Proofs.Derivation
import Unparse.Proofs.Await
import Unparse.Proofs.FormatReader
import Unparse.Proofs.FormatFields
import Unparse.Proofs.Named
import Unparse.Proofs.Blocks
import Unparse.Proofs.Controls
import Unparse.Proofs.Lexicon
import Unparse.Proofs.ClauseToken
import Unparse.Proofs.ComprehensionReader
import Unparse.Proofs.QuotedReader
import Unparse.Proofs.ComprehensionRun
import Unparse.Proofs.Separators
import Unparse.Proofs.BracketReader
import Unparse.Proofs.WithReader
import Unparse.Proofs.WithHeaders
import Unparse.Proofs.Grouping
import Unparse.Proofs.Parentheses
import Unparse.Proofs.Printable
import Unparse.Proofs.TryClauses
import Unparse.Proofs.LeadingWord
import Unparse.Proofs.HandlerHeaders
import Unparse.Proofs.IdentifierRule
import Unparse.Proofs.DefinitionRun
import Unparse.Proofs.DefinitionReader
import Unparse.Proofs.DefinitionHeaders
import Unparse.Proofs.ImportReader
