import Pipescript.Backend.Notice
import Pipescript.Backend.Settings
import Pipescript.Backend.Wrapper
import Pipescript.CommandLine
import Pipescript.Decimal.Binary
import Pipescript.Decimal.Shortest
import Pipescript.Domain.Basic
import Pipescript.Domain.ClassTable
import Pipescript.Domain.CompositeTable
import Pipescript.Domain.Composition
import Pipescript.Domain.Label
import Pipescript.Domain.Mapping
import Pipescript.Domain.MappingTable
import Pipescript.Domain.PlainTable
import Pipescript.Domain.Punycode
import Pipescript.Editor.Diagnostic
import Pipescript.Editor.Document
import Pipescript.Editor.Header
import Pipescript.Editor.Position
import Pipescript.Files.FileTree
import Pipescript.Files.Path
import Pipescript.Gate.Expression
import Pipescript.Gate.PieceText
import Pipescript.Gate.Token
import Pipescript.Gzip.Inflate
import Pipescript.Gzip.Member
import Pipescript.Gzip.Prefix
import Pipescript.Host.Basic
import Pipescript.Host.Ipv4
import Pipescript.Host.Ipv6
import Pipescript.Json.Syntax
import Pipescript.Json.Value
import Pipescript.Main
import Pipescript.Schema.Basic
import Pipescript.Schema.Category
import Pipescript.Schema.Read
import Pipescript.Schema.SearchResult
import Pipescript.Schema.Source
import Pipescript.Script.Arrow
import Pipescript.Script.Assignment
import Pipescript.Script.EnvironmentMacro
import Pipescript.Script.GateColon
import Pipescript.Script.Indentation
import Pipescript.Script.Lexeme
import Pipescript.Script.LexemeText
import Pipescript.Script.PlainScript
import Pipescript.Script.Quote
import Pipescript.Script.RowSet
import Pipescript.Script.Scan
import Pipescript.Script.Token
import Pipescript.Text.Alphabetic
import Pipescript.Text.Basic
import Pipescript.Text.Blank
import Pipescript.Text.CharTable
import Pipescript.Text.Digits
import Pipescript.Text.Extender
import Pipescript.Text.Invisible
import Pipescript.Text.LineIndex
import Pipescript.Text.Lines
import Pipescript.Text.Numeric
import Pipescript.Text.Quoted
import Pipescript.Text.RangeTable
import Pipescript.Text.Recent
import Pipescript.Text.Utf8
import Pipescript.Text.WordMark
import Pipescript.Uri.Authority
import Pipescript.Uri.Basic
import Pipescript.Uri.Parse
import Pipescript.Uri.Percent
import Pipescript.Uri.Scheme
import Pipescript.Uri.Segments
import Pipescript.Proofs.Arrow.Place
import Pipescript.Proofs.Arrow.Order
import Pipescript.Proofs.Scan.RowStep
import Pipescript.Proofs.Scan.TokenPlace
import Pipescript.Proofs.Arrow.Found
import Pipescript.Proofs.Arrow.Stretches
import Pipescript.Proofs.Arrow.GateEdit
import Pipescript.Proofs.Arrow.Lower
import Pipescript.Proofs.Editor.HeaderShift
import Pipescript.Proofs.Script.ChangedRows
import Pipescript.Proofs.Gate.Grammar
import Pipescript.Proofs.Gate.Recognition
import Pipescript.Proofs.Gate.Stop
import Pipescript.Proofs.Gate.LastPiece
import Pipescript.Proofs.Gate.Alone
import Pipescript.Proofs.Gate.Probe
import Pipescript.Proofs.Gate.BorderColon
import Pipescript.Proofs.Gate.Candidate
import Pipescript.Proofs.Scan.Lexemes
import Pipescript.Proofs.Scan.Cover
import Pipescript.Proofs.Scan.Lossless
import Pipescript.Proofs.Scan.ScannedPart
import Pipescript.Proofs.Scan.TokenText
import Pipescript.Proofs.Scan.Onward
import Pipescript.Proofs.Gate.RowLiterals
import Pipescript.Proofs.Text.Returns
import Pipescript.Proofs.Gate.ScanStep
import Pipescript.Proofs.Gate.ScanRun
import Pipescript.Proofs.Gate.Agreement
import Pipescript.Proofs.Scan.BehindOperator
import Pipescript.Proofs.Scan.ErrorPlace
import Pipescript.Proofs.Arrow.PassThrough
import Pipescript.Proofs.Text.WithReturns
import Pipescript.Proofs.Scan.LineWithReturns
import Pipescript.Proofs.Scan.WithReturns
import Pipescript.Proofs.Arrow.Exact
import Pipescript.Proofs.Text.Ascii
import Pipescript.Proofs.Arrow.Sealed
import Pipescript.Proofs.Scan.SealedLine
import Pipescript.Proofs.Scan.SealedScan
import Pipescript.Proofs.Script.Idempotence
import Pipescript.Proofs.Editor.ViewIdempotence
import Pipescript.Proofs.Gate.OnePass
import Pipescript.Proofs.Gate.PieceWithReturns
import Pipescript.Proofs.Gate.WithReturns
import Pipescript.Proofs.Arrow.SealedColon
import Pipescript.Proofs.Arrow.WithReturns
import Pipescript.Proofs.Script.LineEnds
import Pipescript.Proofs.Script.RowsAbove
import Pipescript.Proofs.Editor.DocumentRun
import Pipescript.Proofs.Backend.Crossing
import Pipescript.Proofs.Schema.PlacesByCategory
import Pipescript.Proofs.Text.LineIndex
import Pipescript.Proofs.Editor.Splice
import Pipescript.Proofs.Text.Utf8
import Pipescript.Proofs.Editor.FileHeader
import Pipescript.Proofs.Arrow.GateSearch
import Pipescript.Proofs.Scan.BeforeOperator
import Pipescript.Proofs.Scan.ColonToken
import Pipescript.Proofs.Arrow.SealedToken
import Pipescript.Proofs.Schema.TypePlaces
import Pipescript.Proofs.Editor.GenuineDiagnostics
import Pipescript.Proofs.Scan.RowRun
import Pipescript.Proofs.Scan.Nesting
import Pipescript.Proofs.Scan.LiteralRows
import Pipescript.Proofs.Text.PlaceOffsets
import Pipescript.Proofs.Arrow.Spans
import Pipescript.Proofs.Scan.LineEndText
import Pipescript.Proofs.Scan.LoneReturns
import Pipescript.Proofs.Arrow.TwoForms
import Pipescript.Proofs.Text.RowsAndLines
import Pipescript.Proofs.Schema.DecidedOnce
import Pipescript.Proofs.Backend.Start
