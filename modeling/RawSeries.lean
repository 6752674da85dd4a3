import RawSeries.Bytes.Base64
import RawSeries.Bytes.Basic
import RawSeries.Bytes.Latin
import RawSeries.Bytes.Listing
import RawSeries.Bytes.Percent
import RawSeries.Bytes.Slice
import RawSeries.Bytes.Successor
import RawSeries.Bytes.Utf8
import RawSeries.Bytes.Wide
import RawSeries.Calendar.Civil
import RawSeries.Calendar.Pattern
import RawSeries.Calendar.Stamp
import RawSeries.Column.Compacted
import RawSeries.Column.Decoded
import RawSeries.Column.Report
import RawSeries.Command.Arguments
import RawSeries.Command.Run
import RawSeries.Command.Usage
import RawSeries.Command.Workspace
import RawSeries.Decimal.Binary
import RawSeries.Decimal.Notation
import RawSeries.Decimal.Quantity
import RawSeries.Decimal.Reader
import RawSeries.Decimal.Rounding
import RawSeries.Decimal.Shortest
import RawSeries.Directory.Basic
import RawSeries.Directory.Kind
import RawSeries.Directory.Remote
import RawSeries.Directory.Table
import RawSeries.Fault
import RawSeries.FileTree
import RawSeries.Gateway.Address
import RawSeries.Gateway.Answer
import RawSeries.Gateway.CellSet
import RawSeries.Gateway.Cursor
import RawSeries.Gateway.Host
import RawSeries.Gateway.Label
import RawSeries.Gateway.Label.Coding
import RawSeries.Gateway.Label.Context
import RawSeries.Gateway.Label.Direction
import RawSeries.Gateway.Label.Letter
import RawSeries.Gateway.Service
import RawSeries.Gateway.Session
import RawSeries.Gateway.Snapshot
import RawSeries.Json.Basic
import RawSeries.Json.Reader
import RawSeries.Json.Writer
import RawSeries.Level
import RawSeries.Main
import RawSeries.Manifest.Coverage
import RawSeries.Manifest.Line
import RawSeries.Manifest.Record
import RawSeries.Point.Cell
import RawSeries.Point.Qualifier
import RawSeries.Proofs.Base64RoundTrip
import RawSeries.Proofs.BigEndian
import RawSeries.Proofs.ByteListings
import RawSeries.Proofs.ByteOrder
import RawSeries.Proofs.CellLookup
import RawSeries.Proofs.CellSetRoundTrip
import RawSeries.Proofs.CivilDays
import RawSeries.Proofs.ColumnFaults
import RawSeries.Proofs.ColumnShapes
import RawSeries.Proofs.CompactedReport
import RawSeries.Proofs.CompactedSplit
import RawSeries.Proofs.DecimalRounding
import RawSeries.Proofs.DecimalTexts
import RawSeries.Proofs.DigitCounts
import RawSeries.Proofs.DoubleLimits
import RawSeries.Proofs.FewestDigits
import RawSeries.Proofs.FloatBits
import RawSeries.Proofs.FloatTexts
import RawSeries.Proofs.GatewayAddresses
import RawSeries.Proofs.GatewayScan
import RawSeries.Proofs.InstantFaults
import RawSeries.Proofs.JsonNumbers
import RawSeries.Proofs.JsonObjects
import RawSeries.Proofs.JsonTexts
import RawSeries.Proofs.KeySplit
import RawSeries.Proofs.LookupOutcomes
import RawSeries.Proofs.ManifestCoverage
import RawSeries.Proofs.ManifestLines
import RawSeries.Proofs.ManifestTexts
import RawSeries.Proofs.MemoryScan
import RawSeries.Proofs.MetricSuggestions
import RawSeries.Proofs.NearestNumbers
import RawSeries.Proofs.NoisyAnswers
import RawSeries.Proofs.NumberTexts
import RawSeries.Proofs.Numerals
import RawSeries.Proofs.PathSegments
import RawSeries.Proofs.PlainLookups
import RawSeries.Proofs.PropertyFiles
import RawSeries.Proofs.PurgeAccounts
import RawSeries.Proofs.PurgeBooks
import RawSeries.Proofs.PurgeBounds
import RawSeries.Proofs.PurgeCourse
import RawSeries.Proofs.PurgeDraining
import RawSeries.Proofs.PurgeOrder
import RawSeries.Proofs.PurgeProgress
import RawSeries.Proofs.PurgeRecords
import RawSeries.Proofs.PurgeResumption
import RawSeries.Proofs.PurgeSteps
import RawSeries.Proofs.QualifierRoundTrip
import RawSeries.Proofs.QueryGrammar
import RawSeries.Proofs.Quotients
import RawSeries.Proofs.ReadingSets
import RawSeries.Proofs.RemoteCells
import RawSeries.Proofs.RemoteLookups
import RawSeries.Proofs.Rounding
import RawSeries.Proofs.ScanBounds
import RawSeries.Proofs.ScanRange
import RawSeries.Proofs.ScannerPaging
import RawSeries.Proofs.ScannerSessions
import RawSeries.Proofs.ShortestDecimals
import RawSeries.Proofs.ShownBytes
import RawSeries.Proofs.ShownUnits
import RawSeries.Proofs.SweepAccounts
import RawSeries.Proofs.SweepCourse
import RawSeries.Proofs.SweepSteps
import RawSeries.Proofs.TaskRuns
import RawSeries.Proofs.TextLines
import RawSeries.Proofs.TextParts
import RawSeries.Proofs.Utf8Sequences
import RawSeries.Proofs.ValueTexts
import RawSeries.Proofs.WrittenDates
import RawSeries.Purge
import RawSeries.Query.Aggregator
import RawSeries.Query.Basic
import RawSeries.Query.Duration
import RawSeries.Query.Grammar
import RawSeries.Query.Instant
import RawSeries.Row.Basic
import RawSeries.Row.Key
import RawSeries.Row.Layout
import RawSeries.Row.Report
import RawSeries.Settings.Basic
import RawSeries.Settings.Number
import RawSeries.Settings.Properties
import RawSeries.Store.Memory
import RawSeries.Store.Part
import RawSeries.Store.Purging
import RawSeries.Store.Remote
import RawSeries.Store.Table
import RawSeries.Sweep
import RawSeries.Text.Blank
import RawSeries.Text.Composition
import RawSeries.Text.Digit
import RawSeries.Text.Half
import RawSeries.Text.Lower
import RawSeries.Text.Mark
import RawSeries.Text.Markup
import RawSeries.Text.Markup.Style
import RawSeries.Text.Numeral
import RawSeries.Text.Picture
import RawSeries.Text.Picture.Listing
import RawSeries.Text.Printable
import RawSeries.Text.Quoted
import RawSeries.Text.Runs
import RawSeries.Text.Terminal
