import RecordPipeline.CommandLine.Arguments
import RecordPipeline.CommandLine.Path
import RecordPipeline.CommandLine.Run
import RecordPipeline.Context
import RecordPipeline.Contract.Basic
import RecordPipeline.Contract.Issue
import RecordPipeline.Conversion.Converter
import RecordPipeline.Conversion.Target
import RecordPipeline.Decimal
import RecordPipeline.Double.Basic
import RecordPipeline.Double.Literal
import RecordPipeline.Double.Shortest
import RecordPipeline.Double.Text
import RecordPipeline.Failure.Builder
import RecordPipeline.Failure.Record
import RecordPipeline.Failure.Violation
import RecordPipeline.Fault
import RecordPipeline.Journal.Archive
import RecordPipeline.Journal.Entry
import RecordPipeline.Journal.Layout
import RecordPipeline.Journal.Line
import RecordPipeline.Journal.Report
import RecordPipeline.Journal.Stamp
import RecordPipeline.Journal.Template.Basic
import RecordPipeline.Journal.Template.Fill
import RecordPipeline.Journal.Template.Written
import RecordPipeline.Journal.Timed
import RecordPipeline.Json.Fault
import RecordPipeline.Json.Quoted
import RecordPipeline.Json.Reader
import RecordPipeline.Json.Writer
import RecordPipeline.Main
import RecordPipeline.Moment.Basic
import RecordPipeline.Moment.Civil
import RecordPipeline.Moment.Pattern.Basic
import RecordPipeline.Moment.Pattern.Fill
import RecordPipeline.Moment.Pattern.Read
import RecordPipeline.Moment.Shape
import RecordPipeline.Moment.Timestamp
import RecordPipeline.Pipeline.Basic
import RecordPipeline.Pipeline.Result
import RecordPipeline.Plugin
import RecordPipeline.Processor.Basic
import RecordPipeline.Processor.FieldMapping
import RecordPipeline.Processor.Script
import RecordPipeline.Proofs.Value.Key
import RecordPipeline.Proofs.Value.Number
import RecordPipeline.Settings
import RecordPipeline.Text.Blank
import RecordPipeline.Text.Numeral
import RecordPipeline.Text.Printable
import RecordPipeline.Text.Quoted
import RecordPipeline.Text.Split
import RecordPipeline.Text.WholeNumber
import RecordPipeline.Value.Basic
import RecordPipeline.Value.Equal
import RecordPipeline.Value.Exact
import RecordPipeline.Value.Fault
import RecordPipeline.Value.Text
import RecordPipeline.Version
import RecordPipeline.Proofs.FieldMapping.Record
import RecordPipeline.Proofs.Conversion.Outcome
import RecordPipeline.Proofs.Failure.Build
import RecordPipeline.Proofs.FieldMapping.Settle
import RecordPipeline.Proofs.Processor.Hold
import RecordPipeline.Proofs.FieldMapping.Batch
import RecordPipeline.Proofs.FieldMapping.Process
import RecordPipeline.Proofs.FieldMapping.Partition
import RecordPipeline.Proofs.FieldMapping.Leak
import RecordPipeline.Proofs.Pipeline.Calls
import RecordPipeline.Proofs.Pipeline.Skipping
import RecordPipeline.Proofs.Pipeline.Conservation
import RecordPipeline.Proofs.Pipeline.Registered
import RecordPipeline.Proofs.Processor.Sending
import RecordPipeline.Proofs.Pipeline.DeadLetters
import RecordPipeline.Proofs.Double.Round
import RecordPipeline.Proofs.Conversion.Classes
import RecordPipeline.Proofs.Double.Shortest
import RecordPipeline.Proofs.Text.Numeral
import RecordPipeline.Proofs.Json.Numeral
import RecordPipeline.Proofs.Json.Quoted
import RecordPipeline.Proofs.Json.Native
import RecordPipeline.Proofs.Json.Written
import RecordPipeline.Proofs.Settings.Mappings
import RecordPipeline.Proofs.FieldMapping.Document
import RecordPipeline.Proofs.Pipeline.Completion
import RecordPipeline.Proofs.CommandLine.Printing
import RecordPipeline.Proofs.CommandLine.Serving
import RecordPipeline.Proofs.CommandLine.Nesting
import RecordPipeline.Proofs.Pipeline.Stopping
import RecordPipeline.Proofs.Pipeline.Leaving
import RecordPipeline.Proofs.Pipeline.Modes
import RecordPipeline.Proofs.FieldMapping.Output
import RecordPipeline.Proofs.Processor.Isolation
import RecordPipeline.Proofs.Pipeline.Repeating
import RecordPipeline.Proofs.Outcome
import RecordPipeline.Proofs.Processor.Noticed
import RecordPipeline.Proofs.Pipeline.Warnings
import RecordPipeline.Proofs.Plugin.Declared
import RecordPipeline.Proofs.Plugin.Gate
import RecordPipeline.Proofs.Pipeline.Admission
import RecordPipeline.Proofs.FieldMapping.Fusion
import RecordPipeline.Proofs.Pipeline.Splitting
import RecordPipeline.Proofs.Conversion.WholePart
import RecordPipeline.Proofs.FieldMapping.Idempotent
import RecordPipeline.Proofs.Processor.Switching
import RecordPipeline.Proofs.Pipeline.Switching
import RecordPipeline.Proofs.Text.Blank
import RecordPipeline.Proofs.Double.Nearest
import RecordPipeline.Proofs.Conversion.Numerals
import RecordPipeline.Proofs.Version.Grammar
import RecordPipeline.Proofs.Version.Text
import RecordPipeline.Proofs.Conversion.Widening
import RecordPipeline.Proofs.Conversion.Spelling
import RecordPipeline.Proofs.Conversion.ReadBack
import RecordPipeline.Proofs.Version.Releases
import RecordPipeline.Proofs.Moment.Parts
import RecordPipeline.Proofs.Moment.Spelling
import RecordPipeline.Proofs.Failure.Violations
import RecordPipeline.Proofs.Failure.Builder
import RecordPipeline.Proofs.Failure.Stamp
import RecordPipeline.Proofs.Contract.Answering
import RecordPipeline.Proofs.Json.Plain
import RecordPipeline.Proofs.Journal.Line
import RecordPipeline.Proofs.Value.Exact
import RecordPipeline.Proofs.Value.Same
import RecordPipeline.Proofs.Failure.Equality
import RecordPipeline.Proofs.Moment.Order
import RecordPipeline.Proofs.Failure.Instant
import RecordPipeline.Proofs.Processor.Tally
import RecordPipeline.Proofs.FieldMapping.Statistic
import RecordPipeline.Proofs.Contract.Verdict
import RecordPipeline.Proofs.Settings.Reading
import RecordPipeline.Proofs.FieldMapping.Config
import RecordPipeline.Proofs.Context.Counters
import RecordPipeline.Proofs.Value.Named
import RecordPipeline.Proofs.Context.Metrics
import RecordPipeline.Proofs.CommandLine.Declaring
