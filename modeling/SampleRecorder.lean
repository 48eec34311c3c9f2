import SampleRecorder.Calendar
import SampleRecorder.CommandLine.Arguments
import SampleRecorder.CommandLine.Program
import SampleRecorder.Dict
import SampleRecorder.Export.Fault
import SampleRecorder.Export.Settings
import SampleRecorder.Export.Template
import SampleRecorder.Field
import SampleRecorder.Files.Path
import SampleRecorder.Files.Problem
import SampleRecorder.Files.System
import SampleRecorder.Files.Tree
import SampleRecorder.Frame.Encoding
import SampleRecorder.Frame.Framer
import SampleRecorder.Json.Basic
import SampleRecorder.Json.Decode
import SampleRecorder.Json.Raw
import SampleRecorder.Json.Record
import SampleRecorder.Line.Fault
import SampleRecorder.Line.Parser
import SampleRecorder.Line.Settings
import SampleRecorder.Log.Buffer
import SampleRecorder.Log.Event
import SampleRecorder.Log.Level
import SampleRecorder.Log.Settings
import SampleRecorder.Main
import SampleRecorder.Number.Binary
import SampleRecorder.Number.Numeral
import SampleRecorder.Number.Shortest
import SampleRecorder.Number.Written
import SampleRecorder.Reading
import SampleRecorder.Recorder.Basic
import SampleRecorder.Recorder.Export
import SampleRecorder.Recorder.ExportFile
import SampleRecorder.Recorder.Pending
import SampleRecorder.Recorder.Run
import SampleRecorder.Recording.Session
import SampleRecorder.Regex.Basic
import SampleRecorder.Regex.Bracket
import SampleRecorder.Regex.ByteSequence
import SampleRecorder.Regex.Escape
import SampleRecorder.Regex.Footprint
import SampleRecorder.Regex.Layout
import SampleRecorder.Regex.Node
import SampleRecorder.Regex.Pattern
import SampleRecorder.Regex.Program
import SampleRecorder.Regex.Property
import SampleRecorder.Regex.Search
import SampleRecorder.Rule.Basic
import SampleRecorder.Rule.Condition
import SampleRecorder.Rule.Ruleset
import SampleRecorder.Script.Arith
import SampleRecorder.Script.Eval
import SampleRecorder.Script.Expr
import SampleRecorder.Script.Fault
import SampleRecorder.Script.Function
import SampleRecorder.Script.Parse
import SampleRecorder.Script.Token
import SampleRecorder.Script.Value
import SampleRecorder.Settings.Basic
import SampleRecorder.Settings.Document
import SampleRecorder.Settings.File
import SampleRecorder.Settings.Merge
import SampleRecorder.Settings.Printer
import SampleRecorder.Source.Event
import SampleRecorder.Source.Fault
import SampleRecorder.Source.Manager
import SampleRecorder.Source.Port
import SampleRecorder.Source.Reader
import SampleRecorder.Source.Settings
import SampleRecorder.Source.Status
import SampleRecorder.Text.Age
import SampleRecorder.Text.Break
import SampleRecorder.Text.CaseTable
import SampleRecorder.Text.Casing
import SampleRecorder.Text.Category
import SampleRecorder.Text.Class
import SampleRecorder.Text.CodeSet
import SampleRecorder.Text.Derived
import SampleRecorder.Text.Later
import SampleRecorder.Text.Property
import SampleRecorder.Text.Quoted
import SampleRecorder.Text.Script
import SampleRecorder.Text.ScriptExtension
import SampleRecorder.Text.Search
import SampleRecorder.Text.Utf8
import SampleRecorder.Transmit.Encoding
import SampleRecorder.Transmit.Fault
import SampleRecorder.Transmit.Settings
import SampleRecorder.Transmit.Transmitter
import SampleRecorder.Proofs.Recorder.Operation
import SampleRecorder.Proofs.Recorder.Samples
import SampleRecorder.Proofs.Frame.Stream
import SampleRecorder.Proofs.Json.Record
import SampleRecorder.Proofs.Settings.RoundTrip
import SampleRecorder.Proofs.Script.Rendering
import SampleRecorder.Proofs.Script.RoundTrip
import SampleRecorder.Proofs.Recording.AutoStop
import SampleRecorder.Proofs.Recording.Stats
import SampleRecorder.Proofs.Script.Scope
import SampleRecorder.Proofs.Script.Safety
import SampleRecorder.Proofs.Rule.Editing
import SampleRecorder.Proofs.Rule.Grammar
import SampleRecorder.Proofs.Text.CodeSet
import SampleRecorder.Proofs.Text.Run
import SampleRecorder.Proofs.Recorder.Settings
import SampleRecorder.Proofs.Rule.Readers
import SampleRecorder.Proofs.Rule.Spelling
import SampleRecorder.Proofs.Export.Returns
import SampleRecorder.Proofs.Frame.Discard
import SampleRecorder.Proofs.Export.Columns
import SampleRecorder.Proofs.Transmit.Operation
import SampleRecorder.Proofs.Recorder.Attempts
import SampleRecorder.Proofs.Recorder.Queue
import SampleRecorder.Proofs.Recorder.Announcement
import SampleRecorder.Proofs.Source.Script
import SampleRecorder.Proofs.Source.Interleaving
import SampleRecorder.Proofs.Json.Lookup
import SampleRecorder.Proofs.Json.Unknown
import SampleRecorder.Proofs.Settings.Keys
import SampleRecorder.Proofs.Settings.Merge
import SampleRecorder.Proofs.Text.Trim
import SampleRecorder.Proofs.Text.Size
import SampleRecorder.Proofs.Line.Reading
import SampleRecorder.Proofs.Line.Keys
import SampleRecorder.Proofs.Line.Columns
import SampleRecorder.Proofs.Line.Finite
import SampleRecorder.Proofs.Number.Size
import SampleRecorder.Proofs.Number.Nearest
import SampleRecorder.Proofs.Number.Integer
import SampleRecorder.Proofs.Number.Decimal
import SampleRecorder.Proofs.Json.Finite
import SampleRecorder.Proofs.Script.Stored
import SampleRecorder.Proofs.Script.Parsing
import SampleRecorder.Proofs.Script.Literals
import SampleRecorder.Proofs.Script.TextSize
import SampleRecorder.Proofs.Script.Integers
import SampleRecorder.Proofs.Script.Replacement
import SampleRecorder.Proofs.Script.Lexing
import SampleRecorder.Proofs.Script.Nesting
import SampleRecorder.Proofs.Script.Depth
import SampleRecorder.Proofs.Script.Places
import SampleRecorder.Proofs.Rule.Comparison
import SampleRecorder.Proofs.Script.Conversion
import SampleRecorder.Proofs.Script.History
import SampleRecorder.Proofs.Script.Pieces
import SampleRecorder.Proofs.Export.FileName
import SampleRecorder.Proofs.Export.Parts
import SampleRecorder.Proofs.Script.Substrings
import SampleRecorder.Proofs.Script.Writing
import SampleRecorder.Proofs.Frame.Bounds
import SampleRecorder.Proofs.Transmit.Hexadecimal
import SampleRecorder.Proofs.Transmit.Memory
import SampleRecorder.Proofs.Frame.RoundTrip
import SampleRecorder.Proofs.Recording.Invariant
import SampleRecorder.Proofs.Recording.StartTime
import SampleRecorder.Proofs.Recorder.Log
import SampleRecorder.Proofs.Recorder.Ending
import SampleRecorder.Proofs.Json.Compact
import SampleRecorder.Proofs.Log.Lines
import SampleRecorder.Proofs.Log.Retention
import SampleRecorder.Proofs.Script.Descent
import SampleRecorder.Proofs.Script.Lists
import SampleRecorder.Proofs.Text.Decoding
import SampleRecorder.Proofs.Text.Pieces
import SampleRecorder.Proofs.Frame.Delivery
import SampleRecorder.Proofs.Recorder.Active
import SampleRecorder.Proofs.Text.Casing
import SampleRecorder.Proofs.Settings.Names
import SampleRecorder.Proofs.Script.Kept
import SampleRecorder.Proofs.Script.Growth
