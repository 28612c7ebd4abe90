import ExportSurface.CommandLine.Key
import ExportSurface.CommandLine.Options
import ExportSurface.CommandLine.Reader
import ExportSurface.Comparison.Basic
import ExportSurface.Comparison.Document
import ExportSurface.Comparison.Report
import ExportSurface.Failure
import ExportSurface.FileTree.Basic
import ExportSurface.FileTree.Change
import ExportSurface.FileTree.Mode
import ExportSurface.FileTree.Reading
import ExportSurface.FileTree.Replacement
import ExportSurface.FileTree.Walk
import ExportSurface.Filter
import ExportSurface.IgnoreList.Basic
import ExportSurface.IgnoreList.File
import ExportSurface.IgnoreList.Load
import ExportSurface.IgnoreList.Toolchain
import ExportSurface.Inspection
import ExportSurface.Json.Printer
import ExportSurface.Json.Reader
import ExportSurface.Json.Value
import ExportSurface.Listing.Block
import ExportSurface.Listing.Field
import ExportSurface.Listing.Record
import ExportSurface.Path
import ExportSurface.Platform
import ExportSurface.Process.Execution
import ExportSurface.Process.Program
import ExportSurface.Process.Utility
import ExportSurface.Process.World
import ExportSurface.Program
import ExportSurface.Proofs.Comparison.Patching
import ExportSurface.Proofs.Comparison.Printing
import ExportSurface.Proofs.Comparison.Reporting
import ExportSurface.Proofs.FileTree.Reading
import ExportSurface.Proofs.FileTree.Replacing
import ExportSurface.Proofs.FileTree.Walking
import ExportSurface.Proofs.FileTree.Writing
import ExportSurface.Proofs.IgnoreList.Assembling
import ExportSurface.Proofs.IgnoreList.History
import ExportSurface.Proofs.IgnoreList.Loading
import ExportSurface.Proofs.IgnoreList.Merging
import ExportSurface.Proofs.IgnoreList.Writing
import ExportSurface.Proofs.Inspection.Answers
import ExportSurface.Proofs.Inspection.Converting
import ExportSurface.Proofs.Inspection.Failing
import ExportSurface.Proofs.Inspection.History
import ExportSurface.Proofs.Inspection.Ignoring
import ExportSurface.Proofs.Inspection.Ordering
import ExportSurface.Proofs.Inspection.Rechecking
import ExportSurface.Proofs.Inspection.Reproducing
import ExportSurface.Proofs.Inspection.Varying
import ExportSurface.Proofs.Json.Lists
import ExportSurface.Proofs.Json.Literals
import ExportSurface.Proofs.Json.RoundTrip
import ExportSurface.Proofs.Listing.Cutting
import ExportSurface.Proofs.Listing.Extraction
import ExportSurface.Proofs.Listing.Fields
import ExportSurface.Proofs.Listing.Filtering
import ExportSurface.Proofs.Listing.Layout
import ExportSurface.Proofs.Listing.LineEnds
import ExportSurface.Proofs.Listing.Scan
import ExportSurface.Proofs.Listing.Words
import ExportSurface.Proofs.Process.Loading
import ExportSurface.Proofs.Program.Endings
import ExportSurface.Proofs.Shell.Acting
import ExportSurface.Proofs.Shell.Reading
import ExportSurface.Proofs.Shell.Running
import ExportSurface.Proofs.Snapshot.Editing
import ExportSurface.Proofs.Snapshot.Lines
import ExportSurface.Proofs.Snapshot.RoundTrip
import ExportSurface.Proofs.Snapshot.Writing
import ExportSurface.Proofs.SymbolSet.History
import ExportSurface.Proofs.Text.Ascii
import ExportSurface.Proofs.Text.LineEnds
import ExportSurface.Proofs.Text.Lossy
import ExportSurface.Proofs.Text.Order
import ExportSurface.Proofs.Text.Pieces
import ExportSurface.Proofs.Text.Utf8
import ExportSurface.Proofs.Text.Words
import ExportSurface.Proofs.Toml.Lines
import ExportSurface.Proofs.Toml.Strings
import ExportSurface.Proofs.Toml.Tables
import ExportSurface.Proofs.Tool.Ending
import ExportSurface.Proofs.Tool.Playback
import ExportSurface.Proofs.Tool.Playing
import ExportSurface.Proofs.Tool.Running
import ExportSurface.Proofs.Tool.Searching
import ExportSurface.Proofs.Tool.Taking
import ExportSurface.Shell.Action
import ExportSurface.Shell.Builtin
import ExportSurface.Shell.Command
import ExportSurface.Shell.Execution
import ExportSurface.Shell.Expansion
import ExportSurface.Shell.Printing
import ExportSurface.Shell.Token
import ExportSurface.Snapshot.Codec
import ExportSurface.Snapshot.Header
import ExportSurface.Snapshot.Store
import ExportSurface.Symbol
import ExportSurface.SymbolSet
import ExportSurface.SymbolSet.Step
import ExportSurface.SystemError
import ExportSurface.Task
import ExportSurface.Text.Basic
import ExportSurface.Text.Blank
import ExportSurface.Text.Digit
import ExportSurface.Text.Narrow
import ExportSurface.Text.Reading
import ExportSurface.Text.Utf8
import ExportSurface.Text.Word
import ExportSurface.Text.WordTable
import ExportSurface.Toml.Moment
import ExportSurface.Toml.Number
import ExportSurface.Toml.Quoted
import ExportSurface.Toml.Reader
import ExportSurface.Toml.Table
import ExportSurface.Toml.Value
import ExportSurface.Tool.ExitStatus
import ExportSurface.Tool.Quoting
import ExportSurface.Tool.Recording
import ExportSurface.Tool.SearchPath
import ExportSurface.Tool.Signal
import ExportSurface.Tool.Source
