import HostPreflight.Checks
import HostPreflight.CommandLine.Level
import HostPreflight.CommandLine.Options
import HostPreflight.Completion
import HostPreflight.Decimal.Digits
import HostPreflight.Decimal.Numeral
import HostPreflight.Device
import HostPreflight.Dialogue
import HostPreflight.Double.Arithmetic
import HostPreflight.Double.Basic
import HostPreflight.Double.Layout
import HostPreflight.Double.Shortest
import HostPreflight.Event
import HostPreflight.Failure.Basic
import HostPreflight.Failure.Cause
import HostPreflight.Failure.System
import HostPreflight.Finding
import HostPreflight.HostSummary
import HostPreflight.Json.Basic
import HostPreflight.Json.Number
import HostPreflight.Json.Parser
import HostPreflight.Json.Printer
import HostPreflight.Json.Record
import HostPreflight.Libraries
import HostPreflight.LibrarySearch
import HostPreflight.Machine.FileTree
import HostPreflight.Machine.Image
import HostPreflight.Machine.Loading
import HostPreflight.Machine.Request
import HostPreflight.Machine.Shell.Arithmetic
import HostPreflight.Machine.Shell.Binding
import HostPreflight.Machine.Shell.Builtin
import HostPreflight.Machine.Shell.Command
import HostPreflight.Machine.Shell.Condition
import HostPreflight.Machine.Shell.Directory
import HostPreflight.Machine.Shell.Escape
import HostPreflight.Machine.Shell.Expansion
import HostPreflight.Machine.Shell.Field
import HostPreflight.Machine.Shell.Float
import HostPreflight.Machine.Shell.Job
import HostPreflight.Machine.Shell.Lookup
import HostPreflight.Machine.Shell.Mask
import HostPreflight.Machine.Shell.Option
import HostPreflight.Machine.Shell.Parser
import HostPreflight.Machine.Shell.Path
import HostPreflight.Machine.Shell.Pattern
import HostPreflight.Machine.Shell.Perform
import HostPreflight.Machine.Shell.Printf
import HostPreflight.Machine.Shell.Redirect
import HostPreflight.Machine.Shell.Run
import HostPreflight.Machine.Shell.Signal
import HostPreflight.Machine.Shell.Start
import HostPreflight.Machine.Shell.State
import HostPreflight.Machine.Shell.Switch
import HostPreflight.Machine.Shell.Text
import HostPreflight.Machine.Shell.Token
import HostPreflight.Machine.Shell.Trap
import HostPreflight.Main
import HostPreflight.Memory
import HostPreflight.Path
import HostPreflight.Probe
import HostPreflight.Program
import HostPreflight.Proofs.Device.Classification
import HostPreflight.Proofs.Run.Course
import HostPreflight.Proofs.Text.Piece
import HostPreflight.Report
import HostPreflight.Report.Streams
import HostPreflight.Session
import HostPreflight.Settings
import HostPreflight.Source
import HostPreflight.Text.Blank
import HostPreflight.Text.Fields
import HostPreflight.Text.Hex
import HostPreflight.Text.Hidden
import HostPreflight.Text.Quoted
import HostPreflight.Text.Utf8
import HostPreflight.Topology
import HostPreflight.Proofs.Run.Findings
import HostPreflight.Proofs.Run.WellFormed
import HostPreflight.Proofs.Run.Verdict
import HostPreflight.Proofs.Device.Offer
import HostPreflight.Proofs.Json.Number
import HostPreflight.Proofs.Json.Literal
import HostPreflight.Proofs.Json.Spelling
import HostPreflight.Proofs.Json.Layouts
import HostPreflight.Proofs.Double.Numeral
import HostPreflight.Proofs.Json.Record
import HostPreflight.Proofs.Report.RoundTrip
import HostPreflight.Proofs.Dialogue.World
import HostPreflight.Proofs.Run.Advice
import HostPreflight.Proofs.Run.Halting
import HostPreflight.Proofs.Double.Order
import HostPreflight.Proofs.Run.Resources
import HostPreflight.Proofs.CommandLine.Spelling
import HostPreflight.Proofs.CommandLine.Mention
import HostPreflight.Proofs.CommandLine.Libraries
import HostPreflight.Proofs.Program.Libraries
import HostPreflight.Proofs.Program.Origin
import HostPreflight.Proofs.Device.Partition
import HostPreflight.Proofs.Text.Words
import HostPreflight.Proofs.Text.Utf8
import HostPreflight.Proofs.Text.OneLine
import HostPreflight.Proofs.Libraries.Names
import HostPreflight.Proofs.Libraries.Agreement
import HostPreflight.Proofs.Run.Messages
import HostPreflight.Proofs.Report.Printed
import HostPreflight.Proofs.CommandLine.Root
import HostPreflight.Proofs.Program.ExitCode
import HostPreflight.Proofs.Program.EmptyRoot
import HostPreflight.Proofs.Double.Quotient
import HostPreflight.Proofs.Run.Threshold
import HostPreflight.Proofs.Text.Lines
import HostPreflight.Proofs.Text.Trim
import HostPreflight.Proofs.Decimal.Count
import HostPreflight.Proofs.Topology.Rows
import HostPreflight.Proofs.Memory.Table
import HostPreflight.Proofs.Report.Printing
import HostPreflight.Proofs.Report.CutShort
import HostPreflight.Proofs.Text.ByteOrder
import HostPreflight.Proofs.Libraries.LinkLine
import HostPreflight.Proofs.Libraries.Directory
import HostPreflight.Proofs.Libraries.Flags
import HostPreflight.Proofs.Run.Capture
import HostPreflight.Proofs.Topology.Rendering
import HostPreflight.Proofs.Topology.Siblings
import HostPreflight.Proofs.Double.Interval
import HostPreflight.Proofs.Double.Shortest
import HostPreflight.Proofs.Double.TwoSteps
import HostPreflight.Proofs.Json.Reading
import HostPreflight.Proofs.Memory.Figure
import HostPreflight.Proofs.Report.Figure
import HostPreflight.Proofs.Text.Start
import HostPreflight.Proofs.Device.Index
import HostPreflight.Proofs.Device.Cards
import HostPreflight.Proofs.Run.Log
import HostPreflight.Proofs.Report.Ordinary
