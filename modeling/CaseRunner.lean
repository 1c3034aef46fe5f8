import CaseRunner.CommandLine.Arguments
import CaseRunner.Config.Check
import CaseRunner.Config.Decode
import CaseRunner.Config.Load
import CaseRunner.Connection.Acquire
import CaseRunner.Connection.Drain
import CaseRunner.Connection.Executable
import CaseRunner.Connection.Launcher
import CaseRunner.Connection.Plan
import CaseRunner.Connection.Process
import CaseRunner.Connection.Readiness
import CaseRunner.Connection.Shell
import CaseRunner.Files.CopyBack
import CaseRunner.Files.Disk
import CaseRunner.Files.Fault
import CaseRunner.Files.Store
import CaseRunner.Files.Tree
import CaseRunner.Isolation.CaseRun
import CaseRunner.Isolation.Lookup
import CaseRunner.Isolation.Scope
import CaseRunner.Main
import CaseRunner.Program
import CaseRunner.Proofs.Calendar.Stamp
import CaseRunner.Proofs.Config.Acceptance
import CaseRunner.Proofs.Config.Duration
import CaseRunner.Proofs.Connection.Acquire
import CaseRunner.Proofs.Connection.Interruption
import CaseRunner.Proofs.Connection.Output
import CaseRunner.Proofs.Connection.Punctual
import CaseRunner.Proofs.Connection.Readiness
import CaseRunner.Proofs.Connection.ReadingOn
import CaseRunner.Proofs.Connection.Search
import CaseRunner.Proofs.Files.Changes
import CaseRunner.Proofs.Files.CopyBack
import CaseRunner.Proofs.Files.CopyEnding
import CaseRunner.Proofs.Files.CopyEndless
import CaseRunner.Proofs.Files.FinalName
import CaseRunner.Proofs.Files.Mirror
import CaseRunner.Proofs.Files.Shape
import CaseRunner.Proofs.Isolation.Abandonment
import CaseRunner.Proofs.Isolation.Artifacts
import CaseRunner.Proofs.Isolation.Compensation
import CaseRunner.Proofs.Isolation.Counting
import CaseRunner.Proofs.Isolation.Detached
import CaseRunner.Proofs.Isolation.Directories
import CaseRunner.Proofs.Isolation.Ending
import CaseRunner.Proofs.Isolation.Footprint
import CaseRunner.Proofs.Isolation.FreshName
import CaseRunner.Proofs.Isolation.Interruption
import CaseRunner.Proofs.Isolation.Phases
import CaseRunner.Proofs.Isolation.Restoration
import CaseRunner.Proofs.Isolation.Success
import CaseRunner.Proofs.Isolation.TestSets
import CaseRunner.Proofs.Isolation.Traversal
import CaseRunner.Proofs.Markup.Truncation
import CaseRunner.Proofs.Remote.Listing
import CaseRunner.Proofs.Report.Extension
import CaseRunner.Proofs.Report.HiddenText
import CaseRunner.Proofs.Report.LogElements
import CaseRunner.Proofs.Report.QualifiedName
import CaseRunner.Proofs.Report.RoundTrip
import CaseRunner.Proofs.Report.Truncation
import CaseRunner.Proofs.Report.Words
import CaseRunner.Proofs.Session
import CaseRunner.Remote.Action
import CaseRunner.Remote.Call
import CaseRunner.Remote.Object
import CaseRunner.Remote.Rehearsal
import CaseRunner.Remote.Tool
import CaseRunner.Remote.World
import CaseRunner.Report.Artifact
import CaseRunner.Report.Draft
import CaseRunner.Report.Load
import CaseRunner.Report.Summary
import CaseRunner.Session
import CaseRunner.Text.Fraction
import CaseRunner.Toml.Document
import CaseRunner.Toml.Quotation
import CaseRunner.Toml.Scalar
import CaseRunner.Toml.Value
import CaseRunner.Workspace
