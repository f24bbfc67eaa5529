import Bundler.Builder
import Bundler.Bundle
import Bundler.Command.Arguments
import Bundler.Command.Request
import Bundler.Command.Run
import Bundler.Component
import Bundler.Declaration
import Bundler.Discovery
import Bundler.Disk.Basic
import Bundler.Disk.Change
import Bundler.Disk.Error
import Bundler.Disk.Resolve
import Bundler.Error
import Bundler.Failure
import Bundler.Fault
import Bundler.Fragment
import Bundler.Journal.Archive
import Bundler.Journal.Basic
import Bundler.Journal.Entry
import Bundler.Journal.Line
import Bundler.Keyed
import Bundler.Main
import Bundler.Metrics
import Bundler.Moment
import Bundler.Number.Binary64
import Bundler.Number.Integer
import Bundler.Number.Layout
import Bundler.Number.Shortest
import Bundler.Number.Sum
import Bundler.Path
import Bundler.Project
import Bundler.Proofs.Bundle.Layout
import Bundler.Proofs.Bundle.Order
import Bundler.Proofs.Declaration
import Bundler.Proofs.Discovery.Distance
import Bundler.Proofs.Discovery.Order
import Bundler.Proofs.Discovery.Partition
import Bundler.Proofs.Discovery.Run
import Bundler.Proofs.Discovery.Still
import Bundler.Proofs.Discovery.Termination
import Bundler.Proofs.Disk.Change
import Bundler.Proofs.Disk.Passage
import Bundler.Proofs.Disk.Remake
import Bundler.Proofs.Disk.Resolve
import Bundler.Proofs.Disk.Walk
import Bundler.Proofs.Journal.Growth
import Bundler.Proofs.Journal.Line
import Bundler.Proofs.Keyed
import Bundler.Proofs.Path
import Bundler.Proofs.Path.Target
import Bundler.Proofs.Project.Fresh
import Bundler.Proofs.Project.Reset
import Bundler.Proofs.Section
import Bundler.Proofs.Settings.OutputDir
import Bundler.Proofs.Source
import Bundler.Proofs.Text.Blank
import Bundler.Proofs.Text.Lines
import Bundler.Proofs.Text.Utf8
import Bundler.Queue
import Bundler.Record
import Bundler.Section
import Bundler.Session
import Bundler.Settings.Basic
import Bundler.Settings.Config
import Bundler.Settings.Defaults
import Bundler.Settings.Edit
import Bundler.Settings.ProjectFile
import Bundler.Source
import Bundler.Store
import Bundler.Text.Blank
import Bundler.Text.Case
import Bundler.Text.CaseTable
import Bundler.Text.Digit
import Bundler.Text.Lines
import Bundler.Text.Quoted
import Bundler.Text.Split
import Bundler.Text.Style
import Bundler.Text.UnprintableTable
import Bundler.Text.Utf8
import Bundler.Text.Word
import Bundler.Toml.Blank
import Bundler.Toml.Document
import Bundler.Toml.Problem
import Bundler.Toml.Reader
import Bundler.Toml.Scalar
import Bundler.Toml.Str
import Bundler.Value
import Bundler.Proofs.Bundle.Lines
import Bundler.Proofs.Discovery.Failure
import Bundler.Proofs.Bundle.Refusal
import Bundler.Proofs.Toml.Document
import Bundler.Proofs.Text.Case
import Bundler.Proofs.Settings.Valid
import Bundler.Proofs.Value
import Bundler.Proofs.Settings.ProjectFile
import Bundler.Proofs.Discovery.Metrics
import Bundler.Proofs.Section.Layout
import Bundler.Proofs.Toml.Distinct
import Bundler.Proofs.Settings.Layers
import Bundler.Proofs.Section.Runs
import Bundler.Proofs.Section.Tags
import Bundler.Proofs.Discovery.Lockstep
import Bundler.Proofs.Bundle.Relocation
import Bundler.Proofs.Text.Cut
import Bundler.Proofs.Declaration.Grammar
import Bundler.Proofs.Declaration.Repeats
import Bundler.Proofs.Section.Braces
import Bundler.Proofs.Disk.Named
import Bundler.Proofs.Bundle.Emission
import Bundler.Proofs.Store
import Bundler.Proofs.Value.Paths
import Bundler.Proofs.Fragment
import Bundler.Proofs.Settings.History
