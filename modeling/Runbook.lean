import Runbook.Arguments.Schema
import Runbook.Arguments.Token
import Runbook.Block.Action
import Runbook.Block.Checkpoint
import Runbook.Block.Command
import Runbook.Block.Failure
import Runbook.Block.Field
import Runbook.Block.File
import Runbook.Block.Kind
import Runbook.Block.Refusal
import Runbook.Block.Screenshot
import Runbook.Block.Server
import Runbook.Build.Chapter
import Runbook.Build.Docs
import Runbook.Build.Failure
import Runbook.Build.Progress
import Runbook.Build.Run
import Runbook.Build.Schedule
import Runbook.Build.Settings
import Runbook.CommandLine.Invocation
import Runbook.CommandLine.Report
import Runbook.CommandLine.Run
import Runbook.CommandLine.Starter
import Runbook.Document.CodeBlock
import Runbook.Document.Frontmatter
import Runbook.Document.Node
import Runbook.Document.Parse
import Runbook.Document.Plan
import Runbook.Document.Render
import Runbook.Image.Inflate
import Runbook.Image.Png
import Runbook.Machine.Act
import Runbook.Machine.Request
import Runbook.Main
import Runbook.Markdown.BlockStart
import Runbook.Markdown.Container
import Runbook.Markdown.Definition
import Runbook.Markdown.Entity
import Runbook.Markdown.Fence
import Runbook.Markdown.Html
import Runbook.Markdown.Info
import Runbook.Markdown.Interrupt
import Runbook.Markdown.Line
import Runbook.Markdown.Outline
import Runbook.Number.Binary64
import Runbook.Number.Decimal
import Runbook.Number.Duration
import Runbook.Patch.Basic
import Runbook.Patch.Parse
import Runbook.Path.Basic
import Runbook.Proofs.Arguments.Checking
import Runbook.Proofs.Arguments.Grammar
import Runbook.Proofs.Arguments.Writing
import Runbook.Proofs.Block.Containment
import Runbook.Proofs.Block.Picture
import Runbook.Proofs.Block.ServerNames
import Runbook.Proofs.Block.TimeLimits
import Runbook.Proofs.Build.Assets
import Runbook.Proofs.Build.Directories
import Runbook.Proofs.Build.Discovery
import Runbook.Proofs.Build.Independence
import Runbook.Proofs.Build.Judgement
import Runbook.Proofs.Build.Lineages
import Runbook.Proofs.Build.Order
import Runbook.Proofs.Build.Publication
import Runbook.Proofs.Build.Scheduling
import Runbook.Proofs.Build.Validation
import Runbook.Proofs.Build.Walk
import Runbook.Proofs.Build.Writing
import Runbook.Proofs.Document.FencedBody
import Runbook.Proofs.Document.Indentation
import Runbook.Proofs.Document.InfoString
import Runbook.Proofs.Document.Planning
import Runbook.Proofs.Document.Splitting
import Runbook.Proofs.Document.Tiling
import Runbook.Proofs.Machine.Always
import Runbook.Proofs.Machine.Evolution
import Runbook.Proofs.Markdown.Escapes
import Runbook.Proofs.Markdown.FenceLines
import Runbook.Proofs.Markdown.FenceOrder
import Runbook.Proofs.Markdown.InlineImage
import Runbook.Proofs.Patch.Application
import Runbook.Proofs.Patch.Bounds
import Runbook.Proofs.Patch.Complete
import Runbook.Proofs.Patch.Difference
import Runbook.Proofs.Patch.Marks
import Runbook.Proofs.Patch.Outside
import Runbook.Proofs.Patch.Reading
import Runbook.Proofs.Path.Normal
import Runbook.Proofs.Results
import Runbook.Proofs.Sandbox.Agreement
import Runbook.Proofs.Sandbox.Filling
import Runbook.Proofs.Sandbox.Inside
import Runbook.Proofs.Sandbox.Paths
import Runbook.Proofs.Sandbox.Replacing
import Runbook.Proofs.Sandbox.Spelling
import Runbook.Proofs.Sandbox.Staging
import Runbook.Proofs.Sandbox.Temporary
import Runbook.Proofs.Sandbox.Ways
import Runbook.Proofs.Screenshot.Program
import Runbook.Proofs.Screenshot.Script
import Runbook.Proofs.Session.Assets
import Runbook.Proofs.Session.CheckpointNames
import Runbook.Proofs.Session.Copying
import Runbook.Proofs.Session.Disk
import Runbook.Proofs.Session.Exit
import Runbook.Proofs.Session.Frame
import Runbook.Proofs.Session.Handlers
import Runbook.Proofs.Session.ImageText
import Runbook.Proofs.Session.LateSignals
import Runbook.Proofs.Session.Mirrors
import Runbook.Proofs.Session.Operations
import Runbook.Proofs.Session.Orphans
import Runbook.Proofs.Session.ProcessGroup
import Runbook.Proofs.Session.Refusals
import Runbook.Proofs.Session.Remembering
import Runbook.Proofs.Session.Replacement
import Runbook.Proofs.Session.Sandboxes
import Runbook.Proofs.Session.Serverless
import Runbook.Proofs.Session.Snapshot
import Runbook.Proofs.Session.Substitution
import Runbook.Proofs.Session.Transcript
import Runbook.Proofs.Session.Tree
import Runbook.Proofs.Session.UnmetPatch
import Runbook.Proofs.Session.Waiting
import Runbook.Proofs.Session.Yields
import Runbook.Proofs.Text.Line
import Runbook.Proofs.Text.Literal
import Runbook.Proofs.Text.Utf8
import Runbook.Sandbox.ByteText
import Runbook.Sandbox.Entry
import Runbook.Sandbox.FileSystem
import Runbook.Sandbox.Program
import Runbook.Sandbox.System
import Runbook.Sandbox.Workspace
import Runbook.Screenshot.Program
import Runbook.Screenshot.Script
import Runbook.Session.Basic
import Runbook.Session.Checkpoint
import Runbook.Session.Command
import Runbook.Session.File
import Runbook.Session.Options
import Runbook.Session.Process
import Runbook.Session.Run
import Runbook.Session.Screenshot
import Runbook.Session.Server
import Runbook.Shell.Arithmetic
import Runbook.Shell.Builtin
import Runbook.Shell.Builtin.Basic
import Runbook.Shell.Builtin.Signals
import Runbook.Shell.Builtin.Variables
import Runbook.Shell.Children
import Runbook.Shell.Command
import Runbook.Shell.Expand
import Runbook.Shell.Grammar
import Runbook.Shell.Interpreter
import Runbook.Shell.Name
import Runbook.Shell.Pattern
import Runbook.Shell.Printing
import Runbook.Shell.Reader
import Runbook.Shell.Redirect
import Runbook.Shell.State
import Runbook.Shell.Test
import Runbook.Text.Blank
import Runbook.Text.Digit
import Runbook.Text.Line
import Runbook.Text.Quoted
import Runbook.Text.Utf8
import Runbook.Toml.Item
import Runbook.Toml.Parse
import Runbook.Toml.Scalar
import Runbook.Utility.Basic
import Runbook.Utility.Characters
import Runbook.Utility.Copy
import Runbook.Utility.Count
import Runbook.Utility.Directory
import Runbook.Utility.Edit
import Runbook.Utility.EditScript
import Runbook.Utility.Expression
import Runbook.Utility.File
import Runbook.Utility.Find
import Runbook.Utility.Grep
import Runbook.Utility.Launch
import Runbook.Utility.Line
import Runbook.Utility.Mode
import Runbook.Utility.Option
import Runbook.Utility.Regex
import Runbook.Utility.Sequence
import Runbook.Utility.Stream
import Runbook.Utility.Table
import Runbook.Utility.Text
import Runbook.Yaml.Cursor
import Runbook.Yaml.Node
import Runbook.Yaml.Scalar
import Runbook.Yaml.Token
