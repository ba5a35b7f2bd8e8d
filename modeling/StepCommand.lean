import StepCommand.Artifact
import StepCommand.Assembly
import StepCommand.CommandLine
import StepCommand.CommandLine.Arguments
import StepCommand.CommandLine.Help
import StepCommand.CommandLine.Terminal
import StepCommand.Discovery
import StepCommand.Disk
import StepCommand.Failure
import StepCommand.FileTree
import StepCommand.Generator
import StepCommand.Generator.Settings
import StepCommand.Job
import StepCommand.Literal
import StepCommand.Main
import StepCommand.Name
import StepCommand.Number.Double
import StepCommand.Output
import StepCommand.ParameterType
import StepCommand.Pathname
import StepCommand.Report
import StepCommand.Resource.Checked
import StepCommand.Resource.Environment
import StepCommand.Resource.Metric
import StepCommand.RawPath
import StepCommand.Schema
import StepCommand.Source.Command
import StepCommand.Source.CommandTest
import StepCommand.Source.Environment
import StepCommand.Source.Implementation
import StepCommand.Source.ImplementationTest
import StepCommand.Source.Metric
import StepCommand.Source.Registry
import StepCommand.Step
import StepCommand.Step.Json
import StepCommand.Step.Metadata
import StepCommand.Storage
import StepCommand.Template
import StepCommand.Template.Argument
import StepCommand.Template.Build
import StepCommand.Template.Condition
import StepCommand.Template.Constant
import StepCommand.Template.Fault
import StepCommand.Template.Fill
import StepCommand.Template.Helper
import StepCommand.Template.Parse
import StepCommand.Template.Path
import StepCommand.Template.Render
import StepCommand.Template.Word
import StepCommand.Text.Alphabetic
import StepCommand.Text.Class
import StepCommand.Text.Control
import StepCommand.Text.Edit
import StepCommand.Text.Extender
import StepCommand.Text.Intervals
import StepCommand.Text.Invisible
import StepCommand.Text.Markup
import StepCommand.Text.Numeric
import StepCommand.Text.Quoted
import StepCommand.Text.Uppercase
import StepCommand.Unique
import StepCommand.Value
import StepCommand.Value.Pretty
import StepCommand.Volume
import StepCommand.Yaml.Cursor
import StepCommand.Yaml.Document
import StepCommand.Yaml.Event
import StepCommand.Yaml.Event.Grammar
import StepCommand.Yaml.Fault
import StepCommand.Yaml.Input
import StepCommand.Yaml.Mark
import StepCommand.Yaml.Problem
import StepCommand.Yaml.Read
import StepCommand.Yaml.Scalar
import StepCommand.Yaml.Tag
import StepCommand.Yaml.Token
import StepCommand.Yaml.Token.Directive
import StepCommand.Yaml.Token.Scalar
import StepCommand.Yaml.Token.Stream
import StepCommand.Proofs.Template.Fit
import StepCommand.Proofs.Template.Part
import StepCommand.Proofs.Source.Shape
import StepCommand.Proofs.Disk.Walk
import StepCommand.Proofs.Disk.File
import StepCommand.Proofs.Except
import StepCommand.Proofs.Unique
import StepCommand.Proofs.Artifact
import StepCommand.Proofs.Artifact.Settled
import StepCommand.Proofs.Assembly
import StepCommand.Proofs.Assembly.FirstFault
import StepCommand.Proofs.Generator.Run
import StepCommand.Proofs.Discovery
import StepCommand.Proofs.Generator.Reading
import StepCommand.Proofs.Generator.Rendering
import StepCommand.Proofs.Generator.Outcome
import StepCommand.Proofs.Volume.Follow
import StepCommand.Proofs.Volume.File
import StepCommand.Proofs.Volume.Artifact
import StepCommand.Proofs.Volume.Plain
import StepCommand.Proofs.Generator.Alike
import StepCommand.Proofs.Generator.Stopped
import StepCommand.Proofs.Artifact.Again
import StepCommand.Proofs.Disk.Removed
import StepCommand.Proofs.Disk.Directories
import StepCommand.Proofs.Disk.MakeAll
import StepCommand.Proofs.Generator.Again
import StepCommand.Proofs.Job
import StepCommand.Proofs.Generator.Names
import StepCommand.Proofs.Source.Command
import StepCommand.Proofs.Source.Command.Agreement
import StepCommand.Proofs.Literal
import StepCommand.Proofs.Text.Between
import StepCommand.Proofs.Template.Place
import StepCommand.Proofs.Literal.Interpreted
import StepCommand.Proofs.Output
import StepCommand.Proofs.Name
import StepCommand.Proofs.Resource.Stored
import StepCommand.Proofs.Source.Quoted
import StepCommand.Proofs.Source.Sections
import StepCommand.Proofs.Source.Quoted.Interpreted
import StepCommand.Proofs.Source.Struct
import StepCommand.Proofs.Resource.Struct
import StepCommand.Proofs.Source.Distinct
import StepCommand.Proofs.Template.Mention
import StepCommand.Proofs.Source.Imports
import StepCommand.Proofs.Source.Imports.Use
import StepCommand.Proofs.Text.Encoded
import StepCommand.Proofs.Text.Line
import StepCommand.Proofs.Template.Line
import StepCommand.Proofs.Source.Outline
import StepCommand.Proofs.Source.Outline.Assembly
import StepCommand.Proofs.Source.Outline.Command
import StepCommand.Proofs.Source.Outline.Implementation
import StepCommand.Proofs.Source.Outline.ImplementationTest
import StepCommand.Proofs.Source.Outline.Package
import StepCommand.Proofs.Source.Struct.Leaf
import StepCommand.Proofs.Resource.Persist
import StepCommand.Proofs.Resource.Environment
import StepCommand.Proofs.Resource.Metric
import StepCommand.Proofs.Source.Registry
import StepCommand.Proofs.Artifact.Order
import StepCommand.Proofs.Generator.Order
import StepCommand.Proofs.Generator.Confinement
import StepCommand.Proofs.Generator.History
import StepCommand.Proofs.Template.Alike
import StepCommand.Proofs.Template.Mark
import StepCommand.Proofs.Source.Stub
import StepCommand.Proofs.Source.Qualified
import StepCommand.Proofs.Discovery.Ways
import StepCommand.Proofs.Discovery.Complete
import StepCommand.Proofs.Text.Bracket
import StepCommand.Proofs.Value.Balanced
import StepCommand.Proofs.Name.Balanced
import StepCommand.Proofs.Template.Balanced.Value
import StepCommand.Proofs.Template.Balanced
import StepCommand.Proofs.Literal.Balanced
import StepCommand.Proofs.Resource.Balanced
import StepCommand.Proofs.Source.Balanced
import StepCommand.Proofs.Assembly.Deduplicated
import StepCommand.Proofs.Step.Json
import StepCommand.Proofs.Source.Listing
import StepCommand.Proofs.Source.Listing.Accessor
import StepCommand.Proofs.Source.Unbuilt
import StepCommand.Proofs.Name.Identifier
import StepCommand.Proofs.Literal.Joined
import StepCommand.Proofs.Name.RawText
import StepCommand.Proofs.Resource.Added
import StepCommand.Proofs.RawPath
import StepCommand.Proofs.Report
import StepCommand.Proofs.Template.Path
import StepCommand.Proofs.Template.Tag
import StepCommand.Proofs.Template.Joined
import StepCommand.Proofs.Template.Spelled
import StepCommand.Proofs.Template.Spelled.Reading
import StepCommand.Proofs.Source.Registry.Reading
import StepCommand.Proofs.Source.Written.Command
import StepCommand.Proofs.Source.Written.Implementation
import StepCommand.Proofs.Source.Written.Resource
import StepCommand.Proofs.Source.Written
import StepCommand.Proofs.Generator.Listed
import StepCommand.Proofs.Text.Replaced
import StepCommand.Proofs.Name.Acronym
import StepCommand.Proofs.Unique.Position
import StepCommand.Proofs.Value.Keys
import StepCommand.Proofs.Value.Reordered
