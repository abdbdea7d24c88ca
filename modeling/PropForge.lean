import PropForge.Main
import PropForge.Proofs.Number.Digits
import PropForge.Proofs.Text.Case
import PropForge.Route.Order
import PropForge.Proofs.Assoc
import PropForge.Proofs.Component.Names
import PropForge.Proofs.Component.FreeName
import PropForge.Proofs.Route.Merge
import PropForge.Proofs.Number.Binary64
import PropForge.Proofs.Number.Shortest
import PropForge.Proofs.Json.NumberLiteral
import PropForge.Proofs.Json.StringLiteral
import PropForge.Proofs.Json.RoundTrip
import PropForge.Proofs.File.Tree
import PropForge.Proofs.Route.Scan
import PropForge.Proofs.File.Disk
import PropForge.Proofs.Project.Navigation
import PropForge.Proofs.Component.Tables
import PropForge.Proofs.Component.Text
import PropForge.Proofs.Naming
import PropForge.Proofs.Component.Pattern
import PropForge.Proofs.Component.Imports
import PropForge.Proofs.File.Shape
import PropForge.Proofs.Recording
import PropForge.Proofs.Project.Extract
import PropForge.Proofs.Template.Library
import PropForge.Proofs.File.Path
import PropForge.Proofs.Project.Generate
import PropForge.Proofs.Project.Independence
import PropForge.Proofs.Project.Isolate
import PropForge.Proofs.Project.Preview
import PropForge.Proofs.Schema.Document
import PropForge.Proofs.Project.Manifest
import PropForge.Proofs.Route.Order
import PropForge.Proofs.Project.History
import PropForge.Proofs.Confined
import PropForge.Proofs.Template.Shape
import PropForge.Proofs.Project.Batch
import PropForge.Proofs.Project.Describe
import PropForge.Proofs.Project.Single
import PropForge.Proofs.Project.Write
import PropForge.Proofs.Component.Stories
import PropForge.Proofs.Text.WholeWord
import PropForge.Proofs.Component.Uses
import PropForge.Proofs.Component.Effects
import PropForge.Proofs.Project.Abort
import PropForge.Proofs.Project.Recovery
import PropForge.Proofs.Project.Configured
import PropForge.Proofs.Project.Accepted
import PropForge.Proofs.Project.Refusal
import PropForge.Proofs.Project.Agreement
import PropForge.Proofs.Route.Visible
import PropForge.Proofs.Log
import PropForge.Proofs.Settings
import PropForge.Proofs.CommandLine.Failures
import PropForge.Proofs.CommandLine.Ends
import PropForge.Proofs.Route.Sorted
import PropForge.Proofs.Project.Pages
import PropForge.Proofs.Component.Bindable
import PropForge.Proofs.Component.StoryFile
import PropForge.Proofs.Project.Nearest
import PropForge.Proofs.TypeScript.Walk
import PropForge.Proofs.Extraction.Calls
import PropForge.Proofs.Extraction.Events
import PropForge.Proofs.TypeScript.StringLiteral
import PropForge.Proofs.Component.Literals
import PropForge.Proofs.Text.Comment
import PropForge.Proofs.Component.Descriptions
import PropForge.Proofs.Extraction.Descriptions
import PropForge.Proofs.Text.Cell
import PropForge.Proofs.Component.Documentation
import PropForge.Proofs.TypeScript.StringToken
import PropForge.Proofs.Extraction.Literals
import PropForge.Proofs.Naming.Settled
import PropForge.Proofs.Text.Reference
import PropForge.Proofs.Component.Attributes
import PropForge.Proofs.Component.Sections
import PropForge.Proofs.Template.Inserted
