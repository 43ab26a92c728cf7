import LivePages.Backend.Registry
import LivePages.Backend.Reply
import LivePages.Backend.Request
import LivePages.Backend.Samples
import LivePages.Build.Compiler
import LivePages.Build.Manifest
import LivePages.Build.Page
import LivePages.Build.Product
import LivePages.Build.Project
import LivePages.Build.Record
import LivePages.Build.Rehearsal
import LivePages.Build.Workspace
import LivePages.Command.Run
import LivePages.Command.Start
import LivePages.CommandLine.Arguments
import LivePages.CommandLine.Help
import LivePages.CommandLine.Program
import LivePages.Config.Basic
import LivePages.Config.Text
import LivePages.Error
import LivePages.Escape.Html
import LivePages.Escape.Query
import LivePages.Escape.Script
import LivePages.Files.Error
import LivePages.Files.Path
import LivePages.Files.Tree
import LivePages.Files.Walk
import LivePages.Front.Proxy
import LivePages.Front.Route
import LivePages.Http.Headers
import LivePages.Http.Message
import LivePages.Http.Uri
import LivePages.Json.Number
import LivePages.Json.Reader
import LivePages.Json.Skip
import LivePages.Json.Text
import LivePages.Json.Typed
import LivePages.Json.Value
import LivePages.Log
import LivePages.Main
import LivePages.Markdown.Document
import LivePages.Markdown.Html
import LivePages.Markdown.Inline
import LivePages.Markdown.Line
import LivePages.Markdown.Link
import LivePages.Markdown.Markup
import LivePages.Markdown.Named
import LivePages.Markdown.Node
import LivePages.Markdown.Passage
import LivePages.Markdown.Sign
import LivePages.Markdown.Span
import LivePages.Markdown.Tag
import LivePages.Markdown.Text
import LivePages.Net.Address
import LivePages.Net.Endpoint
import LivePages.Net.Fault
import LivePages.Net.Network
import LivePages.Page.Directive
import LivePages.Page.Expand
import LivePages.Page.Item
import LivePages.Page.Loader
import LivePages.Page.Notice
import LivePages.Page.Parts
import LivePages.Page.Reading
import LivePages.Page.Scan
import LivePages.Ring.Event
import LivePages.Ring.LiveAddress
import LivePages.Ring.Machine
import LivePages.Ring.Schedule
import LivePages.Ring.Slot
import LivePages.Ring.Spawner
import LivePages.Ring.Status
import LivePages.Ring.Task
import LivePages.Shell.Calculation
import LivePages.Shell.Printing
import LivePages.Shell.Reader
import LivePages.Shell.Run
import LivePages.Shell.Script
import LivePages.Shell.Session
import LivePages.Shell.Token
import LivePages.Shell.Tools
import LivePages.Site.Symbol
import LivePages.Site.WebRoot
import LivePages.Source.Entry
import LivePages.Source.Handler
import LivePages.Text.Blank
import LivePages.Text.Case
import LivePages.Text.Decimal
import LivePages.Text.Form
import LivePages.Text.Hex
import LivePages.Text.Letters
import LivePages.Text.Percent
import LivePages.Text.Quoted
import LivePages.Text.Split
import LivePages.Text.StringSet
import LivePages.Text.Symbols
import LivePages.Text.Utf8
import LivePages.Text.Visible
import LivePages.Proofs.Site.Allocation
import LivePages.Proofs.Config.Validation
import LivePages.Proofs.Ring.Act
import LivePages.Proofs.Ring.Step
import LivePages.Proofs.Ring.Ownership
import LivePages.Proofs.Ring.Succession
import LivePages.Proofs.Ring.NewRing
import LivePages.Proofs.Files.PathOrder
import LivePages.Proofs.Site.Requests
import LivePages.Proofs.Files.Join
import LivePages.Proofs.Files.Following
import LivePages.Proofs.Files.Additions
import LivePages.Proofs.Files.Removal
import LivePages.Proofs.Site.SymbolTable
import LivePages.Proofs.Page.Grammar
import LivePages.Proofs.Page.Reading
import LivePages.Proofs.Page.Growth
import LivePages.Proofs.Page.Nesting
import LivePages.Proofs.Page.Printing
import LivePages.Proofs.Page.Merging
import LivePages.Proofs.Ring.Chronicle
import LivePages.Proofs.Ring.Progress
import LivePages.Proofs.Ring.Freshness
import LivePages.Proofs.Ring.Turns
import LivePages.Proofs.Build.Edits
import LivePages.Proofs.Ring.Watch
import LivePages.Proofs.Ring.Handling
import LivePages.Proofs.Ring.Custody
import LivePages.Proofs.Ring.Announcement
import LivePages.Proofs.Ring.Failure
import LivePages.Proofs.Except
import LivePages.Proofs.Text.Hex
import LivePages.Proofs.Text.Argument
import LivePages.Proofs.Text.Literal
import LivePages.Proofs.Source.Verbatim
import LivePages.Proofs.Source.EntryTable
import LivePages.Proofs.Site.ScannedPaths
import LivePages.Proofs.Site.PageAddress
import LivePages.Proofs.Site.Respelling
import LivePages.Proofs.Text.Form
import LivePages.Proofs.Text.Utf8
import LivePages.Proofs.Text.Percent
import LivePages.Proofs.Escape.Query
import LivePages.Proofs.Escape.Script
import LivePages.Proofs.Escape.Html
import LivePages.Proofs.Escape.Spaces
import LivePages.Proofs.Backend.Parameters
import LivePages.Proofs.Http.Target
import LivePages.Proofs.Front.Forwarding
import LivePages.Proofs.Build.PageTable
import LivePages.Proofs.Build.Sources
import LivePages.Proofs.Build.Addresses
import LivePages.Proofs.Build.Assembly
import LivePages.Proofs.Build.Remains
import LivePages.Proofs.Front.Reachability
import LivePages.Proofs.Front.StaticFiles
import LivePages.Proofs.Ring.Rounds
import LivePages.Proofs.Ring.Lifecycle
import LivePages.Proofs.Ring.Quiescence
import LivePages.Proofs.Page.Simulation
import LivePages.Proofs.Page.Seams
import LivePages.Proofs.Page.Commands
import LivePages.Proofs.Page.Dependence
import LivePages.Proofs.Page.Inlining
import LivePages.Proofs.Page.Imported
import LivePages.Proofs.Page.Imports
import LivePages.Proofs.Page.Marking
import LivePages.Proofs.Page.Repetition
import LivePages.Proofs.Site.Confinement
import LivePages.Proofs.Source.TableReading
import LivePages.Proofs.Source.HandlerFrame
import LivePages.Proofs.Source.UseLines
import LivePages.Proofs.Build.ManifestStrings
import LivePages.Proofs.Backend.Redirects
import LivePages.Proofs.Json.Layout
import LivePages.Proofs.Json.Tokens
import LivePages.Proofs.Json.Values
import LivePages.Proofs.Json.Records
import LivePages.Proofs.Config.Document
