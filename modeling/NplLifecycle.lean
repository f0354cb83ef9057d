import NplLifecycle.App.Call
import NplLifecycle.App.Command
import NplLifecycle.Client.Configuration
import NplLifecycle.Client.Error
import NplLifecycle.Client.Handler
import NplLifecycle.Client.Handshake
import NplLifecycle.CommandLine.Arguments
import NplLifecycle.CommandLine.Invocation
import NplLifecycle.CommandLine.PracticeServer
import NplLifecycle.CommandLine.Run
import NplLifecycle.Controller.Basic
import NplLifecycle.Controller.State
import NplLifecycle.Controller.Step
import NplLifecycle.Domain.Direction
import NplLifecycle.Domain.Folding
import NplLifecycle.Domain.Joiner
import NplLifecycle.Domain.Name
import NplLifecycle.Domain.Punycode
import NplLifecycle.Domain.Valid
import NplLifecycle.Files.Store
import NplLifecycle.Frame.Basic
import NplLifecycle.Frame.Header
import NplLifecycle.Host.Local
import NplLifecycle.Json.Basic
import NplLifecycle.Json.Document
import NplLifecycle.Json.Numeral
import NplLifecycle.Json.Printer
import NplLifecycle.Json.Token
import NplLifecycle.Lifecycle.Basic
import NplLifecycle.Log
import NplLifecycle.Main
import NplLifecycle.Message.Basic
import NplLifecycle.Message.Decode
import NplLifecycle.Number.Binary64
import NplLifecycle.Number.Decimal
import NplLifecycle.Number.Hexadecimal
import NplLifecycle.Number.Shortest
import NplLifecycle.Path.Basic
import NplLifecycle.Proofs.App.Calm
import NplLifecycle.Proofs.App.Finality
import NplLifecycle.Proofs.App.Move
import NplLifecycle.Proofs.App.Restless
import NplLifecycle.Proofs.Controller.Arrival
import NplLifecycle.Proofs.Controller.Burst
import NplLifecycle.Proofs.Controller.Calm
import NplLifecycle.Proofs.Controller.Orderly
import NplLifecycle.Proofs.Controller.Pressing
import NplLifecycle.Proofs.Controller.Sound
import NplLifecycle.Proofs.Controller.Transition
import NplLifecycle.Proofs.Controller.Turn
import NplLifecycle.Proofs.Controller.Waiting
import NplLifecycle.Proofs.Files.Writing
import NplLifecycle.Proofs.Frame.Header
import NplLifecycle.Proofs.Frame.Length
import NplLifecycle.Proofs.Frame.Recovery
import NplLifecycle.Proofs.Frame.Segment
import NplLifecycle.Proofs.Frame.Stream
import NplLifecycle.Proofs.Json.Indented
import NplLifecycle.Proofs.Json.Integral
import NplLifecycle.Proofs.Json.Line
import NplLifecycle.Proofs.Json.Members
import NplLifecycle.Proofs.Json.Parsed
import NplLifecycle.Proofs.Json.RoundTrip
import NplLifecycle.Proofs.Json.Tokens
import NplLifecycle.Proofs.Lifecycle.Calm
import NplLifecycle.Proofs.Lifecycle.Cycle
import NplLifecycle.Proofs.Lifecycle.Dealing
import NplLifecycle.Proofs.Lifecycle.Freshness
import NplLifecycle.Proofs.Lifecycle.Move
import NplLifecycle.Proofs.Lifecycle.Parted
import NplLifecycle.Proofs.Lifecycle.Sound
import NplLifecycle.Proofs.Lifecycle.Succession
import NplLifecycle.Proofs.Lifecycle.Supersession
import NplLifecycle.Proofs.Lifecycle.Tidy
import NplLifecycle.Proofs.Message.RoundTrip
import NplLifecycle.Proofs.Message.Written
import NplLifecycle.Proofs.Number.Decimal
import NplLifecycle.Proofs.Run
import NplLifecycle.Proofs.Session.Budget
import NplLifecycle.Proofs.Session.Correlation
import NplLifecycle.Proofs.Session.Course
import NplLifecycle.Proofs.Session.Courtesy
import NplLifecycle.Proofs.Session.Effects
import NplLifecycle.Proofs.Session.Ending
import NplLifecycle.Proofs.Session.Guidance
import NplLifecycle.Proofs.Session.Hangup
import NplLifecycle.Proofs.Session.Hearing
import NplLifecycle.Proofs.Session.Itinerary
import NplLifecycle.Proofs.Session.Journal
import NplLifecycle.Proofs.Session.Ledger
import NplLifecycle.Proofs.Session.Manners
import NplLifecycle.Proofs.Session.Move
import NplLifecycle.Proofs.Session.Outstanding
import NplLifecycle.Proofs.Session.Over
import NplLifecycle.Proofs.Session.Places
import NplLifecycle.Proofs.Session.Quiet
import NplLifecycle.Proofs.Session.Reading
import NplLifecycle.Proofs.Session.Reconnection
import NplLifecycle.Proofs.Session.Replies
import NplLifecycle.Proofs.Session.Speech
import NplLifecycle.Proofs.Session.Stranding
import NplLifecycle.Proofs.Session.Tenure
import NplLifecycle.Proofs.Session.Turn
import NplLifecycle.Proofs.Session.Writing
import NplLifecycle.Proofs.Settings.Editing
import NplLifecycle.Proofs.Settings.Layers
import NplLifecycle.Proofs.Settings.Persistence
import NplLifecycle.Proofs.Settings.Place
import NplLifecycle.Proofs.Settings.Reading
import NplLifecycle.Proofs.Settings.Rivals
import NplLifecycle.Proofs.Settings.Spelling
import NplLifecycle.Proofs.Settings.Stored
import NplLifecycle.Proofs.Text.Line
import NplLifecycle.Proofs.Text.Split
import NplLifecycle.Proofs.Text.Utf8
import NplLifecycle.Rehearsal.Call
import NplLifecycle.Rehearsal.Host
import NplLifecycle.Rehearsal.Schedule
import NplLifecycle.Rehearsal.Server
import NplLifecycle.Rehearsal.World
import NplLifecycle.Server.Launcher
import NplLifecycle.Server.Practice
import NplLifecycle.Server.Program
import NplLifecycle.Session.Basic
import NplLifecycle.Session.Call
import NplLifecycle.Session.Exchange
import NplLifecycle.Session.Reader
import NplLifecycle.Session.Steward
import NplLifecycle.Settings.Basic
import NplLifecycle.Settings.Change
import NplLifecycle.Settings.Edit
import NplLifecycle.Settings.Key
import NplLifecycle.Settings.Load
import NplLifecycle.Settings.Tree
import NplLifecycle.Text.Blank
import NplLifecycle.Text.Composition
import NplLifecycle.Text.Mark
import NplLifecycle.Text.Printable
import NplLifecycle.Text.Quoted
import NplLifecycle.Text.RangeTable
import NplLifecycle.Text.Utf8
import NplLifecycle.Uri.Address
import NplLifecycle.Uri.Authority
import NplLifecycle.Uri.Escape
import NplLifecycle.Uri.File
import NplLifecycle.Uri.FilePath
import NplLifecycle.Uri.Host
import NplLifecycle.Uri.Ipv4
import NplLifecycle.Uri.Ipv6
import NplLifecycle.Uri.Strict
import NplLifecycle.Workspace.Resolve
import NplLifecycle.Workspace.Root
import NplLifecycle.Proofs.Host.Exact
import NplLifecycle.Proofs.Host.Notice
import NplLifecycle.Proofs.Path.Absolute
import NplLifecycle.Proofs.Path.Nesting
import NplLifecycle.Proofs.Workspace.Covering
import NplLifecycle.Proofs.Session.Stopping
import NplLifecycle.Proofs.Controller.Starting
import NplLifecycle.Proofs.Lifecycle.Failure
import NplLifecycle.Proofs.Host.Update
import NplLifecycle.Proofs.Session.Recital
import NplLifecycle.Proofs.Session.Verbatim
import NplLifecycle.Proofs.Controller.Remembering
import NplLifecycle.Proofs.Controller.Settling
import NplLifecycle.Proofs.Lifecycle.Remembering
import NplLifecycle.Proofs.Lifecycle.Settling
import NplLifecycle.Proofs.Settings.Amending
import NplLifecycle.Proofs.Settings.Lawful
import NplLifecycle.Proofs.Outcome
import NplLifecycle.Proofs.Path.Settled
import NplLifecycle.Proofs.Uri.Strict
import NplLifecycle.Proofs.Client.Folders
import NplLifecycle.Proofs.Workspace.Lasting
import NplLifecycle.Proofs.Message.Shapes
import NplLifecycle.Proofs.Session.Identified
import NplLifecycle.Proofs.Settings.Comparable
import NplLifecycle.Proofs.Lifecycle.Concern
import NplLifecycle.Proofs.Server.Front
import NplLifecycle.Proofs.Server.Agreement
import NplLifecycle.Proofs.Number.Rounding
import NplLifecycle.Proofs.Number.Shortest
import NplLifecycle.Proofs.Json.Numeral
import NplLifecycle.Proofs.Json.Range
import NplLifecycle.Proofs.Server.Incoming
import NplLifecycle.Proofs.Server.Conversation
import NplLifecycle.Proofs.Controller.Prospect
import NplLifecycle.Proofs.Session.Greeting
import NplLifecycle.Proofs.Lifecycle.Prospect
import NplLifecycle.Proofs.CommandLine.Resolution
import NplLifecycle.Proofs.Server.Custody
import NplLifecycle.Proofs.Frame.Positions
import NplLifecycle.Proofs.Session.Emptying
import NplLifecycle.Proofs.Server.Overreach
