import CalcConsole.Command.Arguments
import CalcConsole.Command.Basic
import CalcConsole.Command.Listing
import CalcConsole.Command.Run
import CalcConsole.Command.Visit
import CalcConsole.Config.Basic
import CalcConsole.Config.Edit
import CalcConsole.Config.Fit
import CalcConsole.Config.Layers
import CalcConsole.Console
import CalcConsole.Disk
import CalcConsole.Json.Basic
import CalcConsole.Json.Decode
import CalcConsole.Json.Fault
import CalcConsole.Json.Printer
import CalcConsole.Json.Reader
import CalcConsole.Json.Record
import CalcConsole.Log.Event
import CalcConsole.Log.Filter
import CalcConsole.Main
import CalcConsole.Number.Binary64
import CalcConsole.Number.Layout
import CalcConsole.Number.Power
import CalcConsole.Number.Shortest
import CalcConsole.Program
import CalcConsole.Router
import CalcConsole.Service.Account
import CalcConsole.Service.Agent
import CalcConsole.Service.Client
import CalcConsole.Service.Expression
import CalcConsole.Service.Failure
import CalcConsole.Service.Http
import CalcConsole.Service.Identifier
import CalcConsole.Service.Operation
import CalcConsole.Session.Basic
import CalcConsole.Session.Location
import CalcConsole.Session.State
import CalcConsole.Session.Storage
import CalcConsole.Surroundings
import CalcConsole.Terminal
import CalcConsole.Text.Alphanumeric
import CalcConsole.Text.Blank
import CalcConsole.Text.Digits
import CalcConsole.Text.Hex
import CalcConsole.Text.Pattern
import CalcConsole.Text.Quoted
import CalcConsole.Text.Unshown
import CalcConsole.Text.Utf8
import CalcConsole.Timestamp
import CalcConsole.Toml.Basic
import CalcConsole.Toml.Lexeme
import CalcConsole.Toml.Printer
import CalcConsole.Toml.Reader
import CalcConsole.Toml.Settled
import CalcConsole.Toml.Tree
import CalcConsole.ViewName
import CalcConsole.Views.Agents
import CalcConsole.Views.Auth
import CalcConsole.Views.Expressions
import CalcConsole.Views.Icons
import CalcConsole.Views.Operations
import CalcConsole.Views.Tickets
import CalcConsole.Proofs.Views.Freshness
import CalcConsole.Proofs.Views.Resurrection
import CalcConsole.Proofs.Service.Calls
import CalcConsole.Proofs.Views.Edits
import CalcConsole.Proofs.Json.Spelling
import CalcConsole.Proofs.Session.Text
import CalcConsole.Proofs.Disk.Ways
import CalcConsole.Proofs.Disk.Writing
import CalcConsole.Proofs.Session.Files
import CalcConsole.Proofs.Command.Asking
import CalcConsole.Proofs.Command.Machine
import CalcConsole.Proofs.Command.Sessions
import CalcConsole.Proofs.Session.Navigation
import CalcConsole.Proofs.Session.Reloads
import CalcConsole.Proofs.Toml.Order
import CalcConsole.Proofs.Toml.Merging
import CalcConsole.Proofs.Config.Told
import CalcConsole.Proofs.Config.Loading
import CalcConsole.Proofs.Toml.Strings
import CalcConsole.Proofs.Toml.Lines
import CalcConsole.Proofs.Toml.RoundTrip
import CalcConsole.Proofs.Toml.Tidy
import CalcConsole.Proofs.Config.Changes
import CalcConsole.Proofs.Config.OnePath
import CalcConsole.Proofs.Toml.EachOnce
import CalcConsole.Proofs.Config.Partial
import CalcConsole.Proofs.Session.Logins
import CalcConsole.Proofs.Service.Errands
import CalcConsole.Proofs.Service.Rejections
import CalcConsole.Proofs.Service.Addresses
import CalcConsole.Proofs.Command.Requests
import CalcConsole.Proofs.Timestamp
import CalcConsole.Proofs.Json.Numbers
import CalcConsole.Proofs.Service.Entities
import CalcConsole.Proofs.Views.Fetching
import CalcConsole.Proofs.Views.Barrier
import CalcConsole.Proofs.Service.Compatibility
import CalcConsole.Proofs.Command.Secrets
import CalcConsole.Proofs.Views.Forms
import CalcConsole.Proofs.Views.Bare
import CalcConsole.Proofs.Views.Exchanges
import CalcConsole.Proofs.Command.Reports
import CalcConsole.Proofs.Json.Written
import CalcConsole.Proofs.Command.Listings
import CalcConsole.Proofs.Command.Pages
import CalcConsole.Proofs.Service.HiddenResults
import CalcConsole.Proofs.Views.HiddenResults
import CalcConsole.Proofs.Command.HiddenResults
import CalcConsole.Proofs.Session.Durability
import CalcConsole.Proofs.Session.Isolation
import CalcConsole.Proofs.Text.Utf8
import CalcConsole.Proofs.Text.Blank
import CalcConsole.Proofs.Json.Objects
import CalcConsole.Proofs.Service.Messages
import CalcConsole.Proofs.Views.Changes
import CalcConsole.Proofs.Views.Notices
import CalcConsole.Proofs.Session.Recovery
import CalcConsole.Proofs.Views.Submissions
import CalcConsole.Proofs.Views.Saves
import CalcConsole.Proofs.Config.Effective
import CalcConsole.Proofs.Service.Identifiers
import CalcConsole.Proofs.Service.Bodies
import CalcConsole.Proofs.Config.Silence
import CalcConsole.Proofs.Session.Confinement
