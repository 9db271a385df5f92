import Leaderboard.Bootstrap.Assembly
import Leaderboard.Bootstrap.Plan
import Leaderboard.Bootstrap.Reading
import Leaderboard.Bootstrap.Script
import Leaderboard.Bootstrap.Validity
import Leaderboard.Command.Context
import Leaderboard.Command.Fetching
import Leaderboard.Command.Inspecting
import Leaderboard.Command.Running
import Leaderboard.CommandLine.Grammar
import Leaderboard.CommandLine.Invocation
import Leaderboard.CommandLine.Reading
import Leaderboard.CommandLine.Usage
import Leaderboard.Dashboard.Assets
import Leaderboard.Dashboard.Body
import Leaderboard.Dashboard.Cookie
import Leaderboard.Dashboard.Html
import Leaderboard.Dashboard.MediaType
import Leaderboard.Dashboard.Message
import Leaderboard.Dashboard.Page
import Leaderboard.Dashboard.Router
import Leaderboard.Dashboard.RowsQuery
import Leaderboard.Dashboard.Site
import Leaderboard.Dashboard.Tab
import Leaderboard.Dashboard.Target
import Leaderboard.Data.SortedMap
import Leaderboard.Dataset.Basic
import Leaderboard.Dataset.Payload
import Leaderboard.Dataset.Record
import Leaderboard.Dataset.Shape
import Leaderboard.Decimal.Layout
import Leaderboard.Decimal.Parts
import Leaderboard.Decimal.Reading
import Leaderboard.Decimal.Rounding
import Leaderboard.Decimal.Shortest
import Leaderboard.Failure
import Leaderboard.Files.Basic
import Leaderboard.Files.Tree
import Leaderboard.Json.Basic
import Leaderboard.Json.Reader
import Leaderboard.Json.Skipping
import Leaderboard.Json.Writer
import Leaderboard.Main
import Leaderboard.Name
import Leaderboard.Net.Address
import Leaderboard.Net.Socket
import Leaderboard.Program
import Leaderboard.Proofs.Bootstrap.Assembly
import Leaderboard.Proofs.Bootstrap.Containment
import Leaderboard.Proofs.Bootstrap.Faults
import Leaderboard.Proofs.Bootstrap.Frame
import Leaderboard.Proofs.Bootstrap.Lexing
import Leaderboard.Proofs.Bootstrap.Recovery
import Leaderboard.Proofs.Bootstrap.Tame
import Leaderboard.Proofs.Dashboard.Cookies
import Leaderboard.Proofs.Dashboard.Escaping
import Leaderboard.Proofs.Dashboard.Links
import Leaderboard.Proofs.Dashboard.Markup
import Leaderboard.Proofs.Dashboard.Preference
import Leaderboard.Proofs.Dashboard.Tables
import Leaderboard.Proofs.Dashboard.Visits
import Leaderboard.Proofs.Data.Outcome
import Leaderboard.Proofs.Data.SortedMap
import Leaderboard.Proofs.Dataset.Acceptance
import Leaderboard.Proofs.Dataset.Members
import Leaderboard.Proofs.Dataset.Record
import Leaderboard.Proofs.Dataset.RoundTrip
import Leaderboard.Proofs.Dataset.Samples
import Leaderboard.Proofs.Dataset.Shapes
import Leaderboard.Proofs.Decimal.Bits
import Leaderboard.Proofs.Decimal.Nearest
import Leaderboard.Proofs.Decimal.Order
import Leaderboard.Proofs.Decimal.Shortest
import Leaderboard.Proofs.Json.Grammar
import Leaderboard.Proofs.Json.Number
import Leaderboard.Proofs.Json.NumberWriting
import Leaderboard.Proofs.Json.Writing
import Leaderboard.Proofs.Program.Checking
import Leaderboard.Proofs.Program.Readiness
import Leaderboard.Proofs.Refresh.Accounts
import Leaderboard.Proofs.Refresh.History
import Leaderboard.Proofs.Refresh.Journal
import Leaderboard.Proofs.Refresh.Publishing
import Leaderboard.Proofs.Refresh.Run
import Leaderboard.Proofs.Refresh.Shutdown
import Leaderboard.Proofs.Refresh.SingleFlight
import Leaderboard.Proofs.Refresh.Timer
import Leaderboard.Proofs.Report.Detail
import Leaderboard.Proofs.Report.Duration
import Leaderboard.Proofs.Report.Lookup
import Leaderboard.Proofs.Report.StatusDocument
import Leaderboard.Proofs.Row.Filtering
import Leaderboard.Proofs.Row.Projection
import Leaderboard.Proofs.Row.Sorting
import Leaderboard.Proofs.Row.Surfaces
import Leaderboard.Proofs.Settings.Cells
import Leaderboard.Proofs.Settings.Layering
import Leaderboard.Proofs.Settings.Precedence
import Leaderboard.Proofs.Settings.Respelling
import Leaderboard.Proofs.Settings.Saving
import Leaderboard.Proofs.Text.FormEncoding
import Leaderboard.Proofs.Text.Split
import Leaderboard.Proofs.Text.Trim
import Leaderboard.Proofs.Text.Utf8
import Leaderboard.Proofs.Theme.Sharing
import Leaderboard.Proofs.Watch.News
import Leaderboard.Proofs.Watch.Rows
import Leaderboard.Proofs.Yaml.Entry
import Leaderboard.Proofs.Yaml.PlainText
import Leaderboard.Proofs.Yaml.TwoLines
import Leaderboard.Refresh.Actor
import Leaderboard.Refresh.Period
import Leaderboard.Refresh.Session
import Leaderboard.Refresh.State
import Leaderboard.Refresh.Timestamp
import Leaderboard.Report.Console
import Leaderboard.Report.Detail
import Leaderboard.Report.Figures
import Leaderboard.Report.Printer
import Leaderboard.Report.Table
import Leaderboard.Row.Basic
import Leaderboard.Row.Filter
import Leaderboard.Row.Sort
import Leaderboard.Settings.Basic
import Leaderboard.Settings.Decode
import Leaderboard.Settings.Environment
import Leaderboard.Settings.FileFormat
import Leaderboard.Settings.Layer
import Leaderboard.Settings.Loading
import Leaderboard.Settings.Validity
import Leaderboard.Source
import Leaderboard.Task
import Leaderboard.Text.Blank
import Leaderboard.Text.Case
import Leaderboard.Text.FormEncoding
import Leaderboard.Text.Lowercase
import Leaderboard.Text.Printable
import Leaderboard.Text.Quoted
import Leaderboard.Text.Ranges
import Leaderboard.Text.Split
import Leaderboard.Text.Utf8
import Leaderboard.Text.Width
import Leaderboard.Theme.Basic
import Leaderboard.Theme.Cell
import Leaderboard.Theme.Store
import Leaderboard.Toml.Number
import Leaderboard.Toml.Quoted
import Leaderboard.Toml.Reader
import Leaderboard.Toml.Table
import Leaderboard.Url.Basic
import Leaderboard.Url.Domain
import Leaderboard.Url.Encoding
import Leaderboard.Url.Host
import Leaderboard.Url.Punycode
import Leaderboard.Watch.Input
import Leaderboard.Watch.Reported
import Leaderboard.Watch.Run
import Leaderboard.Watch.Screen
import Leaderboard.Yaml.BlockText
import Leaderboard.Yaml.Flow
import Leaderboard.Yaml.Line
import Leaderboard.Yaml.Plain
import Leaderboard.Yaml.Quoted
import Leaderboard.Yaml.Reader
import Leaderboard.Yaml.Resolve
import Leaderboard.Yaml.Scalar
import Leaderboard.Yaml.Writer
