import CodeHealth.Text.Blank
import CodeHealth.Text.Casing
import CodeHealth.Text.Word
import CodeHealth.Text.Lines
import CodeHealth.Text.Percent
import CodeHealth.Text.Bytes
import CodeHealth.Text.Glob
import CodeHealth.Text.Phrase
import CodeHealth.Number.Binary
import CodeHealth.Number.Shortest
import CodeHealth.Number.Layout
import CodeHealth.Number.Fixed
import CodeHealth.Number.Numeral
import CodeHealth.Calendar.Instant
import CodeHealth.Calendar.Timestamp
import CodeHealth.Json.Value
import CodeHealth.Json.Writer
import CodeHealth.Json.Token
import CodeHealth.Json.Tree
import CodeHealth.Label
import CodeHealth.Json.Shape
import CodeHealth.Finding
import CodeHealth.Fix
import CodeHealth.Analytics
import CodeHealth.Billing
import CodeHealth.Marketplace
import CodeHealth.Repository
import CodeHealth.Page
import CodeHealth.Failure.Catalog
import CodeHealth.Failure.Fault
import CodeHealth.Failure.MessagePattern
import CodeHealth.Failure.Explanation
import CodeHealth.Cache.Key
import CodeHealth.Cache.Store
import CodeHealth.Cache.Event
import CodeHealth.Filters
import CodeHealth.Service.Request
import CodeHealth.Service.Call
import CodeHealth.Service.Query
import CodeHealth.Service.Change
import CodeHealth.Service.Interface
import CodeHealth.Service.Script
import CodeHealth.Service.Link
import CodeHealth.Session.World
import CodeHealth.Session.Read
import CodeHealth.Session.Mutation
import CodeHealth.Session.Poller
import CodeHealth.Session.FindingsList
import CodeHealth.Toml.Value
import CodeHealth.Toml.Text
import CodeHealth.Toml.Scalar
import CodeHealth.Toml.Reader
import CodeHealth.Toml.Writer
import CodeHealth.Settings.File
import CodeHealth.Settings.Config
import CodeHealth.Settings.Preferences
import CodeHealth.Session.Steps
import CodeHealth.Text.Quoted
import CodeHealth.Service.Description
import CodeHealth.Text.Pad
import CodeHealth.Terminal.Line
import CodeHealth.Number.Digits
import CodeHealth.Arguments.Grammar
import CodeHealth.Arguments.Reader
import CodeHealth.Command.Basic
import CodeHealth.Command.Grammar
import CodeHealth.Display.Parts
import CodeHealth.Display.Finding
import CodeHealth.Display.Fix
import CodeHealth.Display.Figures
import CodeHealth.Display.Billing
import CodeHealth.Display.Asset
import CodeHealth.Display.Repository
import CodeHealth.Display.Settings
import CodeHealth.Display.Failure
import CodeHealth.Command.Job
import CodeHealth.Command.Errand
import CodeHealth.Command.Local
import CodeHealth.Command.Checkup
import CodeHealth.Command.Run
import CodeHealth.Command.Help
import CodeHealth.Main
import CodeHealth.Proofs.Cache.Entries
import CodeHealth.Proofs.Cache.History
import CodeHealth.Proofs.Number.Rounding
import CodeHealth.Proofs.Number.Successor
import CodeHealth.Proofs.Number.Finite
import CodeHealth.Proofs.Number.Digits
import CodeHealth.Proofs.Calendar.Timestamp
import CodeHealth.Proofs.Json.Members
import CodeHealth.Proofs.Json.Finite
import CodeHealth.Proofs.Json.Kept
import CodeHealth.Proofs.Service.Query
import CodeHealth.Proofs.Session.Exchange
import CodeHealth.Proofs.Session.Journal
import CodeHealth.Proofs.Session.Reading
import CodeHealth.Proofs.Session.Confirmation
import CodeHealth.Proofs.Session.Overlap
import CodeHealth.Proofs.Session.Polling
import CodeHealth.Proofs.Session.LifeCycle
import CodeHealth.Proofs.Session.Stopping
import CodeHealth.Proofs.Session.Gate
import CodeHealth.Proofs.Service.Sharing
import CodeHealth.Proofs.Failure.Explanation
import CodeHealth.Proofs.Json.Opening
import CodeHealth.Proofs.Failure.Refusal
import CodeHealth.Proofs.Json.Tokens
import CodeHealth.Proofs.Json.Spelled
import CodeHealth.Proofs.Json.Numerals
import CodeHealth.Proofs.Json.RoundTrip
import CodeHealth.Proofs.Payload
import CodeHealth.Proofs.Session.Removal
import CodeHealth.Proofs.Toml.Text
import CodeHealth.Proofs.Toml.Whole
import CodeHealth.Proofs.Toml.Line
import CodeHealth.Proofs.Toml.Section
import CodeHealth.Proofs.Settings.RoundTrip
import CodeHealth.Proofs.Toml.Range
import CodeHealth.Proofs.Settings.Reading
import CodeHealth.Proofs.Settings.Change
import CodeHealth.Proofs.Cache.Dispatch
import CodeHealth.Proofs.Service.Script
import CodeHealth.Proofs.Settings.Preferences
import CodeHealth.Proofs.Text.Order
import CodeHealth.Proofs.Service.Body
import CodeHealth.Proofs.Session.Triage
import CodeHealth.Proofs.Service.Address
import CodeHealth.Proofs.Service.Outcome
import CodeHealth.Proofs.Text.Folding
import CodeHealth.Proofs.Text.Pattern
import CodeHealth.Proofs.Text.Phrase
import CodeHealth.Proofs.Failure.MessagePattern
import CodeHealth.Proofs.Cache.KeyText
import CodeHealth.Proofs.Service.PathPattern
import CodeHealth.Proofs.Diff
import CodeHealth.Proofs.Evolution
import CodeHealth.Proofs.Failure.Wrapping
import CodeHealth.Proofs.Command.Job
import CodeHealth.Proofs.Arguments.Reader
import CodeHealth.Proofs.Command.Grammar
import CodeHealth.Proofs.Command.Refused
import CodeHealth.Proofs.Command.Sending
import CodeHealth.Proofs.Settings.InForce
import CodeHealth.Proofs.Command.Precedence
import CodeHealth.Proofs.Settings.Shown
import CodeHealth.Proofs.Amount
import CodeHealth.Proofs.Cache.KeyOrder
import CodeHealth.Proofs.Cache.Listing
