import CallFeed.Text.Basic
import CallFeed.Text.Ranges
import CallFeed.Text.Printable
import CallFeed.Text.Combining
import CallFeed.Text.Lowercase
import CallFeed.Text.Utf8
import CallFeed.Text.Numeral
import CallFeed.Text.Quoted
import CallFeed.Text.Parts
import CallFeed.Number.Power
import CallFeed.Number.Rounding
import CallFeed.Number.Binary64
import CallFeed.Number.Shortest
import CallFeed.Words
import CallFeed.Time.Calendar
import CallFeed.Time.Moment
import CallFeed.Time.Duration
import CallFeed.Time.Reading
import CallFeed.Fault
import CallFeed.Event
import CallFeed.Event.Factory
import CallFeed.IoError
import CallFeed.Flood.Schedule
import CallFeed.Flood.Writer
import CallFeed.Flood.Run
import CallFeed.Flood.Summary
import CallFeed.Flood.Flooder
import CallFeed.Log
import CallFeed.Feed.Lines
import CallFeed.Address
import CallFeed.Address.Reading
import CallFeed.Settings
import CallFeed.Scalar
import CallFeed.Text.Likeness
import CallFeed.Text.Screen
import CallFeed.CommandLine
import CallFeed.Toml.Value
import CallFeed.Toml.Basic
import CallFeed.Toml.String
import CallFeed.Toml.Number
import CallFeed.Toml.Date
import CallFeed.Toml.Key
import CallFeed.Toml.Table
import CallFeed.Toml.Written
import CallFeed.Toml.Document
import CallFeed.Settings.Path
import CallFeed.Settings.Entry
import CallFeed.Settings.Conversion
import CallFeed.Settings.Files
import CallFeed.Settings.Load
import CallFeed.Feed.Fields
import CallFeed.Feed.Scan
import CallFeed.Feed.Reception
import CallFeed.Feed.Consumer
import CallFeed.Feed.Reader
import CallFeed.Text.Blank
import CallFeed.Text.Alphanumeric
import CallFeed.Log.Directive
import CallFeed.Log.Filter
import CallFeed.Log.Reading
import CallFeed.Plan
import CallFeed.Server
import CallFeed.Host
import CallFeed.Startup
import CallFeed.Main
import CallFeed.Proofs.Event.Sequence
import CallFeed.Proofs.Feed.Course
import CallFeed.Proofs.Flood.Steps
import CallFeed.Proofs.Event.Plain
import CallFeed.Proofs.Feed.Records
import CallFeed.Proofs.Feed.Withheld
import CallFeed.Proofs.Flood.Failure
import CallFeed.Proofs.Flood.Progress
import CallFeed.Proofs.Flood.Sending
import CallFeed.Proofs.Flood.Timing
import CallFeed.Proofs.Flood.Pacing
import CallFeed.Proofs.Flood.Prompt
import CallFeed.Proofs.Flood.Faults
import CallFeed.Proofs.Feed.Alike
import CallFeed.Proofs.Flood.Comparison
import CallFeed.Proofs.Text.Numeral
import CallFeed.Proofs.Text.Utf8
import CallFeed.Proofs.Time.Text
import CallFeed.Proofs.Feed.Markup
import CallFeed.Proofs.Feed.Decoding
import CallFeed.Proofs.Feed.Reading
import CallFeed.Proofs.Flood.Counting
import CallFeed.Proofs.Flood.Cadence
import CallFeed.Proofs.Except
import CallFeed.Proofs.Toml.Keys
import CallFeed.Proofs.Settings.Layering
import CallFeed.Proofs.Settings.Precedence
import CallFeed.Proofs.Words.Shares
import CallFeed.Proofs.Event.Draws
import CallFeed.Proofs.Event.Drafts
import CallFeed.Proofs.Event.Width
import CallFeed.Proofs.Flood.Room
import CallFeed.Proofs.Toml.Integers
import CallFeed.Proofs.Log.Reading
import CallFeed.Proofs.Flood.Notes
import CallFeed.Proofs.Flood.Account
import CallFeed.Proofs.Time.Reading
import CallFeed.Proofs.Text.Order
import CallFeed.Proofs.Time.Order
import CallFeed.Proofs.Toml.Assignments
import CallFeed.Proofs.Settings.Fitting
import CallFeed.Proofs.Settings.Counts
import CallFeed.Proofs.CommandLine.Values
import CallFeed.Proofs.Address.Text
import CallFeed.Proofs.Settings.Acceptance
