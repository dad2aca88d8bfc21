import LoginReport.Activity
import LoginReport.CommandLine
import LoginReport.Fault
import LoginReport.Host.Address
import LoginReport.Host.Field
import LoginReport.Host.Origin
import LoginReport.Interval
import LoginReport.Machine
import LoginReport.Main
import LoginReport.Notice
import LoginReport.Number.Binary64
import LoginReport.Number.Rounding
import LoginReport.Printout
import LoginReport.ProcessTable.Capture
import LoginReport.ProcessTable.Stat
import LoginReport.Proofs.Activity.Candidates
import LoginReport.Proofs.Activity.Pass
import LoginReport.Run
import LoginReport.Session.Basic
import LoginReport.Session.Listing
import LoginReport.Session.RecordFile
import LoginReport.Session.Registry
import LoginReport.Session.Source
import LoginReport.Settings
import LoginReport.Survey
import LoginReport.SystemFault
import LoginReport.Table
import LoginReport.Terminal
import LoginReport.Text.Basic
import LoginReport.Text.Blank
import LoginReport.Text.Column
import LoginReport.Text.Digit
import LoginReport.Text.Numeral
import LoginReport.Text.Plain
import LoginReport.Text.Printable
import LoginReport.Text.Quoted
import LoginReport.Text.Utf8
import LoginReport.Time.Calendar
import LoginReport.Time.Local
import LoginReport.Time.Login
import LoginReport.Uptime
import LoginReport.Proofs.Activity.StandIn
import LoginReport.Proofs.Machine
import LoginReport.Proofs.Activity.Choice
import LoginReport.Proofs.Activity.Order
import LoginReport.Proofs.Number.Exact
import LoginReport.Proofs.Text.Decimal
import LoginReport.Proofs.Interval.Width
import LoginReport.Proofs.Results
import LoginReport.Proofs.Time.Width
import LoginReport.Proofs.Host.Width
import LoginReport.Proofs.Settings.Budget
import LoginReport.Proofs.Table.Columns
import LoginReport.Proofs.Table.Width
import LoginReport.Proofs.Text.Offset
import LoginReport.Proofs.Table.Titles
import LoginReport.Proofs.Host.Visible
import LoginReport.Proofs.Text.Ascii
import LoginReport.Proofs.Text.Utf8
import LoginReport.Proofs.Text.Control
import LoginReport.Proofs.Session.RecordLayout
import LoginReport.Proofs.Session.TerminalNames
import LoginReport.Proofs.Session.RoundTrip
import LoginReport.Proofs.Table.Foreign
import LoginReport.Proofs.Printout.Lines
import LoginReport.Proofs.Printout.Clean
import LoginReport.Proofs.Text.Lines
import LoginReport.Proofs.Session.Properties
import LoginReport.Proofs.Number.Overflow
import LoginReport.Proofs.Session.LookUp
import LoginReport.Proofs.Session.Enumeration
import LoginReport.Proofs.Session.Independence
import LoginReport.Proofs.Text.Numeral
import LoginReport.Proofs.ProcessTable.StatLine
import LoginReport.Proofs.ProcessTable.Filter
import LoginReport.Proofs.Activity.Daemons
import LoginReport.Proofs.ProcessTable.Malformed
import LoginReport.Proofs.Printout.Faults
import LoginReport.Proofs.Printout.Header
import LoginReport.Proofs.Printout.Notices
import LoginReport.Proofs.Printout.Atomic
import LoginReport.Proofs.Number.Bounds
import LoginReport.Proofs.Interval.Rate
import LoginReport.Proofs.Time.Representable
import LoginReport.Proofs.Printout.WellFormed
import LoginReport.Proofs.Printout.Contained
import LoginReport.Proofs.CommandLine.Spelling
import LoginReport.Proofs.CommandLine.Denotation
import LoginReport.Proofs.Printout.Rows
import LoginReport.Proofs.CommandLine.UserRows
import LoginReport.Proofs.CommandLine.Observers
import LoginReport.Proofs.Terminal.Idle
import LoginReport.Proofs.Activity.Strangers
import LoginReport.Proofs.Session.StaleBytes
import LoginReport.Proofs.Text.Encoding
import LoginReport.Proofs.Session.UserNames
import LoginReport.Proofs.Session.WellFormed
import LoginReport.Proofs.Activity.Owner
import LoginReport.Proofs.ProcessTable.WrittenLine
import LoginReport.Proofs.Host.Suffix
import LoginReport.Proofs.Host.Recorded
import LoginReport.Proofs.Number.Integers
import LoginReport.Proofs.Time.Calendar
import LoginReport.Proofs.Time.Form
import LoginReport.Proofs.Time.Age
import LoginReport.Proofs.Interval.Reading
import LoginReport.Proofs.Text.Leading
import LoginReport.Proofs.Text.Opening
import LoginReport.Proofs.Uptime.Reading
import LoginReport.Proofs.ProcessTable.Commands
import LoginReport.Proofs.Host.Name
import LoginReport.Proofs.Settings.Environment
