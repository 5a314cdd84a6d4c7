import PatchReview.Action
import PatchReview.Analyzer
import PatchReview.ChangedFile
import PatchReview.CommandLine.Flag
import PatchReview.CommandLine.Input
import PatchReview.CommandLine.Options
import PatchReview.CommandLine.Run
import PatchReview.CommandLine.Word
import PatchReview.Disk
import PatchReview.Encoding.Base64
import PatchReview.Encoding.Percent
import PatchReview.Encoding.Punycode
import PatchReview.Encoding.Utf8
import PatchReview.Failure
import PatchReview.Host.Basic
import PatchReview.Host.Contents
import PatchReview.Host.Fault
import PatchReview.Host.Listing
import PatchReview.Http
import PatchReview.Http.Address
import PatchReview.Http.HostName
import PatchReview.Http.Label
import PatchReview.Issue
import PatchReview.Json.Basic
import PatchReview.Json.Display
import PatchReview.Json.Document
import PatchReview.Json.Member
import PatchReview.Json.Reader
import PatchReview.Json.Standard
import PatchReview.Json.Writer
import PatchReview.Main
import PatchReview.Number.Binary64
import PatchReview.Number.Decimal
import PatchReview.Number.Figures
import PatchReview.Number.Numeral
import PatchReview.Path
import PatchReview.Pattern.Basic
import PatchReview.Pattern.Scan
import PatchReview.Pool
import PatchReview.Prompt
import PatchReview.Proofs.Action
import PatchReview.Proofs.Agreement
import PatchReview.Proofs.Analyzer
import PatchReview.Proofs.Analyzer.BuiltIn
import PatchReview.Proofs.Analyzer.Case
import PatchReview.Proofs.CommandLine
import PatchReview.Proofs.CommandLine.Arguments
import PatchReview.Proofs.CommandLine.Course
import PatchReview.Proofs.CommandLine.Delivery
import PatchReview.Proofs.CommandLine.Loading
import PatchReview.Proofs.CommandLine.Local
import PatchReview.Proofs.Disk
import PatchReview.Proofs.Host.Entries
import PatchReview.Proofs.Host.Listing
import PatchReview.Proofs.Host.Requests
import PatchReview.Proofs.Host.Trace
import PatchReview.Proofs.Json.Equality
import PatchReview.Proofs.Json.Reader
import PatchReview.Proofs.Json.Token
import PatchReview.Proofs.Json.Writer
import PatchReview.Proofs.Number.Order
import PatchReview.Proofs.Pattern.Case
import PatchReview.Proofs.Pattern.Taken
import PatchReview.Proofs.Pool
import PatchReview.Proofs.Prompt.Analysis
import PatchReview.Proofs.Prompt.Lines
import PatchReview.Proofs.Prompt.Reading
import PatchReview.Proofs.Provider.Agreement
import PatchReview.Proofs.Provider.Calls
import PatchReview.Proofs.Provider.Choice
import PatchReview.Proofs.Provider.Credential
import PatchReview.Proofs.Provider.Delivered
import PatchReview.Proofs.Provider.Fault
import PatchReview.Proofs.Provider.Fence
import PatchReview.Proofs.Provider.Replies
import PatchReview.Proofs.Provider.Requests
import PatchReview.Proofs.Provider.Reviews
import PatchReview.Proofs.Provider.Trace
import PatchReview.Proofs.Report
import PatchReview.Proofs.Retry.Course
import PatchReview.Proofs.Retry.History
import PatchReview.Proofs.Retry.Probe
import PatchReview.Proofs.Retry.Reference
import PatchReview.Proofs.Reviewing
import PatchReview.Proofs.Reviewing.Effect
import PatchReview.Proofs.Reviewing.Report
import PatchReview.Proofs.Rule
import PatchReview.Proofs.Schema.Check
import PatchReview.Proofs.Server
import PatchReview.Proofs.Server.Answer
import PatchReview.Proofs.Server.Reach
import PatchReview.Proofs.Session
import PatchReview.Proofs.Text.Blank
import PatchReview.Proofs.Text.LowerCase
import PatchReview.Proofs.Text.Separator
import PatchReview.Proofs.Text.Spelling
import PatchReview.Proofs.Text.Surrogate
import PatchReview.Provider.Basic
import PatchReview.Provider.Fault
import PatchReview.Provider.Payload
import PatchReview.Provider.Remote
import PatchReview.Provider.Service
import PatchReview.Report
import PatchReview.ReportText
import PatchReview.Retry
import PatchReview.Reviewing
import PatchReview.Rule.Basic
import PatchReview.Rule.Tables
import PatchReview.Schema.Check
import PatchReview.Schema.Violation
import PatchReview.Server
import PatchReview.Server.Interface
import PatchReview.Session
import PatchReview.Settings
import PatchReview.Template.Basic
import PatchReview.Template.Fault
import PatchReview.Template.Layout
import PatchReview.Template.Value
import PatchReview.Text.Accent
import PatchReview.Text.Blank
import PatchReview.Text.Case
import PatchReview.Text.Digit
import PatchReview.Text.Hex
import PatchReview.Text.NameChar
import PatchReview.Text.Printable
import PatchReview.Text.Quoted
import PatchReview.Text.Ranges
import PatchReview.Text.Surrogate
import PatchReview.Text.Word
import PatchReview.Proofs.Pattern.Spans
import PatchReview.Proofs.Pattern.Steps
import PatchReview.Proofs.Pattern.Tag
import PatchReview.Proofs.Pattern.Longer
import PatchReview.Proofs.Analyzer.Longer
import PatchReview.Proofs.Analyzer.Direct
import PatchReview.Proofs.Analyzer.Quotes
import PatchReview.Proofs.Analyzer.Tags
import PatchReview.Proofs.Analyzer.Links
import PatchReview.Proofs.Analyzer.Urls
import PatchReview.Proofs.Analyzer.Credentials
import PatchReview.Proofs.Analyzer.Outline
import PatchReview.Proofs.Host.Isolation
import PatchReview.Proofs.CommandLine.Event
import PatchReview.Proofs.Analyzer.Failing
import PatchReview.Proofs.Analyzer.Imports
import PatchReview.Proofs.Analyzer.Phrases
import PatchReview.Proofs.Number.Whole
import PatchReview.Proofs.Pattern.Longest
import PatchReview.Proofs.Pattern.Words
import PatchReview.Proofs.Provider.Payload
import PatchReview.Proofs.Schema.Violations
import PatchReview.Proofs.Text.Place
import PatchReview.Proofs.Encoding.Base64
import PatchReview.Proofs.Encoding.Percent
import PatchReview.Proofs.Encoding.Utf8
import PatchReview.Proofs.Host.Contents
import PatchReview.Proofs.Host.Outcome
import PatchReview.Proofs.Pattern.Group
import PatchReview.Proofs.Provider.FencePattern
import PatchReview.Proofs.Schema.Restored
import PatchReview.Proofs.Serialized
import PatchReview.Proofs.Host.Refusals
import PatchReview.Proofs.Pattern.Decomposition
import PatchReview.Proofs.Prompt.Grouping
