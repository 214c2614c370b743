import RateHerald.Access
import RateHerald.Choice
import RateHerald.CommandLine.Arguments
import RateHerald.CommandLine.Complaint
import RateHerald.CommandLine.Help
import RateHerald.CommandLine.Session
import RateHerald.Currency
import RateHerald.Decimal.Parts
import RateHerald.Decimal.Reader
import RateHerald.Decimal.Shortest
import RateHerald.Decimal.Written
import RateHerald.Events.BusError
import RateHerald.Events.Channel
import RateHerald.Events.Dispatch
import RateHerald.Events.Hub
import RateHerald.Events.Payload
import RateHerald.Events.Publish
import RateHerald.Events.Request
import RateHerald.InputError
import RateHerald.Json.Cursor
import RateHerald.Json.Fault
import RateHerald.Json.Record
import RateHerald.Json.Skip
import RateHerald.Json.Written
import RateHerald.Mailbox
import RateHerald.Mailing.Notifier
import RateHerald.Mailing.NotifyError
import RateHerald.Mailing.Repository
import RateHerald.Main
import RateHerald.Message
import RateHerald.Office.Herald
import RateHerald.Office.Staff
import RateHerald.Pair
import RateHerald.Proofs.Decimal.Binary
import RateHerald.Proofs.Decimal.Boundless
import RateHerald.Proofs.Decimal.Finite
import RateHerald.Proofs.Decimal.Nearest
import RateHerald.Proofs.Decimal.Operations
import RateHerald.Proofs.Decimal.Ordered
import RateHerald.Proofs.Decimal.Rounding
import RateHerald.Proofs.Events.Answers
import RateHerald.Proofs.Events.Asking
import RateHerald.Proofs.Events.Books
import RateHerald.Proofs.Events.Conduct
import RateHerald.Proofs.Events.Deadlines
import RateHerald.Proofs.Events.Dispatching
import RateHerald.Proofs.Events.ListenerTrees
import RateHerald.Proofs.Events.Publishing
import RateHerald.Proofs.Events.Timeouts
import RateHerald.Proofs.Events.Traffic
import RateHerald.Proofs.Events.Waiting
import RateHerald.Proofs.Json.Embedding
import RateHerald.Proofs.Json.Grammar
import RateHerald.Proofs.Json.Mapping
import RateHerald.Proofs.Json.Numbers
import RateHerald.Proofs.Json.Objects
import RateHerald.Proofs.Json.Passing
import RateHerald.Proofs.Json.Reading
import RateHerald.Proofs.Json.Settling
import RateHerald.Proofs.Mailing.Deliveries
import RateHerald.Proofs.Mailing.Grammar
import RateHerald.Proofs.Mailing.Keys
import RateHerald.Proofs.Mailing.Mailboxes
import RateHerald.Proofs.Mailing.Rereading
import RateHerald.Proofs.Mailing.Sending
import RateHerald.Proofs.Mailing.Subscribing
import RateHerald.Proofs.Office.Calls
import RateHerald.Proofs.Office.Desks
import RateHerald.Proofs.Office.Histories
import RateHerald.Proofs.Office.Ledger
import RateHerald.Proofs.Office.Outages
import RateHerald.Proofs.Office.RateRequests
import RateHerald.Proofs.Office.Responding
import RateHerald.Proofs.Office.Variables
import RateHerald.Proofs.Pairs.Codes
import RateHerald.Proofs.Pairs.Grammar
import RateHerald.Proofs.Pairs.Records
import RateHerald.Proofs.Rates.Answers
import RateHerald.Proofs.Rates.Chains
import RateHerald.Proofs.Rates.Counting
import RateHerald.Proofs.Rates.Delays
import RateHerald.Proofs.Rates.FiniteRates
import RateHerald.Proofs.Rates.Growth
import RateHerald.Proofs.Rates.NestedChains
import RateHerald.Proofs.Rates.Questions
import RateHerald.Proofs.Rates.Retries
import RateHerald.Proofs.Rates.Scripts
import RateHerald.Proofs.Rates.Seconds
import RateHerald.Proofs.Rates.Verdicts
import RateHerald.Proofs.Records.Contest
import RateHerald.Proofs.Records.Disk
import RateHerald.Proofs.Records.Failures
import RateHerald.Proofs.Records.RoundTrip
import RateHerald.Proofs.Records.Runs
import RateHerald.Proofs.Text.Capitals
import RateHerald.Proofs.Text.Lowering
import RateHerald.Proofs.Text.Slices
import RateHerald.Proofs.Timed.Company
import RateHerald.Proofs.Timed.GivenUp
import RateHerald.Proofs.Timed.Neighbours
import RateHerald.Proofs.Timed.Punctual
import RateHerald.Proofs.Timed.Reports
import RateHerald.Proofs.Timed.Steady
import RateHerald.Proofs.Timed.Watched
import RateHerald.Proofs.Url.Parameters
import RateHerald.Proofs.Url.Parts
import RateHerald.Proofs.Url.Paths
import RateHerald.Rate
import RateHerald.Rates.Backoff
import RateHerald.Rates.Chain
import RateHerald.Rates.Counts
import RateHerald.Rates.Desk
import RateHerald.Rates.Exchange
import RateHerald.Rates.Provider
import RateHerald.Rates.RateError
import RateHerald.Rates.Remote
import RateHerald.Rates.Service
import RateHerald.Records.Codec
import RateHerald.Records.Collection
import RateHerald.Records.Disk
import RateHerald.Records.StoreError
import RateHerald.Rehearsal.Act
import RateHerald.Rehearsal.Cast
import RateHerald.Rehearsal.Stage
import RateHerald.Rehearsal.Tampering
import RateHerald.Rehearsal.Trial
import RateHerald.Settings
import RateHerald.Stamp
import RateHerald.Subscription
import RateHerald.Text.Blank
import RateHerald.Text.Case
import RateHerald.Text.CaseTable
import RateHerald.Text.Hidden
import RateHerald.Text.Order
import RateHerald.Text.Quoted
import RateHerald.Text.Spelling
import RateHerald.Timed.Job
import RateHerald.Timed.Joined
import RateHerald.Timed.Moment
import RateHerald.Url.Basic
import RateHerald.Url.Domain
import RateHerald.Url.Domain.Composition
import RateHerald.Url.Domain.CompositionTable
import RateHerald.Url.Domain.Direction
import RateHerald.Url.Domain.ImageTable
import RateHerald.Url.Domain.Joining
import RateHerald.Url.Domain.Marks
import RateHerald.Url.Domain.Punycode
import RateHerald.Url.Form
import RateHerald.Url.Host
import RateHerald.Url.Path
import RateHerald.Url.Percent
import RateHerald.Url.Reader
import RateHerald.Url.UrlError
