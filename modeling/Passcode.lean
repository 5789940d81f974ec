import Passcode.Bytes.Base64
import Passcode.Bytes.Sha256
import Passcode.Code.Book
import Passcode.Code.Locked
import Passcode.Code.Record
import Passcode.Code.Service
import Passcode.Code.Store
import Passcode.Context
import Passcode.Dispatch.Chain
import Passcode.Dispatch.Deck
import Passcode.Dispatch.Outbox
import Passcode.Dispatch.Policy
import Passcode.Dispatch.Route
import Passcode.Dispatch.Sender
import Passcode.Dispatch.Twilio
import Passcode.Entropy
import Passcode.Fault
import Passcode.Fault.Report
import Passcode.Http.Exchange
import Passcode.Json.Parser
import Passcode.Json.Reading
import Passcode.Json.Record
import Passcode.Json.Value
import Passcode.Keyspace.Address
import Passcode.Keyspace.Basic
import Passcode.Keyspace.Client
import Passcode.Keyspace.Number
import Passcode.Keyspace.Script
import Passcode.Keyspace.Server
import Passcode.Limit.Window
import Passcode.Message
import Passcode.Number.Double
import Passcode.Number.Shortest
import Passcode.Phone
import Passcode.Proofs.Bytes.Base64
import Passcode.Proofs.Bytes.Sha256
import Passcode.Proofs.Code.Agree
import Passcode.Proofs.Code.Book
import Passcode.Proofs.Code.Delivery
import Passcode.Proofs.Code.Eviction
import Passcode.Proofs.Code.History
import Passcode.Proofs.Code.Locked
import Passcode.Proofs.Code.Recipients
import Passcode.Proofs.Code.Redemption
import Passcode.Proofs.Code.Spelling
import Passcode.Proofs.Dispatch.Batch
import Passcode.Proofs.Dispatch.Cancellation
import Passcode.Proofs.Dispatch.Chain
import Passcode.Proofs.Dispatch.Course
import Passcode.Proofs.Dispatch.Deadline
import Passcode.Proofs.Dispatch.Gate
import Passcode.Proofs.Dispatch.Hopeless
import Passcode.Proofs.Dispatch.Journal
import Passcode.Proofs.Dispatch.Overdue
import Passcode.Proofs.Dispatch.Posting
import Passcode.Proofs.Dispatch.Reach
import Passcode.Proofs.Dispatch.Recipients
import Passcode.Proofs.Dispatch.Recovery
import Passcode.Proofs.Dispatch.Schedule
import Passcode.Proofs.Dispatch.Sightings
import Passcode.Proofs.Dispatch.SignedTemplate
import Passcode.Proofs.Dispatch.Stale
import Passcode.Proofs.Dispatch.Traffic
import Passcode.Proofs.Dispatch.Walk
import Passcode.Proofs.Dispatch.Wording
import Passcode.Proofs.Fault
import Passcode.Proofs.Json.Record
import Passcode.Proofs.Json.RoundTrip
import Passcode.Proofs.Keyspace.Atomic
import Passcode.Proofs.Keyspace.Codes
import Passcode.Proofs.Keyspace.Cooldown
import Passcode.Proofs.Keyspace.Expiry
import Passcode.Proofs.Keyspace.Local
import Passcode.Proofs.Keyspace.Run
import Passcode.Proofs.Keyspace.Script
import Passcode.Proofs.Keyspace.Server
import Passcode.Proofs.Keyspace.Site
import Passcode.Proofs.Limit.History
import Passcode.Proofs.Limit.Shared
import Passcode.Proofs.Limit.Window
import Passcode.Proofs.Logged
import Passcode.Proofs.Message
import Passcode.Proofs.Phone
import Passcode.Proofs.Phone.Mask
import Passcode.Proofs.Session.Access
import Passcode.Proofs.Session.Credentials
import Passcode.Proofs.Session.Issuer
import Passcode.Proofs.Session.Kinds
import Passcode.Proofs.Session.Lineage
import Passcode.Proofs.Session.Revocation
import Passcode.Proofs.Session.Run
import Passcode.Proofs.Settings.RoundTrip
import Passcode.Proofs.Task
import Passcode.Proofs.Text.Numeral
import Passcode.Proofs.Text.Pattern
import Passcode.Proofs.Text.Url
import Passcode.Proofs.Token.Claims
import Passcode.Proofs.Token.Secret
import Passcode.Proofs.Token.Signed
import Passcode.Rehearsal.Cast
import Passcode.Rehearsal.Play
import Passcode.Rehearsal.Stage
import Passcode.Session.Bearer
import Passcode.Session.Repository
import Passcode.Session.Service
import Passcode.Settings.App
import Passcode.Settings.Cache
import Passcode.Settings.Code
import Passcode.Settings.Delivery
import Passcode.Settings.Environment
import Passcode.Settings.LogField
import Passcode.Settings.LogFilter
import Passcode.Settings.Logging
import Passcode.Settings.Token
import Passcode.Settings.Variables
import Passcode.Table
import Passcode.Task
import Passcode.Text.Alphabet
import Passcode.Text.Expression
import Passcode.Text.LetterCase
import Passcode.Text.Numeral
import Passcode.Text.NumericHost
import Passcode.Text.Pattern
import Passcode.Text.Percent
import Passcode.Text.Quoted
import Passcode.Text.Ranges
import Passcode.Text.Url
import Passcode.Text.Utf8
import Passcode.Time.Calendar
import Passcode.Token.Claims
import Passcode.Token.Key
import Passcode.Token.Signed
