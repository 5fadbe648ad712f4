import Lookout.Account.Identity
import Lookout.Account.Kind
import Lookout.Account.Registry
import Lookout.Account.Standing
import Lookout.Account.Tokens
import Lookout.CommandLine.Grammar
import Lookout.CommandLine.Invocation
import Lookout.Connection
import Lookout.Console
import Lookout.Digest
import Lookout.Digest.Sponge
import Lookout.Draws
import Lookout.Edit
import Lookout.Failure
import Lookout.Invite
import Lookout.Journal
import Lookout.Journal.Severity
import Lookout.Journal.Sink
import Lookout.Ledger
import Lookout.Main
import Lookout.Migration
import Lookout.Number.Decimal
import Lookout.Number.Double
import Lookout.Number.Style
import Lookout.Post
import Lookout.Proofs.Acceptance
import Lookout.Proofs.Atomicity
import Lookout.Proofs.Attempts
import Lookout.Proofs.Bulk
import Lookout.Proofs.CheckedUpgrade
import Lookout.Proofs.DeadThreads
import Lookout.Proofs.Deletion
import Lookout.Proofs.Delivery
import Lookout.Proofs.Disguise
import Lookout.Proofs.Downgrade
import Lookout.Proofs.Draining
import Lookout.Proofs.Drift
import Lookout.Proofs.Effects
import Lookout.Proofs.Effects.Accounts
import Lookout.Proofs.Effects.Board
import Lookout.Proofs.Effects.Records
import Lookout.Proofs.Expired
import Lookout.Proofs.ExpiryInstants
import Lookout.Proofs.FreshInvites
import Lookout.Proofs.HashRounds
import Lookout.Proofs.Histories
import Lookout.Proofs.Integrity
import Lookout.Proofs.Invitations
import Lookout.Proofs.LastProcessed
import Lookout.Proofs.Lasting
import Lookout.Proofs.LedgerMap
import Lookout.Proofs.MissingParents
import Lookout.Proofs.NaturalKeys
import Lookout.Proofs.Newest
import Lookout.Proofs.Numerals
import Lookout.Proofs.Orderly
import Lookout.Proofs.OwnReplies
import Lookout.Proofs.Pages
import Lookout.Proofs.Pairing
import Lookout.Proofs.Pairing.Accounts
import Lookout.Proofs.Pairing.Board
import Lookout.Proofs.Pairing.Records
import Lookout.Proofs.Pairing.Requests
import Lookout.Proofs.Passwords
import Lookout.Proofs.PercentCodes
import Lookout.Proofs.Persistence
import Lookout.Proofs.Plain
import Lookout.Proofs.Postponed
import Lookout.Proofs.Queries
import Lookout.Proofs.Queue
import Lookout.Proofs.Reachability
import Lookout.Proofs.Recorded
import Lookout.Proofs.Relations
import Lookout.Proofs.Requests
import Lookout.Proofs.RoundTrip
import Lookout.Proofs.Runs
import Lookout.Proofs.SchemaChanges
import Lookout.Proofs.ScriptLedger
import Lookout.Proofs.ScriptRuns
import Lookout.Proofs.Secrecy
import Lookout.Proofs.Separation
import Lookout.Proofs.Sinks
import Lookout.Proofs.Soundness
import Lookout.Proofs.StaleNumbers
import Lookout.Proofs.Standing
import Lookout.Proofs.Successors
import Lookout.Proofs.Sweeping
import Lookout.Proofs.TextBytes
import Lookout.Proofs.TokenSlots
import Lookout.Proofs.Upgrade
import Lookout.Proofs.WatchParts
import Lookout.Proofs.WatchRegistry
import Lookout.Proofs.WatchedThreads
import Lookout.Proofs.Watermark
import Lookout.Proofs.Writes
import Lookout.Reply
import Lookout.Schema.Catalog
import Lookout.Schema.Column
import Lookout.Schema.Definition
import Lookout.Schema.Description
import Lookout.Schema.Dialect
import Lookout.Schema.Revision
import Lookout.Schema.Script
import Lookout.Schema.Target
import Lookout.Session
import Lookout.Settings
import Lookout.Store.Database
import Lookout.Store.Relation
import Lookout.Store.Row
import Lookout.Store.StoreError
import Lookout.Store.Table
import Lookout.Text.Blank
import Lookout.Text.Digit
import Lookout.Text.Integer
import Lookout.Text.Line
import Lookout.Text.Masked
import Lookout.Text.Percent
import Lookout.Text.Printable
import Lookout.Text.Quoted
import Lookout.Text.Template
import Lookout.Text.Uppercase
import Lookout.Text.Word
import Lookout.Thread
import Lookout.Time.Calendar
import Lookout.Time.Moment
import Lookout.Time.Wall
import Lookout.Value
import Lookout.Watch
