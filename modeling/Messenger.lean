import Messenger.Amount
import Messenger.Base64
import Messenger.Bench.Basic
import Messenger.Bench.Channel
import Messenger.Bench.Keystream
import Messenger.Bench.Schedule
import Messenger.Bench.Script
import Messenger.Broker.Endpoint
import Messenger.Broker.Link
import Messenger.Bundle
import Messenger.Bytes
import Messenger.Cbor.Basic
import Messenger.Cbor.Reader
import Messenger.Cbor.Writer
import Messenger.Core.Call
import Messenger.Event
import Messenger.Json.Basic
import Messenger.Json.Reader
import Messenger.Json.Writer
import Messenger.KeyMap
import Messenger.Liveness
import Messenger.Message
import Messenger.Payload.Contact
import Messenger.Payload.Counts
import Messenger.Payload.Ping
import Messenger.Payload.Status
import Messenger.ReadFault
import Messenger.Restore.Machine
import Messenger.Restore.Progress
import Messenger.Session.Basic
import Messenger.Session.Batch
import Messenger.Session.Connection
import Messenger.Session.Dispatch
import Messenger.Session.Journal
import Messenger.Session.Lifecycle
import Messenger.Session.Operation
import Messenger.Session.Restoring
import Messenger.Session.Run
import Messenger.Session.Surroundings
import Messenger.SessionError
import Messenger.Settlement
import Messenger.Text.Binary64
import Messenger.Text.Blank
import Messenger.Text.Cut
import Messenger.Text.Decimal
import Messenger.Text.Hexadecimal
import Messenger.Text.Hidden
import Messenger.Text.Quoted
import Messenger.Text.Shown
import Messenger.Topic
import Messenger.UniqueClock
import Messenger.UserState
import Messenger.Word
import Messenger.Proofs.Restore.Walk
import Messenger.Proofs.Restore.Sync
import Messenger.Proofs.Restore.MessagesPhase
import Messenger.Proofs.Restore.Redelivered
import Messenger.Proofs.Stored.RoundTrip
import Messenger.Proofs.Session.Outbox
import Messenger.Proofs.Session.Moves
import Messenger.Proofs.Session.History
import Messenger.Proofs.Session.Beside
import Messenger.Proofs.Session.Settlement
import Messenger.Proofs.Restore.Inputs
import Messenger.Proofs.Restore.Answers
import Messenger.Proofs.Restore.Progress
import Messenger.Proofs.Session.AsyncPay
import Messenger.Proofs.Session.Changes
import Messenger.Proofs.Session.Following
import Messenger.Proofs.Session.Turns
import Messenger.Proofs.Session.Minor
import Messenger.Proofs.Stored.CoreForm
import Messenger.Proofs.Stored.Deltas
import Messenger.Proofs.Session.InOrder
import Messenger.Proofs.Session.OwnerState
import Messenger.Proofs.Session.RestoreKept
import Messenger.Proofs.Session.Coherent
import Messenger.Proofs.Lookup
import Messenger.Proofs.Session.Rows
import Messenger.Proofs.Session.Twins
import Messenger.Proofs.Session.Malformed
import Messenger.Proofs.Session.Sources
import Messenger.Proofs.Session.RoundTrips
import Messenger.Proofs.Session.MergedAgain
import Messenger.Proofs.Session.Ledger
import Messenger.Proofs.Session.Confirmed
import Messenger.Proofs.Session.Relapses
import Messenger.Proofs.Session.Draining
import Messenger.Proofs.Session.Proceeding
import Messenger.Proofs.Session.Reconnecting
import Messenger.Proofs.Session.Resumed
import Messenger.Proofs.Session.Inherited
import Messenger.Proofs.Session.Away
import Messenger.Proofs.Session.Tending
import Messenger.Proofs.Session.OwnAttempt
import Messenger.Proofs.Session.Statuses
import Messenger.Proofs.Session.Rehosted
import Messenger.Proofs.Session.Failures
import Messenger.Proofs.Restore.Outstanding
import Messenger.Proofs.Session.Slight
import Messenger.Proofs.Session.Deeds
import Messenger.Proofs.Session.Persisted
import Messenger.Proofs.Session.Timestamps
import Messenger.Proofs.Session.Stirring
import Messenger.Proofs.Session.Cancelling
import Messenger.Proofs.Restore.Phases
import Messenger.Proofs.Restore.Ascent
import Messenger.Proofs.Restore.ContactsPhase
import Messenger.Proofs.Restore.Undisturbed
import Messenger.Proofs.Restore.Miscounted
import Messenger.Proofs.Parking
import Messenger.Proofs.Session.PingAccount
import Messenger.Proofs.Session.Feed
import Messenger.Proofs.Session.Batches
import Messenger.Proofs.Session.Registering
import Messenger.Proofs.Text.Numerals
import Messenger.Proofs.Payload.Separated
import Messenger.Proofs.Restore.Readings
import Messenger.Proofs.Json.Written
import Messenger.Proofs.Json.Reading
import Messenger.Proofs.Payload.Rendered
import Messenger.Proofs.Broker.Addresses
import Messenger.Proofs.Restore.Percentages
import Messenger.Proofs.Tracking
