import EvmIndexer.Address
import EvmIndexer.Bytes.Base64
import EvmIndexer.Bytes.Basic
import EvmIndexer.Bytes.Hex
import EvmIndexer.Bytes.Lossy
import EvmIndexer.Config.Field
import EvmIndexer.Config.Settings
import EvmIndexer.Config.Setup
import EvmIndexer.Config.Url
import EvmIndexer.Contract
import EvmIndexer.Curve.Secp256k1
import EvmIndexer.Decimal.Binary
import EvmIndexer.Decimal.Reader
import EvmIndexer.Decimal.Shortest
import EvmIndexer.Envelope.Error
import EvmIndexer.Envelope.Layout
import EvmIndexer.Envelope.Parsed
import EvmIndexer.Envelope.Sender
import EvmIndexer.Hash.Keccak
import EvmIndexer.Intake.Batch
import EvmIndexer.Intake.OnDemand
import EvmIndexer.Intake.Polling
import EvmIndexer.Intake.Rehearsal
import EvmIndexer.Json.Reader
import EvmIndexer.Json.Value
import EvmIndexer.Listener.Basic
import EvmIndexer.Listener.Machine
import EvmIndexer.Listener.Rehearsal
import EvmIndexer.Log
import EvmIndexer.Main
import EvmIndexer.Outcome.Basic
import EvmIndexer.Outcome.Processing
import EvmIndexer.Program.Command
import EvmIndexer.Program.Run
import EvmIndexer.Proofs.Bytes.Base64
import EvmIndexer.Proofs.Bytes.Hex
import EvmIndexer.Proofs.Bytes.Number
import EvmIndexer.Proofs.Bytes.Text
import EvmIndexer.Proofs.Contract.Derivation
import EvmIndexer.Proofs.Contract.Resolution
import EvmIndexer.Proofs.Envelope.Canonical
import EvmIndexer.Proofs.Envelope.Spelling
import EvmIndexer.Proofs.Hash.Rows
import EvmIndexer.Proofs.Intake.Atomicity
import EvmIndexer.Proofs.Intake.Draining
import EvmIndexer.Proofs.Intake.History
import EvmIndexer.Proofs.Intake.Interleaving
import EvmIndexer.Proofs.Intake.Refusals
import EvmIndexer.Proofs.Intake.Replies
import EvmIndexer.Proofs.Intake.Reprocessing
import EvmIndexer.Proofs.Intake.Runs
import EvmIndexer.Proofs.Intake.Schedules
import EvmIndexer.Proofs.Intake.Settling
import EvmIndexer.Proofs.Listener.Attempts
import EvmIndexer.Proofs.Listener.Course
import EvmIndexer.Proofs.Listener.Handlings
import EvmIndexer.Proofs.Listener.History
import EvmIndexer.Proofs.Listener.InUse
import EvmIndexer.Proofs.Listener.Ownership
import EvmIndexer.Proofs.Listener.Shutdown
import EvmIndexer.Proofs.Listener.Steps
import EvmIndexer.Proofs.Outcome.Building
import EvmIndexer.Proofs.Outcome.Coherence
import EvmIndexer.Proofs.Outcome.Columns
import EvmIndexer.Proofs.Outcome.Derivation
import EvmIndexer.Proofs.Outcome.Enrichment
import EvmIndexer.Proofs.Outcome.Processing
import EvmIndexer.Proofs.Outcome.References
import EvmIndexer.Proofs.Outcome.Settling
import EvmIndexer.Proofs.Outcome.Stored
import EvmIndexer.Proofs.Protobuf.Spelling
import EvmIndexer.Proofs.Reconnect.Armings
import EvmIndexer.Proofs.Reconnect.Moves
import EvmIndexer.Proofs.References
import EvmIndexer.Proofs.Repair.Candidates
import EvmIndexer.Proofs.Repair.Chunks
import EvmIndexer.Proofs.Repair.Phases
import EvmIndexer.Proofs.Repair.References
import EvmIndexer.Proofs.Repair.Restoration
import EvmIndexer.Proofs.Repair.Sizes
import EvmIndexer.Proofs.Repair.Visits
import EvmIndexer.Proofs.Response.Indexes
import EvmIndexer.Proofs.Response.RoundTrip
import EvmIndexer.Proofs.Response.TextForms
import EvmIndexer.Proofs.Rlp.Canonical
import EvmIndexer.Proofs.Rlp.Injective
import EvmIndexer.Proofs.Rlp.RoundTrip
import EvmIndexer.Proofs.Signature.Recency
import EvmIndexer.Proofs.Signature.Selectors
import EvmIndexer.Proofs.Signature.Storable
import EvmIndexer.Proofs.Signature.Transparency
import EvmIndexer.Proofs.Store.Ends
import EvmIndexer.Proofs.Store.Events
import EvmIndexer.Proofs.Store.Insertion
import EvmIndexer.Proofs.Store.Journal
import EvmIndexer.Proofs.Store.Keyed
import EvmIndexer.Proofs.Store.References
import EvmIndexer.Proofs.Store.Saving
import EvmIndexer.Proofs.Store.Strikes
import EvmIndexer.Proofs.Store.Verdict
import EvmIndexer.Proofs.Text.LowerCase
import EvmIndexer.Proofs.Text.Trim
import EvmIndexer.Proofs.Token.Addresses
import EvmIndexer.Proofs.Token.Answers
import EvmIndexer.Proofs.Token.Emitters
import EvmIndexer.Proofs.Token.Metadata
import EvmIndexer.Proofs.Token.Recognition
import EvmIndexer.Proofs.Token.Splitting
import EvmIndexer.Proofs.Token.Suppression
import EvmIndexer.Proofs.Transaction.RoundTrip
import EvmIndexer.Proofs.Transaction.Spelling
import EvmIndexer.Proofs.Transaction.TextForms
import EvmIndexer.Protobuf.Wire
import EvmIndexer.Reconnect.Rehearsal
import EvmIndexer.Reconnect.Supervisor
import EvmIndexer.Reconnect.Timer
import EvmIndexer.Repair.Candidate
import EvmIndexer.Repair.Phase
import EvmIndexer.Response.Execution
import EvmIndexer.Response.Message
import EvmIndexer.Rlp.Item
import EvmIndexer.Rlp.Reader
import EvmIndexer.Schema.Insertion
import EvmIndexer.Schema.Migration
import EvmIndexer.Schema.Table
import EvmIndexer.Signature.Basic
import EvmIndexer.Signature.Cache
import EvmIndexer.Signature.Service
import EvmIndexer.Store.Database
import EvmIndexer.Store.FaultPlan
import EvmIndexer.Store.Row
import EvmIndexer.Store.Session
import EvmIndexer.Store.Statement
import EvmIndexer.Store.Work
import EvmIndexer.Text.Blank
import EvmIndexer.Text.CaseTable
import EvmIndexer.Text.Encoding
import EvmIndexer.Text.LowerCase
import EvmIndexer.Text.Numeral
import EvmIndexer.Text.Percent
import EvmIndexer.Text.PrintableTable
import EvmIndexer.Text.Quoted
import EvmIndexer.Text.WordTable
import EvmIndexer.Token.Abi
import EvmIndexer.Token.Basic
import EvmIndexer.Token.Metadata
import EvmIndexer.Token.Recognition
import EvmIndexer.Transaction.Basic
import EvmIndexer.Transaction.Decode
