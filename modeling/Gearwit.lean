import Gearwit.Foundations.BTreeMap
import Gearwit.Foundations.Checks
import Gearwit.Foundations.CursorLog
import Gearwit.Foundations.FieldEncoding
import Gearwit.Foundations.FirstMatch
import Gearwit.Foundations.JsonText
import Gearwit.Foundations.Transition
import Gearwit.Controller.Identifiers
import Gearwit.Controller.Products
import Gearwit.Persist.Records
import Gearwit.Persist.Digest
import Gearwit.Persist.Coverage
import Gearwit.Persist.Store
import Gearwit.Persist.Claims
import Gearwit.Persist.Threads
import Gearwit.Persist.Turns
import Gearwit.Persist.Helpers
import Gearwit.Persist.Recovery
import Gearwit.Persist.Restore
import Gearwit.Persist.Port
import Gearwit.Persist.Growth
import Gearwit.Persist.ClaimIdentity
import Gearwit.Persist.ClaimEncoding
import Gearwit.Persist.Rearm
import Gearwit.Persist.Synthetic
import Gearwit.Persist.Fences
import Gearwit.Persist.Audit
import Gearwit.Persist.Nonces
import Gearwit.Persist.Furthest
import Gearwit.Persist.TurnIdentity
import Gearwit.Persist.Answered
import Gearwit.Authority.Products
import Gearwit.Authority.Followup
import Gearwit.Authority.Daemon
import Gearwit.Authority.Interruption
import Gearwit.Authority.Image
import Gearwit.Authority.Lifecycle
import Gearwit.Authority.StoreCalls
import Gearwit.Authority.World
import Gearwit.Authority.Tracking
import Gearwit.Authority.Simulation
import Gearwit.Authority.Runs
import Gearwit.Authority.Exclusion
import Gearwit.Authority.Commands
import Gearwit.Authority.Standing
import Gearwit.Authority.Crash
import Gearwit.Authority.Moves
import Gearwit.Authority.Answers
import Gearwit.Authority.TurnRuns
import Gearwit.Authority.Joint
import Gearwit.Authority.Mirror
import Gearwit.Authority.Births
import Gearwit.Waiter.Messages
import Gearwit.Waiter.Admission
import Gearwit.Waiter.Acknowledgement
import Gearwit.Waiter.Delivery
import Gearwit.Waiter.Sanitize
import Gearwit.Waiter.Drain
import Gearwit.Waiter.Pipe
import Gearwit.Waiter.Deliverable
import Gearwit.Waiter.Loop
import Gearwit.Waiter.Batches
import Gearwit.Waiter.Effects
import Gearwit.Waiter.Moves
import Gearwit.Waiter.Custody
import Gearwit.Waiter.Rearm
import Gearwit.Waiter.Cursors
import Gearwit.Waiter.Links
import Gearwit.Waiter.Frames
import Gearwit.Waiter.Attempts
import Gearwit.Waiter.Receipts
import Gearwit.Waiter.AckCalls
import Gearwit.Waiter.AckRuns
import Gearwit.Waiter.Handled
import Gearwit.Waiter.LinkRuns
import Gearwit.Waiter.LedgerRuns
import Gearwit.Foundations.FrameStream
import Gearwit.Transport.Pipes
import Gearwit.Transport.Messages
import Gearwit.Transport.State
import Gearwit.Transport.Steps
import Gearwit.Transport.Torn
import Gearwit.Transport.Framing
import Gearwit.Codex.Controller
import Gearwit.Codex.Operations
import Gearwit.Transport.Requests
import Gearwit.Codex.Effects
import Gearwit.Codex.Desk
import Gearwit.Codex.Creation
import Gearwit.Codex.Reports
import Gearwit.Transport.ActiveProof
import Gearwit.Simulator.Scheduler
import Gearwit.Simulator.Accounting
import Gearwit.Simulator.Termination
import Gearwit.Codex.Retained
import Gearwit.Foundations.Digits
import Gearwit.Foundations.JsonObject
import Gearwit.Sqlite.Codec
import Gearwit.Sqlite.RoundTrip
import Gearwit.Waiter.Clipping
import Gearwit.Codex.Facts
import Gearwit.Codex.Observations
import Gearwit.Codex.Polls
import Gearwit.Codex.Lanes
import Gearwit.Coordinator.Runs
import Gearwit.Coordinator.Slots
import Gearwit.Foundations.Mixing
import Gearwit.Simulator.Campaign
import Gearwit.Evidence.Doorbell
import Gearwit.Watch.Coverage
