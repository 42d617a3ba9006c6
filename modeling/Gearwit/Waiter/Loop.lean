import Gearwit.Foundations.Transition
import Gearwit.Waiter.Pipe

/-!
# The wait daemon as a step function

The accept thread and the main loop share the link table, the acknowledgement
store and the event queue.  Every section that holds one lock is one move, and
the moves of the two threads interleave in any order.  Replies of the provider,
outcomes of reads and writes, clocks and arriving messages are inputs of the
moves.  The trace records, newest first, what the daemon did to the outside.
-/

namespace Gearwit

/-- Supply of identifiers: every one is new. -/
class UlidSupply where
  text : Nat → String
  injective : Function.Injective text

namespace Waiter

/-! ## State -/

/-- Events of the accept thread for the main loop. -/
inductive DaemonEvent
  | attached (served : ServeAttach)
  | coverageRearm (rearm : AckRearm)

/-- Where the accept thread stands between its locked sections. -/
inductive Acceptor
  | idle
  | arming (request : WaiterLink) (instant : OffsetDateTime) (arms : List KnownArm)
      (connection : Nat)
  | replying (prepared : PreparedAttach) (connection : Nat)
  | sending (event : DaemonEvent)
  | stopped

/-- Where the main loop continues after a flush or a revoke. -/
inductive Resume
  | poll
  | children
  | top

/-- Where the main loop stands between its locked sections. -/
inductive Phase
  | top
  | retaining (next : ServeAttach)
  | superseding (next : ServeAttach) (old : LinkSession)
  | leasing (next : ServeAttach)
  | linking (resume : Resume)
  | flushing (link : Option AdmittedLink) (resume : Resume)
  | revoking (markLost : Bool) (resume : Resume)
  | polling
  | reading
  | noting (result : WaiterLink)
  | waiting
  | exited (wait : WaitResult)
  | ingesting (wait : WaitResult) (link : Option AdmittedLink)
  | rearming (rearm : AckRearm)
  | reaping
  | claiming (events : List DrainedEvent)
  | halted

/-- The phase a resumption continues in. -/
def Resume.phase : Resume → Phase
  | .poll => .polling
  | .children => .waiting
  | .top => .top

/-- What the daemon did to the outside. -/
inductive Observation
  | spawned (spec : WaitOnSpec)
  | drained (spec : WaitOnSpec)
  | claimed (claim : SignalClaim) (lossy : Bool)
  | wrote (connection : Nat) (message : DeliverEvents)
  | recorded (report : DeliveryResult)
  | accepted (signalId cursor : String)
  | admitted (connection : Nat) (session : LinkSession)

/-- The daemon and the provider's log. -/
structure Daemon where
  table : LinkTable
  acks : AckStore
  queue : List DaemonEvent
  acceptor : Acceptor
  spec : WaitOnSpec
  arm : KnownArm
  pipe : DaemonPipe
  served : Option ServeAttach
  child : Option WaitOnSpec
  phase : Phase
  now : OffsetDateTime
  minted : Nat
  connections : Nat
  log : List Json
  trace : List Observation

/-- Outcome of reading one frame from the served connection. -/
inductive ReadResult
  | idle
  | failed
  | message (result : WaiterLink)

/-- Outcome of polling the occupied child. -/
inductive ChildPoll
  | running
  | exited (code : Int)
  | failed

/-- Moves of the accept thread, of the main loop, and of the provider. -/
inductive Move
  | acceptWaiter (request : WaiterLink) (instant : OffsetDateTime)
  | prepare (elapsed : Nat)
  | commit (writeOk : Bool)
  | acceptHandled (request : HandledCursor) (instant : OffsetDateTime)
  | send
  | stop
  | receive (now : OffsetDateTime)
  | retain
  | supersede
  | lease (timeoutOk : Bool)
  | readLink
  | flush (writeOk : Bool)
  | revoke
  | pollLease (timeoutOk : Bool)
  | readResult (read : ReadResult)
  | note
  | tryWait (poll : ChildPoll)
  | readChildLink
  | ingest (output : ReadOutput) (instant : OffsetDateTime) (spawnOk : Bool)
  | outdate
  | reap (reapOk : Bool) (output : ReadOutput) (spawnOk : Bool)
  | claim
  | post (message : Json)

/-- The daemon once its first wait is spawned from the initial cursor. -/
def Daemon.start (armId seatId : String) (coverageUntil : OffsetDateTime)
    (spec : WaitOnSpec) (initial : String) (log : List Json) : Daemon :=
  let arm : KnownArm := ⟨armId, 1, seatId, "complete_background_tool", coverageUntil⟩
  let spec := { spec with after := some initial }
  { table := .empty
    acks := .withArm arm
    queue := []
    acceptor := .idle
    spec
    arm
    pipe := .empty
    served := none
    child := some spec
    phase := .top
    now := OffsetDateTime.unixEpoch
    minted := 0
    connections := 0
    log
    trace := [.spawned spec] }

/-! ## Helpers of the main loop -/

/-- True when the incoming attach is the live table session and no writer owns it. -/
def retainLiveAttach (incoming : ServeAttach) (table : LinkTable)
    (existing : Option ServeAttach) : Bool :=
  match incoming.session, table.current with
  | some session, some current =>
      session.owns current &&
        !(existing.bind ServeAttach.session).any fun held => held.owns current
  | _, _ => false

/-- Drop a writer and a link of an older generation. -/
def revokeOlderGeneration (served : Option ServeAttach) (table : LinkTable)
    (generation : Nat) : Option ServeAttach × LinkTable :=
  let older := (served.bind ServeAttach.session).filter fun session =>
    decide (session.generation < generation)
  let served' := if older.isSome then none else served
  let table :=
    match older with
    | some session => table.dropSession session
    | none => table
  (served',
    if table.current.any fun current => decide (current.generation < generation) then
      table.dropCurrent
    else table)

/-- Whether any event of a drain lost content. -/
def drainLossy (drained : Except DrainError (List DrainedEvent)) : Bool :=
  match drained with
  | .ok events => events.any fun event => event.localLoss.isSome
  | .error _ => false

/-- The observation of a newly recorded claim. -/
def claimObserved (before after : DaemonPipe) (lossy : Bool) : List Observation :=
  match before.claim, after.claim with
  | none, some live => [.claimed live lossy]
  | _, _ => []

/-- Start a wait from the specification into the child slot. -/
def Daemon.spawnWait (daemon : Daemon) (spawnOk : Bool) (next : Phase) : Daemon :=
  if daemon.child.isSome || !spawnOk then { daemon with phase := .halted }
  else
    { daemon with
      child := some daemon.spec
      phase := next
      trace := .spawned daemon.spec :: daemon.trace }

variable [Rfc3339]

/-- A request that is accepted now, with its signal and its cursor. -/
def newlyAccepted (store : AckStore) (request : HandledCursor) (instant : OffsetDateTime) :
    List Observation :=
  match request with
  | .request message =>
      if store.history[message.requestId]?.isSome then []
      else
        match (store.recordHandled request instant).1 with
        | .ok (.accepted reply) => [.accepted reply.signalId reply.cursor]
        | _ => []
  | _ => []

/-- The report a recorded result was. -/
def resultRecorded (ledger : DeliveryLedger) (result : WaiterLink) : List Observation :=
  match result, (recordDeliveryResult ledger result).1 with
  | .deliveryResult report, .ok () => [.recorded report]
  | _, _ => []

omit [Rfc3339] in
/-- Ingest of a suffix that was read before, claimed without a link. -/
def suffixRequest (daemon : Daemon) (events : List DrainedEvent) : IngestRequest :=
  ⟨daemon.spec, .matched, ownedDrain events, daemon.arm, none, daemon.now⟩

omit [Rfc3339] in
/-- Ingest of an exited child. -/
def childRequest [UnicodeSegmentation] (daemon : Daemon) (wait : WaitResult)
    (link : Option AdmittedLink) (output : ReadOutput) (instant : OffsetDateTime) :
    IngestRequest :=
  ⟨daemon.spec, wait, chanvoyDrain output, daemon.arm, link, instant⟩

/-! ## Moves -/

variable [UnicodeSegmentation] [UlidSupply]

namespace Daemon

omit [UnicodeSegmentation] [UlidSupply] [Rfc3339] in
/-- Accept a waiter's request and read the arms under the store's lock. -/
def acceptWaiter (daemon : Daemon) (request : WaiterLink) (instant : OffsetDateTime) : Daemon :=
  match daemon.acceptor with
  | .idle =>
      { daemon with
        acceptor := .arming request instant daemon.acks.arm.toList daemon.connections
        connections := daemon.connections + 1 }
  | _ => daemon

omit [UnicodeSegmentation] in
/-- Decide the attach under the table's lock. -/
def prepare (daemon : Daemon) (elapsed : Nat) : Daemon :=
  match daemon.acceptor with
  | .arming request instant arms connection =>
      let (outcome, table) := prepareAttach daemon.table request instant elapsed arms
        (UlidSupply.text daemon.minted)
      let daemon := { daemon with table, minted := daemon.minted + 1 }
      match outcome with
      | .error _ => { daemon with acceptor := .idle }
      | .ok prepared => { daemon with acceptor := .replying prepared connection }
  | _ => daemon

omit [UnicodeSegmentation] [UlidSupply] [Rfc3339] in
/-- Commit the attach under the table's lock, once its reply was written or not. -/
def commit (daemon : Daemon) (writeOk : Bool) : Daemon :=
  match daemon.acceptor with
  | .replying prepared connection =>
      let (committed, table) := commitPreparedAttach daemon.table prepared connection writeOk
      match committed with
      | none => { daemon with table, acceptor := .idle }
      | some served =>
          { daemon with
            table
            acceptor := .sending (.attached served)
            trace :=
              match served.session with
              | some session => .admitted connection session :: daemon.trace
              | none => daemon.trace }
  | _ => daemon

omit [UnicodeSegmentation] [UlidSupply] in
/-- Accept an acknowledgement and record it under the store's lock. -/
def acceptHandled (daemon : Daemon) (request : HandledCursor) (instant : OffsetDateTime) :
    Daemon :=
  match daemon.acceptor with
  | .idle =>
      let (outcome, acks) := daemon.acks.recordAck request instant
      { daemon with
        acks
        acceptor :=
          match outcome with
          | .ok ⟨_, some rearm⟩ => .sending (.coverageRearm rearm)
          | _ => .idle
        trace := newlyAccepted daemon.acks request instant ++ daemon.trace }
  | _ => daemon

omit [UnicodeSegmentation] [UlidSupply] [Rfc3339] in
/-- Queue the event for the main loop. -/
def send (daemon : Daemon) : Daemon :=
  match daemon.acceptor with
  | .sending event =>
      { daemon with queue := daemon.queue ++ [event], acceptor := .idle }
  | _ => daemon

omit [UnicodeSegmentation] [UlidSupply] [Rfc3339] in
/-- The accept thread ends between connections. -/
def stop (daemon : Daemon) : Daemon :=
  match daemon.acceptor with
  | .idle => { daemon with acceptor := .stopped }
  | _ => daemon

omit [UnicodeSegmentation] [UlidSupply] [Rfc3339] in
/-- Top of the loop: the coverage deadline, then one event or a timeout.  The queue
of a stopped accept thread is disconnected. -/
def receive (daemon : Daemon) (now : OffsetDateTime) : Daemon :=
  match daemon.phase with
  | .top =>
      if daemon.arm.coverageUntil ≤ now then { daemon with now, phase := .halted }
      else
        match daemon.queue with
        | .attached next :: queue => { daemon with now, queue, phase := .retaining next }
        | .coverageRearm rearm :: queue => { daemon with now, queue, phase := .rearming rearm }
        | [] =>
            match daemon.acceptor with
            | .stopped => { daemon with now, phase := .halted }
            | _ => { daemon with now, phase := .polling }
  | _ => daemon

omit [UnicodeSegmentation] [UlidSupply] [Rfc3339] in
/-- Keep an attach only while it is live, and take the writer it replaces. -/
def retain (daemon : Daemon) : Daemon :=
  match daemon.phase with
  | .retaining next =>
      if retainLiveAttach next daemon.table daemon.served then
        { daemon with
          served := none
          phase :=
            match daemon.served.bind ServeAttach.session with
            | some old => .superseding next old
            | none => .leasing next }
      else { daemon with phase := .polling }
  | _ => daemon

omit [UnicodeSegmentation] [UlidSupply] in
/-- Mark the replaced writer's attempt lost. -/
def supersede (daemon : Daemon) : Daemon :=
  match daemon.phase with
  | .superseding next old =>
      let (pipe, table) := onTransportLoss daemon.pipe daemon.table (some old) daemon.now
      { daemon with pipe, table, phase := .leasing next }
  | _ => daemon

omit [UnicodeSegmentation] [UlidSupply] [Rfc3339] in
/-- Install the writer; it is revoked when the lease has elapsed or its timeout
cannot be set. -/
def lease (daemon : Daemon) (timeoutOk : Bool) : Daemon :=
  match daemon.phase with
  | .leasing next =>
      let failed := daemon.table.current.any fun link =>
        leaseExpired link.leaseUntil daemon.now || !timeoutOk
      { daemon with
        served := some next
        phase := if failed then .revoking true .poll else .linking .poll }
  | _ => daemon

omit [UnicodeSegmentation] [UlidSupply] [Rfc3339] in
/-- Read the current link for a flush. -/
def readLink (daemon : Daemon) : Daemon :=
  match daemon.phase with
  | .linking resume => { daemon with phase := .flushing daemon.table.current resume }
  | _ => daemon

omit [UnicodeSegmentation] in
/-- Flush the live claim to the served connection under the store's lock. -/
def flush (daemon : Daemon) (writeOk : Bool) : Daemon :=
  match daemon.phase with
  | .flushing link resume =>
      match daemon.served with
      | none => { daemon with phase := resume.phase }
      | some served =>
          let (lost, pipe, acks, written) := flushAttached link daemon.pipe daemon.acks
            daemon.now writeOk (UlidSupply.text daemon.minted)
          { daemon with
            pipe, acks
            minted := daemon.minted + 1
            phase := if lost then .revoking true resume else resume.phase
            trace :=
              (written.map (Observation.wrote served.connection)).toList ++ daemon.trace }
  | _ => daemon

omit [UnicodeSegmentation] [UlidSupply] in
/-- Revoke exactly the served session. -/
def revoke (daemon : Daemon) : Daemon :=
  match daemon.phase with
  | .revoking markLost resume =>
      let session := daemon.served.bind ServeAttach.session
      let (pipe, table) :=
        if markLost then onTransportLoss daemon.pipe daemon.table session daemon.now
        else
          (daemon.pipe,
            match session with
            | some session => daemon.table.dropSession session
            | none => daemon.table)
      { daemon with pipe, table, served := none, phase := resume.phase }
  | _ => daemon

omit [UnicodeSegmentation] [UlidSupply] [Rfc3339] in
/-- Check that the served session still owns the current link before reading. -/
def pollLease (daemon : Daemon) (timeoutOk : Bool) : Daemon :=
  match daemon.phase with
  | .polling =>
      match daemon.served with
      | none => { daemon with phase := .waiting }
      | some served =>
          let lease := daemon.table.current.bind fun link =>
            served.session.bind fun session =>
              if session.owns link then some link.leaseUntil else none
          match lease with
          | some leaseUntil =>
              if leaseExpired leaseUntil daemon.now || !timeoutOk then
                { daemon with phase := .revoking true .children }
              else { daemon with phase := .reading }
          | none =>
              if served.session.isSome then { daemon with phase := .revoking true .children }
              else { daemon with phase := .reading }
  | _ => daemon

omit [UnicodeSegmentation] [UlidSupply] in
/-- Read one frame and apply it to the ledger. -/
def readResult (daemon : Daemon) (read : ReadResult) : Daemon :=
  match daemon.phase with
  | .reading =>
      match read with
      | .idle => { daemon with phase := .waiting }
      | .failed => { daemon with phase := .revoking true .children }
      | .message result =>
          let (applied, pipe) := applyWaiterResult daemon.pipe result
          { daemon with
            pipe
            phase :=
              match applied with
              | .keep => .waiting
              | .revokeLost => .revoking true .children
              | .revokeTerminal => .noting result
            trace := resultRecorded daemon.pipe.ledger result ++ daemon.trace }
  | _ => daemon

omit [UnicodeSegmentation] [UlidSupply] [Rfc3339] in
/-- Release the visibility hold under the store's lock. -/
def note (daemon : Daemon) : Daemon :=
  match daemon.phase with
  | .noting result =>
      { daemon with
        acks := updateAckVisibilityAfterResult daemon.acks result
        phase := .revoking false .children }
  | _ => daemon

omit [UnicodeSegmentation] [UlidSupply] [Rfc3339] in
/-- Poll the child slot. -/
def tryWait (daemon : Daemon) (poll : ChildPoll) : Daemon :=
  match daemon.phase with
  | .waiting =>
      if daemon.child.isNone then { daemon with phase := .top }
      else
        match poll with
        | .running => { daemon with phase := .top }
        | .exited code =>
            { daemon with child := none, phase := .exited (WaitResult.fromCode code) }
        | .failed => { daemon with phase := .halted }
  | _ => daemon

omit [UnicodeSegmentation] [UlidSupply] [Rfc3339] in
/-- Read the current link for an ingest. -/
def readChildLink (daemon : Daemon) : Daemon :=
  match daemon.phase with
  | .exited wait => { daemon with phase := .ingesting wait daemon.table.current }
  | _ => daemon

/-- Ingest an exited child under the store's lock, then rearm, flush or halt. -/
def ingest (daemon : Daemon) (output : ReadOutput) (instant : OffsetDateTime)
    (spawnOk : Bool) : Daemon :=
  match daemon.phase with
  | .ingesting wait link =>
      let step := ingestMatch (childRequest daemon wait link output instant) daemon.pipe
        daemon.acks none (UlidSupply.text daemon.minted) (UlidSupply.text (daemon.minted + 1))
      let daemon :=
        { daemon with
          pipe := step.pipe
          acks := step.acks
          minted := daemon.minted + 2
          trace :=
            claimObserved daemon.pipe step.pipe (drainLossy (chanvoyDrain output daemon.spec)) ++
              (if wait = WaitResult.matched then [Observation.drained daemon.spec] else []) ++ daemon.trace }
      match step.outcome.coverage with
      | .rearm after =>
          spawnWait { daemon with spec := { daemon.spec with after := some after } } spawnOk .top
      | .pause => { daemon with phase := .linking .top }
      | .halt _ => { daemon with phase := .halted }
  | _ => daemon

omit [UnicodeSegmentation] [UlidSupply] [Rfc3339] in
/-- Apply an accepted acknowledgement to coverage and drop older links under the
table's lock; a duplicate changes nothing. -/
def outdate (daemon : Daemon) : Daemon :=
  match daemon.phase with
  | .rearming rearm =>
      let (taken, spec, arm, pipe) := takeCoverageRearm daemon.spec daemon.arm daemon.pipe rearm
      if !taken then { daemon with phase := .polling }
      else
        let (served, table) := revokeOlderGeneration daemon.served daemon.table rearm.generation
        { daemon with spec, arm, pipe, served, table, phase := .reaping }
  | _ => daemon

omit [UlidSupply] [Rfc3339] in
/-- Reap the old child, drain after the new cursor, and spawn a successor only when
the drain lists nothing. -/
def reap (daemon : Daemon) (reapOk : Bool) (output : ReadOutput) (spawnOk : Bool) : Daemon :=
  match daemon.phase with
  | .reaping =>
      if daemon.child.isSome && !reapOk then { daemon with phase := .halted }
      else
        let daemon :=
          { daemon with child := none, trace := .drained daemon.spec :: daemon.trace }
        match chanvoyDrain output daemon.spec with
        | .error _ => { daemon with phase := .halted }
        | .ok [] => spawnWait daemon spawnOk .polling
        | .ok events => { daemon with phase := .claiming events }
  | _ => daemon

omit [UnicodeSegmentation] in
/-- Claim the drained suffix under the store's lock. -/
def claimSuffix (daemon : Daemon) : Daemon :=
  match daemon.phase with
  | .claiming events =>
      let step := ingestMatch (suffixRequest daemon events) daemon.pipe daemon.acks none
        (UlidSupply.text daemon.minted) (UlidSupply.text (daemon.minted + 1))
      { daemon with
        pipe := step.pipe
        acks := step.acks
        minted := daemon.minted + 2
        trace := claimObserved daemon.pipe step.pipe (drainLossy (.ok events)) ++ daemon.trace
        phase :=
          match step.outcome.coverage with
          | .halt _ => .halted
          | _ => .polling }
  | _ => daemon

/-- One move; a move whose thread does not stand there changes nothing. -/
def step (daemon : Daemon) : Move → Daemon
  | .acceptWaiter request instant => daemon.acceptWaiter request instant
  | .prepare elapsed => daemon.prepare elapsed
  | .commit writeOk => daemon.commit writeOk
  | .acceptHandled request instant => daemon.acceptHandled request instant
  | .send => daemon.send
  | .stop => daemon.stop
  | .receive now => daemon.receive now
  | .retain => daemon.retain
  | .supersede => daemon.supersede
  | .lease timeoutOk => daemon.lease timeoutOk
  | .readLink => daemon.readLink
  | .flush writeOk => daemon.flush writeOk
  | .revoke => daemon.revoke
  | .pollLease timeoutOk => daemon.pollLease timeoutOk
  | .readResult read => daemon.readResult read
  | .note => daemon.note
  | .tryWait poll => daemon.tryWait poll
  | .readChildLink => daemon.readChildLink
  | .ingest output instant spawnOk => daemon.ingest output instant spawnOk
  | .outdate => daemon.outdate
  | .reap reapOk output spawnOk => daemon.reap reapOk output spawnOk
  | .claim => daemon.claimSuffix
  | .post message => { daemon with log := daemon.log ++ [message] }

end Daemon
end Waiter
end Gearwit
