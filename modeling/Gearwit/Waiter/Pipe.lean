import Gearwit.Waiter.Acknowledgement
import Gearwit.Waiter.Delivery
import Gearwit.Waiter.Drain

/-!
# Claims and deliveries of the daemon

A matched wait is drained, the page is claimed once for the arm's generation, and
the claim is delivered to the attached waiter.  A waiter result settles the
pending delivery, and an accepted acknowledgement clears the pipe.
-/

namespace Gearwit
namespace Waiter

/-- One claim for a drained batch. -/
structure SignalClaim where
  armId : String
  generation : Nat
  signalId : String
  eventRefs : List String
  events : List ProviderEvent
  deriving DecidableEq

/-- Coverage after one daemon interval. -/
inductive DaemonCoverage
  | rearm (after : String)
  | pause
  | halt (exit : Int)
  deriving DecidableEq

/-- Result of one ingest. -/
structure IngestOutcome where
  coverage : DaemonCoverage
  claim : Option SignalClaim
  deliveryId : Option String
  deliveryAttempted : Bool
  resultOutcome : Option String
  waiterAttached : Bool
  deriving DecidableEq

/-- Send and receive on the current waiter link. -/
structure DeliveryIo where
  send : DeliverEvents → Bool
  recvResult : Option WaiterLink

/-- Ledger, claim and attempt flag. -/
structure DaemonPipe where
  ledger : DeliveryLedger
  claim : Option SignalClaim
  attempted : Bool
  deriving DecidableEq

/-- The pipe of a fresh daemon. -/
def DaemonPipe.empty : DaemonPipe := ⟨.empty, none, false⟩

/-- What the pipe shows of itself. -/
def DaemonPipe.snapshot (pipe : DaemonPipe) (coverage : DaemonCoverage)
    (waiterAttached : Bool) : IngestOutcome where
  coverage
  claim := pipe.claim
  deliveryId := pipe.ledger.pending.map PendingDelivery.deliveryId
  deliveryAttempted := pipe.attempted
  resultOutcome := none
  waiterAttached

/-- Outcome of one pipe operation, with the stores it leaves and the frame it put
on the link. -/
structure PipeStep where
  outcome : IngestOutcome
  pipe : DaemonPipe
  acks : AckStore
  written : Option DeliverEvents

/-! ## Claiming -/

/-- Map drained posts to waiter-link events, in drain order. -/
def providerEventsFromDrain (events : List DrainedEvent) (observedAt : String) :
    List ProviderEvent :=
  events.map fun event =>
    { provider := "mattermost"
      eventRef := event.id
      actor := if event.username = "" then none else some event.username
      observedAt
      body := event.message }

@[simp] theorem eventRefs_providerEventsFromDrain (events : List DrainedEvent)
    (observedAt : String) :
    (providerEventsFromDrain events observedAt).map ProviderEvent.eventRef =
      events.map DrainedEvent.id := by
  simp [providerEventsFromDrain]

/-- Claim the events once for this arm generation; `none` is a refusal because a
different batch is live. -/
def claimOrReuse (current : Option SignalClaim) (arm : KnownArm)
    (events : List ProviderEvent) (mintId : String) : Option SignalClaim × Option SignalClaim :=
  match current with
  | some existing =>
      if existing.armId = arm.armId ∧ existing.generation = arm.generation ∧
          existing.events = events then (some existing, current)
      else (none, current)
  | none =>
      let claim : SignalClaim :=
        ⟨arm.armId, arm.generation, mintId, events.map ProviderEvent.eventRef, events⟩
      (some claim, some claim)

/-- A drained body passes both renderers, and its measured loss is disclosed. -/
def drainedEventIsDisplayable (event : DrainedEvent) : Bool :=
  bodyIsDisplayable event.message &&
    event.localLoss.all fun loss =>
      loss.displayedBytes == event.message.utf8ByteSize &&
        partialBodyAdvisory.toList.isSuffixOf event.message.toList

/-- A parsed event is displayable. -/
theorem DrainedEvent.Parsed.displayable {event : DrainedEvent} (parsed : event.Parsed) :
    drainedEventIsDisplayable event = true := by
  have displayed := parsed.displayed
  have scalars : event.message.toList.length ≤ maxBody := displayed.scalars
  have bytes : event.message.utf8ByteSize ≤ maxBodyBytes := displayed.bytes
  have allowed : event.message.toList.any isDisallowedControl = false := by
    simpa using displayed.allowed
  have renders : bodyIsDisplayable event.message = true := by
    simp [bodyIsDisplayable, scalars, bytes, allowed]
  cases lost : event.localLoss with
  | none => simp [drainedEventIsDisplayable, renders, lost]
  | some loss =>
      obtain ⟨counted, ending⟩ := displayed.disclosed loss lost
      simp [drainedEventIsDisplayable, renders, lost, counted, ending]

/-! ## Results -/

/-- How a waiter result affects the live session. -/
inductive ResultApply
  | keep
  | revokeLost
  | revokeTerminal
  deriving DecidableEq

variable [Rfc3339]

/-- Record a waiter result; an uncorrelated one is treated as loss. -/
def applyWaiterResult (pipe : DaemonPipe) (result : WaiterLink) : ResultApply × DaemonPipe :=
  match recordDeliveryResult pipe.ledger result with
  | (.ok (), ledger) =>
      match result with
      | .deliveryResult report =>
          if report.outcome = "link_lost" then
            (.revokeLost, { pipe with ledger, attempted := false })
          else if report.outcome = "return_completed" ∨ report.outcome = "return_failed" then
            (.revokeTerminal, { pipe with ledger })
          else (.keep, { pipe with ledger })
      | _ => (.keep, { pipe with ledger })
  | (.error _, ledger) => (.revokeLost, { pipe with ledger, attempted := false })

/-- Fallback text of an instant in the daemon. -/
def observedText (now : OffsetDateTime) : String :=
  (Rfc3339.format now).getD "1970-01-01T00:00:00Z"

/-- The loss the daemon records for a delivery that awaited a result. -/
def lostReport (pending : PendingDelivery) (now : OffsetDateTime) : WaiterLink :=
  .deliveryResult {
    schema := schemaId
    deliveryId := pending.message.deliveryId
    linkId := pending.message.linkId
    signalId := pending.message.signalId
    outcome := "link_lost"
    observedAt := observedText now }

/-- The pipe once its link is lost: an attempt that awaited a result is lost, and
the batch stays pending. -/
def losePipe (pipe : DaemonPipe) (now : OffsetDateTime) : DaemonPipe :=
  let ledger :=
    match pipe.ledger.pending with
    | some pending =>
        if pipe.attempted && pending.attempt == .awaiting then
          (recordDeliveryResult pipe.ledger (lostReport pending now)).2
        else pipe.ledger
    | none => pipe.ledger
  { pipe with ledger, attempted := false }

/-- Mark the current attempt lost, then drop the session. -/
def onTransportLoss (pipe : DaemonPipe) (table : LinkTable) (session : Option LinkSession)
    (now : OffsetDateTime) : DaemonPipe × LinkTable :=
  (losePipe pipe now,
    match session with
    | some session => table.dropSession session
    | none => table)

omit [Rfc3339] in
/-- Release the visibility hold after a successful receipt. -/
def updateAckVisibilityAfterResult (acks : AckStore) (result : WaiterLink) : AckStore :=
  match result with
  | .deliveryResult report =>
      if report.outcome = "return_completed" then
        (acks.noteReturnCompleted report.signalId).2
      else acks
  | _ => acks

/-- True at or past the admitted lease. -/
def leaseExpired (leaseUntil now : OffsetDateTime) : Bool :=
  Decidable.decide (leaseUntil ≤ now)

/-! ## Delivering -/

/-- The message of a delivery: the pending batch again, or a new one. -/
def deliveryMessage (pipe : DaemonPipe) (live : SignalClaim) (link : AdmittedLink)
    (now : OffsetDateTime) (deliveryId : String) :
    Except WaiterLinkError DeliverEvents × DeliveryLedger :=
  if pipe.ledger.shouldRedeliver then redeliverPending pipe.ledger link now
  else prepareDelivery pipe.ledger link live.signalId live.events now deliveryId

/-- What follows a frame that was written: the delivery is noted, and a result that
came back at once is recorded. -/
def afterWrite (live : SignalClaim) (message : DeliverEvents) (pipe : DaemonPipe)
    (acks : AckStore) (io : DeliveryIo) (coverage : DaemonCoverage) : PipeStep :=
  match acks.noteDelivered live.signalId (message.events.map ProviderEvent.eventRef)
      live.eventRefs with
  | (.error _, acks) => ⟨pipe.snapshot (.halt 2) true, pipe, acks, some message⟩
  | (.ok (), acks) =>
      let pipe := { pipe with attempted := true }
      let noted : IngestOutcome :=
        { coverage
          claim := pipe.claim.or (some live)
          deliveryId := some message.deliveryId
          deliveryAttempted := true
          resultOutcome := none
          waiterAttached := true }
      match io.recvResult with
      | some (.deliveryResult report) =>
          match recordDeliveryResult pipe.ledger (.deliveryResult report) with
          | (.ok (), ledger) =>
              ⟨{ noted with resultOutcome := some report.outcome },
                { pipe with
                  ledger
                  attempted := pipe.attempted && report.outcome != "link_lost" },
                updateAckVisibilityAfterResult acks (.deliveryResult report), some message⟩
          | (.error _, ledger) => ⟨noted, { pipe with ledger }, acks, some message⟩
      | _ => ⟨noted, pipe, acks, some message⟩

/-- Deliver a live claim on the attached link. -/
def deliverClaimed (live : SignalClaim) (link : Option AdmittedLink) (pipe : DaemonPipe)
    (acks : AckStore) (now : OffsetDateTime) (io : Option DeliveryIo)
    (coverage : DaemonCoverage) (deliveryId : String) : PipeStep :=
  match link with
  | none => ⟨⟨coverage, some live, none, false, none, false⟩, pipe, acks, none⟩
  | some link =>
      match deliveryMessage pipe live link now deliveryId with
      | (.error _, ledger) =>
          let pipe := { pipe with ledger }
          ⟨pipe.snapshot coverage true, pipe, acks, none⟩
      | (.ok message, ledger) =>
          let pipe := { pipe with ledger }
          let outcome (attempted : Bool) : IngestOutcome :=
            ⟨coverage, some live, some message.deliveryId, attempted, none, true⟩
          match io with
          | none => ⟨outcome false, { pipe with attempted := false }, acks, none⟩
          | some io =>
              if pipe.attempted && pipe.ledger.isAwaiting then
                ⟨outcome true, pipe, acks, none⟩
              else if !io.send message then
                ⟨outcome false, { pipe with attempted := false }, acks, none⟩
              else afterWrite live message pipe acks io coverage

/-- The writer of a served link: the payload is encoded and written, and results
are read elsewhere. -/
def linkIo (writeOk : Bool) : DeliveryIo where
  send message := (encodePayload (.deliverEvents message)).isOk && writeOk
  recvResult := none

/-- Deliver the live claim on a served link; true when the link must be revoked. -/
def flushAttached (link : Option AdmittedLink) (pipe : DaemonPipe) (acks : AckStore)
    (now : OffsetDateTime) (writeOk : Bool) (deliveryId : String) :
    Bool × DaemonPipe × AckStore × Option DeliverEvents :=
  if pipe.ledger.isTerminal then (false, pipe, acks, none)
  else
    match pipe.claim, link with
    | some live, some link =>
        if leaseExpired link.leaseUntil now then (true, pipe, acks, none)
        else
          let step := deliverClaimed live (some link) pipe acks now (some (linkIo writeOk))
            .pause deliveryId
          (step.outcome.deliveryId.isSome && !step.outcome.deliveryAttempted,
            step.pipe, step.acks, step.written)
    | _, _ => (false, pipe, acks, none)

/-! ## Ingesting -/

/-- Inputs of one ingest. -/
structure IngestRequest where
  spec : WaitOnSpec
  wait : WaitResult
  drain : WaitOnSpec → Except DrainError (List DrainedEvent)
  arm : KnownArm
  link : Option AdmittedLink
  now : OffsetDateTime

omit [Rfc3339] in
/-- Coverage after a wait that is not drained. -/
def daemonCoverage (wait : WaitResult) (currentAfter : String) : DaemonCoverage :=
  match wait with
  | .timeout => .rearm currentAfter
  | .error => .halt 2
  | .matched => .pause

omit [Rfc3339] in
/-- The drain of a matched wait. -/
def drainedOutcome (request : IngestRequest) : WaitOutcome :=
  attachDrain ⟨.matched, 0, [], none, none⟩ request.spec request.drain

/-- Claim the drained events and deliver the claim.  A new claim is registered with
the acknowledgement store, and held for a visible receipt when any event lost
content. -/
def claimDrained (request : IngestRequest) (events : List DrainedEvent) (pipe : DaemonPipe)
    (acks : AckStore) (io : Option DeliveryIo) (signalId deliveryId : String) : PipeStep :=
  let attached := request.link.isSome
  let lossy := events.any fun event => event.localLoss.isSome
  let isNew := pipe.claim.isNone
  match claimOrReuse pipe.claim request.arm
      (providerEventsFromDrain events (observedText request.now)) signalId with
  | (none, claim) =>
      let pipe := { pipe with claim }
      ⟨pipe.snapshot .pause attached, pipe, acks, none⟩
  | (some live, claim) =>
      let pipe := { pipe with claim }
      if isNew then
        match acks.noteClaimed live.signalId with
        | (.error _, acks) => ⟨pipe.snapshot (.halt 2) attached, pipe, acks, none⟩
        | (.ok (), acks) =>
            if lossy then
              match acks.requireReturnCompletedBeforeHandled live.signalId with
              | (.error _, acks) => ⟨pipe.snapshot (.halt 2) attached, pipe, acks, none⟩
              | (.ok (), acks) =>
                  deliverClaimed live request.link pipe acks request.now io .pause deliveryId
            else deliverClaimed live request.link pipe acks request.now io .pause deliveryId
      else deliverClaimed live request.link pipe acks request.now io .pause deliveryId

/-- Drain from the exclusive baseline, claim once, optionally deliver. -/
def ingestMatch (request : IngestRequest) (pipe : DaemonPipe) (acks : AckStore)
    (io : Option DeliveryIo) (signalId deliveryId : String) : PipeStep :=
  let attached := request.link.isSome
  let stopped : PipeStep := ⟨pipe.snapshot (.halt 2) attached, pipe, acks, none⟩
  if request.wait ≠ .matched then
    ⟨pipe.snapshot (daemonCoverage request.wait (request.spec.after.getD "")) attached,
      pipe, acks, none⟩
  else
    let drained := drainedOutcome request
    if drained.drainError.isSome then stopped
    else if drained.newestObserved.isNone then stopped
    else if !drained.drainedEvents.all drainedEventIsDisplayable then stopped
    else claimDrained request drained.drainedEvents pipe acks io signalId deliveryId

/-! ## What ingesting does -/

omit [Rfc3339] in
/-- A drain that succeeds is attached whole. -/
theorem drainedOutcome_of_ok {request : IngestRequest} {events : List DrainedEvent}
    (based : request.spec.after ≠ none)
    (drained : request.drain request.spec = .ok events) :
    drainedOutcome request =
      ⟨.matched, 0, events, events.getLast?.map DrainedEvent.id, none⟩ :=
  attachDrain_ok rfl based drained

@[simp] theorem afterWrite_claim (live : SignalClaim) (message : DeliverEvents)
    (pipe : DaemonPipe) (acks : AckStore) (io : DeliveryIo) (coverage : DaemonCoverage) :
    (afterWrite live message pipe acks io coverage).pipe.claim = pipe.claim := by
  unfold afterWrite
  split
  · rfl
  · simp only
    split
    · split <;> rfl
    · rfl

/-- Delivering keeps the claim. -/
@[simp] theorem deliverClaimed_claim (live : SignalClaim) (link : Option AdmittedLink)
    (pipe : DaemonPipe) (acks : AckStore) (now : OffsetDateTime) (io : Option DeliveryIo)
    (coverage : DaemonCoverage) (deliveryId : String) :
    (deliverClaimed live link pipe acks now io coverage deliveryId).pipe.claim =
      pipe.claim := by
  unfold deliverClaimed
  cases link with
  | none => rfl
  | some link =>
      simp only
      split
      · rfl
      · cases io with
        | none => rfl
        | some io =>
            simp only
            split_ifs
            · rfl
            · rfl
            · simp

/-- An ingest that stopped before claiming: nothing changes, a wait that did not
match has its own coverage, and a refused page halts. -/
structure PipeStep.Stopped (request : IngestRequest) (pipe : DaemonPipe) (acks : AckStore)
    (step : PipeStep) : Prop where
  unmatched : request.wait ≠ .matched →
    step.outcome.coverage = daemonCoverage request.wait (request.spec.after.getD "")
  refused : request.wait = .matched → step.outcome.coverage = .halt 2
  pipe_eq : step.pipe = pipe
  acks_eq : step.acks = acks
  unwritten : step.written = none

omit [Rfc3339] in
private theorem stopped_of_eq {request : IngestRequest} {pipe : DaemonPipe} {acks : AckStore}
    {step : PipeStep} (matched : request.wait = .matched)
    (same : step = ⟨pipe.snapshot (.halt 2) request.link.isSome, pipe, acks, none⟩) :
    step.Stopped request pipe acks := by
  subst same
  exact ⟨fun other => absurd matched other, fun _ => rfl, rfl, rfl, rfl⟩

/-- An ingest either stops before claiming, or claims the events its drain gave. -/
theorem ingestMatch_cases (request : IngestRequest) (pipe : DaemonPipe) (acks : AckStore)
    (io : Option DeliveryIo) (signalId deliveryId : String) :
    (ingestMatch request pipe acks io signalId deliveryId).Stopped request pipe acks ∨
      ∃ events, request.wait = .matched ∧ request.spec.after ≠ none ∧
        request.drain request.spec = .ok events ∧ events ≠ [] ∧
        ingestMatch request pipe acks io signalId deliveryId =
          claimDrained request events pipe acks io signalId deliveryId := by
  by_cases matched : request.wait = .matched
  swap
  · refine Or.inl ⟨fun _ => ?_, fun same => absurd same matched, ?_, ?_, ?_⟩ <;>
      simp [ingestMatch, matched, DaemonPipe.snapshot]
  by_cases based : request.spec.after = none
  · refine Or.inl (stopped_of_eq matched ?_)
    simp [ingestMatch, matched, drainedOutcome, attachDrain, based]
  rcases drained : request.drain request.spec with error | events
  · have present : request.spec.after.isNone = false := by
      cases held : request.spec.after with
      | none => exact absurd held based
      | some after => rfl
    refine Or.inl (stopped_of_eq matched ?_)
    simp [ingestMatch, matched, drainedOutcome, attachDrain, present, drained]
  have attached := drainedOutcome_of_ok based drained
  by_cases empty : events = []
  · refine Or.inl (stopped_of_eq matched ?_)
    simp [ingestMatch, matched, attached, empty]
  have newest : (events.getLast?.map DrainedEvent.id).isNone = false := by
    cases last : events.getLast? with
    | none => exact absurd (List.getLast?_eq_none_iff.1 last) empty
    | some event => rfl
  cases shown : events.all drainedEventIsDisplayable with
  | true =>
      refine Or.inr ⟨events, matched, based, rfl, empty, ?_⟩
      simp [ingestMatch, matched, attached, newest, shown]
  | false =>
      refine Or.inl (stopped_of_eq matched ?_)
      simp [ingestMatch, matched, attached, shown]

/-- A page of displayable events is claimed. -/
theorem ingestMatch_of_drained {request : IngestRequest} {events : List DrainedEvent}
    (matched : request.wait = .matched) (based : request.spec.after ≠ none)
    (drained : request.drain request.spec = .ok events) (nonempty : events ≠ [])
    (shown : ∀ event ∈ events, drainedEventIsDisplayable event = true)
    (pipe : DaemonPipe) (acks : AckStore) (io : Option DeliveryIo)
    (signalId deliveryId : String) :
    ingestMatch request pipe acks io signalId deliveryId =
      claimDrained request events pipe acks io signalId deliveryId := by
  have attached := drainedOutcome_of_ok based drained
  have newest : (events.getLast?.map DrainedEvent.id).isNone = false := by
    cases last : events.getLast? with
    | none => exact absurd (List.getLast?_eq_none_iff.1 last) nonempty
    | some event => rfl
  have every : events.all drainedEventIsDisplayable = true := List.all_eq_true.2 shown
  simp [ingestMatch, matched, attached, newest, every]

/-- The claim of a page that no claim preceded. -/
def freshClaim (request : IngestRequest) (events : List DrainedEvent) (signalId : String) :
    SignalClaim where
  armId := request.arm.armId
  generation := request.arm.generation
  signalId
  eventRefs := events.map DrainedEvent.id
  events := providerEventsFromDrain events (observedText request.now)

/-- Claiming a page records it, whatever happens to the delivery. -/
theorem claimDrained_claim (request : IngestRequest) (events : List DrainedEvent)
    {pipe : DaemonPipe} (acks : AckStore) (io : Option DeliveryIo)
    (signalId deliveryId : String) (unclaimed : pipe.claim = none) :
    (claimDrained request events pipe acks io signalId deliveryId).pipe.claim =
      some (freshClaim request events signalId) := by
  unfold claimDrained
  simp only [unclaimed, claimOrReuse, Option.isNone_none, if_true,
    eventRefs_providerEventsFromDrain]
  split
  · rfl
  · split
    · split
      · rfl
      · simp [freshClaim]
    · simp [freshClaim]

/-! ## Rearming -/

omit [Rfc3339] in
/-- Apply an accepted acknowledgement to coverage; false when already applied. -/
def takeCoverageRearm (spec : WaitOnSpec) (arm : KnownArm) (pipe : DaemonPipe)
    (rearm : AckRearm) : Bool × WaitOnSpec × KnownArm × DaemonPipe :=
  if arm.generation = rearm.generation ∧ spec.after = some rearm.after ∧
      pipe.claim = none ∧ pipe.ledger.pending = none then (false, spec, arm, pipe)
  else
    (true, { spec with after := some rearm.after },
      { arm with generation := rearm.generation }, .empty)

end Waiter
end Gearwit
