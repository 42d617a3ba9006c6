import Gearwit.Waiter.Batches

/-!
# What the pipe operations do

Losing a link, applying a result, flushing and ingesting each change the pipe in
a few ways.  Each operation gets one lemma that lists them, and none of them
separates the pending delivery from the claim it carries.
-/

namespace Gearwit
namespace Waiter

/-- The pending delivery carries the claim's signal and events. -/
structure PendingDelivery.Carries (pending : PendingDelivery) (live : SignalClaim) : Prop where
  signal : pending.message.signalId = live.signalId
  events : pending.message.events = live.events
  delivery : pending.message.deliveryId = pending.deliveryId

/-- Whatever is pending in the ledger carries the claim. -/
def DeliveryLedger.Carries (ledger : DeliveryLedger) (live : SignalClaim) : Prop :=
  ∀ pending, ledger.pending = some pending → pending.Carries live

@[simp] theorem DeliveryLedger.carries_empty (live : SignalClaim) :
    DeliveryLedger.empty.Carries live := by
  intro pending held
  cases held

/-- A ledger carries what it has pending. -/
theorem DeliveryLedger.carries_some {pending : PendingDelivery} {live : SignalClaim}
    (carried : pending.Carries live) : (⟨some pending⟩ : DeliveryLedger).Carries live := by
  intro other held
  cases held
  exact carried

/-- The claim is the same, an empty pipe stays empty, and what is pending still
carries the claim it carried. -/
structure DaemonPipe.Kept (before after : DaemonPipe) : Prop where
  claim : after.claim = before.claim
  empty : before = .empty → after = .empty
  carries : ∀ live, before.claim = some live → before.ledger.Carries live →
    after.ledger.Carries live

/-- A pipe keeps what it has. -/
theorem DaemonPipe.kept_refl (pipe : DaemonPipe) : pipe.Kept pipe where
  claim := rfl
  empty same := same
  carries _ _ carried := carried

/-- Forgetting that an attempt is under way keeps the rest. -/
theorem DaemonPipe.kept_unattempted (pipe : DaemonPipe) :
    pipe.Kept { pipe with attempted := false } where
  claim := rfl
  empty same := by rw [same]; rfl
  carries _ _ carried := carried

/-- Settling the attempt of the pending delivery keeps the rest. -/
theorem DaemonPipe.kept_settled {pipe : DaemonPipe} {pending : PendingDelivery}
    (held : pipe.ledger.pending = some pending) (attempt : DeliveryAttempt)
    (attempted : Bool) :
    pipe.Kept ⟨⟨some { pending with attempt }⟩, pipe.claim, attempted⟩ where
  claim := rfl
  empty same := by
    rw [same] at held
    cases held
  carries live _ carried := by
    obtain ⟨signal, events, delivery⟩ := carried pending held
    exact DeliveryLedger.carries_some ⟨signal, events, delivery⟩

variable [Rfc3339]

/-! ## Losing a link -/

/-- A lost link clears the attempt flag, and an attempt that awaited a result may
be marked lost. -/
theorem losePipe_cases (pipe : DaemonPipe) (now : OffsetDateTime) :
    losePipe pipe now = { pipe with attempted := false } ∨
      ∃ pending, pipe.ledger.pending = some pending ∧
        losePipe pipe now =
          ⟨⟨some { pending with attempt := .lost }⟩, pipe.claim, false⟩ := by
  unfold losePipe
  cases held : pipe.ledger.pending with
  | none => exact Or.inl rfl
  | some pending =>
      simp only
      split
      · rename_i awaited
        simp only [Bool.and_eq_true, beq_iff_eq] at awaited
        rcases recorded : recordDeliveryResult pipe.ledger (lostReport pending now) with
          ⟨outcome, after⟩
        cases outcome with
        | error error =>
            rw [recordDeliveryResult_error recorded]
            exact Or.inl rfl
        | ok value =>
            obtain ⟨report, other, named, same, _, _, _, _, settled⟩ :=
              recordDeliveryResult_ok recorded
            rw [held] at same
            cases same
            cases named
            rcases settled with ⟨_, _, rfl⟩ | ⟨_, different, _⟩ | ⟨lost, _, _⟩ | ⟨ended, _⟩
            · exact Or.inr ⟨pending, rfl, rfl⟩
            · exact absurd rfl different
            · rw [awaited.2] at lost
              cases lost
            · rw [awaited.2] at ended
              cases ended
      · exact Or.inl rfl

@[simp] theorem losePipe_attempted (pipe : DaemonPipe) (now : OffsetDateTime) :
    (losePipe pipe now).attempted = false := rfl

@[simp] theorem losePipe_claim (pipe : DaemonPipe) (now : OffsetDateTime) :
    (losePipe pipe now).claim = pipe.claim := rfl

/-- Losing the pipe keeps its claim. -/
theorem losePipe_kept (pipe : DaemonPipe) (now : OffsetDateTime) :
    pipe.Kept (losePipe pipe now) := by
  rcases losePipe_cases pipe now with same | ⟨pending, held, same⟩
  · rw [same]
    exact pipe.kept_unattempted
  · rw [same]
    exact DaemonPipe.kept_settled held _ _

/-! ## Applying a result -/

/-- What applying a waiter result does: a result that names no pending delivery is
a loss, and one that names it settles its attempt. -/
inductive ApplyEffect (pipe : DaemonPipe) (result : WaiterLink) :
    ResultApply × DaemonPipe → Prop
  | refused (unrecorded : resultRecorded pipe.ledger result = []) :
      ApplyEffect pipe result (.revokeLost, { pipe with attempted := false })
  | lost {report : DeliveryResult} {pending : PendingDelivery} {attempt : DeliveryAttempt}
      (named : result = .deliveryResult report) (held : pipe.ledger.pending = some pending)
      (outcome : report.outcome = "link_lost")
      (marked : attempt = .lost ∨ attempt = pending.attempt)
      (observed : resultRecorded pipe.ledger result = [.recorded report]) :
      ApplyEffect pipe result
        (.revokeLost, ⟨⟨some { pending with attempt }⟩, pipe.claim, false⟩)
  | settled {report : DeliveryResult} {pending : PendingDelivery} {applied : ResultApply}
      (named : result = .deliveryResult report) (held : pipe.ledger.pending = some pending)
      (delivery : pending.deliveryId = report.deliveryId)
      (link : pending.linkId = report.linkId)
      (signal : pending.message.signalId = report.signalId)
      (attempt : pending.attempt = .awaiting ∨ pending.attempt = .terminal report.outcome)
      (noting : applied = .revokeTerminal ∨
        applied = .keep ∧ report.outcome ≠ "return_completed")
      (observed : resultRecorded pipe.ledger result = [.recorded report]) :
      ApplyEffect pipe result
        (applied, ⟨⟨some { pending with attempt := .terminal report.outcome }⟩, pipe.claim,
          pipe.attempted⟩)

omit [Rfc3339] in
private theorem ledger_eq {ledger : DeliveryLedger} {pending : PendingDelivery}
    (held : ledger.pending = some pending) : ledger = ⟨some pending⟩ := by
  cases ledger
  cases held
  rfl

/-- Applying a result is one of these effects. -/
theorem applyWaiterResult_effect (pipe : DaemonPipe) (result : WaiterLink) :
    ApplyEffect pipe result (applyWaiterResult pipe result) := by
  unfold applyWaiterResult
  rcases recorded : recordDeliveryResult pipe.ledger result with ⟨outcome, after⟩
  cases outcome with
  | error error =>
      rw [recordDeliveryResult_error recorded]
      refine .refused ?_
      simp only [resultRecorded, recorded]
  | ok value =>
      obtain ⟨report, pending, rfl, held, _, delivery, link, signal, settled⟩ :=
        recordDeliveryResult_ok recorded
      have observed : resultRecorded pipe.ledger (.deliveryResult report) =
          [.recorded report] := by
        simp [resultRecorded, recorded]
      simp only
      by_cases lost : report.outcome = "link_lost"
      · rw [if_pos lost]
        have marked : ∃ attempt, (attempt = .lost ∨ attempt = pending.attempt) ∧
            after = ⟨some { pending with attempt }⟩ := by
          rcases settled with ⟨_, _, same⟩ | ⟨_, different, _⟩ | ⟨_, _, same⟩ | ⟨_, same⟩
          · exact ⟨_, Or.inl rfl, same⟩
          · exact absurd lost different
          · exact ⟨_, Or.inr rfl, same.trans (ledger_eq held)⟩
          · exact ⟨_, Or.inr rfl, same.trans (ledger_eq held)⟩
        obtain ⟨attempt, kind, rfl⟩ := marked
        exact .lost rfl held lost kind observed
      · rw [if_neg lost]
        have marked : (pending.attempt = .awaiting ∨
              pending.attempt = .terminal report.outcome) ∧
            after = ⟨some { pending with attempt := .terminal report.outcome }⟩ := by
          rcases settled with ⟨_, same, _⟩ | ⟨awaiting, _, same⟩ | ⟨_, same, _⟩ | ⟨ended, same⟩
          · exact absurd same lost
          · exact ⟨Or.inl awaiting, same⟩
          · exact absurd same lost
          · refine ⟨Or.inr ended, same.trans (ledger_eq held |>.trans ?_)⟩
            rw [← ended]
        obtain ⟨attempt, rfl⟩ := marked
        split
        · exact .settled rfl held delivery link signal attempt (Or.inl rfl) observed
        · rename_i other
          exact .settled rfl held delivery link signal attempt
            (Or.inr ⟨rfl, fun same => other (Or.inl same)⟩) observed

/-- Applying a result keeps the claim. -/
theorem applyWaiterResult_kept (pipe : DaemonPipe) (result : WaiterLink) :
    pipe.Kept (applyWaiterResult pipe result).2 := by
  have effect := applyWaiterResult_effect pipe result
  generalize applyWaiterResult pipe result = applied at effect
  cases effect with
  | refused => exact pipe.kept_unattempted
  | lost _ held => exact DaemonPipe.kept_settled held _ _
  | settled _ held => exact DaemonPipe.kept_settled held _ _

/-! ## Delivering -/

/-- A batch that is pending and awaits a result on a link: a new one for the claim,
or the one that was pending before. -/
structure Addressed (pipe : DaemonPipe) (live : SignalClaim) (link : AdmittedLink)
    (message : DeliverEvents) (pending : PendingDelivery) : Prop where
  awaiting : pending.attempt = .awaiting
  message_eq : pending.message = message
  link_eq : pending.linkId = link.linkId
  linked : message.linkId = link.linkId
  arm : message.armId = link.armId
  generation : message.generation = link.generation
  carries : pipe.ledger.Carries live → pending.Carries live

/-- A message to deliver is addressed to the link. -/
theorem deliveryMessage_ok {pipe : DaemonPipe} {live : SignalClaim} {link : AdmittedLink}
    {now : OffsetDateTime} {deliveryId : String} {message : DeliverEvents}
    {after : DeliveryLedger}
    (made : deliveryMessage pipe live link now deliveryId = (.ok message, after)) :
    ∃ pending, after = ⟨some pending⟩ ∧ Addressed pipe live link message pending := by
  unfold deliveryMessage at made
  split at made
  · obtain ⟨pending, held, rfl, arm, generation, _, _, _, rfl⟩ := redeliverPending_ok made
    exact ⟨_, rfl, rfl, rfl, rfl, rfl, arm, generation, fun carried =>
      ⟨(carried pending held).signal, (carried pending held).events,
        (carried pending held).delivery⟩⟩
  · obtain ⟨last, _, rfl, _, rfl⟩ := prepareDelivery_ok made
    exact ⟨_, rfl, rfl, rfl, rfl, rfl, rfl, rfl, fun _ => ⟨rfl, rfl, rfl⟩⟩

/-- A refused delivery leaves the ledger, or only readdresses what is pending. -/
theorem deliveryMessage_error {pipe : DaemonPipe} {live : SignalClaim} {link : AdmittedLink}
    {now : OffsetDateTime} {deliveryId : String} {error : WaiterLinkError}
    {after : DeliveryLedger}
    (refused : deliveryMessage pipe live link now deliveryId = (.error error, after)) :
    after = pipe.ledger ∨ ∃ pending, pipe.ledger.pending = some pending ∧
      after = ⟨some { pending with message := readdressed pending.message link now }⟩ := by
  unfold deliveryMessage at refused
  split at refused
  · rcases redeliverPending_error refused with same | ⟨pending, held, _, _, same⟩
    · exact Or.inl same
    · exact Or.inr ⟨pending, held, same⟩
  · exact Or.inl (prepareDelivery_error refused)

omit [Rfc3339] in
private theorem kept_of_addressed {pipe : DaemonPipe} {live : SignalClaim}
    (claimed : pipe.claim = some live) {ledger : DeliveryLedger}
    (carried : pipe.ledger.Carries live → ledger.Carries live)
    (attempted : Bool) : pipe.Kept ⟨ledger, pipe.claim, attempted⟩ where
  claim := rfl
  empty same := by
    rw [same] at claimed
    cases claimed
  carries other same held := by
    rw [claimed] at same
    cases same
    exact carried held

/-- A refused delivery keeps what the ledger carries. -/
theorem deliveryMessage_error_carries {pipe : DaemonPipe} {live : SignalClaim}
    {link : AdmittedLink} {now : OffsetDateTime} {deliveryId : String}
    {error : WaiterLinkError} {after : DeliveryLedger}
    (refused : deliveryMessage pipe live link now deliveryId = (.error error, after))
    (carried : pipe.ledger.Carries live) : after.Carries live := by
  rcases deliveryMessage_error refused with rfl | ⟨pending, held, rfl⟩
  · exact carried
  · obtain ⟨signal, events, delivery⟩ := carried pending held
    exact DeliveryLedger.carries_some ⟨signal, events, delivery⟩

/-- A refused delivery leaves the attempt as it was. -/
theorem deliveryMessage_error_isTerminal {pipe : DaemonPipe} {live : SignalClaim}
    {link : AdmittedLink} {now : OffsetDateTime} {deliveryId : String}
    {error : WaiterLinkError} {after : DeliveryLedger}
    (refused : deliveryMessage pipe live link now deliveryId = (.error error, after)) :
    after.isTerminal = pipe.ledger.isTerminal := by
  rcases deliveryMessage_error refused with rfl | ⟨pending, held, rfl⟩
  · rfl
  · simp [DeliveryLedger.isTerminal, held]

/-- What a flush does. -/
inductive FlushEffect (link : Option AdmittedLink) (pipe : DaemonPipe) (acks : AckStore)
    (now : OffsetDateTime) : Bool × DaemonPipe × AckStore × Option DeliverEvents → Prop
  | resting (idle : pipe.ledger.isTerminal = true ∨ pipe.claim = none ∨ link = none) :
      FlushEffect link pipe acks now (false, pipe, acks, none)
  | expired {live : SignalClaim} {read : AdmittedLink} (claimed : pipe.claim = some live)
      (present : link = some read) (elapsed : leaseExpired read.leaseUntil now = true) :
      FlushEffect link pipe acks now (true, pipe, acks, none)
  | refused {live : SignalClaim} {ledger : DeliveryLedger} (claimed : pipe.claim = some live)
      (carries : pipe.ledger.Carries live → ledger.Carries live)
      (pending : ledger.pending.isSome = pipe.ledger.pending.isSome)
      (unsettled : pipe.ledger.isTerminal = false) (still : ledger.isTerminal = false) :
      FlushEffect link pipe acks now
        (ledger.pending.isSome && !pipe.attempted, { pipe with ledger }, acks, none)
  | already {live : SignalClaim} {read : AdmittedLink} {message : DeliverEvents}
      {pending : PendingDelivery} (claimed : pipe.claim = some live)
      (present : link = some read) (addressed : Addressed pipe live read message pending)
      (attempted : pipe.attempted = true) (unsettled : pipe.ledger.isTerminal = false) :
      FlushEffect link pipe acks now (false, { pipe with ledger := ⟨some pending⟩ }, acks, none)
  | unsent {live : SignalClaim} {read : AdmittedLink} {message : DeliverEvents}
      {pending : PendingDelivery} (claimed : pipe.claim = some live)
      (present : link = some read) (addressed : Addressed pipe live read message pending) :
      FlushEffect link pipe acks now (true, ⟨⟨some pending⟩, pipe.claim, false⟩, acks, none)
  | written {live : SignalClaim} {read : AdmittedLink} {message : DeliverEvents}
      {pending : PendingDelivery} {attempted : Bool} (claimed : pipe.claim = some live)
      (present : link = some read) (addressed : Addressed pipe live read message pending)
      (live_lease : leaseExpired read.leaseUntil now = false)
      (unsettled : pipe.ledger.isTerminal = false)
      (noted : attempted = true ∨ attempted = pipe.attempted) :
      FlushEffect link pipe acks now
        (!attempted, ⟨⟨some pending⟩, pipe.claim, attempted⟩,
          (acks.noteDelivered live.signalId (message.events.map ProviderEvent.eventRef)
            live.eventRefs).2, some message)

/-- Flushing is one of these effects. -/
theorem flushAttached_effect (link : Option AdmittedLink) (pipe : DaemonPipe)
    (acks : AckStore) (now : OffsetDateTime) (writeOk : Bool) (deliveryId : String) :
    FlushEffect link pipe acks now
      (flushAttached link pipe acks now writeOk deliveryId) := by
  unfold flushAttached
  split
  · rename_i settled
    exact .resting (Or.inl settled)
  rename_i unsettled
  split
  · rename_i live read claimed
    split
    · rename_i elapsed
      exact .expired claimed rfl elapsed
    rename_i leased
    simp only [Bool.not_eq_true] at leased unsettled
    rcases made : deliveryMessage pipe live read now deliveryId with ⟨outcome, after⟩
    cases outcome with
    | error error =>
        have pending : after.pending.isSome = pipe.ledger.pending.isSome := by
          rcases deliveryMessage_error made with rfl | ⟨pending, held, rfl⟩
          · rfl
          · rw [held]
            rfl
        have still := (deliveryMessage_error_isTerminal made).trans unsettled
        simp only [deliverClaimed, made, DaemonPipe.snapshot, Option.isSome_map]
        exact .refused claimed (deliveryMessage_error_carries made) pending unsettled still
    | ok message =>
        obtain ⟨pending, rfl, addressed⟩ := deliveryMessage_ok made
        have awaits : (⟨some pending⟩ : DeliveryLedger).isAwaiting = true := by
          simp [DeliveryLedger.isAwaiting, addressed.awaiting]
        simp only [deliverClaimed, made, awaits, Bool.and_true]
        split
        · rename_i attempted
          exact .already claimed rfl addressed attempted unsettled
        split
        · exact .unsent claimed rfl addressed
        · unfold afterWrite
          rcases noted : acks.noteDelivered live.signalId
            (message.events.map ProviderEvent.eventRef) live.eventRefs with ⟨outcome, noted'⟩
          have same : noted' = (acks.noteDelivered live.signalId
              (message.events.map ProviderEvent.eventRef) live.eventRefs).2 := by rw [noted]
          cases outcome with
          | error error =>
              simp only [DaemonPipe.snapshot, Option.map_some, Option.isSome_some,
                Bool.true_and, same]
              exact .written claimed rfl addressed leased unsettled (Or.inr rfl)
          | ok value =>
              simp only [linkIo, Option.isSome_some, Bool.true_and, same]
              exact .written claimed rfl addressed leased unsettled (Or.inl rfl)
  · rename_i attached _ _ absent
    refine .resting (Or.inr ?_)
    cases claimed : pipe.claim with
    | none => exact Or.inl rfl
    | some live =>
        cases attached with
        | none => exact Or.inr rfl
        | some read => exact (absent live read claimed rfl).elim

/-- Flushing keeps the claim. -/
theorem flushAttached_kept (link : Option AdmittedLink) (pipe : DaemonPipe)
    (acks : AckStore) (now : OffsetDateTime) (writeOk : Bool) (deliveryId : String) :
    pipe.Kept (flushAttached link pipe acks now writeOk deliveryId).2.1 := by
  have effect := flushAttached_effect link pipe acks now writeOk deliveryId
  generalize flushAttached link pipe acks now writeOk deliveryId = flushed at effect
  cases effect with
  | resting => exact pipe.kept_refl
  | expired => exact pipe.kept_refl
  | refused claimed carries => exact kept_of_addressed claimed carries _
  | already claimed _ addressed =>
      exact kept_of_addressed claimed
        (fun carried => DeliveryLedger.carries_some (addressed.carries carried)) _
  | unsent claimed _ addressed =>
      exact kept_of_addressed claimed
        (fun carried => DeliveryLedger.carries_some (addressed.carries carried)) _
  | written claimed _ addressed =>
      exact kept_of_addressed claimed
        (fun carried => DeliveryLedger.carries_some (addressed.carries carried)) _

/-! ## Ingesting -/

/-- A delivery without a connection only prepares the batch. -/
structure PipeStep.Prepared (live : SignalClaim) (link : Option AdmittedLink)
    (pipe : DaemonPipe) (acks : AckStore) (coverage : DaemonCoverage) (step : PipeStep) :
    Prop where
  coverage_eq : step.outcome.coverage = coverage
  claim : step.pipe.claim = pipe.claim
  unattempted : pipe.attempted = false → step.pipe.attempted = false
  carries : pipe.ledger.Carries live → step.pipe.ledger.Carries live
  unlinked : link = none → step.pipe = pipe
  unsettled : pipe.ledger.isTerminal = false → step.pipe.ledger.isTerminal = false
  acks_eq : step.acks = acks

/-- What delivering a claim prepares. -/
theorem deliverClaimed_prepared (live : SignalClaim) (link : Option AdmittedLink)
    (pipe : DaemonPipe) (acks : AckStore) (now : OffsetDateTime) (coverage : DaemonCoverage)
    (deliveryId : String) :
    (deliverClaimed live link pipe acks now none coverage deliveryId).Prepared
      live link pipe acks coverage := by
  cases link with
  | none => exact ⟨rfl, rfl, id, id, fun _ => rfl, id, rfl⟩
  | some link =>
      rcases made : deliveryMessage pipe live link now deliveryId with ⟨outcome, after⟩
      cases outcome with
      | error error =>
          simp only [deliverClaimed, made, DaemonPipe.snapshot]
          exact ⟨rfl, rfl, id, deliveryMessage_error_carries made, (by intros; contradiction),
            fun unsettled => (deliveryMessage_error_isTerminal made).trans unsettled, rfl⟩
      | ok message =>
          obtain ⟨pending, rfl, addressed⟩ := deliveryMessage_ok made
          simp only [deliverClaimed, made]
          exact ⟨rfl, rfl, fun _ => rfl,
            fun carried => DeliveryLedger.carries_some (addressed.carries carried), (by intros; contradiction),
            fun _ => by
              simp [DeliveryLedger.isTerminal, addressed.awaiting, DeliveryAttempt.isTerminal],
            rfl⟩

/-- A page that was claimed into an empty pipe: one claim, one open batch that is
held exactly when content was lost, and nothing sent yet. -/
structure PipeStep.Claimed (request : IngestRequest) (events : List DrainedEvent)
    (acks : AckStore) (signalId : String) (step : PipeStep) : Prop where
  coverage_eq : step.outcome.coverage = .pause
  claim : step.pipe.claim = some (freshClaim request events signalId)
  unattempted : step.pipe.attempted = false
  carries : step.pipe.ledger.Carries (freshClaim request events signalId)
  unlinked : request.link = none → step.pipe.ledger = .empty
  unsettled : step.pipe.ledger.isTerminal = false
  acks_eq : step.acks = { acks with
    signals := acks.signals.insert signalId
      { AckStore.claimedBatch request.arm with
        requireReturnCompleted := events.any fun event => event.localLoss.isSome } }

private theorem claimed_of_prepared {request : IngestRequest} {events : List DrainedEvent}
    {acks store : AckStore} {signalId deliveryId : String}
    (same : store = { acks with
      signals := acks.signals.insert signalId
        { AckStore.claimedBatch request.arm with
          requireReturnCompleted := events.any fun event => event.localLoss.isSome } }) :
    (deliverClaimed (freshClaim request events signalId) request.link
        ⟨.empty, some (freshClaim request events signalId), false⟩ store request.now none
        .pause deliveryId).Claimed request events acks signalId := by
  obtain ⟨coverage, claim, unattempted, carries, unlinked, unsettled, kept⟩ :=
    deliverClaimed_prepared (freshClaim request events signalId) request.link
      ⟨.empty, some (freshClaim request events signalId), false⟩ store request.now .pause
      deliveryId
  exact ⟨coverage, claim, unattempted rfl, carries (DeliveryLedger.carries_empty _),
    fun absent => by rw [unlinked absent], unsettled rfl, kept.trans same⟩

/-- Claiming into an empty pipe under a new signal records the claim and its batch. -/
theorem claimDrained_fresh {request : IngestRequest} {acks : AckStore} {signalId : String}
    (bound : acks.arm = some request.arm) (closed : acks.AllClosed)
    (fresh : acks.signals[signalId]? = none) (events : List DrainedEvent)
    (deliveryId : String) :
    (claimDrained request events .empty acks none signalId deliveryId).Claimed
      request events acks signalId := by
  have noted := AckStore.noteClaimed_fresh bound closed fresh
  unfold claimDrained
  simp only [DaemonPipe.empty, claimOrReuse, Option.isNone_none, if_true, noted,
    eventRefs_providerEventsFromDrain]
  cases lossy : events.any fun event => event.localLoss.isSome with
  | true =>
      simp only [if_true, AckStore.requireReturnCompleted_claimed]
      exact claimed_of_prepared (by rw [lossy])
  | false => exact claimed_of_prepared (by rw [lossy]; rfl)

/-- An ingest into an empty pipe stops before claiming, or claims what its drain
gave. -/
theorem ingestMatch_fresh (request : IngestRequest) {acks : AckStore} {signalId : String}
    (bound : acks.arm = some request.arm) (closed : acks.AllClosed)
    (fresh : acks.signals[signalId]? = none) (deliveryId : String) :
    (ingestMatch request .empty acks none signalId deliveryId).Stopped request .empty acks ∨
      ∃ events, request.wait = .matched ∧ request.drain request.spec = .ok events ∧
        events ≠ [] ∧
        (ingestMatch request .empty acks none signalId deliveryId).Claimed
          request events acks signalId := by
  rcases ingestMatch_cases request .empty acks none signalId deliveryId with
    stopped | ⟨events, matched, _, drained, nonempty, same⟩
  · exact Or.inl stopped
  · refine Or.inr ⟨events, matched, drained, nonempty, ?_⟩
    rw [same]
    exact claimDrained_fresh bound closed fresh events deliveryId

end Waiter
end Gearwit
