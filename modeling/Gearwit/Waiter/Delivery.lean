import Gearwit.Waiter.Admission

/-!
# Stable delivery batches

The ledger holds one pending batch.  A batch is prepared once for the admitted
link, resent unchanged to a successor link of the same authority, and settled by
the result that names its delivery, its link and its signal.
-/

namespace Gearwit
namespace Waiter

/-- Lifecycle of one delivery attempt on a link. -/
inductive DeliveryAttempt
  | awaiting
  | lost
  | terminal (outcome : String)
  deriving DecidableEq

/-- A terminal outcome has been reported. -/
def DeliveryAttempt.isTerminal : DeliveryAttempt → Bool
  | .terminal _ => true
  | _ => false

/-- One undelivered or unacknowledged batch. -/
structure PendingDelivery where
  deliveryId : String
  linkId : String
  message : DeliverEvents
  attempt : DeliveryAttempt
  deriving DecidableEq

/-- In-memory pending delivery. -/
structure DeliveryLedger where
  pending : Option PendingDelivery
  deriving DecidableEq

namespace DeliveryLedger

/-- The ledger of a fresh daemon. -/
def empty : DeliveryLedger := ⟨none⟩

/-- Whether the same delivery should be sent again. -/
def shouldRedeliver (ledger : DeliveryLedger) : Bool :=
  match ledger.pending with
  | some pending => pending.attempt == .awaiting || pending.attempt == .lost
  | none => false

/-- Whether the pending delivery awaits a result. -/
def isAwaiting (ledger : DeliveryLedger) : Bool :=
  ledger.pending.any fun pending => pending.attempt == .awaiting

/-- Whether the pending delivery has its terminal outcome. -/
def isTerminal (ledger : DeliveryLedger) : Bool :=
  ledger.pending.any fun pending => pending.attempt.isTerminal

end DeliveryLedger

/-- Transition of the pending delivery under a correlated outcome: a terminal
outcome is repeated or refused, and a lost attempt only stays lost. -/
def settleAttempt (ledger : DeliveryLedger) (pending : PendingDelivery) (outcome : String) :
    Except WaiterLinkError Unit × DeliveryLedger :=
  match pending.attempt with
  | .awaiting =>
      if outcome = "link_lost" then (.ok (), ⟨some { pending with attempt := .lost }⟩)
      else (.ok (), ⟨some { pending with attempt := .terminal outcome }⟩)
  | .lost =>
      if outcome = "link_lost" then (.ok (), ledger)
      else (.error (.semantic "lost attempt"), ledger)
  | .terminal existing =>
      if existing = outcome then (.ok (), ledger)
      else (.error (.semantic "conflicting delivery outcome"), ledger)

/-- What an accepted transition of the attempt is. -/
private theorem settleAttempt_ok {ledger after : DeliveryLedger} {pending : PendingDelivery}
    {outcome : String} (settled : settleAttempt ledger pending outcome = (.ok (), after)) :
    (pending.attempt = .awaiting ∧ outcome = "link_lost" ∧
        after = ⟨some { pending with attempt := .lost }⟩) ∨
      (pending.attempt = .awaiting ∧ outcome ≠ "link_lost" ∧
        after = ⟨some { pending with attempt := .terminal outcome }⟩) ∨
      (pending.attempt = .lost ∧ outcome = "link_lost" ∧ after = ledger) ∨
      (pending.attempt = .terminal outcome ∧ after = ledger) := by
  unfold settleAttempt at settled
  cases attempt : pending.attempt with
  | awaiting =>
      simp only [attempt] at settled
      split_ifs at settled with lost
      · cases settled
        exact Or.inl ⟨rfl, lost, rfl⟩
      · cases settled
        exact Or.inr (Or.inl ⟨rfl, lost, rfl⟩)
  | lost =>
      simp only [attempt] at settled
      split_ifs at settled with lost
      · cases settled
        exact Or.inr (Or.inr (Or.inl ⟨rfl, lost, rfl⟩))
      · cases settled
  | terminal existing =>
      simp only [attempt] at settled
      split_ifs at settled with same
      · cases settled
        exact Or.inr (Or.inr (Or.inr ⟨by rw [same], rfl⟩))
      · cases settled

/-- A refused transition leaves the ledger as it was. -/
private theorem settleAttempt_error {ledger after : DeliveryLedger}
    {pending : PendingDelivery} {outcome : String} {error : WaiterLinkError}
    (settled : settleAttempt ledger pending outcome = (.error error, after)) :
    after = ledger := by
  unfold settleAttempt at settled
  split at settled <;> split_ifs at settled <;> cases settled <;> rfl

variable [Rfc3339]

/-- The batch a link is sent. -/
def deliverMessage (link : AdmittedLink) (signalId : String) (events : List ProviderEvent)
    (newest : String) (now : OffsetDateTime) (freshId : String) : DeliverEvents :=
  { schema := schemaId
    deliveryId := freshId
    linkId := link.linkId
    armId := link.armId
    generation := link.generation
    signalId
    route := link.route
    events
    newestEventRef := newest
    attemptedAt := formatTime now }

/-- Build a new validated batch; `freshId` is the minted delivery identifier. -/
def prepareDelivery (ledger : DeliveryLedger) (link : AdmittedLink) (signalId : String)
    (events : List ProviderEvent) (now : OffsetDateTime) (freshId : String) :
    Except WaiterLinkError DeliverEvents × DeliveryLedger :=
  if ledger.shouldRedeliver then (.error (.semantic "delivery pending"), ledger)
  else
    match events.getLast? with
    | none => (.error (.semantic "empty delivery"), ledger)
    | some last =>
        let message := deliverMessage link signalId events last.eventRef now freshId
        match validate (.deliverEvents message) with
        | .error error => (.error error, ledger)
        | .ok () => (.ok message, ⟨some ⟨freshId, link.linkId, message, .awaiting⟩⟩)

/-- A batch as it is resent on a successor link. -/
def readdressed (message : DeliverEvents) (link : AdmittedLink) (now : OffsetDateTime) :
    DeliverEvents :=
  { message with linkId := link.linkId, attemptedAt := formatTime now }

/-- Resend the pending batch on a successor link of the same arm, generation and
route.  The stored message is rewritten before it is validated. -/
def redeliverPending (ledger : DeliveryLedger) (link : AdmittedLink) (now : OffsetDateTime) :
    Except WaiterLinkError DeliverEvents × DeliveryLedger :=
  match ledger.pending with
  | none => (.error (.semantic "no pending delivery"), ledger)
  | some pending =>
      if pending.attempt.isTerminal then
        (.error (.semantic "delivery already terminal"), ledger)
      else if pending.message.armId ≠ link.armId ∨
          pending.message.generation ≠ link.generation ∨
          pending.message.route ≠ link.route then
        (.error (.semantic "successor authority mismatch"), ledger)
      else
        let message := readdressed pending.message link now
        match validate (.deliverEvents message) with
        | .error error => (.error error, ⟨some { pending with message }⟩)
        | .ok () =>
            (.ok message,
              ⟨some { pending with message, linkId := link.linkId, attempt := .awaiting }⟩)

/-- Record a waiter result against the current attempt. -/
def recordDeliveryResult (ledger : DeliveryLedger) (result : WaiterLink) :
    Except WaiterLinkError Unit × DeliveryLedger :=
  match validate result with
  | .error error => (.error error, ledger)
  | .ok () =>
  match result with
  | .deliveryResult report =>
      match ledger.pending with
      | none => (.error (.semantic "no pending delivery"), ledger)
      | some pending =>
          if pending.deliveryId ≠ report.deliveryId then
            (.error (.semantic "delivery_id mismatch"), ledger)
          else if pending.linkId ≠ report.linkId then
            (.error (.semantic "link_id mismatch"), ledger)
          else if pending.message.signalId ≠ report.signalId then
            (.error (.semantic "signal_id mismatch"), ledger)
          else settleAttempt ledger pending report.outcome
  | _ => (.error (.semantic "expected delivery_result"), ledger)

/-! ## What each operation does -/

/-- A prepared batch is the link's message, now pending. -/
theorem prepareDelivery_ok {ledger after : DeliveryLedger} {link : AdmittedLink}
    {signalId : String} {events : List ProviderEvent} {now : OffsetDateTime}
    {freshId : String} {message : DeliverEvents}
    (prepared : prepareDelivery ledger link signalId events now freshId = (.ok message, after)) :
    ∃ last, events.getLast? = some last ∧
      message = deliverMessage link signalId events last.eventRef now freshId ∧
      validate (.deliverEvents message) = .ok () ∧
      after = ⟨some ⟨freshId, link.linkId, message, .awaiting⟩⟩ := by
  unfold prepareDelivery at prepared
  split_ifs at prepared
  · cases prepared
  cases newest : events.getLast? with
  | none => simp [newest] at prepared
  | some last =>
      simp only [newest] at prepared
      split at prepared
      · cases prepared
      · rename_i valid
        cases prepared
        exact ⟨last, rfl, rfl, valid, rfl⟩

/-- A refused preparation leaves the ledger as it was. -/
theorem prepareDelivery_error {ledger after : DeliveryLedger} {link : AdmittedLink}
    {signalId : String} {events : List ProviderEvent} {now : OffsetDateTime}
    {freshId : String} {error : WaiterLinkError}
    (refused : prepareDelivery ledger link signalId events now freshId = (.error error, after)) :
    after = ledger := by
  unfold prepareDelivery at refused
  split_ifs at refused
  · cases refused
    rfl
  cases newest : events.getLast? with
  | none =>
      simp only [newest] at refused
      cases refused
      rfl
  | some last =>
      simp only [newest] at refused
      split at refused
      · cases refused
        rfl
      · cases refused

/-- A redelivered batch is the pending one readdressed to a link of the same
authority, and it awaits a result there. -/
theorem redeliverPending_ok {ledger after : DeliveryLedger} {link : AdmittedLink}
    {now : OffsetDateTime} {message : DeliverEvents}
    (resent : redeliverPending ledger link now = (.ok message, after)) :
    ∃ pending, ledger.pending = some pending ∧
      message = readdressed pending.message link now ∧
      pending.message.armId = link.armId ∧
      pending.message.generation = link.generation ∧
      pending.message.route = link.route ∧
      (pending.attempt = .awaiting ∨ pending.attempt = .lost) ∧
      validate (.deliverEvents message) = .ok () ∧
      after = ⟨some { pending with message, linkId := link.linkId, attempt := .awaiting }⟩ := by
  unfold redeliverPending at resent
  cases held : ledger.pending with
  | none => simp [held] at resent
  | some pending =>
      simp only [held] at resent
      split_ifs at resent with settled different
      · cases resent
      · cases resent
      push Not at different
      split at resent
      · cases resent
      · rename_i valid
        cases resent
        refine ⟨pending, rfl, rfl, different.1, different.2.1, different.2.2, ?_, valid, rfl⟩
        cases attempt : pending.attempt with
        | awaiting => exact Or.inl rfl
        | lost => exact Or.inr rfl
        | terminal outcome => simp [attempt, DeliveryAttempt.isTerminal] at settled

/-- A refused redelivery keeps the pending delivery's identity, link, attempt and
batch. -/
theorem redeliverPending_error {ledger after : DeliveryLedger} {link : AdmittedLink}
    {now : OffsetDateTime} {error : WaiterLinkError}
    (refused : redeliverPending ledger link now = (.error error, after)) :
    after = ledger ∨ ∃ pending, ledger.pending = some pending ∧
      pending.message.armId = link.armId ∧
      pending.message.generation = link.generation ∧
      after = ⟨some { pending with message := readdressed pending.message link now }⟩ := by
  unfold redeliverPending at refused
  cases held : ledger.pending with
  | none =>
      simp only [held] at refused
      cases refused
      exact Or.inl rfl
  | some pending =>
      simp only [held] at refused
      split_ifs at refused with settled different
      · cases refused
        exact Or.inl rfl
      · cases refused
        exact Or.inl rfl
      · push Not at different
        split at refused
        · cases refused
          exact Or.inr ⟨pending, rfl, different.1, different.2.1, rfl⟩
        · cases refused

/-- A recorded result names the pending delivery, its link and its signal, and
settles an awaiting attempt or repeats what is already recorded. -/
theorem recordDeliveryResult_ok {ledger after : DeliveryLedger} {result : WaiterLink}
    (recorded : recordDeliveryResult ledger result = (.ok (), after)) :
    ∃ report pending, result = .deliveryResult report ∧ ledger.pending = some pending ∧
      validate result = .ok () ∧
      pending.deliveryId = report.deliveryId ∧ pending.linkId = report.linkId ∧
      pending.message.signalId = report.signalId ∧
      ((pending.attempt = .awaiting ∧ report.outcome = "link_lost" ∧
          after = ⟨some { pending with attempt := .lost }⟩) ∨
        (pending.attempt = .awaiting ∧ report.outcome ≠ "link_lost" ∧
          after = ⟨some { pending with attempt := .terminal report.outcome }⟩) ∨
        (pending.attempt = .lost ∧ report.outcome = "link_lost" ∧ after = ledger) ∨
        (pending.attempt = .terminal report.outcome ∧ after = ledger)) := by
  unfold recordDeliveryResult at recorded
  cases valid : validate result with
  | error error => simp [valid] at recorded
  | ok value =>
      simp only [valid] at recorded
      cases result with
      | deliveryResult report =>
          cases held : ledger.pending with
          | none => simp [held] at recorded
          | some pending =>
              simp only [held] at recorded
              split_ifs at recorded with delivery link signal
              · cases recorded
              · cases recorded
              · cases recorded
              simp only [ne_eq, not_not] at delivery link signal
              exact ⟨report, pending, rfl, rfl, rfl, delivery, link, signal,
                settleAttempt_ok recorded⟩
      | attachWaiter message => cases recorded
      | attachAccepted message => cases recorded
      | attachRejected message => cases recorded
      | deliverEvents message => cases recorded

/-- A refused result leaves the ledger as it was. -/
theorem recordDeliveryResult_error {ledger after : DeliveryLedger} {result : WaiterLink}
    {error : WaiterLinkError}
    (refused : recordDeliveryResult ledger result = (.error error, after)) :
    after = ledger := by
  unfold recordDeliveryResult at refused
  cases valid : validate result with
  | error error => simp_all
  | ok value =>
      simp only [valid] at refused
      cases result with
      | deliveryResult report =>
          cases held : ledger.pending with
          | none => simp_all
          | some pending =>
              simp only [held] at refused
              split_ifs at refused with delivery link signal
              · cases refused
                rfl
              · cases refused
                rfl
              · cases refused
                rfl
              · exact settleAttempt_error refused
      | attachWaiter message => simp_all
      | attachAccepted message => simp_all
      | attachRejected message => simp_all
      | deliverEvents message => simp_all

end Waiter
end Gearwit
