import Gearwit.Persist.Records

/-!
# Authority products

Requests the daemon authority accepts, the move-only products it hands out and
the errors it answers.  Provider events arrive as text and are converted one by
one; the calendar library's RFC 3339 parser is a parameter.
-/

namespace Gearwit

/-! ## Errors -/

/-- Refusals of the authority. -/
inductive AuthorityError
  | unknownArm
  | noOwnedController
  | conflict
  | unauthorized
  | storage
  | invalidIdentifier
  | entropy
  | controllerProbe (error : ControllerProbeError)
  deriving DecidableEq

/-- Authority error of a persistence refusal. -/
def AuthorityError.fromPersist : PersistError → AuthorityError
  | .conflict | .invalidTransition => .conflict
  | .unauthorized => .unauthorized
  | .payloadUnavailable | .storageUnavailable => .storage

/-! ## Provider events -/

/-- A provider event as it arrives on the wire. -/
structure ProviderEvent where
  provider : String
  eventRef : String
  actor : Option String
  observedAt : String
  body : String
  deriving DecidableEq

/-- RFC 3339 parser of the calendar library. -/
class Rfc3339 where
  parse : String → Option OffsetDateTime

/-- Longest timestamp that is parsed at all, in bytes. -/
def maxTimestampBytes : Nat := 64

/-- Most events of one claim. -/
def maxClaimEvents : Nat := 64

section Conversion

variable [Rfc3339]

/-- Convert one provider event. -/
def ProviderEventRecord.tryFrom (event : ProviderEvent) :
    Except String ProviderEventRecord := do
  if event.observedAt.utf8ByteSize > maxTimestampBytes then
    throw "timestamp exceeds bound"
  let observedAt ← match Rfc3339.parse event.observedAt with
    | none => throw "timestamp is not RFC 3339"
    | some observedAt => pure observedAt
  let eventRef ← SafeToken.new event.eventRef
  let provider ← SafeToken.new event.provider
  let actor ← match event.actor with
    | none => pure none
    | some actor => some <$> SafeToken.new actor
  let body ← BoundedBody.new event.body
  return { eventRef, provider, actor, observedAt, body }

/-- Convert events in order, refusing a repeated reference and a step back in
time. -/
def claimRecords : List ProviderEvent → (seenRefs : List String) →
    (previousObservedAt : Option OffsetDateTime) →
      Except AuthorityError (List ProviderEventRecord)
  | [], _, _ => .ok []
  | event :: rest, seenRefs, previousObservedAt =>
      match ProviderEventRecord.tryFrom event with
      | .error _ => .error .invalidIdentifier
      | .ok record =>
          if record.eventRef.text ∈ seenRefs then .error .invalidIdentifier
          else if previousObservedAt.any fun previous =>
              decide (record.observedAt < previous) then
            .error .conflict
          else
            match claimRecords rest (record.eventRef.text :: seenRefs)
                (some record.observedAt) with
            | .error refusal => .error refusal
            | .ok records => .ok (record :: records)

/-- References and payload of a batch of provider events. -/
def validatedClaimPayload (events : List ProviderEvent) :
    Except AuthorityError (BoundedVec EventRef 1 64 × BoundedClaimPayload) :=
  if events = [] ∨ events.length > maxClaimEvents then .error .conflict
  else
    match claimRecords events [] none with
    | .error refusal => .error refusal
    | .ok records =>
        match BoundedVec.tryFrom (records.map ProviderEventRecord.eventRef) with
        | .error _ => .error .conflict
        | .ok eventRefs =>
            match BoundedClaimPayload.tryFrom records with
            | .error _ => .error .conflict
            | .ok payload => .ok (eventRefs, payload)

end Conversion

/-- Input of a generation-fenced claim admission. -/
structure ClaimRequest where
  armId : String
  requestId : String
  signalId : String
  events : List ProviderEvent
  deriving DecidableEq

/-- Explicit managed-controller registration. -/
structure ManagedArmRegistration where
  armId : String
  generation : UInt64
  seatId : String
  coverageUntil : OffsetDateTime
  deriving DecidableEq

/-! ## Move-only products -/

/-- Reservation proving that a birth and its thread creation were persisted. -/
structure ControllerBirthReservation where
  binding : ControllerBirthBinding
  createAttemptId : RequestNonce
  deriving DecidableEq

/-- What is left of a birth reservation whose creation is unknown. -/
structure QuarantinedBirthReservation where
  birthId : ControllerBirthId
  createAttemptId : RequestNonce
  deriving DecidableEq

/-- Answer to a thread creation. -/
inductive CreateResolution
  | final (write : IdempotentWrite)
  | unknown (write : IdempotentWrite) (reservation : QuarantinedBirthReservation)
  deriving DecidableEq

/-- Opaque receipt of a newly admitted claim. -/
structure AdmissionReceipt where
  attemptId : AttemptId
  deriving DecidableEq

/-- Answer to an admission.  Only a fresh one carries a receipt. -/
structure AdmissionResult where
  outcome : AdmissionOutcome
  attemptId : String
  receipt : Option AdmissionReceipt
  deriving DecidableEq

/-- Work retained across the probe and the native write. -/
structure PreparedDispatch where
  attachment : PersistedControllerAttachment
  correlation : PersistedTurnCorrelation
  expectedProbeId : RequestNonce
  deriving DecidableEq

/-- Authorized write products. -/
structure AuthorizedNativeWrite where
  prepared : PreparedDispatch
  lane : ControllerIdleGuard
  command : ControllerCommand
  deriving DecidableEq

/-- Result of validating a probe. -/
inductive ProbeAuthorization
  | ready (authorized : AuthorizedNativeWrite)
  | heldBeforeNativeWrite
  | idleStateUnproven
  deriving DecidableEq

/-- Where a reconciliation leaves an attempt. -/
inductive ReconciliationPhase
  | reconciling
  | observing (scope : ObservationScope)
  | closed
  deriving DecidableEq

/-- Answer to a recorded observation. -/
structure ExactObservationRecord where
  write : IdempotentWrite
  reconciliation : Option ReconciliationScope
  deriving DecidableEq

/-- Answer to a concluded write, with its follow-up scopes. -/
structure NativeWriteConclusion where
  disposition : NativeWriteDisposition
  observationScope : Option ObservationScope
  reconciliationScope : Option ReconciliationScope
  deriving DecidableEq

/-- Attachment a controller sees. -/
def PersistedControllerAttachment.controller
    (attachment : PersistedControllerAttachment) : ControllerAttachment where
  attemptId := attachment.attemptId
  birthId := attachment.birthId
  armId := attachment.armId
  generation := attachment.generation
  seatId := attachment.seatId
  capability := attachment.capability
  leaseUntil := attachment.leaseUntil
  verifierRef := attachment.verifierRef

end Gearwit
