import Gearwit.Persist.Port

/-!
# Synthetic admissions

The admission constructor of the simulator covers its batch by a drain that is the
batch itself.  The module ends with the small sample attempts that fixed runs are
built from.
-/

namespace Gearwit

/-! ## Covered admissions -/

/-- First value of a nonempty list. -/
def BoundedVec.first {α : Type} {max : Nat} (values : BoundedVec α 1 max) : α :=
  values.asSlice.head (by
    intro empty
    have bounds := values.bounds
    rw [empty] at bounds
    simp at bounds)

/-- Last value of a nonempty list. -/
def BoundedVec.newest {α : Type} {max : Nat} (values : BoundedVec α 1 max) : α :=
  values.asSlice.getLast (by
    intro empty
    have bounds := values.bounds
    rw [empty] at bounds
    simp at bounds)

/-- Event references of a payload, with their bounds. -/
def BoundedClaimPayload.boundedRefs (payload : BoundedClaimPayload) :
    BoundedVec EventRef 1 64 where
  asSlice := payload.eventRefs
  bounds := by simpa [BoundedClaimPayload.eventRefs] using payload.events.bounds

/-- Scope of the declared drain. -/
def syntheticDrainScope : BoundedToken 64 := ⟨"fixture-drain", by decide⟩

/-- Drain that is the batch itself. -/
def syntheticDrainWitness (payload : BoundedClaimPayload)
    (eventRefs : BoundedVec EventRef 1 64) : ClaimDrainWitness where
  provider := payload.events.first.provider
  drainFilterScope := syntheticDrainScope
  eventRefs := eventRefs
  sourceEvidenceId := PrivateId.fixture 0x42

section Fixture

variable [Blake3]

/-- Coverage through the newest admitted event. -/
def syntheticClaimCoverage (requestId : ClaimRequestId) (armId : ArmId)
    (generation : UInt64) (signalId : SignalId)
    (eventRefs : BoundedVec EventRef 1 64) (payload : BoundedClaimPayload)
    (drain : ClaimDrainWitness) : ClaimCoverageEvidence where
  requestId := requestId
  armId := armId
  generation := generation
  signalId := signalId
  provider := payload.events.first.provider
  drainFilterScope := drain.drainFilterScope
  drainBaseline := drain.eventRefs.first
  eventBatchDigest := canonicalEventBatchDigest eventRefs
  coveredThrough := eventRefs.newest
  sourceEvidenceId := drain.sourceEvidenceId

/-- Covered admission of a batch. -/
def claimAdmissionFixture (requestId : ClaimRequestId) (armId : ArmId)
    (generation : UInt64) (signalId : SignalId) (payload : BoundedClaimPayload)
    (claimedAt : OffsetDateTime) : ClaimAdmission :=
  let eventRefs := payload.boundedRefs
  let drainWitness := syntheticDrainWitness payload eventRefs
  let coverage := syntheticClaimCoverage requestId armId generation signalId
    eventRefs payload drainWitness
  { requestId, armId, generation, signalId, eventRefs, payload, claimedAt
    claimDigest := canonicalClaimDigest requestId armId generation signalId
      eventRefs payload (some coverage) (some drainWitness)
    coverage := some coverage
    drainWitness := some drainWitness }

end Fixture

/-! ## Sample attempts -/

namespace Sample

/-- A hash for fixed runs: the bytes read as digits. -/
scoped instance digits : Blake3 where
  hash bytes := ⟨BitVec.ofNat 256 (bytes.foldl
    (fun digest byte => (digest * 257 + byte.toNat + 1) % 2 ^ 256) 0)⟩
  keyed key bytes := ⟨BitVec.ofNat 256 (bytes.foldl
    (fun digest byte => (digest * 257 + byte.toNat + 1) % 2 ^ 256) key.code.toNat)⟩

/-- A lease one second past the epoch. -/
def lease : OffsetDateTime := ⟨nanosPerSecond, by decide⟩

def seat : SeatId := ⟨"seat-a", by decide⟩
def signal : SignalId := ⟨"signal-a", by decide⟩
def provider : ProviderName := ⟨"provider-a", by decide⟩
def firstArm : ArmId := ⟨"arm-a", by decide⟩
def secondArm : ArmId := ⟨"arm-b", by decide⟩
def firstAttempt : AttemptId := ⟨"attempt-1", by decide⟩
def secondAttempt : AttemptId := ⟨"attempt-2", by decide⟩
def firstRequest : ClaimRequestId := ⟨"request-a", by decide⟩
def secondRequest : ClaimRequestId := ⟨"request-b", by decide⟩
def firstEvent : EventRef := ⟨"event-1", by decide⟩
def secondEvent : EventRef := ⟨"event-2", by decide⟩

/-- An arm of generation one. -/
def arm (armId : ArmId) : PersistedArm where
  armId := armId
  generation := 1
  seatId := seat
  capability := .handleClaimedSignal
  coverageUntil := lease

/-- A birth of an arm, identified by one byte. -/
def birth (armId : ArmId) (byte : UInt8) : PersistedControllerBirth where
  birthId := PrivateId.fixture byte
  seatId := seat
  armId := armId
  generation := 1
  capability := .handleClaimedSignal
  leaseUntil := lease
  verifierRef := PrivateId.fixture byte
  createdAt := OffsetDateTime.unixEpoch
  revoked := false

/-- The thread creation of a birth. -/
def create (byte : UInt8) : ThreadCreateReservation where
  birthId := PrivateId.fixture byte
  createAttemptId := PrivateId.fixture byte
  reservedAt := OffsetDateTime.unixEpoch

/-- An attachment of an attempt to a birth. -/
def attachment (attemptId : AttemptId) (armId : ArmId) (byte : UInt8) :
    PersistedControllerAttachment where
  attemptId := attemptId
  birthId := PrivateId.fixture byte
  seatId := seat
  armId := armId
  generation := 1
  capability := .handleClaimedSignal
  leaseUntil := lease
  verifierRef := PrivateId.fixture byte
  revoked := false

/-- An event without a body. -/
def event (eventRef : EventRef) : ProviderEventRecord where
  eventRef := eventRef
  provider := provider
  actor := none
  observedAt := OffsetDateTime.unixEpoch
  body := ⟨"", by decide⟩

/-- A batch of two events. -/
def batch (first second : EventRef) : BoundedClaimPayload where
  events := ⟨[event first, event second], by simp⟩
  aggregateBodyBytes := ⟨0, by decide⟩
  counted := rfl

/-- A covered admission of two events. -/
def admission [Blake3] (requestId : ClaimRequestId) (armId : ArmId)
    (first second : EventRef) : ClaimAdmission :=
  claimAdmissionFixture requestId armId 1 signal (batch first second)
    OffsetDateTime.unixEpoch

/-- Operations that open an attempt: arm, birth, admission. -/
def opens [Blake3] (requestId : ClaimRequestId) (armId : ArmId)
    (attemptId : AttemptId) (byte : UInt8) (first second : EventRef) : List PortOp :=
  [.persistArm (arm armId),
    .reserveControllerBirth (birth armId byte) (create byte),
    .admitClaim (admission requestId armId first second)
      (attachment attemptId armId byte) (some (PrivateId.fixture byte))]

/-- A grant for an attempt, identified by one byte. -/
def grant [Blake3] (requestId : ClaimRequestId) (armId : ArmId)
    (attemptId : AttemptId) (byte identity : UInt8) (first second : EventRef) :
    PersistedHelperGrant where
  grantVerifier := PrivateId.fixture identity
  grantRef := PrivateId.fixture identity
  seatId := seat
  armId := armId
  generation := 1
  birthId := PrivateId.fixture byte
  attemptId := attemptId
  signalId := signal
  claimDigest := (admission requestId armId first second).claimDigest
  operations := .all
  leaseUntil := lease
  executableIdentity :=
    ⟨PrivateId.fixture 1, ⟨"file-a", by decide⟩, ⟨"build-a", by decide⟩⟩
  revoked := false

end Sample

end Gearwit
