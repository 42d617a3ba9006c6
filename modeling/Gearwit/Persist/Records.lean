import Gearwit.Controller.Products

/-!
# Persisted records

The records the persistence port stores, the commits and scopes it accepts, and
the metadata snapshot recovery returns.  A claim payload carries the proof that
its byte count is the sum of its bodies; the operations of a helper binding carry
the proof that at least one of them is granted.
-/

namespace Gearwit

open Std

/-! ## Arms, claims and payloads -/

/-- Full arm policy required to reconstruct daemon authority. -/
structure PersistedArm where
  armId : ArmId
  generation : UInt64
  seatId : SeatId
  capability : ManagedCapability
  coverageUntil : OffsetDateTime
  deriving DecidableEq

/-- One validated provider event inside a claimed batch. -/
structure ProviderEventRecord where
  eventRef : EventRef
  provider : ProviderName
  actor : Option ActorName
  observedAt : OffsetDateTime
  body : BoundedBody 4096
  deriving DecidableEq

/-- Sum of the body lengths of a batch. -/
def aggregateBodyBytes (events : List ProviderEventRecord) : Nat :=
  (events.map fun event => event.body.text.utf8ByteSize).sum

/-- Immutable bounded private claim payload. -/
structure BoundedClaimPayload where
  events : BoundedVec ProviderEventRecord 1 64
  aggregateBodyBytes : BoundedUsize 0 131072
  counted : aggregateBodyBytes.get = Gearwit.aggregateBodyBytes events.asSlice
  deriving DecidableEq

/-- Checked constructor of a payload. -/
def BoundedClaimPayload.tryFrom (events : List ProviderEventRecord) :
    Except String BoundedClaimPayload :=
  if bounds : 1 ≤ events.length ∧ events.length ≤ 64 then
    if aggregate : 0 ≤ Gearwit.aggregateBodyBytes events ∧
        Gearwit.aggregateBodyBytes events ≤ 131072 then
      .ok ⟨⟨events, bounds⟩, ⟨Gearwit.aggregateBodyBytes events, aggregate⟩, rfl⟩
    else .error "value outside bounds"
  else .error "vector length outside bounds"

/-- References of the events of a payload, in order. -/
def BoundedClaimPayload.eventRefs (payload : BoundedClaimPayload) : List EventRef :=
  payload.events.asSlice.map ProviderEventRecord.eventRef

/-- Declared provider drain, in declared order. -/
structure ClaimDrainWitness where
  provider : ProviderName
  drainFilterScope : BoundedToken 64
  eventRefs : BoundedVec EventRef 1 64
  sourceEvidenceId : Bytes32
  deriving DecidableEq

/-- Sealed, bounded claim-coverage proof. -/
structure ClaimCoverageEvidence where
  requestId : ClaimRequestId
  armId : ArmId
  generation : UInt64
  signalId : SignalId
  provider : ProviderName
  drainFilterScope : BoundedToken 64
  drainBaseline : EventRef
  eventBatchDigest : Bytes32
  coveredThrough : EventRef
  sourceEvidenceId : Bytes32
  deriving DecidableEq

/-- Metadata-only claim record. -/
structure PersistedClaimRecord where
  attemptId : AttemptId
  requestId : ClaimRequestId
  armId : ArmId
  generation : UInt64
  signalId : SignalId
  eventRefs : BoundedVec EventRef 1 64
  claimDigest : ClaimDigest
  payloadRef : ClaimPayloadRef
  claimedAt : OffsetDateTime
  coverage : Option ClaimCoverageEvidence
  drainWitness : Option ClaimDrainWitness
  deriving DecidableEq

/-- Admission input. -/
structure ClaimAdmission where
  requestId : ClaimRequestId
  armId : ArmId
  generation : UInt64
  signalId : SignalId
  eventRefs : BoundedVec EventRef 1 64
  claimDigest : ClaimDigest
  payload : BoundedClaimPayload
  claimedAt : OffsetDateTime
  coverage : Option ClaimCoverageEvidence
  drainWitness : Option ClaimDrainWitness
  deriving DecidableEq

/-! ## Attachments, births and thread creation -/

/-- Durable attachment bound to one controller birth. -/
structure PersistedControllerAttachment where
  attemptId : AttemptId
  birthId : ControllerBirthId
  seatId : SeatId
  armId : ArmId
  generation : UInt64
  capability : ManagedCapability
  leaseUntil : OffsetDateTime
  verifierRef : VerifierRef
  revoked : Bool
  deriving DecidableEq

/-- One durable controller birth. -/
structure PersistedControllerBirth where
  birthId : ControllerBirthId
  seatId : SeatId
  armId : ArmId
  generation : UInt64
  capability : ManagedCapability
  leaseUntil : OffsetDateTime
  verifierRef : VerifierRef
  createdAt : OffsetDateTime
  revoked : Bool
  deriving DecidableEq

/-- Native thread creation reserved before any create write. -/
structure ThreadCreateReservation where
  birthId : ControllerBirthId
  createAttemptId : RequestNonce
  reservedAt : OffsetDateTime
  deriving DecidableEq

/-- Exact creation resolution.  Unknown remains quarantined. -/
inductive ThreadCreateResolution
  | owned (threadRef : PrivateNativeRef)
  | provenNotAccepted
  | unknown
  deriving DecidableEq

/-- Exact thread ownership state for a birth. -/
inductive ThreadOwnershipState
  | absent
  | reserved (createAttemptId : RequestNonce)
  | unknown (createAttemptId : RequestNonce)
  | provenNotAccepted (createAttemptId : RequestNonce)
  | owned (createAttemptId : RequestNonce) (threadRef : PrivateNativeRef)
  deriving DecidableEq

/-- State a resolution leads to. -/
def ThreadCreateResolution.state (createAttemptId : RequestNonce) :
    ThreadCreateResolution → ThreadOwnershipState
  | .owned threadRef => .owned createAttemptId threadRef
  | .provenNotAccepted => .provenNotAccepted createAttemptId
  | .unknown => .unknown createAttemptId

/-- Ownership row of a snapshot. -/
structure PersistedThreadOwnership where
  birthId : ControllerBirthId
  state : ThreadOwnershipState
  deriving DecidableEq

/-- Sealed commit that resolves a thread creation. -/
structure ThreadCreateCommit where
  birthId : ControllerBirthId
  createAttemptId : RequestNonce
  resolution : ThreadCreateResolution
  evidenceRef : VerifierRef
  deriving DecidableEq

/-! ## Native conclusions, evidence and facts -/

/-- Durable zero-write conclusion before native acceptance. -/
inductive PreWriteConclusion
  | heldBeforeNativeWrite (activeEvidenceRef : ActiveObservationEvidenceRef)
  | idleStateUnproven
  | idleEpochInvalidated
      (probeId : RequestNonce)
      (expectedEpoch observedEpoch : NativeMutationEpoch)
  deriving DecidableEq

/-- Pre-write conclusions expressible without an active observation. -/
inductive NonActivePreWriteConclusion
  | idleStateUnproven
  | idleEpochInvalidated
      (probeId : RequestNonce)
      (expectedEpoch observedEpoch : NativeMutationEpoch)
  deriving DecidableEq

/-- The conclusion as the store records it. -/
def NonActivePreWriteConclusion.into :
    NonActivePreWriteConclusion → PreWriteConclusion
  | .idleStateUnproven => .idleStateUnproven
  | .idleEpochInvalidated probeId expectedEpoch observedEpoch =>
      .idleEpochInvalidated probeId expectedEpoch observedEpoch

/-- Evidence behind a hold. -/
structure PersistedActiveObservationEvidence where
  evidenceRef : ActiveObservationEvidenceRef
  birthId : ControllerBirthId
  createAttemptId : RequestNonce
  seatId : SeatId
  armId : ArmId
  generation : UInt64
  capability : ManagedCapability
  attachmentVerifierRef : VerifierRef
  leaseUntil : OffsetDateTime
  attemptId : AttemptId
  signalId : SignalId
  probeId : RequestNonce
  mutationEpoch : NativeMutationEpoch
  observedAt : OffsetDateTime
  fingerprint : ActiveObservationFingerprint
  producerVersion : ProducerLabel
  producerDialect : ProducerLabel
  deriving DecidableEq

/-- Stored pre-write conclusion. -/
structure PersistedPreWriteConclusion where
  attemptId : AttemptId
  signalId : SignalId
  conclusion : PreWriteConclusion
  recordedAt : OffsetDateTime
  deriving DecidableEq

/-- Durable native boundary evidence. -/
inductive NativeWriteEvidence
  | provenNotAccepted
  | writerAccepted (writeId : RequestNonce)
  | exactResponse (fact : NativeTurnFact)
  | unknown
  deriving DecidableEq

/-- Sealed commit of a prepared dispatch. -/
structure PreparedDispatchCommit where
  correlation : PersistedTurnCorrelation
  deriving DecidableEq

/-- Sealed commit of a pre-write conclusion. -/
structure PreWriteConclusionCommit where
  attemptId : AttemptId
  signalId : SignalId
  conclusion : NonActivePreWriteConclusion
  recordedAt : OffsetDateTime
  deriving DecidableEq

/-- Sealed commit of an active hold. -/
structure ActiveHoldCommit where
  proof : ActiveObservationProof
  deriving DecidableEq

/-- Sealed commit of native write evidence. -/
structure NativeWriteEvidenceCommit where
  correlation : PersistedTurnCorrelation
  evidence : NativeWriteEvidence
  evidenceRef : VerifierRef
  deriving DecidableEq

/-- Sealed commit of a native turn fact. -/
structure NativeTurnFactCommit where
  correlation : PersistedTurnCorrelation
  fact : NativeTurnFact
  evidenceRef : VerifierRef
  deriving DecidableEq

/-- Durable native-write reservation. -/
structure PersistedNativeReservation where
  correlation : PersistedTurnCorrelation
  probeId : RequestNonce
  expectedEpoch : NativeMutationEpoch
  concluded : Bool
  deriving DecidableEq

/-- Write evidence row of a snapshot. -/
structure PersistedNativeWriteEvidence where
  correlation : PersistedTurnCorrelation
  evidence : NativeWriteEvidence
  evidenceRef : VerifierRef
  deriving DecidableEq

/-- Turn fact row of a snapshot. -/
structure PersistedNativeTurnFacts where
  attemptId : AttemptId
  facts : List NativeTurnFact
  deriving DecidableEq

/-- Reconciliation row of a snapshot. -/
structure PersistedReconciliation where
  attemptId : AttemptId
  disposition : ReconciliationDisposition
  deriving DecidableEq

/-! ## Helper grants and exchanges -/

/-- Sealed scope of an attachment revocation. -/
structure ValidatedAttachmentScope where
  attemptId : AttemptId
  birthId : ControllerBirthId
  armId : ArmId
  generation : UInt64
  verifierRef : VerifierRef
  deriving DecidableEq

/-- Closed helper operation set. -/
inductive HelperOperation
  | retrieve
  | acknowledge
  deriving DecidableEq, Repr

/-- Operations granted to one helper binding; never none of them. -/
structure HelperOperations where
  retrieve : Bool
  acknowledge : Bool
  granted : (retrieve || acknowledge) = true
  deriving DecidableEq

namespace HelperOperations

/-- Retrieve and acknowledge. -/
def all : HelperOperations := ⟨true, true, rfl⟩

/-- Retrieve alone. -/
def retrieveOnly : HelperOperations := ⟨true, false, rfl⟩

/-- Acknowledge alone. -/
def acknowledgeOnly : HelperOperations := ⟨false, true, rfl⟩

/-- Whether an operation is granted. -/
def allows (operations : HelperOperations) : HelperOperation → Bool
  | .retrieve => operations.retrieve
  | .acknowledge => operations.acknowledge

/-- The three constructors are the only operation sets. -/
theorem eq_all_or_retrieveOnly_or_acknowledgeOnly (operations : HelperOperations) :
    operations = all ∨ operations = retrieveOnly ∨ operations = acknowledgeOnly := by
  obtain ⟨retrieve, acknowledge, granted⟩ := operations
  cases retrieve <;> cases acknowledge
  · exact absurd granted (by decide)
  · exact .inr (.inr rfl)
  · exact .inr (.inl rfl)
  · exact .inl rfl

end HelperOperations

/-- Reviewed helper executable identity bound at grant mint. -/
structure HelperExecutableIdentity where
  imageDigest : Bytes32
  fileIdentity : BoundedToken 256
  buildIdentity : BoundedToken 256
  deriving DecidableEq

/-- Durable helper-grant verifier record. -/
structure PersistedHelperGrant where
  grantVerifier : Bytes32
  grantRef : VerifierRef
  seatId : SeatId
  armId : ArmId
  generation : UInt64
  birthId : ControllerBirthId
  attemptId : AttemptId
  signalId : SignalId
  claimDigest : ClaimDigest
  operations : HelperOperations
  leaseUntil : OffsetDateTime
  executableIdentity : HelperExecutableIdentity
  revoked : Bool
  deriving DecidableEq

/-- Retired grant identity. -/
structure PersistedRetiredGrant where
  grantRef : VerifierRef
  grantVerifier : Bytes32
  deriving DecidableEq

/-- Validated live helper binding. -/
structure ValidatedHelperBinding where
  grantRef : VerifierRef
  seatId : SeatId
  armId : ArmId
  generation : UInt64
  birthId : ControllerBirthId
  attemptId : AttemptId
  signalId : SignalId
  claimDigest : ClaimDigest
  operations : HelperOperations
  leaseUntil : OffsetDateTime
  deriving DecidableEq

/-- Historical originating helper binding. -/
structure PersistedHelperBindingIdentity where
  grantRef : VerifierRef
  seatId : SeatId
  armId : ArmId
  generation : UInt64
  birthId : ControllerBirthId
  attemptId : AttemptId
  signalId : SignalId
  claimDigest : ClaimDigest
  operations : HelperOperations
  leaseUntil : OffsetDateTime
  deriving DecidableEq

/-- One retrieve call. -/
structure RetrieveExchange where
  binding : ValidatedHelperBinding
  requestId : RequestNonce
  canonicalBodyDigest : CanonicalBodyDigest
  deriving DecidableEq

/-- Content-free recorded retrieve result. -/
structure RecordedRetrieveResult where
  retrievalId : RetrievalId
  claimPayloadRef : ClaimPayloadRef
  newestEventRef : EventRef
  eventCount : UInt8
  retrievedAt : OffsetDateTime
  deriving DecidableEq

/-- Provenance of a materialization permit. -/
inductive PermitProvenance
  | fresh
  | exactReplay
  deriving DecidableEq, Repr

/-- Permit minted only after store validation. -/
structure ClaimMaterializationPermit where
  grantRef : VerifierRef
  bindingDigest : Bytes32
  requestId : RequestNonce
  retrievalId : RetrievalId
  claimDigest : ClaimDigest
  payloadRef : ClaimPayloadRef
  provenance : PermitProvenance
  deriving DecidableEq

/-- Recorded retrieve metadata paired with a permit. -/
structure AuthorizedRetrieve where
  recorded : RecordedRetrieveResult
  permit : ClaimMaterializationPermit
  deriving DecidableEq

/-- One acknowledge call over an exact prior retrieval. -/
structure AcknowledgeRequest where
  requestId : RequestNonce
  retrievalId : RetrievalId
  cursor : EventRef
  canonicalBodyDigest : CanonicalBodyDigest
  deriving DecidableEq

/-- Content-free recorded acknowledgment. -/
structure AcknowledgeResult where
  attemptId : AttemptId
  signalId : SignalId
  cursor : EventRef
  acceptedAt : OffsetDateTime
  deriving DecidableEq

/-- Sealed grant, controller and attempt binding for grant revocation. -/
structure HelperRevocationScope where
  grantRef : VerifierRef
  birthId : ControllerBirthId
  attemptId : AttemptId
  deriving DecidableEq

/-- Sealed complete binding for the re-arm join. -/
structure RearmJoinScope where
  armId : ArmId
  generation : UInt64
  attemptId : AttemptId
  signalId : SignalId
  deriving DecidableEq

/-- Re-arm join outcome. -/
inductive RearmJoinResult
  | rearmed
  | alreadyRearmed
  | waitingForHandled
  | waitingForRecognizedTerminal
  deriving DecidableEq, Repr

/-- Content-free persisted retrieve replay metadata. -/
structure PersistedRetrieveReplay where
  requestId : RequestNonce
  bindingDigest : Bytes32
  origin : PersistedHelperBindingIdentity
  canonicalBodyDigest : CanonicalBodyDigest
  result : RecordedRetrieveResult
  deriving DecidableEq

/-- Content-free persisted acknowledge replay metadata. -/
structure PersistedAckReplay where
  requestId : RequestNonce
  bindingDigest : Bytes32
  canonicalBodyDigest : CanonicalBodyDigest
  retrievalId : RetrievalId
  cursor : EventRef
  result : AcknowledgeResult
  deriving DecidableEq

/-- Content-free retrieval index row. -/
structure PersistedRetrievalRecord where
  retrievalId : RetrievalId
  bindingDigest : Bytes32
  origin : PersistedHelperBindingIdentity
  result : RecordedRetrieveResult
  deriving DecidableEq

/-- Durable handled coverage for one attempt. -/
structure PersistedHandledCoverage where
  attemptId : AttemptId
  signalId : SignalId
  cursor : EventRef
  coveredThroughNewest : Bool
  deriving DecidableEq

/-- Durable re-arm join position. -/
structure PersistedRearmJoin where
  armId : ArmId
  generation : UInt64
  attemptId : AttemptId
  signalId : SignalId
  deriving DecidableEq

namespace PersistedRearmJoin

/-- Join positions are ordered like the tuples of their fields. -/
def order : PersistedRearmJoin → PersistedRearmJoin → Ordering :=
  compareLex (compareOn armId) <| compareLex (compareOn generation) <|
    compareLex (compareOn attemptId) (compareOn signalId)

instance : Ord PersistedRearmJoin := ⟨order⟩

instance : TransOrd PersistedRearmJoin :=
  inferInstanceAs (TransCmp (compareLex (compareOn armId) <|
    compareLex (compareOn generation) <|
      compareLex (compareOn attemptId) (compareOn signalId)))

instance : LawfulEqOrd PersistedRearmJoin where
  eq_of_compare {left right} equal := by
    have fields : (compareOn armId left right = .eq ∧ compareOn generation left right = .eq) ∧
        compareOn attemptId left right = .eq ∧ compareOn signalId left right = .eq := by
      have unfolded : order left right = .eq := equal
      simpa [order, compareLex, Ordering.then_eq_eq, and_assoc] using unfolded
    cases left
    cases right
    simp_all [compareOn]

end PersistedRearmJoin

/-- Row named by a join scope. -/
def RearmJoinScope.join (scope : RearmJoinScope) : PersistedRearmJoin where
  armId := scope.armId
  generation := scope.generation
  attemptId := scope.attemptId
  signalId := scope.signalId

/-! ## Outcomes, errors and the recovery snapshot -/

/-- Semantic operation result. -/
inductive IdempotentWrite
  | recorded
  | exactReplay
  deriving DecidableEq, Repr

/-- Idempotent operation result carrying the recorded value. -/
inductive IdempotentResult (α : Type)
  | recorded (value : α)
  | exactReplay (value : α)
  deriving DecidableEq

/-- Outcome of a birth reservation. -/
inductive ReserveBirthOutcome
  | reserved
  | exactReplay
  | conflict
  deriving DecidableEq, Repr

/-- Outcome of a claim admission. -/
inductive AdmissionOutcome
  | admitted
  | exactReplay
  deriving DecidableEq, Repr

/-- Result of a claim admission. -/
structure AdmissionRecord where
  outcome : AdmissionOutcome
  attemptId : AttemptId
  verifierRef : VerifierRef
  payloadRef : ClaimPayloadRef
  deriving DecidableEq

/-- Refusals of the persistence port. -/
inductive PersistError
  | conflict
  | invalidTransition
  | unauthorized
  | payloadUnavailable
  | storageUnavailable
  deriving DecidableEq, Repr

/-- General recovery state: authority metadata only. -/
structure RecoverySnapshot where
  arms : List PersistedArm
  claims : List PersistedClaimRecord
  attachments : List PersistedControllerAttachment
  controllerBirths : List PersistedControllerBirth
  ownership : List PersistedThreadOwnership
  turnCorrelations : List PersistedTurnCorrelation
  reservations : List PersistedNativeReservation
  nativeWriteEvidence : List PersistedNativeWriteEvidence
  nativeTurnFacts : List PersistedNativeTurnFacts
  reconciliations : List PersistedReconciliation
  prewriteConclusions : List PersistedPreWriteConclusion
  activeObservations : List PersistedActiveObservationEvidence
  helperGrants : List PersistedHelperGrant
  retiredHelperGrants : List PersistedRetiredGrant
  retrieveReplays : List PersistedRetrieveReplay
  retrievalBindings : List PersistedRetrievalRecord
  ackReplays : List PersistedAckReplay
  handledCoverage : List PersistedHandledCoverage
  rearmedJoins : List PersistedRearmJoin
  attemptSeq : UInt64
  deriving DecidableEq

end Gearwit
