import Gearwit.Authority.Followup
import Gearwit.Persist.Port

/-!
# The daemon authority

The single-writer authority over a persistence port: an in-memory image of arms,
births, ownership, claims and attachments, and the operations that turn requests
and controller answers into store calls.  Random values are arguments in the
order they are drawn, absent when the entropy source fails.  Every operation
returns the next authority also when it refuses, because an earlier store call of
the same operation may have gone through.
-/

namespace Gearwit

/-- How long an idle permit and a probe observation stay usable. -/
def idlePermitWindow : Nat := 5000000000

/-- Single-writer authority over a store. -/
structure DaemonAuthority (P : Type) where
  persist : P
  arms : BTreeMap ArmId PersistedArm
  births : BTreeMap ControllerBirthId PersistedControllerBirth
  ownership : BTreeMap ControllerBirthId ThreadOwnershipState
  claims : BTreeMap AttemptId PersistedClaimRecord
  attachments : BTreeMap AttemptId PersistedControllerAttachment
  attemptSeq : UInt64
  now : OffsetDateTime

namespace DaemonAuthority

variable {P : Type}

/-- A fresh authority with an empty image. -/
def new (persist : P) (now : OffsetDateTime) : DaemonAuthority P where
  persist := persist
  arms := ∅
  births := ∅
  ownership := ∅
  claims := ∅
  attachments := ∅
  attemptSeq := 0
  now := now

/-- Move the clock. -/
def setNow (now : OffsetDateTime) (authority : DaemonAuthority P) :
    DaemonAuthority P :=
  { authority with now := now }

/-- One store call; a refusal becomes an authority error. -/
def call {α : Type} (authority : DaemonAuthority P)
    (operation : P → Except PersistError α × P) :
    Except AuthorityError α × DaemonAuthority P :=
  match operation authority.persist with
  | (.error refusal, persist) =>
      (.error (.fromPersist refusal), { authority with persist := persist })
  | (.ok value, persist) => (.ok value, { authority with persist := persist })

/-! ## Validation -/

/-- Whether an attachment is the current one of a live birth and arm. -/
def validateAttachment (authority : DaemonAuthority P)
    (attachment : PersistedControllerAttachment) : Except AuthorityError Unit :=
  match authority.attachments[attachment.attemptId]? with
  | none => .error .unauthorized
  | some current =>
  match authority.births[attachment.birthId]? with
  | none => .error .unauthorized
  | some birth =>
  match authority.arms[attachment.armId]? with
  | none => .error .unknownArm
  | some arm =>
      if current ≠ attachment ∨ current.revoked = true ∨ attachment.revoked = true ∨
          birth.revoked = true ∨ attachment.leaseUntil ≤ authority.now ∨
          birth.leaseUntil ≤ authority.now ∨ attachment.seatId ≠ birth.seatId ∨
          attachment.armId ≠ birth.armId ∨
          attachment.generation ≠ birth.generation ∨
          attachment.generation ≠ arm.generation ∨
          attachment.capability ≠ .handleClaimedSignal then
        .error .unauthorized
      else .ok ()

/-- Whether an observation came after now or is too old. -/
def observationStale (authority : DaemonAuthority P) (observedAt : OffsetDateTime) :
    Bool :=
  decide (authority.now < observedAt) ||
    decide ((idlePermitWindow : Int) ≤ authority.now.since observedAt)

/-- Whether a probe answer is bound to a prepared dispatch. -/
def validateProbeBinding (authority : DaemonAuthority P) (prepared : PreparedDispatch)
    (binding : ProbeBinding) (probeId : RequestNonce) (observedAt : OffsetDateTime) :
    Except AuthorityError Unit :=
  if binding.attachment.attemptId ≠ prepared.correlation.attemptId ∨
      binding.signalId ≠ prepared.correlation.signalId ∨
      binding.attachment.birthId ≠ prepared.correlation.birthId ∨
      binding.threadRef ≠ prepared.correlation.threadRef ∨
      binding.challengeId ≠ prepared.expectedProbeId ∨
      probeId ≠ prepared.expectedProbeId ∨
      binding.attachment.armId ≠ prepared.attachment.armId ∨
      binding.attachment.generation ≠ prepared.attachment.generation ∨
      binding.attachment.seatId ≠ prepared.attachment.seatId ∨
      binding.attachment.capability ≠ prepared.attachment.capability ∨
      binding.attachment.leaseUntil ≠ prepared.attachment.leaseUntil ∨
      binding.attachment.verifierRef ≠ prepared.attachment.verifierRef ∨
      authority.observationStale observedAt = true then
    .error .unauthorized
  else .ok ()

/-- Whether an active proof is bound to a prepared dispatch and an owned thread. -/
def validateActiveProof (authority : DaemonAuthority P) (prepared : PreparedDispatch)
    (proof : ActiveObservationProof) : Except AuthorityError Unit :=
  match authority.ownership[proof.birthId]? with
  | none => .error .unauthorized
  | some owned =>
      if proof.attemptId ≠ prepared.correlation.attemptId ∨
          proof.signalId ≠ prepared.correlation.signalId ∨
          proof.birthId ≠ prepared.correlation.birthId ∨
          proof.threadRef ≠ prepared.correlation.threadRef ∨
          proof.probeId ≠ prepared.expectedProbeId ∨
          proof.seatId ≠ prepared.attachment.seatId ∨
          proof.armId ≠ prepared.attachment.armId ∨
          proof.generation ≠ prepared.attachment.generation ∨
          proof.capability ≠ prepared.attachment.capability ∨
          proof.attachmentVerifierRef ≠ prepared.attachment.verifierRef ∨
          proof.leaseUntil ≠ prepared.attachment.leaseUntil ∨
          proof.mutationEpoch.birthId ≠ proof.birthId ∨
          authority.observationStale proof.observedAt = true ∨
          proof.leaseUntil ≤ authority.now ∨
          proof.producerVersion ≠ FakePersist.heldProducerVersion ∨
          proof.producerDialect ≠ FakePersist.heldProducerDialect ∨
          owned ≠ .owned proof.createAttemptId proof.threadRef then
        .error .unauthorized
      else .ok ()

/-- An active proof that passes names the attempt of its dispatch. -/
theorem validateActiveProof_ok {authority : DaemonAuthority P}
    {prepared : PreparedDispatch} {proof : ActiveObservationProof}
    (valid : authority.validateActiveProof prepared proof = .ok ()) :
    proof.attemptId = prepared.correlation.attemptId := by
  unfold validateActiveProof at valid
  split at valid
  · cases valid
  split at valid
  · cases valid
  next bound =>
  simp only [not_or, not_not] at bound
  exact bound.1

section Port

variable [Persist P]

/-! ## Arms and births -/

/-- Register a managed arm. -/
def registerManagedArm (arm : ManagedArmRegistration) (authority : DaemonAuthority P) :
    Except AuthorityError Unit × DaemonAuthority P :=
  match SafeToken.new arm.armId with
  | .error _ => (.error .invalidIdentifier, authority)
  | .ok armId =>
  match SafeToken.new arm.seatId with
  | .error _ => (.error .invalidIdentifier, authority)
  | .ok seatId =>
  let record : PersistedArm :=
    ⟨armId, arm.generation, seatId, .handleClaimedSignal, arm.coverageUntil⟩
  match authority.call (Persist.persistArm record) with
  | (.error refusal, authority) => (.error refusal, authority)
  | (.ok (), authority) =>
      (.ok (), { authority with arms := authority.arms.insert armId record })

/-- Birth of an arm's generation. -/
def birthRow (authority : DaemonAuthority P) (arm : PersistedArm)
    (birthId : ControllerBirthId) (verifierRef : VerifierRef) :
    PersistedControllerBirth where
  birthId := birthId
  seatId := arm.seatId
  armId := arm.armId
  generation := arm.generation
  capability := arm.capability
  leaseUntil := arm.coverageUntil
  verifierRef := verifierRef
  createdAt := authority.now
  revoked := false

/-- Controller half of a birth. -/
def birthBinding (birth : PersistedControllerBirth) : ControllerBirthBinding where
  birthId := birth.birthId
  seatId := birth.seatId
  armId := birth.armId
  generation := birth.generation
  capability := birth.capability
  leaseUntil := birth.leaseUntil
  verifierRef := birth.verifierRef

/-- Reserve a controller birth and its sole native create. -/
def reserveControllerBirth (armText : String) (birthDraw : Option ControllerBirthId)
    (createDraw : Option RequestNonce) (verifierDraw : Option VerifierRef)
    (authority : DaemonAuthority P) :
    Except AuthorityError ControllerBirthReservation × DaemonAuthority P :=
  match SafeToken.new armText with
  | .error _ => (.error .invalidIdentifier, authority)
  | .ok armId =>
  match authority.arms[(armId : ArmId)]? with
  | none => (.error .unknownArm, authority)
  | some arm =>
  if arm.coverageUntil ≤ authority.now then (.error .unauthorized, authority)
  else if (BTreeMap.rows authority.births).any fun birth =>
      decide (birth.armId = armId ∧ birth.generation = arm.generation) then
    (.error .conflict, authority)
  else
  match birthDraw, createDraw, verifierDraw with
  | some birthId, some createAttemptId, some verifierRef =>
      let birth := authority.birthRow arm birthId verifierRef
      match authority.call (Persist.reserveControllerBirth birth
          ⟨birthId, createAttemptId, authority.now⟩) with
      | (.error refusal, authority) => (.error refusal, authority)
      | (.ok .reserved, authority) =>
          (.ok ⟨birthBinding birth, createAttemptId⟩, { authority with
            births := authority.births.insert birthId birth
            ownership :=
              authority.ownership.insert birthId (.reserved createAttemptId) })
      | (.ok _, authority) => (.error .conflict, authority)
  | _, _, _ => (.error .entropy, authority)

/-- Resolve a creation in the store and refresh the ownership image. -/
def resolveCreate (birthId : ControllerBirthId) (createAttemptId : RequestNonce)
    (resolution : ThreadCreateResolution) (evidenceDraw : Option VerifierRef)
    (authority : DaemonAuthority P) :
    Except AuthorityError IdempotentWrite × DaemonAuthority P :=
  match evidenceDraw with
  | none => (.error .entropy, authority)
  | some evidenceRef =>
  match authority.call (Persist.resolveThreadCreate
      ⟨birthId, createAttemptId, resolution, evidenceRef⟩) with
  | (.error refusal, authority) => (.error refusal, authority)
  | (.ok result, authority) =>
  match authority.call (fun store =>
      (Persist.threadOwnershipState birthId store, store)) with
  | (.error refusal, authority) => (.error refusal, authority)
  | (.ok state, authority) =>
      (.ok result, { authority with
        ownership := authority.ownership.insert birthId state })

/-- Resolve only the exact reserved create.  Unknown never causes a resend. -/
def resolveThreadCreate (reservation : ControllerBirthReservation)
    (resolution : ThreadCreateResolution) (evidenceDraw : Option VerifierRef)
    (authority : DaemonAuthority P) :
    Except AuthorityError CreateResolution × DaemonAuthority P :=
  match authority.resolveCreate reservation.binding.birthId
      reservation.createAttemptId resolution evidenceDraw with
  | (.error refusal, authority) => (.error refusal, authority)
  | (.ok result, authority) =>
      if resolution = .unknown then
        (.ok (.unknown result
          ⟨reservation.binding.birthId, reservation.createAttemptId⟩), authority)
      else (.ok (.final result), authority)

/-- Resolve a quarantined create; unknown stays quarantined. -/
def resolveQuarantinedThreadCreate (reservation : QuarantinedBirthReservation)
    (resolution : ThreadCreateResolution) (evidenceDraw : Option VerifierRef)
    (authority : DaemonAuthority P) :
    Except AuthorityError IdempotentWrite × DaemonAuthority P :=
  if resolution = .unknown then (.error .conflict, authority)
  else
    authority.resolveCreate reservation.birthId reservation.createAttemptId resolution
      evidenceDraw

/-! ## Admission -/

/-- Whether a birth can carry a claim of an arm. -/
def birthOwned (authority : DaemonAuthority P) (armId : ArmId) (arm : PersistedArm)
    (entry : ControllerBirthId × PersistedControllerBirth) : Bool :=
  decide (entry.2.armId = armId ∧ entry.2.generation = arm.generation ∧
    entry.2.revoked = false ∧ authority.now < entry.2.leaseUntil) &&
  (match authority.ownership[entry.1]? with
    | some (.owned _ _) => true
    | _ => false)

/-- Text of the attempt a counter names. -/
def attemptText (attemptSeq : UInt64) : String :=
  "attempt-" ++ toString attemptSeq.toNat

/-- Attachment of a fresh attempt. -/
def attachmentRow (arm : PersistedArm) (attemptId : AttemptId)
    (birthId : ControllerBirthId) (verifierRef : VerifierRef) :
    PersistedControllerAttachment where
  attemptId := attemptId
  birthId := birthId
  seatId := arm.seatId
  armId := arm.armId
  generation := arm.generation
  capability := .handleClaimedSignal
  leaseUntil := arm.coverageUntil
  verifierRef := verifierRef
  revoked := false

/-- Admission of a batch under an arm, without coverage. -/
def uncoveredAdmission [Blake3] (authority : DaemonAuthority P) (arm : PersistedArm)
    (requestId : ClaimRequestId) (signalId : SignalId)
    (eventRefs : BoundedVec EventRef 1 64) (payload : BoundedClaimPayload) :
    ClaimAdmission where
  requestId := requestId
  armId := arm.armId
  generation := arm.generation
  signalId := signalId
  eventRefs := eventRefs
  claimDigest := canonicalClaimDigest requestId arm.armId arm.generation signalId
    eventRefs payload none none
  payload := payload
  claimedAt := authority.now
  coverage := none
  drainWitness := none

/-- Admit a claim for the owned controller of its arm. -/
def admitClaim [Blake3] [Rfc3339] (request : ClaimRequest)
    (verifierDraw : Option VerifierRef) (payloadDraw : Option ClaimPayloadRef)
    (authority : DaemonAuthority P) :
    Except AuthorityError AdmissionResult × DaemonAuthority P :=
  match validatedClaimPayload request.events with
  | .error refusal => (.error refusal, authority)
  | .ok (eventRefs, payload) =>
  match SafeToken.new request.armId with
  | .error _ => (.error .invalidIdentifier, authority)
  | .ok armId =>
  match authority.arms[(armId : ArmId)]? with
  | none => (.error .unknownArm, authority)
  | some arm =>
  match authority.births.toList.find? (authority.birthOwned armId arm) with
  | none => (.error .noOwnedController, authority)
  | some (birthId, _) =>
  match SafeToken.new request.requestId with
  | .error _ => (.error .invalidIdentifier, authority)
  | .ok requestId =>
  match SafeToken.new request.signalId with
  | .error _ => (.error .invalidIdentifier, authority)
  | .ok signalId =>
  if authority.attemptSeq.toNat = UInt64.size - 1 then (.error .conflict, authority)
  else
  match SafeToken.new (attemptText (authority.attemptSeq + 1)) with
  | .error _ => (.error .invalidIdentifier, authority)
  | .ok attemptId =>
  match verifierDraw with
  | none => (.error .entropy, authority)
  | some verifierRef =>
  let attachment := attachmentRow arm attemptId birthId verifierRef
  let admission := authority.uncoveredAdmission arm requestId signalId eventRefs payload
  match authority.call (Persist.admitClaim admission attachment payloadDraw) with
  | (.error refusal, authority) => (.error refusal, authority)
  | (.ok record, authority) =>
      if record.outcome = .exactReplay then
        (.ok ⟨record.outcome, record.attemptId.text, none⟩, authority)
      else
        (.ok ⟨.admitted, attemptId.text, some ⟨attemptId⟩⟩, { authority with
          attemptSeq := authority.attemptSeq + 1
          claims := authority.claims.insert attemptId
            (FakePersist.claimRecord admission attemptId record.payloadRef)
          attachments := authority.attachments.insert attemptId attachment })

/-! ## Dispatch -/

/-- Thread of an owned state. -/
def ownedThread : Option ThreadOwnershipState → Option PrivateNativeRef
  | some (.owned _ threadRef) => some threadRef
  | _ => none

/-- Record a dispatch and return the exact probe scope. -/
def prepareHandleClaimedSignal (receipt : AdmissionReceipt)
    (writeDraw probeDraw : Option RequestNonce) (authority : DaemonAuthority P) :
    Except AuthorityError (PreparedDispatch × IdleProbeScope) × DaemonAuthority P :=
  match authority.claims[receipt.attemptId]? with
  | none => (.error .conflict, authority)
  | some claim =>
  match authority.attachments[receipt.attemptId]? with
  | none => (.error .unauthorized, authority)
  | some attachment =>
  match authority.validateAttachment attachment with
  | .error refusal => (.error refusal, authority)
  | .ok () =>
  match ownedThread authority.ownership[attachment.birthId]? with
  | none => (.error .noOwnedController, authority)
  | some threadRef =>
  match writeDraw with
  | none => (.error .entropy, authority)
  | some turnWriteId =>
  let correlation : PersistedTurnCorrelation :=
    ⟨receipt.attemptId, claim.signalId, attachment.birthId, threadRef, turnWriteId, none⟩
  match authority.call (Persist.recordDispatchPrepared ⟨correlation⟩) with
  | (.error refusal, authority) => (.error refusal, authority)
  | (.ok _, authority) =>
  match probeDraw with
  | none => (.error .entropy, authority)
  | some expectedProbeId =>
      (.ok (⟨attachment, correlation, expectedProbeId⟩,
        ⟨⟨attachment.controller, correlation.signalId, threadRef, expectedProbeId⟩⟩),
        authority)

/-- Permit of an idle probe. -/
def idlePermit (prepared : PreparedDispatch) (probeId : RequestNonce)
    (epoch : NativeMutationEpoch) (observedAt : OffsetDateTime) :
    ValidatedIdlePermit where
  attemptId := prepared.correlation.attemptId
  signalId := prepared.correlation.signalId
  birthId := prepared.correlation.birthId
  threadRef := prepared.correlation.threadRef
  armId := prepared.attachment.armId
  generation := prepared.attachment.generation
  capability := prepared.attachment.capability
  verifierRef := prepared.attachment.verifierRef
  mutationEpoch := epoch
  probeId := probeId
  observedAt := observedAt
  validUntil := (observedAt.addNanos idlePermitWindow).min
    prepared.attachment.leaseUntil

/-- Validate an exact probe.  Active and unproven answers only record zero-write
conclusions and never construct a command. -/
def authorizeProbe (prepared : PreparedDispatch)
    (result : Except ControllerProbeError IdleProbeResult)
    (authority : DaemonAuthority P) :
    Except AuthorityError ProbeAuthorization × DaemonAuthority P :=
  match authority.validateAttachment prepared.attachment with
  | .error refusal => (.error refusal, authority)
  | .ok () =>
  match result with
  | .error error => (.error (.controllerProbe error), authority)
  | .ok (.active proof) =>
      match authority.validateActiveProof prepared proof with
      | .error refusal => (.error refusal, authority)
      | .ok () =>
      match authority.call (Persist.recordActiveHold ⟨proof⟩) with
      | (.error refusal, authority) => (.error refusal, authority)
      | (.ok _, authority) => (.ok .heldBeforeNativeWrite, authority)
  | .ok (.unproven (.unproven binding probeId observedAt)) =>
      match authority.validateProbeBinding prepared binding probeId observedAt with
      | .error refusal => (.error refusal, authority)
      | .ok () =>
      match authority.call (Persist.recordPrewriteConclusion
          ⟨prepared.correlation.attemptId, prepared.correlation.signalId,
            .idleStateUnproven, observedAt⟩) with
      | (.error refusal, authority) => (.error refusal, authority)
      | (.ok _, authority) => (.ok .idleStateUnproven, authority)
  | .ok (.idle (.idle binding probeId epoch observedAt) lane) =>
      match authority.validateProbeBinding prepared binding probeId observedAt with
      | .error refusal => (.error refusal, authority)
      | .ok () =>
      if lane.probeId ≠ probeId ∨ lane.epoch ≠ epoch ∨
          epoch.birthId ≠ prepared.correlation.birthId then
        (.error .unauthorized, authority)
      else
      match authority.call (Persist.reserveNativeTurnWrite
          (idlePermit prepared probeId epoch observedAt) prepared.correlation) with
      | (.error refusal, authority) => (.error refusal, authority)
      | (.ok reservation, authority) =>
          (.ok (.ready ⟨prepared, lane, .fromReservation
            prepared.attachment.controller ⟨prepared.correlation.signalId⟩
            reservation⟩), authority)
  | .ok (.unproven (.idle _ _ _ _)) => (.error .unauthorized, authority)
  | .ok (.idle (.unproven _ _ _) _) => (.error .unauthorized, authority)

/-! ## Conclusion of a write -/

/-- Evidence of a disposition that crossed the write boundary. -/
def writeEvidenceOf (correlation : PersistedTurnCorrelation) :
    NativeWriteDisposition → Option NativeWriteEvidence
  | .provenNotAccepted => some .provenNotAccepted
  | .accepted _ => some (.writerAccepted correlation.turnWriteId)
  | .exactResponse fact => some (.exactResponse fact)
  | .unknown => some .unknown
  | .idleEpochInvalidated _ _ _ => none

/-- Fact a disposition carries. -/
def immediateFact : NativeWriteDisposition → Option NativeTurnFact
  | .accepted turnRef => some (.accepted turnRef)
  | .exactResponse fact => some fact
  | .provenNotAccepted | .unknown | .idleEpochInvalidated _ _ _ => none

/-- A correlation under the turn a fact names, if it names one. -/
def nameTurnOf (correlation : PersistedTurnCorrelation)
    (fact : Option NativeTurnFact) : PersistedTurnCorrelation :=
  match fact.bind NativeTurnFact.turnRef with
  | none => correlation
  | some turnRef => correlation.withTurnRef turnRef

/-- Conclusion of a disposition with its follow-up scope. -/
def conclusionOf (disposition : NativeWriteDisposition)
    (correlation : PersistedTurnCorrelation) (evidenceRef : VerifierRef) :
    NativeWriteConclusion where
  disposition := disposition
  observationScope :=
    (immediateFact disposition).map fun _ => ⟨correlation, evidenceRef⟩
  reconciliationScope :=
    if disposition = .unknown then some ⟨correlation, evidenceRef⟩ else none

/-- Record the fact a disposition carries, if it carries one. -/
def recordImmediateFact (fact : Option NativeTurnFact)
    (correlation : PersistedTurnCorrelation) (factDraw : Option VerifierRef)
    (authority : DaemonAuthority P) :
    Except AuthorityError Unit × DaemonAuthority P :=
  match fact with
  | none => (.ok (), authority)
  | some fact =>
  match factDraw with
  | none => (.error .entropy, authority)
  | some factRef =>
  match authority.call (Persist.recordNativeTurnFact
      ⟨correlation, fact, factRef⟩) with
  | (.error refusal, authority) => (.error refusal, authority)
  | (.ok _, authority) => (.ok (), authority)

/-- Persist the classified native boundary: the evidence, then the fact it
carries. -/
def concludeEvidence (prepared : PreparedDispatch)
    (disposition : NativeWriteDisposition) (evidence : NativeWriteEvidence)
    (evidenceDraw factDraw : Option VerifierRef) (authority : DaemonAuthority P) :
    Except AuthorityError NativeWriteConclusion × DaemonAuthority P :=
  match evidenceDraw with
  | none => (.error .entropy, authority)
  | some evidenceRef =>
  match authority.call (Persist.recordNativeWriteEvidence
      ⟨prepared.correlation, evidence, evidenceRef⟩) with
  | (.error refusal, authority) => (.error refusal, authority)
  | (.ok _, authority) =>
  let correlation := nameTurnOf prepared.correlation (immediateFact disposition)
  match authority.recordImmediateFact (immediateFact disposition) correlation
      factDraw with
  | (.error refusal, authority) => (.error refusal, authority)
  | (.ok (), authority) =>
      (.ok (conclusionOf disposition correlation evidenceRef), authority)

/-- Persist how a native write ended.  Epoch invalidation is a conclusion before
any write, not an ambiguous acceptance. -/
def concludeNativeWrite (prepared : PreparedDispatch)
    (disposition : Except ControllerWriteError NativeWriteDisposition)
    (evidenceDraw factDraw : Option VerifierRef) (authority : DaemonAuthority P) :
    Except AuthorityError NativeWriteConclusion × DaemonAuthority P :=
  match disposition with
  | .error _ => (.error .unauthorized, authority)
  | .ok (.idleEpochInvalidated probeId expectedEpoch observedEpoch) =>
      match authority.call (Persist.recordPrewriteConclusion
          ⟨prepared.correlation.attemptId, prepared.correlation.signalId,
            .idleEpochInvalidated probeId expectedEpoch observedEpoch,
            authority.now⟩) with
      | (.error refusal, authority) => (.error refusal, authority)
      | (.ok _, authority) =>
          (.ok ⟨.idleEpochInvalidated probeId expectedEpoch observedEpoch,
            none, none⟩, authority)
  | .ok disposition =>
      match writeEvidenceOf prepared.correlation disposition with
      -- only an invalidated epoch has no evidence, and it was answered above
      | none => (.error .unauthorized, authority)
      | some evidence =>
          authority.concludeEvidence prepared disposition evidence evidenceDraw
            factDraw

/-! ## Follow-up records -/

/-- Record a fact observed under an exact scope. -/
def recordExactObservation (scope : ObservationScope) (fact : NativeTurnFact)
    (evidenceDraw : Option VerifierRef) (authority : DaemonAuthority P) :
    Except AuthorityError ExactObservationRecord × DaemonAuthority P :=
  match evidenceDraw with
  | none => (.error .entropy, authority)
  | some evidenceRef =>
  match authority.call (Persist.recordNativeTurnFact
      ⟨scope.correlation, fact, evidenceRef⟩) with
  | (.error refusal, authority) => (.error refusal, authority)
  | (.ok write, authority) =>
      (.ok ⟨write, if fact.isDegraded then
        some ⟨scope.correlation, scope.evidenceRef⟩ else none⟩, authority)

/-- Fact an accepted or terminal reconciliation carries. -/
def reconciledFact : ReconciliationDisposition → Option NativeTurnFact
  | .accepted turnRef => some (.accepted turnRef)
  | .terminal turnRef terminalClass => some (.terminal turnRef terminalClass)
  | .provenNotAccepted | .unknown => none

/-- Where a recorded disposition leaves an attempt. -/
def phaseOf (scope : ReconciliationScope) :
    ReconciliationDisposition → ReconciliationPhase
  | .unknown => .reconciling
  | .provenNotAccepted => .closed
  | .accepted turnRef =>
      .observing ⟨scope.correlation.withTurnRef turnRef, scope.nativeWriteEvidenceRef⟩
  | .terminal _ _ => .closed

/-- Record a reconciliation: the disposition, then the fact it carries. -/
def recordReconciliation (scope : ReconciliationScope)
    (disposition : Except ControllerReconcileError ReconciliationDisposition)
    (factDraw : Option VerifierRef) (authority : DaemonAuthority P) :
    Except AuthorityError (IdempotentWrite × ReconciliationPhase) ×
      DaemonAuthority P :=
  match disposition with
  | .error _ => (.error .unauthorized, authority)
  | .ok disposition =>
  match authority.call (Persist.recordReconciliationFact scope disposition) with
  | (.error refusal, authority) => (.error refusal, authority)
  | (.ok result, authority) =>
  match authority.recordImmediateFact (reconciledFact disposition)
      (nameTurnOf scope.correlation (reconciledFact disposition)) factDraw with
  | (.error refusal, authority) => (.error refusal, authority)
  | (.ok (), authority) => (.ok (result, phaseOf scope disposition), authority)

/-! ## Revocation and recovery -/

/-- Sealed scope of an attachment. -/
def attachmentScope (attachment : PersistedControllerAttachment) :
    ValidatedAttachmentScope where
  attemptId := attachment.attemptId
  birthId := attachment.birthId
  armId := attachment.armId
  generation := attachment.generation
  verifierRef := attachment.verifierRef

/-- Revoke the attachment of an attempt. -/
def revokeAttachment (attemptText : String) (authority : DaemonAuthority P) :
    Except AuthorityError IdempotentWrite × DaemonAuthority P :=
  match authority.attachments.toList.find? fun entry =>
      decide (entry.1.text = attemptText) with
  | none => (.error .unauthorized, authority)
  | some (attemptId, attachment) =>
  match authority.call (Persist.revokeControllerAttachment
      (attachmentScope attachment)) with
  | (.error refusal, authority) => (.error refusal, authority)
  | (.ok result, authority) =>
      (.ok result, { authority with
        attachments := authority.attachments.insert attemptId
          { attachment with revoked := true } })

/-- What recovery hands back. -/
structure AuthorityRecovery where
  snapshot : RecoverySnapshot
  observationScopes : List ObservationScope
  reconciliationScopes : List ReconciliationScope

/-- Births of a snapshot. -/
def recoveredBirths (snapshot : RecoverySnapshot) :
    BTreeMap ControllerBirthId PersistedControllerBirth :=
  BTreeMap.fromRows PersistedControllerBirth.birthId id snapshot.controllerBirths

/-- Ownership of a snapshot. -/
def recoveredOwnership (snapshot : RecoverySnapshot) :
    BTreeMap ControllerBirthId ThreadOwnershipState :=
  BTreeMap.fromRows PersistedThreadOwnership.birthId PersistedThreadOwnership.state
    snapshot.ownership

/-- The authority whose image is rebuilt from a snapshot. -/
def withSnapshot (authority : DaemonAuthority P) (snapshot : RecoverySnapshot) :
    DaemonAuthority P :=
  { authority with
    arms := BTreeMap.fromRows PersistedArm.armId id snapshot.arms
    births := recoveredBirths snapshot
    ownership := recoveredOwnership snapshot
    claims := BTreeMap.fromRows PersistedClaimRecord.attemptId id snapshot.claims
    attachments := BTreeMap.fromRows PersistedControllerAttachment.attemptId id
      snapshot.attachments
    attemptSeq := snapshot.attemptSeq }

/-- Recover authority metadata only.  No reservation becomes a permit, guard,
command or receipt again. -/
def recover (draws : List VerifierRef) (authority : DaemonAuthority P) :
    Except AuthorityError AuthorityRecovery × DaemonAuthority P :=
  match authority.call (Persist.recoverAuthorityState draws) with
  | (.error refusal, authority) => (.error refusal, authority)
  | (.ok snapshot, authority) =>
  match recoveryFollowupScopes snapshot with
  | .error refusal => (.error refusal, authority)
  | .ok (observationScopes, reconciliationScopes) =>
      if (recoveredBirths snapshot).size ≠ snapshot.controllerBirths.length then
        (.error .conflict, authority)
      else if (recoveredOwnership snapshot).size ≠ snapshot.ownership.length ∨
          ((recoveredOwnership snapshot).keys.any fun birthId =>
            !(recoveredBirths snapshot).contains birthId) = true then
        (.error .conflict, authority)
      else
        (.ok ⟨snapshot, observationScopes, reconciliationScopes⟩,
          authority.withSnapshot snapshot)

end Port

end DaemonAuthority
end Gearwit
