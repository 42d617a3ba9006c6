import Gearwit.Foundations.Transition
import Gearwit.Persist.Claims
import Gearwit.Persist.Helpers
import Gearwit.Persist.Restore
import Gearwit.Persist.Threads
import Gearwit.Persist.Turns

/-!
# The persistence port

The port is the only surface authority code has on a store.  Its operations are
also collected into one closed type, so that a run of the semantic store is a
list of operations; random values an operation may draw are among its arguments.
What one operation can do to the store is said once, as a list of effects.
-/

namespace Gearwit

/-- Keep the store of a refused operation. -/
def commit {P α : Type} (outcome : Except PersistError (α × P)) (store : P) :
    Except PersistError α × P :=
  match outcome with
  | .error refusal => (.error refusal, store)
  | .ok (value, next) => (.ok value, next)

/-- Semantic host persistence port. -/
class Persist (P : Type) where
  persistArm : PersistedArm → P → Except PersistError Unit × P
  admitClaim : ClaimAdmission → PersistedControllerAttachment →
    Option ClaimPayloadRef → P → Except PersistError AdmissionRecord × P
  reserveControllerBirth : PersistedControllerBirth → ThreadCreateReservation →
    P → Except PersistError ReserveBirthOutcome × P
  resolveThreadCreate : ThreadCreateCommit → P →
    Except PersistError IdempotentWrite × P
  threadOwnershipState : ControllerBirthId → P →
    Except PersistError ThreadOwnershipState
  sealNativeCoordinate : NativeCoordinateScope → SecretNativeCoordinate →
    List PrivateNativeRef → P → Except PersistError PrivateNativeRef × P
  openNativeCoordinate : NativeCoordinateScope → PrivateNativeRef → P →
    Except PersistError (List UInt8)
  recordDispatchPrepared : PreparedDispatchCommit → P →
    Except PersistError IdempotentWrite × P
  recordPrewriteConclusion : PreWriteConclusionCommit → P →
    Except PersistError IdempotentWrite × P
  recordActiveHold : ActiveHoldCommit → P → Except PersistError IdempotentWrite × P
  reserveNativeTurnWrite : ValidatedIdlePermit → PersistedTurnCorrelation → P →
    Except PersistError NativeWriteReservation × P
  recordNativeWriteEvidence : NativeWriteEvidenceCommit → P →
    Except PersistError IdempotentWrite × P
  recordNativeTurnFact : NativeTurnFactCommit → P →
    Except PersistError IdempotentWrite × P
  recordReconciliationFact : ReconciliationScope → ReconciliationDisposition → P →
    Except PersistError IdempotentWrite × P
  revokeControllerAttachment : ValidatedAttachmentScope → P →
    Except PersistError IdempotentWrite × P
  persistHelperGrant : PersistedHelperGrant → P → Except PersistError Unit × P
  revokeHelperGrant : HelperRevocationScope → P →
    Except PersistError IdempotentWrite × P
  recordRetrieveExchange : RetrieveExchange → Option RetrievalId → P →
    Except PersistError (IdempotentResult AuthorizedRetrieve) × P
  materializeClaimedBatch : ValidatedHelperBinding → ClaimMaterializationPermit →
    P → Except PersistError BoundedClaimPayload
  acknowledgeRetrievedBatch : ValidatedHelperBinding → AcknowledgeRequest → P →
    Except PersistError (IdempotentResult AcknowledgeResult) × P
  tryRearmJoin : RearmJoinScope → P → Except PersistError RearmJoinResult × P
  recoverAuthorityState : List VerifierRef → P →
    Except PersistError RecoverySnapshot × P

instance [Blake3] : Persist FakePersist where
  persistArm arm store := commit (store.persistArm arm) store
  admitClaim admission attachment payloadRef store :=
    commit (store.admitClaim admission attachment payloadRef) store
  reserveControllerBirth birth create store :=
    commit (store.reserveControllerBirth birth create) store
  resolveThreadCreate request store :=
    commit (store.resolveThreadCreate request) store
  threadOwnershipState birthId store := store.threadOwnershipState birthId
  sealNativeCoordinate scope coordinate draws store :=
    commit (store.sealNativeCoordinate scope coordinate draws) store
  openNativeCoordinate scope nativeRef store :=
    store.openNativeCoordinate scope nativeRef
  recordDispatchPrepared request store :=
    commit (store.recordDispatchPrepared request) store
  recordPrewriteConclusion request store :=
    commit (store.recordPrewriteConclusion request) store
  recordActiveHold request store := commit (store.recordActiveHold request) store
  reserveNativeTurnWrite idle correlation store :=
    commit (store.reserveNativeTurnWrite idle correlation) store
  recordNativeWriteEvidence request store :=
    commit (store.recordNativeWriteEvidence request) store
  recordNativeTurnFact request store :=
    commit (store.recordNativeTurnFact request) store
  recordReconciliationFact scope disposition store :=
    commit (store.recordReconciliationFact scope disposition) store
  revokeControllerAttachment scope store :=
    commit (store.revokeControllerAttachment scope) store
  persistHelperGrant grant store := commit (store.persistHelperGrant grant) store
  revokeHelperGrant scope store := commit (store.revokeHelperGrant scope) store
  recordRetrieveExchange exchange retrievalId store :=
    commit (store.recordRetrieveExchange exchange retrievalId) store
  materializeClaimedBatch binding permit store :=
    store.materializeClaimedBatch binding permit
  acknowledgeRetrievedBatch binding request store :=
    commit (store.acknowledgeRetrievedBatch binding request) store
  tryRearmJoin scope store := commit (store.tryRearmJoin scope) store
  recoverAuthorityState draws store := store.recoverAuthorityState draws

/-! ## Operations as data -/

/-- One operation of the port, or a move of the clock. -/
inductive PortOp
  | persistArm (arm : PersistedArm)
  | admitClaim (admission : ClaimAdmission)
      (attachment : PersistedControllerAttachment)
      (payloadRef : Option ClaimPayloadRef)
  | reserveControllerBirth (birth : PersistedControllerBirth)
      (create : ThreadCreateReservation)
  | resolveThreadCreate (request : ThreadCreateCommit)
  | threadOwnershipState (birthId : ControllerBirthId)
  | sealNativeCoordinate (scope : NativeCoordinateScope)
      (coordinate : SecretNativeCoordinate) (draws : List PrivateNativeRef)
  | openNativeCoordinate (scope : NativeCoordinateScope)
      (nativeRef : PrivateNativeRef)
  | recordDispatchPrepared (request : PreparedDispatchCommit)
  | recordPrewriteConclusion (request : PreWriteConclusionCommit)
  | recordActiveHold (request : ActiveHoldCommit)
  | reserveNativeTurnWrite (idle : ValidatedIdlePermit)
      (correlation : PersistedTurnCorrelation)
  | recordNativeWriteEvidence (request : NativeWriteEvidenceCommit)
  | recordNativeTurnFact (request : NativeTurnFactCommit)
  | recordReconciliationFact (scope : ReconciliationScope)
      (disposition : ReconciliationDisposition)
  | revokeControllerAttachment (scope : ValidatedAttachmentScope)
  | persistHelperGrant (grant : PersistedHelperGrant)
  | revokeHelperGrant (scope : HelperRevocationScope)
  | recordRetrieveExchange (exchange : RetrieveExchange)
      (retrievalId : Option RetrievalId)
  | materializeClaimedBatch (binding : ValidatedHelperBinding)
      (permit : ClaimMaterializationPermit)
  | acknowledgeRetrievedBatch (binding : ValidatedHelperBinding)
      (request : AcknowledgeRequest)
  | tryRearmJoin (scope : RearmJoinScope)
  | recoverAuthorityState (draws : List VerifierRef)
  | setNow (now : OffsetDateTime)

/-- Answer of one operation. -/
inductive PortReply
  | done
  | admitted (record : AdmissionRecord)
  | birth (outcome : ReserveBirthOutcome)
  | ownership (state : ThreadOwnershipState)
  | nativeRef (nativeRef : PrivateNativeRef)
  | coordinate (plaintext : List UInt8)
  | write (outcome : IdempotentWrite)
  | reservation (reservation : NativeWriteReservation)
  | retrieved (result : IdempotentResult AuthorizedRetrieve)
  | payload (payload : BoundedClaimPayload)
  | acknowledged (result : IdempotentResult AcknowledgeResult)
  | joined (result : RearmJoinResult)
  | recovered (snapshot : RecoverySnapshot)
  | refused (refusal : PersistError)
  deriving DecidableEq

/-- Answer an outcome carries. -/
def PortReply.ofExcept {α : Type} (reply : α → PortReply) :
    Except PersistError α → PortReply
  | .error refusal => .refused refusal
  | .ok value => reply value

/-- Run one operation on a store. -/
def Persist.apply {P : Type} [Persist P] (setNow : OffsetDateTime → P → P)
    (store : P) : PortOp → PortReply × P
  | .persistArm arm =>
      (persistArm arm store).map (.ofExcept fun _ => .done) id
  | .admitClaim admission attachment payloadRef =>
      (admitClaim admission attachment payloadRef store).map
        (.ofExcept .admitted) id
  | .reserveControllerBirth birth create =>
      (reserveControllerBirth birth create store).map (.ofExcept .birth) id
  | .resolveThreadCreate request =>
      (resolveThreadCreate request store).map (.ofExcept .write) id
  | .threadOwnershipState birthId =>
      (.ofExcept .ownership (threadOwnershipState birthId store), store)
  | .sealNativeCoordinate scope coordinate draws =>
      (sealNativeCoordinate scope coordinate draws store).map
        (.ofExcept .nativeRef) id
  | .openNativeCoordinate scope nativeRef =>
      (.ofExcept .coordinate (openNativeCoordinate scope nativeRef store), store)
  | .recordDispatchPrepared request =>
      (recordDispatchPrepared request store).map (.ofExcept .write) id
  | .recordPrewriteConclusion request =>
      (recordPrewriteConclusion request store).map (.ofExcept .write) id
  | .recordActiveHold request =>
      (recordActiveHold request store).map (.ofExcept .write) id
  | .reserveNativeTurnWrite idle correlation =>
      (reserveNativeTurnWrite idle correlation store).map (.ofExcept .reservation) id
  | .recordNativeWriteEvidence request =>
      (recordNativeWriteEvidence request store).map (.ofExcept .write) id
  | .recordNativeTurnFact request =>
      (recordNativeTurnFact request store).map (.ofExcept .write) id
  | .recordReconciliationFact scope disposition =>
      (recordReconciliationFact scope disposition store).map (.ofExcept .write) id
  | .revokeControllerAttachment scope =>
      (revokeControllerAttachment scope store).map (.ofExcept .write) id
  | .persistHelperGrant grant =>
      (persistHelperGrant grant store).map (.ofExcept fun _ => .done) id
  | .revokeHelperGrant scope =>
      (revokeHelperGrant scope store).map (.ofExcept .write) id
  | .recordRetrieveExchange exchange retrievalId =>
      (recordRetrieveExchange exchange retrievalId store).map
        (.ofExcept .retrieved) id
  | .materializeClaimedBatch binding permit =>
      (.ofExcept .payload (materializeClaimedBatch binding permit store), store)
  | .acknowledgeRetrievedBatch binding request =>
      (acknowledgeRetrievedBatch binding request store).map
        (.ofExcept .acknowledged) id
  | .tryRearmJoin scope => (tryRearmJoin scope store).map (.ofExcept .joined) id
  | .recoverAuthorityState draws =>
      (recoverAuthorityState draws store).map (.ofExcept .recovered) id
  | .setNow now => (.done, setNow now store)

namespace FakePersist

section Runs

variable [Blake3]

/-- One operation on the semantic store. -/
def apply (store : FakePersist) (operation : PortOp) : PortReply × FakePersist :=
  Persist.apply FakePersist.setNow store operation

/-- Store after one operation. -/
def step (store : FakePersist) (operation : PortOp) : FakePersist :=
  (store.apply operation).2

/-- Store after a run of operations on the empty store. -/
def after (activeMacKey : Bytes32) (operations : List PortOp) : FakePersist :=
  Transition.run step (FakePersist.default activeMacKey) operations

/-! ## Effects -/

/-- What each operation can do to the store. -/
inductive Effect (store : FakePersist) : PortOp → FakePersist → Prop
  | unchanged (operation : PortOp) : Effect store operation store
  | clock (now : OffsetDateTime) : Effect store (.setNow now) (store.setNow now)
  | arm (arm : PersistedArm) :
      Effect store (.persistArm arm)
        { store with arms := store.arms.insert arm.armId arm }
  | claim (admission : ClaimAdmission) (attachment : PersistedControllerAttachment)
      (payloadRef : ClaimPayloadRef) (valid : AdmissionValid admission)
      (unclaimed : store.claims[admission.requestId]? = none)
      (unused : ∀ claim ∈ BTreeMap.rows store.claims,
        ¬(claim.armId = admission.armId ∧ claim.generation = admission.generation))
      (unattached : store.attachments[attachment.attemptId]? = none) :
      Effect store (.admitClaim admission attachment (some payloadRef))
        (store.withClaim admission attachment payloadRef)
  | birth (birth : PersistedControllerBirth) (create : ThreadCreateReservation)
      (vacant : store.births[birth.birthId]? = none)
      (sameBirth : birth.birthId = create.birthId) :
      Effect store (.reserveControllerBirth birth create)
        (store.withBirth birth create)
  | ownership (request : ThreadCreateCommit) (current : ThreadOwnershipState)
      (owned : store.ownership[request.birthId]? = some current)
      (moves : ownershipMoves current
        (request.resolution.state request.createAttemptId) = true) :
      Effect store (.resolveThreadCreate request)
        (store.withOwnership request.birthId
          (request.resolution.state request.createAttemptId) request.evidenceRef)
  | coordinate (nativeRef : PrivateNativeRef) (scope : NativeCoordinateScope)
      (coordinate : SecretNativeCoordinate) (draws : List PrivateNativeRef)
      (vacant : store.privateRecovery[nativeRef]? = none) :
      Effect store (.sealNativeCoordinate scope coordinate draws)
        (store.withCoordinate nativeRef scope coordinate)
  | prepared (request : PreparedDispatchCommit)
      (vacant : store.prepared[request.correlation.attemptId]? = none) :
      Effect store (.recordDispatchPrepared request) { store with
        prepared := store.prepared.insert request.correlation.attemptId
          request.correlation }
  | prewrite (request : PreWriteConclusionCommit)
      (vacant : store.prewrite[request.attemptId]? = none) :
      Effect store (.recordPrewriteConclusion request) { store with
        reservations := store.concludeReservation request.attemptId
        prewrite := store.prewrite.insert request.attemptId (prewriteRow request) }
  | held (request : ActiveHoldCommit) (record : PersistedActiveObservationEvidence)
      (vacant : store.prewrite[request.proof.attemptId]? = none)
      (sameAttempt : record.attemptId = request.proof.attemptId) :
      Effect store (.recordActiveHold request) { store with
        consumedProbes := store.consumedProbes.insert record.probeId ()
        activeObservations :=
          store.activeObservations.insert request.proof.attemptId record
        prewrite := store.prewrite.insert request.proof.attemptId
          (heldRow request.proof record.evidenceRef) }
  | reserved (idle : ValidatedIdlePermit) (correlation : PersistedTurnCorrelation)
      (sameAttempt : idle.attemptId = correlation.attemptId)
      (vacant : store.reservations[idle.attemptId]? = none) :
      Effect store (.reserveNativeTurnWrite idle correlation) { store with
        consumedProbes := store.consumedProbes.insert idle.probeId ()
        reservations := store.reservations.insert idle.attemptId
          (reservationRow idle correlation) }
  | evidence (request : NativeWriteEvidenceCommit)
      (reservation : PersistedNativeReservation)
      (stored : store.reservations[request.correlation.attemptId]? =
        some reservation)
      (sameCorrelation : reservation.correlation = request.correlation)
      (vacant : store.writeEvidence[request.correlation.attemptId]? = none) :
      Effect store (.recordNativeWriteEvidence request) { store with
        writeEvidence := store.writeEvidence.insert request.correlation.attemptId
          request.evidence
        writeEvidenceRefs := store.writeEvidenceRefs.insert
          request.correlation.attemptId request.evidenceRef
        reservations := store.reservations.insert request.correlation.attemptId
          { reservation with concluded := true } }
  | fact (request : NativeTurnFactCommit) (prepared : PersistedTurnCorrelation)
      (dispatched : store.prepared[request.correlation.attemptId]? = some prepared)
      (accepted : store.turnFactRejected request.correlation prepared request.fact =
        false)
      (fresh : request.fact ∉ store.factsOf request.correlation.attemptId) :
      Effect store (.recordNativeTurnFact request)
        (store.withTurnFact request.correlation.attemptId request.fact)
  | reconciled (scope : ReconciliationScope)
      (disposition : ReconciliationDisposition)
      (unknown : store.writeEvidence[scope.correlation.attemptId]? = some .unknown) :
      Effect store (.recordReconciliationFact scope disposition) { store with
        reconciliations := store.reconciliations.insert scope.correlation.attemptId
          disposition }
  | attachmentRevoked (scope : ValidatedAttachmentScope)
      (attachment : PersistedControllerAttachment)
      (stored : store.attachments[scope.attemptId]? = some attachment) :
      Effect store (.revokeControllerAttachment scope) { store with
        attachments := store.attachments.insert scope.attemptId
          { attachment with revoked := true } }
  | granted (grant : PersistedHelperGrant)
      (valid : store.validateGrantMint grant = .ok ())
      (fresh : store.grantIdentityRetired grant = false)
      (vacant : store.helperGrant grant.birthId grant.attemptId = none) :
      Effect store (.persistHelperGrant grant)
        { store with grants := store.grants ++ [grant] }
  | rotated (existing grant : PersistedHelperGrant)
      (valid : store.validateGrantMint grant = .ok ())
      (fresh : store.grantIdentityRetired grant = false)
      (stored : store.helperGrant grant.birthId grant.attemptId = some existing)
      (live : existing.revoked = false)
      (otherRef : existing.grantRef ≠ grant.grantRef)
      (otherVerifier : existing.grantVerifier ≠ grant.grantVerifier) :
      Effect store (.persistHelperGrant grant)
        (store.withRotatedGrant existing grant)
  | grantRevoked (scope : HelperRevocationScope) :
      Effect store (.revokeHelperGrant scope)
        (store.withRevokedGrant scope.birthId scope.attemptId)
  | retrieved (exchange : RetrieveExchange) (result : RecordedRetrieveResult)
      (claim : PersistedClaimRecord) (grant : PersistedHelperGrant)
      (authenticated : store.authenticateBinding exchange.binding .retrieve =
        .ok grant)
      (digest : canonicalRetrieveBodyDigest
        (canonicalBindingDigest exchange.binding) exchange.requestId =
          exchange.canonicalBodyDigest)
      (unacknowledged : store.ackReplays[exchange.requestId]? = none)
      (unseen : store.retrieveReplays[exchange.requestId]? = none)
      (authorized : store.authorizeFreshUse exchange.binding = .ok ())
      (claimed : store.claimForAttempt exchange.binding.attemptId = some claim)
      (describes : retrieveResultMatchesClaim result claim = true) :
      Effect store (.recordRetrieveExchange exchange (some result.retrievalId))
        (store.withRetrieve exchange result)
  | acknowledged (binding : ValidatedHelperBinding) (request : AcknowledgeRequest)
      (grant : PersistedHelperGrant) (retrieval : PersistedRetrievalRecord)
      (claim : PersistedClaimRecord) (position proved furthest : Nat)
      (cursor : EventRef)
      (authenticated : store.authenticateBinding binding .acknowledge = .ok grant)
      (digest : canonicalAckBodyDigest (canonicalBindingDigest binding)
        request.requestId request.retrievalId request.cursor =
          request.canonicalBodyDigest)
      (unretrieved : store.retrieveReplays[request.requestId]? = none)
      (unseen : store.ackReplays[request.requestId]? = none)
      (authorized : store.authorizeFreshUse binding = .ok ())
      (stored : store.retrievals[request.retrievalId]? = some retrieval)
      (sameBinding : retrieval.bindingDigest = canonicalBindingDigest binding)
      (claimed : store.claimForAttempt binding.attemptId = some claim)
      (placed : claim.eventRefs.asSlice.idxOf? request.cursor = some position)
      (provedThrough : provedAckIndex claim claim.eventRefs.asSlice
        store.payloads[claim.payloadRef]? = .ok proved)
      (within : position ≤ proved)
      (advanced : store.furthestPosition binding.attemptId
        claim.eventRefs.asSlice position = some furthest)
      (covered : claim.eventRefs.asSlice[furthest]? = some cursor) :
      Effect store (.acknowledgeRetrievedBatch binding request)
        (store.withAcknowledge binding request cursor
          (decide (furthest = claim.eventRefs.asSlice.length - 1)))
  | rearmed (scope : RearmJoinScope)
      (vacant : store.rearmed[scope.join]? = none)
      (matched : store.scopeMatchesClaim scope.join = true)
      (handled : store.handledThroughNewest scope.join = true)
      (terminal : store.attemptTerminal scope.attemptId = true) :
      Effect store (.tryRearmJoin scope)
        { store with rearmed := store.rearmed.insert scope.join () }
  | recovered (draws : List VerifierRef) :
      Effect store (.recoverAuthorityState draws) (store.classified draws).2

omit [Blake3] in
private theorem commit_effect {α : Type} {relation : FakePersist → Prop}
    {outcome : Except PersistError (α × FakePersist)} {store : FakePersist}
    (kept : relation store)
    (changed : ∀ value next, outcome = .ok (value, next) → relation next) :
    relation (commit outcome store).2 := by
  cases outcome with
  | error refusal => exact kept
  | ok pair => exact changed pair.1 pair.2 rfl

/-- Every operation has one of the effects. -/
theorem step_effect (store : FakePersist) (operation : PortOp) :
    Effect store operation (store.step operation) := by
  cases operation with
  | persistArm arm => exact .arm arm
  | admitClaim admission attachment payloadRef =>
      refine commit_effect (.unchanged _) fun record next accepted => ?_
      obtain ⟨valid, replay | ⟨drawn, rfl, _, rfl, unclaimed, unused, unattached⟩⟩ :=
        admitClaim_cases accepted
      · rw [replay.2.1]
        exact .unchanged _
      · exact .claim admission attachment drawn valid unclaimed unused unattached
  | reserveControllerBirth birth create =>
      refine commit_effect (.unchanged _) fun outcome next reserved => ?_
      rcases reserveControllerBirth_cases reserved with
        ⟨rfl, _⟩ | ⟨_, vacant, sameBirth, rfl⟩
      · exact .unchanged _
      · exact .birth birth create vacant sameBirth
  | resolveThreadCreate request =>
      refine commit_effect (.unchanged _) fun outcome next resolved => ?_
      obtain ⟨_, current, _, _, owned, ⟨_, rfl, _⟩ | ⟨_, moves, _, rfl⟩⟩ :=
        resolveThreadCreate_cases resolved
      · exact .unchanged _
      · exact .ownership request current owned moves
  | threadOwnershipState birthId => exact .unchanged _
  | sealNativeCoordinate scope coordinate draws =>
      refine commit_effect (.unchanged _) fun nativeRef next sealed => ?_
      obtain ⟨_, ⟨rfl, _⟩ | ⟨vacant, _, rfl⟩⟩ := sealNativeCoordinate_cases sealed
      · exact .unchanged _
      · exact .coordinate nativeRef scope coordinate draws vacant
  | openNativeCoordinate scope nativeRef => exact .unchanged _
  | recordDispatchPrepared request =>
      refine commit_effect (.unchanged _) fun outcome next recorded => ?_
      rcases recordDispatchPrepared_cases recorded with
        ⟨_, rfl, _⟩ | ⟨_, vacant, rfl⟩
      · exact .unchanged _
      · exact .prepared request vacant
  | recordPrewriteConclusion request =>
      refine commit_effect (.unchanged _) fun outcome next recorded => ?_
      rcases recordPrewriteConclusion_cases recorded with
        ⟨_, rfl, _⟩ | ⟨_, vacant, rfl⟩
      · exact .unchanged _
      · exact .prewrite request vacant
  | recordActiveHold request =>
      refine commit_effect (.unchanged _) fun outcome next recorded => ?_
      obtain ⟨_, _, ⟨_, rfl, _⟩ | ⟨_, vacant, _, _, record, sameAttempt, _, rfl⟩⟩ :=
        recordActiveHold_cases recorded
      · exact .unchanged _
      · exact .held request record vacant sameAttempt
  | reserveNativeTurnWrite idle correlation =>
      refine commit_effect (.unchanged _) fun reservation next reserved => ?_
      obtain ⟨_, rfl, sameAttempt, vacant, _⟩ := reserveNativeTurnWrite_cases reserved
      exact .reserved idle correlation sameAttempt vacant
  | recordNativeWriteEvidence request =>
      refine commit_effect (.unchanged _) fun outcome next recorded => ?_
      obtain ⟨reservation, stored, sameCorrelation,
        ⟨_, rfl, _⟩ | ⟨_, vacant, rfl⟩⟩ := recordNativeWriteEvidence_cases recorded
      · exact .unchanged _
      · exact .evidence request reservation stored sameCorrelation vacant
  | recordNativeTurnFact request =>
      refine commit_effect (.unchanged _) fun outcome next recorded => ?_
      obtain ⟨prepared, dispatched, accepted, ⟨_, rfl, _⟩ | ⟨_, fresh, rfl⟩⟩ :=
        recordNativeTurnFact_cases recorded
      · exact .unchanged _
      · exact .fact request prepared dispatched accepted fresh
  | recordReconciliationFact scope disposition =>
      refine commit_effect (.unchanged _) fun outcome next recorded => ?_
      obtain ⟨_, _, _, unknown, _, _, rfl⟩ := recordReconciliationFact_cases recorded
      exact .reconciled scope disposition unknown
  | revokeControllerAttachment scope =>
      refine commit_effect (.unchanged _) fun outcome next revoked => ?_
      obtain ⟨attachment, stored, _, _, _, _, rfl⟩ :=
        revokeControllerAttachment_cases revoked
      exact .attachmentRevoked scope attachment stored
  | persistHelperGrant grant =>
      refine commit_effect (.unchanged _) fun answer next persisted => ?_
      obtain ⟨valid, fresh, ⟨_, rfl⟩ | ⟨vacant, rfl⟩ |
        ⟨existing, stored, live, otherRef, otherVerifier, rfl⟩⟩ :=
          persistHelperGrant_cases persisted
      · exact .unchanged _
      · exact .granted grant valid fresh vacant
      · exact .rotated existing grant valid fresh stored live otherRef otherVerifier
  | revokeHelperGrant scope =>
      refine commit_effect (.unchanged _) fun outcome next revoked => ?_
      obtain ⟨_, _, _, ⟨rfl, _⟩ | rfl⟩ := revokeHelperGrant_cases revoked
      · exact .unchanged _
      · exact .grantRevoked scope
  | recordRetrieveExchange exchange retrievalId =>
      refine commit_effect (.unchanged _) fun answer next recorded => ?_
      obtain ⟨⟨grant, authenticated⟩, _, digest, unacknowledged,
        ⟨_, _, _, _, _, rfl⟩ | ⟨unseen, authorized, claim, result, claimed, rfl,
          describes, _, _, rfl⟩⟩ := recordRetrieveExchange_cases recorded
      · exact .unchanged _
      · exact .retrieved exchange result claim grant authenticated digest
          unacknowledged unseen authorized claimed describes
  | materializeClaimedBatch binding permit => exact .unchanged _
  | acknowledgeRetrievedBatch binding request =>
      refine commit_effect (.unchanged _) fun answer next acknowledged => ?_
      obtain ⟨⟨grant, authenticated⟩, _, digest, unretrieved,
        ⟨_, _, _, _, _, _, _, rfl⟩ | ⟨unseen, authorized, retrieval, claim, position,
          proved, furthest, cursor, stored, sameBinding, claimed, _, placed,
          provedThrough, within, advanced, covered, _, rfl⟩⟩ :=
            acknowledgeRetrievedBatch_cases acknowledged
      · exact .unchanged _
      · exact .acknowledged binding request grant retrieval claim position proved
          furthest cursor authenticated digest unretrieved unseen authorized stored
          sameBinding claimed placed provedThrough within advanced covered
  | tryRearmJoin scope =>
      refine commit_effect (.unchanged _) fun result next joined => ?_
      rcases tryRearmJoin_cases joined with
        ⟨_, rfl⟩ | ⟨_, vacant, matched, handled, terminal, rfl⟩
      · exact .unchanged _
      · exact .rearmed scope vacant matched handled terminal
  | recoverAuthorityState draws =>
      change Effect store _ (store.recoverAuthorityState draws).2
      rw [recoverAuthorityState_store]
      exact .recovered draws
  | setNow now => exact .clock now

end Runs

end FakePersist
end Gearwit
