import Gearwit.Foundations.FirstMatch
import Gearwit.Persist.Coverage

/-!
# The semantic store

The deterministic semantic fake behind the persistence port: one ordered map for
every authority table, the claim payload partition, the private coordinate
partition and a controllable clock.  This module has the state, its empty value
and the queries the operations share.
-/

namespace Gearwit

/-- A sealed private coordinate. -/
structure RecoveryCoordinate where
  scope : NativeCoordinateScope
  plaintext : List UInt8
  deriving DecidableEq

/-- State of the semantic store. -/
structure FakePersist where
  arms : BTreeMap ArmId PersistedArm
  claims : BTreeMap ClaimRequestId PersistedClaimRecord
  payloads : BTreeMap ClaimPayloadRef BoundedClaimPayload
  claimAttempts : BTreeMap ClaimRequestId AttemptId
  attachments : BTreeMap AttemptId PersistedControllerAttachment
  births : BTreeMap ControllerBirthId PersistedControllerBirth
  creates : BTreeMap ControllerBirthId ThreadCreateReservation
  ownership : BTreeMap ControllerBirthId ThreadOwnershipState
  createEvidenceRefs : BTreeMap ControllerBirthId VerifierRef
  privateRecovery : BTreeMap PrivateNativeRef RecoveryCoordinate
  prepared : BTreeMap AttemptId PersistedTurnCorrelation
  reservations : BTreeMap AttemptId PersistedNativeReservation
  consumedProbes : BTreeSet RequestNonce
  prewrite : BTreeMap AttemptId PersistedPreWriteConclusion
  activeObservations : BTreeMap AttemptId PersistedActiveObservationEvidence
  activeMacKey : Bytes32
  writeEvidence : BTreeMap AttemptId NativeWriteEvidence
  writeEvidenceRefs : BTreeMap AttemptId VerifierRef
  turnFacts : BTreeMap AttemptId (List NativeTurnFact)
  reconciliations : BTreeMap AttemptId ReconciliationDisposition
  grants : List PersistedHelperGrant
  retiredGrants : List PersistedRetiredGrant
  retrieveReplays : BTreeMap RequestNonce PersistedRetrieveReplay
  ackReplays : BTreeMap RequestNonce PersistedAckReplay
  retrievals : BTreeMap RetrievalId PersistedRetrievalRecord
  handled : BTreeMap AttemptId PersistedHandledCoverage
  rearmed : BTreeSet PersistedRearmJoin
  now : OffsetDateTime
  attemptSeq : UInt64

namespace FakePersist

/-- The empty store under a fresh observation key, at the Unix epoch. -/
def default (activeMacKey : Bytes32) : FakePersist where
  arms := ∅
  claims := ∅
  payloads := ∅
  claimAttempts := ∅
  attachments := ∅
  births := ∅
  creates := ∅
  ownership := ∅
  createEvidenceRefs := ∅
  privateRecovery := ∅
  prepared := ∅
  reservations := ∅
  consumedProbes := ∅
  prewrite := ∅
  activeObservations := ∅
  activeMacKey := activeMacKey
  writeEvidence := ∅
  writeEvidenceRefs := ∅
  turnFacts := ∅
  reconciliations := ∅
  grants := []
  retiredGrants := []
  retrieveReplays := ∅
  ackReplays := ∅
  retrievals := ∅
  handled := ∅
  rearmed := ∅
  now := OffsetDateTime.unixEpoch
  attemptSeq := 0

/-- Move the clock. -/
def setNow (now : OffsetDateTime) (store : FakePersist) : FakePersist :=
  { store with now := now }

/-! ## Queries -/

/-- First claim, in request order, that belongs to an attempt. -/
def claimForAttempt (store : FakePersist) (attemptId : AttemptId) :
    Option PersistedClaimRecord :=
  (BTreeMap.rows store.claims).find? fun claim => claim.attemptId = attemptId

/-- Whether a grant is the one of a birth and attempt. -/
def grantOf (birthId : ControllerBirthId) (attemptId : AttemptId)
    (grant : PersistedHelperGrant) : Bool :=
  decide (grant.birthId = birthId ∧ grant.attemptId = attemptId)

/-- Grant of a birth and attempt. -/
def helperGrant (store : FakePersist)
    (birthId : ControllerBirthId) (attemptId : AttemptId) :
    Option PersistedHelperGrant :=
  store.grants.find? (grantOf birthId attemptId)

/-- Whether a retired grant shares the reference or verifier of a grant. -/
def grantIdentityRetired (store : FakePersist) (grant : PersistedHelperGrant) : Bool :=
  store.retiredGrants.any fun retired =>
    decide (retired.grantRef = grant.grantRef ∨
      retired.grantVerifier = grant.grantVerifier)

/-- Recorded turn facts of an attempt; none when there is no row. -/
def factsOf (store : FakePersist) (attemptId : AttemptId) : List NativeTurnFact :=
  (store.turnFacts[attemptId]?).getD []

/-- Whether the controller of an attempt was lost. -/
def attemptLost (store : FakePersist) (attemptId : AttemptId) : Bool :=
  (store.factsOf attemptId).any fun fact => decide (fact = .controllerLost)

/-- Whether an attempt has a recognized terminal fact. -/
def attemptTerminal (store : FakePersist) (attemptId : AttemptId) : Bool :=
  (store.factsOf attemptId).any NativeTurnFact.isTerminal

/-- Whether an attempt is handled through its newest event. -/
def handledComplete (store : FakePersist) (attemptId : AttemptId) : Bool :=
  match store.handled[attemptId]? with
  | none => false
  | some coverage => coverage.coveredThroughNewest

/-- Whether a claim matches every field of a join scope. -/
def scopeMatchesClaim (store : FakePersist) (scope : PersistedRearmJoin) : Bool :=
  (BTreeMap.rows store.claims).any fun claim =>
    decide (claim.attemptId = scope.attemptId ∧ claim.armId = scope.armId ∧
      claim.generation = scope.generation ∧ claim.signalId = scope.signalId)

/-- Whether the attempt of a join scope is handled through its newest event. -/
def handledThroughNewest (store : FakePersist) (scope : PersistedRearmJoin) : Bool :=
  match store.handled[scope.attemptId]? with
  | none => false
  | some coverage =>
      decide (coverage.signalId = scope.signalId) && coverage.coveredThroughNewest

/-- Whether a nonce answers both a retrieve and an acknowledge. -/
def helperRequestNonceCollision (store : FakePersist) : Bool :=
  store.retrieveReplays.keys.any fun nonce => store.ackReplays.contains nonce

/-! ## Lookup facts -/

/-- A claim found for an attempt is stored and belongs to it. -/
theorem claimForAttempt_some {store : FakePersist} {attemptId : AttemptId}
    {claim : PersistedClaimRecord}
    (found : store.claimForAttempt attemptId = some claim) :
    claim ∈ BTreeMap.rows store.claims ∧ claim.attemptId = attemptId :=
  ⟨List.mem_of_find?_eq_some found, by simpa using List.find?_some found⟩

/-- An attempt without a claim has no stored claim naming it. -/
theorem claimForAttempt_none {store : FakePersist} {attemptId : AttemptId}
    (absent : store.claimForAttempt attemptId = none) :
    ∀ claim ∈ BTreeMap.rows store.claims, claim.attemptId ≠ attemptId := by
  intro claim present
  have tested := List.find?_eq_none.1 absent claim present
  simpa using tested

/-- A grant found for a birth and attempt is stored and names both. -/
theorem helperGrant_some {store : FakePersist}
    {birthId : ControllerBirthId} {attemptId : AttemptId}
    {grant : PersistedHelperGrant}
    (found : store.helperGrant birthId attemptId = some grant) :
    grant ∈ store.grants ∧ grant.birthId = birthId ∧ grant.attemptId = attemptId :=
  ⟨List.mem_of_find?_eq_some found, by simpa [grantOf] using List.find?_some found⟩

/-- A retired identity is one some retired grant shares. -/
theorem grantIdentityRetired_iff (store : FakePersist) (grant : PersistedHelperGrant) :
    store.grantIdentityRetired grant = true ↔
      ∃ retired ∈ store.retiredGrants,
        retired.grantRef = grant.grantRef ∨
          retired.grantVerifier = grant.grantVerifier := by
  simp [grantIdentityRetired]

/-- A lost attempt is one with a recorded controller loss. -/
theorem attemptLost_iff (store : FakePersist) (attemptId : AttemptId) :
    store.attemptLost attemptId = true ↔
      NativeTurnFact.controllerLost ∈ store.factsOf attemptId := by
  simp [attemptLost]

/-- A terminal attempt is one with a recorded terminal fact. -/
theorem attemptTerminal_iff (store : FakePersist) (attemptId : AttemptId) :
    store.attemptTerminal attemptId = true ↔
      ∃ fact ∈ store.factsOf attemptId, fact.isTerminal = true := by
  simp [attemptTerminal]

/-- A handled-complete attempt is one whose coverage row carries the flag. -/
theorem handledComplete_iff (store : FakePersist) (attemptId : AttemptId) :
    store.handledComplete attemptId = true ↔
      ∃ coverage, store.handled[attemptId]? = some coverage ∧
        coverage.coveredThroughNewest = true := by
  unfold handledComplete
  cases store.handled[attemptId]? <;> simp

/-- A join scope matches a claim when a stored claim has its four fields. -/
theorem scopeMatchesClaim_iff (store : FakePersist) (scope : PersistedRearmJoin) :
    store.scopeMatchesClaim scope = true ↔
      ∃ claim ∈ BTreeMap.rows store.claims,
        claim.attemptId = scope.attemptId ∧ claim.armId = scope.armId ∧
          claim.generation = scope.generation ∧ claim.signalId = scope.signalId := by
  simp [scopeMatchesClaim]

/-- The handled side of a join is a complete coverage row of its signal. -/
theorem handledThroughNewest_iff (store : FakePersist) (scope : PersistedRearmJoin) :
    store.handledThroughNewest scope = true ↔
      ∃ coverage, store.handled[scope.attemptId]? = some coverage ∧
        coverage.signalId = scope.signalId ∧ coverage.coveredThroughNewest = true := by
  unfold handledThroughNewest
  cases store.handled[scope.attemptId]? <;> simp

end FakePersist
end Gearwit
