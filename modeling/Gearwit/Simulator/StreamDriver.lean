import Gearwit.Foundations.Digits
import Gearwit.Persist.Restore
import Gearwit.Persist.Synthetic
import Gearwit.Simulator.Scheduler

/-!
# The store behind the scheduler

The adapter of the simulator runs every operation on one fake store, under the binding of the
current cycle, and answers with what a recovery of that store shows.
-/

namespace Gearwit
namespace Simulator

open OffsetDateTime (unixEpoch)

/-! ## The fixture -/

/-- A birth and the creation reserved with it. -/
structure BirthParts where
  birth : PersistedControllerBirth
  reservation : ThreadCreateReservation

/-- Birth of the fixture, for the seat `seat-a` and the arm `arm-a`. -/
def birthParts : BirthParts where
  birth :=
    { birthId := PrivateId.fixture 1
      seatId := Sample.seat
      armId := Sample.firstArm
      generation := 1
      capability := .handleClaimedSignal
      leaseUntil := ⟨60 * nanosPerSecond, by decide⟩
      verifierRef := PrivateId.fixture 3
      createdAt := unixEpoch
      revoked := false }
  reservation := ⟨PrivateId.fixture 1, PrivateId.fixture 2, unixEpoch⟩

/-- Arm of the fixture. -/
def fixtureArm : PersistedArm where
  armId := birthParts.birth.armId
  generation := birthParts.birth.generation
  seatId := birthParts.birth.seatId
  capability := birthParts.birth.capability
  coverageUntil := ⟨600 * nanosPerSecond, by decide⟩

/-- An event of the test provider. -/
def wireEvent (eventRef : EventRef) (body : BoundedBody 4096) : ProviderEventRecord where
  eventRef := eventRef
  provider := ⟨"test", by decide⟩
  actor := none
  observedAt := unixEpoch
  body := body

/-- Batch of the fixture. -/
def fixturePayload : BoundedClaimPayload where
  events := ⟨[wireEvent ⟨"event-a", by decide⟩ ⟨"test-a", by decide⟩,
    wireEvent ⟨"event-b", by decide⟩ ⟨"test-b", by decide⟩], by decide⟩
  aggregateBodyBytes := ⟨12, by decide⟩
  counted := rfl

/-- Attachment of the fixture. -/
def fixtureAttachment : PersistedControllerAttachment where
  attemptId := ⟨"attempt-a", by decide⟩
  birthId := birthParts.birth.birthId
  seatId := birthParts.birth.seatId
  armId := birthParts.birth.armId
  generation := birthParts.birth.generation
  capability := birthParts.birth.capability
  leaseUntil := birthParts.birth.leaseUntil
  verifierRef := PrivateId.fixture 8
  revoked := false

section Driver

variable [Blake3]

/-- Admission of the fixture, under the signal `signal-a`. -/
def fixtureAdmission : ClaimAdmission :=
  claimAdmissionFixture ⟨"claim-a", by decide⟩ birthParts.birth.armId birthParts.birth.generation
    Sample.signal fixturePayload unixEpoch

/-- Grant of the fixture. -/
def fixtureGrant : PersistedHelperGrant where
  grantVerifier := PrivateId.fixture 0x33
  grantRef := PrivateId.fixture 9
  seatId := birthParts.birth.seatId
  armId := birthParts.birth.armId
  generation := birthParts.birth.generation
  birthId := birthParts.birth.birthId
  attemptId := fixtureAttachment.attemptId
  signalId := fixtureAdmission.signalId
  claimDigest := fixtureAdmission.claimDigest
  operations := .all
  leaseUntil := birthParts.birth.leaseUntil
  executableIdentity :=
    ⟨PrivateId.fixture 0x11, ⟨"gearwit-helper", by decide⟩, ⟨"build-1", by decide⟩⟩
  revoked := false

/-- Binding of the fixture. -/
def fixtureBinding : ValidatedHelperBinding where
  grantRef := fixtureGrant.grantRef
  seatId := fixtureGrant.seatId
  armId := fixtureGrant.armId
  generation := fixtureGrant.generation
  birthId := fixtureGrant.birthId
  attemptId := fixtureGrant.attemptId
  signalId := fixtureGrant.signalId
  claimDigest := fixtureGrant.claimDigest
  operations := fixtureGrant.operations
  leaseUntil := fixtureGrant.leaseUntil

/-- Install the fixture in a store. -/
def installHelper (payloadRef : Option ClaimPayloadRef) (store : FakePersist) :
    Except PersistError FakePersist := do
  let (_, store) ← store.reserveControllerBirth birthParts.birth birthParts.reservation
  let (_, store) ← store.persistArm fixtureArm
  let (_, store) ← store.admitClaim fixtureAdmission fixtureAttachment payloadRef
  let (_, store) ← store.persistHelperGrant fixtureGrant
  return store

/-! ## Identities -/

/-- Identity of a value in a domain. -/
def identityBytes (domain value : String) : Bytes32 :=
  Blake3.hash (domainTag "gearwit.simulator-identity.v1" ++ domainTag domain ++
    value.toByteArray.data.toList)

/-- Identity of a value as a text. -/
def boundedId (stem value : String) : String :=
  stem ++ "-" ++ String.ofList (Digits.hexText (identityBytes stem value).bytes)

/-! ## The driver -/

/-- What an operation may draw at random. -/
structure StreamDraws where
  payloadRef : Option ClaimPayloadRef
  retrievalId : Option RetrievalId
  activeMacKey : Bytes32
  verifiers : List VerifierRef
  closing : List VerifierRef

/-- The store of a stream and what the driver knows of its cycle.  The draws are those of the
operations to come. -/
structure StreamDriver where
  store : Option FakePersist
  binding : ValidatedHelperBinding
  attachment : PersistedControllerAttachment
  admissions : BTreeMap String (String × ClaimAdmission × PersistedControllerAttachment)
  offered : List String
  lastRetrieve : Option AuthorizedRetrieve
  admittedEventRef : Option String
  blueprint : RecoverySnapshot
  grantInstalled : Bool
  armCount : UInt64
  cycleAdmitted : Bool
  logicalEffects : UInt64
  revision : UInt64
  draws : Nat → StreamDraws
  calls : Nat

namespace StreamDriver

/-- Text of a refusal. -/
def debugError : PersistError → String
  | .conflict => "Conflict"
  | .invalidTransition => "InvalidTransition"
  | .unauthorized => "Unauthorized"
  | .payloadUnavailable => "PayloadUnavailable"
  | .storageUnavailable => "StorageUnavailable"

/-- A driver over an empty store, with the fixture's snapshot for a blueprint. -/
def new (draws : Nat → StreamDraws) : Except PersistError StreamDriver := do
  let prepared ← installHelper (draws 0).payloadRef (.default (draws 0).activeMacKey)
  let blueprint ← (prepared.recoverAuthorityState (draws 0).verifiers).1
  return {
    store := some (.default (draws 1).activeMacKey)
    binding := fixtureBinding
    attachment := fixtureAttachment
    admissions := ∅
    offered := []
    lastRetrieve := none
    admittedEventRef := none
    blueprint
    grantInstalled := false
    armCount := 0
    cycleAdmitted := false
    logicalEffects := 0
    revision := 0
    draws
    calls := 2 }

/-- A driver starts over an empty store. -/
theorem new_opens {draws : Nat → StreamDraws} {driver : StreamDriver}
    (done : new draws = .ok driver) :
    driver.store = some (.default (draws 1).activeMacKey) ∧ driver.draws = draws := by
  unfold new at done
  cases prepared : installHelper (draws 0).payloadRef (.default (draws 0).activeMacKey) with
  | error refusal =>
      rw [prepared] at done
      cases done
  | ok store =>
      rw [prepared] at done
      change (store.recoverAuthorityState (draws 0).verifiers).1 >>= _ = _ at done
      cases recovered : (store.recoverAuthorityState (draws 0).verifiers).1 with
      | error refusal =>
          rw [recovered] at done
          cases done
      | ok blueprint =>
          rw [recovered] at done
          cases done
          exact ⟨rfl, rfl⟩

/-- Keep a store. -/
def withStore (driver : StreamDriver) (store : FakePersist) : StreamDriver :=
  { driver with store := some store }

/-- Count a change. -/
def advance (driver : StreamDriver) : StreamDriver :=
  { driver with revision := driver.revision + 1 }

/-- Answer with an outcome that changed the store. -/
def changed (driver : StreamDriver) (store : FakePersist) (outcome : String) :
    Except String String × StreamDriver :=
  (.ok outcome, (driver.withStore store).advance)

/-! ### Arming -/

/-- The identities of a further cycle. -/
def nextCycle (driver : StreamDriver) (attemptId : AttemptId) (signalId : SignalId) :
    StreamDriver :=
  let cycle := toString driver.armCount
  let generation := saturatingAdd driver.binding.generation 1
  let birthId := PrivateId.cast .controllerBirth (identityBytes "birth-cycle" cycle)
  { driver with
    binding := { driver.binding with
      generation, birthId, attemptId, signalId
      grantRef := PrivateId.cast .verifier (identityBytes "grant-cycle" cycle) }
    attachment := { driver.attachment with
      generation, birthId, attemptId
      verifierRef := PrivateId.cast .verifier (identityBytes "attachment-cycle" cycle) }
    grantInstalled := false
    cycleAdmitted := false
    lastRetrieve := none
    admittedEventRef := none }

/-- Reserve a birth and store its arm. -/
def reserve (driver : StreamDriver) (birth : PersistedControllerBirth)
    (reservation : ThreadCreateReservation) (arm : PersistedArm) (store : FakePersist) :
    Except String String × StreamDriver :=
  match store.reserveControllerBirth birth reservation with
  | .error error => (.error (debugError error), driver)
  | .ok (_, store) =>
      match store.persistArm arm with
      | .error error => (.error (debugError error), driver.withStore store)
      | .ok (_, store) =>
          { driver with armCount := driver.armCount + 1 }.changed store "armed"

/-- Arm the first cycle or a further one.  Its identifiers are never refused, so that what
a refusal would leave behind does not matter. -/
def arm (driver : StreamDriver) (store : FakePersist) : Except String String × StreamDriver :=
  match driver.blueprint.controllerBirths, driver.blueprint.arms with
  | [], _ => (.error "fixture blueprint had no controller birth", driver)
  | _, [] => (.error "fixture blueprint had no arm", driver)
  | birth :: _, arm :: _ =>
      if driver.armCount = 0 then driver.reserve birth birthParts.reservation arm store
      else
        let cycle := toString driver.armCount
        match SafeToken.new (boundedId "attempt-cycle" cycle),
          SafeToken.new (boundedId "signal-cycle" cycle) with
        | .error error, _ | _, .error error => (.error error, driver)
        | .ok attemptId, .ok signalId =>
            let next := driver.nextCycle attemptId signalId
            let generation := next.binding.generation
            let birthId := next.binding.birthId
            next.reserve
              { birth with
                generation, birthId
                verifierRef := PrivateId.cast .verifier (identityBytes "birth-verifier" cycle) }
              { birthParts.reservation with
                birthId
                createAttemptId :=
                  PrivateId.cast .requestNonce (identityBytes "birth-reservation" cycle) }
              { arm with generation } store

/-! ### Admitting -/

/-- Keep an offer. -/
def keepOffer (driver : StreamDriver) (event : String) : StreamDriver :=
  { driver with offered := driver.offered ++ [event] }.advance

/-- Admission of a fresh operation.  A batch the fixture cannot build is a panic. -/
def freshAdmission (driver : StreamDriver) (operationId event : String) :
    Except String (ClaimAdmission × PersistedControllerAttachment) := do
  let eventRef ← SafeToken.new (boundedId "event" event)
  let body ← BoundedBody.new ("simulator event " ++ event)
  let payload ← BoundedClaimPayload.tryFrom [wireEvent eventRef body]
  let requestId ← SafeToken.new (boundedId "claim" operationId)
  if driver.cycleAdmitted then
    let signalId ← SafeToken.new (boundedId "signal" operationId)
    let attemptId ← SafeToken.new (boundedId "attempt" operationId)
    return (claimAdmissionFixture requestId driver.binding.armId driver.binding.generation
        signalId payload unixEpoch,
      { driver.attachment with
        attemptId
        verifierRef :=
          PrivateId.cast .verifier (identityBytes "attachment-verifier" operationId) })
  else
    return (claimAdmissionFixture requestId driver.binding.armId driver.binding.generation
      driver.binding.signalId payload unixEpoch, driver.attachment)

/-- Admission an operation asks for: the remembered one, under another digest when the event
changed, or a fresh one. -/
def admission (driver : StreamDriver) (operationId event : String) :
    Except String (ClaimAdmission × PersistedControllerAttachment) :=
  match driver.admissions[operationId]? with
  | some (original, admission, attachment) =>
      .ok (if original = event then admission
        else { admission with
          claimDigest := PrivateId.cast .claimDigest (identityBytes "changed-claim" event) },
        attachment)
  | none => driver.freshAdmission operationId event

/-- Install the grant of the cycle for an admission. -/
def installGrant (driver : StreamDriver) (admission : ClaimAdmission) (store : FakePersist) :
    Except String FakePersist × StreamDriver :=
  if driver.grantInstalled then (.ok store, driver)
  else
    match driver.blueprint.helperGrants with
    | [] => (.error "fixture blueprint had no helper grant", driver.withStore store)
    | grant :: _ =>
        let driver := { driver with
          binding := { driver.binding with claimDigest := admission.claimDigest } }
        let grant := { grant with
          claimDigest := admission.claimDigest
          grantRef := driver.binding.grantRef
          generation := driver.binding.generation
          birthId := driver.binding.birthId
          attemptId := driver.binding.attemptId
          signalId := driver.binding.signalId }
        match store.persistHelperGrant grant with
        | .error error => (.error (debugError error), driver.withStore store)
        | .ok (_, store) => (.ok store, { driver with grantInstalled := true })

/-- Remember what an operation asked to admit. -/
def remember (driver : StreamDriver) (operationId event : String) (admission : ClaimAdmission)
    (attachment : PersistedControllerAttachment) : StreamDriver :=
  if driver.admissions.contains operationId then driver
  else { driver with
    admissions := driver.admissions.insert operationId (event, admission, attachment) }

/-- Admit an event that was offered. -/
def admitEvent (driver : StreamDriver) (payloadRef : Option ClaimPayloadRef)
    (operationId event : String) (store : FakePersist) : Except String String × StreamDriver :=
  if !driver.admissions.contains operationId && !driver.offered.contains event then
    (.ok "unauthorized", driver)
  else
    match driver.admission operationId event with
    | .error error => (.error error, driver)
    | .ok (admission, attachment) =>
        match store.admitClaim admission attachment payloadRef with
        | .error .conflict =>
            (.ok "conflict", driver.remember operationId event admission attachment)
        | .error .unauthorized =>
            (.ok "unauthorized", driver.remember operationId event admission attachment)
        | .error .invalidTransition =>
            (.ok "invalid_transition", driver.remember operationId event admission attachment)
        | .error error => (.error (debugError error), driver)
        | .ok (record, store) =>
            match record.outcome with
            | .exactReplay =>
                (.ok "exact_replay",
                  (driver.withStore store).remember operationId event admission attachment)
            | .admitted =>
                match driver.installGrant admission store with
                | (.error error, driver) => (.error error, driver)
                | (.ok store, driver) =>
                    ({ driver with
                      admittedEventRef := some (boundedId "event" event)
                      cycleAdmitted := true
                      logicalEffects := driver.logicalEffects + 1 }.remember operationId event
                        admission attachment).changed store "admitted"

/-! ### Retrieving and acknowledging -/

/-- Retrieve call of a request. -/
def streamRetrieve (binding : ValidatedHelperBinding) (request : String) : RetrieveExchange :=
  let requestId := PrivateId.cast .requestNonce (identityBytes "retrieve-request" request)
  ⟨binding, requestId, canonicalRetrieveBodyDigest (canonicalBindingDigest binding) requestId⟩

/-- Acknowledge call of a request. -/
def streamAck (binding : ValidatedHelperBinding) (retrievalId : RetrievalId)
    (cursor : EventRef) (request : String) : AcknowledgeRequest :=
  let requestId := PrivateId.cast .requestNonce (identityBytes "ack-request" request)
  ⟨requestId, retrievalId, cursor,
    canonicalAckBodyDigest (canonicalBindingDigest binding) requestId retrievalId cursor⟩

/-- Retrieve the claimed batch. -/
def retrieve (driver : StreamDriver) (retrievalId : Option RetrievalId) (request : String)
    (store : FakePersist) : Except String String × StreamDriver :=
  match store.recordRetrieveExchange (streamRetrieve driver.binding request) retrievalId with
  | .ok (.recorded authorized, store) =>
      { driver with lastRetrieve := some authorized }.changed store "retrieved"
  | .ok (.exactReplay authorized, store) =>
      (.ok "exact_replay", { driver with lastRetrieve := some authorized }.withStore store)
  | .error .unauthorized => (.ok "unauthorized", driver)
  | .error .invalidTransition => (.ok "invalid_transition", driver)
  | .error error => (.error (debugError error), driver)

/-- Retrieve after the arm went on to another generation. -/
def staleRetrieve (driver : StreamDriver) (retrievalId : Option RetrievalId)
    (verifiers : List VerifierRef) (request : String) (store : FakePersist) :
    Except String String × StreamDriver :=
  match driver.blueprint.arms with
  | [] => (.error "fixture blueprint had no arm", driver)
  | arm :: _ =>
      let advanced := { arm with generation := saturatingAdd driver.binding.generation 1 }
      match store.persistArm advanced with
      | .error error => (.error (debugError error), driver)
      | .ok (_, store) =>
          match store.recordRetrieveExchange (streamRetrieve driver.binding request)
            retrievalId with
          | .error .unauthorized =>
              match store.recoverAuthorityState verifiers with
              | (.error error, store) => (.error (debugError error), driver.withStore store)
              | (.ok recovered, store) =>
                  (if (recovered.arms.any fun arm =>
                        decide (arm.armId = advanced.armId ∧
                          arm.generation = advanced.generation)) &&
                      recovered.helperGrants.any fun grant => !grant.revoked then
                    .ok "unauthorized"
                  else .error "stale retrieve did not preserve current authority",
                  driver.withStore store)
          | .error error =>
              (.error ("stale retrieve was accepted: Err(" ++ debugError error ++ ")"),
                driver.withStore store)
          -- the text goes on with the exchange that was recorded, which nothing reads
          | .ok (_, store) => (.error "stale retrieve was accepted", driver.withStore store)

/-- Acknowledge the last retrieval through the admitted event.  An event that is no token is a
panic. -/
def acknowledge (driver : StreamDriver) (request : String) (store : FakePersist) :
    Except String String × StreamDriver :=
  match driver.lastRetrieve, driver.admittedEventRef with
  | none, _ => (.error "acknowledgment had no recorded retrieve", driver)
  | _, none => (.error "acknowledgment had no admitted event", driver)
  | some authorized, some event =>
      match SafeToken.new event with
      | .error error => (.error error, driver)
      | .ok cursor =>
          match store.acknowledgeRetrievedBatch driver.binding
            (streamAck driver.binding authorized.recorded.retrievalId cursor request) with
          | .ok (.recorded _, store) => driver.changed store "acknowledged"
          | .ok (.exactReplay _, store) => (.ok "exact_replay", driver.withStore store)
          | .error .unauthorized => (.ok "unauthorized", driver)
          | .error .invalidTransition => (.ok "invalid_transition", driver)
          | .error error => (.error (debugError error), driver)

/-! ### Ending a cycle -/

/-- Install a terminal fact for the attempt of the cycle by way of a snapshot. -/
def installTerminal (driver : StreamDriver) (draws : StreamDraws) (operationId : String)
    (store : FakePersist) : Except String String × StreamDriver :=
  match store.recoverAuthorityState draws.verifiers with
  | (.error error, store) => (.error (debugError error), driver.withStore store)
  | (.ok snapshot, recovered) =>
      let facts : PersistedNativeTurnFacts := ⟨driver.binding.attemptId,
        [.terminal (PrivateId.cast .nativeRef (identityBytes "terminal" operationId))
          .succeeded]⟩
      let snapshot := { snapshot with
        nativeTurnFacts := (snapshot.nativeTurnFacts.filter fun row =>
          decide (row.attemptId ≠ driver.binding.attemptId)) ++ [facts] }
      match FakePersist.restoreFromSnapshot draws.activeMacKey snapshot store.payloads with
      | .error error => (.error (debugError error), driver.withStore recovered)
      | .ok store => driver.changed store "terminal"

/-- Scope of the rearm of a binding. -/
def joinScope (binding : ValidatedHelperBinding) : RearmJoinScope :=
  ⟨binding.armId, binding.generation, binding.attemptId, binding.signalId⟩

/-- Scope of the revocation of a binding's grant. -/
def revocationScope (binding : ValidatedHelperBinding) : HelperRevocationScope :=
  ⟨binding.grantRef, binding.birthId, binding.attemptId⟩

/-- Try to rearm. -/
def rearm (driver : StreamDriver) (store : FakePersist) : Except String String × StreamDriver :=
  match store.tryRearmJoin (joinScope driver.binding) with
  | .error error => (.error (debugError error), driver)
  | .ok (.rearmed, store) => driver.changed store "rearmed"
  | .ok (.alreadyRearmed, store) => (.ok "exact_replay", driver.withStore store)
  | .ok (.waitingForHandled, store) => (.ok "waiting_for_handled", driver.withStore store)
  | .ok (.waitingForRecognizedTerminal, store) =>
      (.ok "waiting_for_terminal", driver.withStore store)

/-- Revoke the grant of the cycle. -/
def revoke (driver : StreamDriver) (store : FakePersist) : Except String String × StreamDriver :=
  match store.revokeHelperGrant (revocationScope driver.binding) with
  | .error error => (.error (debugError error), driver)
  | .ok (_, store) => driver.changed store "revoked"

/-- Reopen the store from a snapshot of itself.  A store that does not reopen is lost. -/
def reopen (driver : StreamDriver) (draws : StreamDraws) (store : FakePersist) :
    Except String String × StreamDriver :=
  let lost := { driver with store := none }
  match (store.recoverAuthorityState draws.verifiers).1 with
  | .error error => (.error (debugError error), lost)
  | .ok snapshot =>
      match FakePersist.restoreFromSnapshot draws.activeMacKey snapshot store.payloads with
      | .error error => (.error (debugError error), lost)
      | .ok store => (.ok "reopened", driver.withStore store)

/-! ### Operations -/

/-- Run an operation on the store. -/
def applyLive (driver : StreamDriver) (draws : StreamDraws) (operationId : String)
    (action : StoreStreamAction) (store : FakePersist) : Except String String × StreamDriver :=
  match action with
  | .arm => driver.arm store
  | .offer event => (.ok "offered", driver.keepOffer event)
  | .admitEvent event => driver.admitEvent draws.payloadRef operationId event store
  | .retrieve request => driver.retrieve draws.retrievalId request store
  | .staleRetrieve request =>
      driver.staleRetrieve draws.retrievalId draws.verifiers request store
  | .acknowledge request => driver.acknowledge request store
  | .terminal => driver.installTerminal draws operationId store
  | .rearm => driver.rearm store
  | .revoke => driver.revoke store
  | .omitRearm => (.ok "inactive", driver)
  | .restart => driver.reopen draws store

/-- Answer with what a recovery of the store shows. -/
def receipt (driver : StreamDriver) (verifiers : List VerifierRef) (outcome : String) :
    Except String StoreStreamReceipt × StreamDriver :=
  match driver.store with
  | none => (.error "store unavailable", driver)
  | some store =>
      match store.recoverAuthorityState verifiers with
      | (.error error, store) => (.error (debugError error), driver.withStore store)
      | (.ok recovered, store) =>
          let driver := { driver.withStore store with
            logicalEffects := .ofNat recovered.claims.length }
          (.ok ⟨outcome, driver.logicalEffects, driver.revision⟩, driver)

/-- Go on to the draws of the next operation. -/
def called (driver : StreamDriver) : StreamDriver :=
  { driver with calls := driver.calls + 1 }

/-- Execute one operation against the same store used by earlier calls. -/
def apply (operationId : String) (action : StoreStreamAction) (driver : StreamDriver) :
    Except String StoreStreamReceipt × StreamDriver :=
  match driver.store with
  | none => (.error "store unavailable", driver)
  | some store =>
      let draws := driver.draws driver.calls
      match driver.called.applyLive draws operationId action store with
      | (.error error, driver) => (.error error, driver)
      | (.ok outcome, driver) => driver.receipt draws.closing outcome

/-! ### Counting -/

/-- A driver that counted one change at most. -/
def Counts (driver next : StreamDriver) : Prop :=
  next.revision = driver.revision ∨ next.revision = driver.revision + 1

omit [Blake3] in
private theorem reserve_counts (driver : StreamDriver) (birth : PersistedControllerBirth)
    (reservation : ThreadCreateReservation) (arm : PersistedArm) (store : FakePersist) :
    driver.Counts (driver.reserve birth reservation arm store).2 := by
  unfold reserve
  split
  · exact .inl rfl
  · split
    · exact .inl rfl
    · exact .inr rfl

private theorem arm_counts (driver : StreamDriver) (store : FakePersist) :
    driver.Counts (driver.arm store).2 := by
  unfold arm
  split
  · exact .inl rfl
  · exact .inl rfl
  · split_ifs
    · exact reserve_counts driver _ _ _ store
    · dsimp only
      split
      · exact .inl rfl
      · exact .inl rfl
      · exact reserve_counts (driver.nextCycle _ _) _ _ _ store

omit [Blake3] in
private theorem installGrant_revision (driver : StreamDriver) (admission : ClaimAdmission)
    (store : FakePersist) : (driver.installGrant admission store).2.revision = driver.revision := by
  unfold installGrant
  split_ifs
  · rfl
  · split
    · rfl
    · dsimp only
      split <;> rfl

omit [Blake3] in
@[simp] private theorem remember_revision (driver : StreamDriver) (operationId event : String)
    (admission : ClaimAdmission) (attachment : PersistedControllerAttachment) :
    (driver.remember operationId event admission attachment).revision = driver.revision := by
  unfold remember
  split_ifs <;> rfl

private theorem admitEvent_counts (driver : StreamDriver) (payloadRef : Option ClaimPayloadRef)
    (operationId event : String) (store : FakePersist) :
    driver.Counts (driver.admitEvent payloadRef operationId event store).2 := by
  unfold admitEvent
  split_ifs
  · exact .inl rfl
  · split
    · exact .inl rfl
    · rename_i admission attachment _
      split
      · exact .inl (remember_revision _ _ _ _ _)
      · exact .inl (remember_revision _ _ _ _ _)
      · exact .inl (remember_revision _ _ _ _ _)
      · exact .inl rfl
      · rename_i record store _
        split
        · exact .inl (remember_revision _ _ _ _ _)
        · have granted := installGrant_revision driver admission store
          generalize driver.installGrant admission store = installed at granted
          obtain ⟨refusal | installed, next⟩ := installed
          · exact .inl granted
          · refine .inr ?_
            change (remember _ _ _ _ _).revision + 1 = _
            rw [remember_revision]
            exact congrArg (· + 1) granted

private theorem applyLive_counts (driver : StreamDriver) (draws : StreamDraws)
    (operationId : String) (action : StoreStreamAction) (store : FakePersist) :
    driver.Counts (driver.applyLive draws operationId action store).2 := by
  cases action with
  | arm => exact arm_counts driver store
  | offer event => exact .inr rfl
  | admitEvent event => exact admitEvent_counts driver _ operationId event store
  | retrieve request =>
      change driver.Counts (driver.retrieve _ request store).2
      unfold retrieve
      split
      · exact .inr rfl
      all_goals exact .inl rfl
  | staleRetrieve request =>
      change driver.Counts (driver.staleRetrieve _ _ request store).2
      unfold staleRetrieve
      split
      · exact .inl rfl
      · dsimp only
        split
        · exact .inl rfl
        · split
          · split <;> exact .inl rfl
          · exact .inl rfl
          · exact .inl rfl
  | acknowledge request =>
      change driver.Counts (driver.acknowledge request store).2
      unfold acknowledge
      split
      · exact .inl rfl
      · exact .inl rfl
      · split
        · exact .inl rfl
        · split
          · exact .inr rfl
          all_goals exact .inl rfl
  | terminal =>
      change driver.Counts (driver.installTerminal draws operationId store).2
      unfold installTerminal
      split
      · exact .inl rfl
      · dsimp only
        split
        · exact .inl rfl
        · exact .inr rfl
  | rearm =>
      change driver.Counts (driver.rearm store).2
      unfold rearm
      split
      · exact .inl rfl
      · exact .inr rfl
      all_goals exact .inl rfl
  | revoke =>
      change driver.Counts (driver.revoke store).2
      unfold revoke
      split
      · exact .inl rfl
      · exact .inr rfl
  | omitRearm => exact .inl rfl
  | restart =>
      change driver.Counts (driver.reopen draws store).2
      unfold reopen
      dsimp only
      split
      · exact .inl rfl
      · split <;> exact .inl rfl

/-- A receipt shows the store that was recovered for it. -/
private theorem receipt_shows {verifiers : List VerifierRef} {outcome : String}
    {driver next : StreamDriver} {receipt : StoreStreamReceipt}
    (answered : driver.receipt verifiers outcome = (.ok receipt, next)) :
    next.revision = driver.revision ∧ receipt.authorityRevision = next.revision ∧
      ∃ store, next.store = some store ∧
        receipt.logicalEffects = .ofNat (BTreeMap.rows store.claims).length := by
  unfold StreamDriver.receipt at answered
  cases opened : driver.store with
  | none =>
      rw [opened] at answered
      cases answered
  | some store =>
      rw [opened] at answered
      dsimp only at answered
      have left := store.recoverAuthorityState_store verifiers
      have shown (dump : RecoverySnapshot)
          (recovered : (store.recoverAuthorityState verifiers).1 = .ok dump) :
          dump.claims = BTreeMap.rows (store.classified verifiers).2.claims := by
        rw [(FakePersist.recoverAuthorityState_ok recovered).2.1]
        rfl
      generalize store.recoverAuthorityState verifiers = recovery at answered left shown
      obtain ⟨refusal | dump, recovered⟩ := recovery
      · cases answered
      · cases answered
        refine ⟨rfl, rfl, recovered, rfl, ?_⟩
        rw [shown dump rfl, ← left]

/-- An operation that is answered shows the claims of the store it leaves and the changes
counted so far, of which it is one at most. -/
theorem apply_shows {operationId : String} {action : StoreStreamAction}
    {driver next : StreamDriver} {receipt : StoreStreamReceipt}
    (answered : driver.apply operationId action = (.ok receipt, next)) :
    driver.Counts next ∧ receipt.authorityRevision = next.revision ∧
      ∃ store, next.store = some store ∧
        receipt.logicalEffects = .ofNat (BTreeMap.rows store.claims).length := by
  unfold apply at answered
  cases opened : driver.store with
  | none =>
      rw [opened] at answered
      cases answered
  | some store =>
      rw [opened] at answered
      have counts := applyLive_counts driver.called (driver.draws driver.calls) operationId
        action store
      dsimp only at answered
      generalize driver.called.applyLive (driver.draws driver.calls) operationId action store =
        live at answered counts
      obtain ⟨refusal | outcome, left⟩ := live
      · cases answered
      · obtain ⟨same, shown⟩ := receipt_shows answered
        exact ⟨by rw [Counts, same]; exact counts, shown⟩

/-- An offer is taken while the store is recovered. -/
theorem offer_taken {driver : StreamDriver} {store recovered : FakePersist}
    {dump : RecoverySnapshot} (opened : driver.store = some store)
    (recovers : store.recoverAuthorityState (driver.draws driver.calls).closing =
      (.ok dump, recovered)) (operationId event : String) :
    ∃ receipt next, driver.apply operationId (.offer event) = (.ok receipt, next) ∧
      next.store = some recovered ∧ next.draws = driver.draws := by
  have taken : driver.apply operationId (.offer event) =
      (.ok ⟨"offered", .ofNat dump.claims.length, driver.revision + 1⟩,
        { (driver.called.keepOffer event).withStore recovered with
          logicalEffects := .ofNat dump.claims.length }) := by
    have live : (driver.called.keepOffer event).store = some store := opened
    simp only [apply, opened, applyLive, receipt, live, recovers]
    rfl
  exact ⟨_, _, taken, rfl, rfl⟩

end StreamDriver

instance : StoreStreamAdapter StreamDriver := ⟨StreamDriver.apply⟩

end Driver

namespace Sample

open scoped Gearwit.Sample

/-- Draws that differ from call to call. -/
def streamDraws (call : Nat) : StreamDraws where
  payloadRef := some (PrivateId.fixture (.ofNat call))
  retrievalId := some (PrivateId.fixture (.ofNat call))
  activeMacKey := PrivateId.fixture (.ofNat call)
  verifiers := []
  closing := []

/-- The driver under these draws. -/
def stream : StreamDriver :=
  (StreamDriver.new streamDraws).toOption.get (by decide +kernel)

theorem new_stream : StreamDriver.new streamDraws = .ok stream := by
  have stays : (StreamDriver.new streamDraws).toOption = some stream := (Option.some_get _).symm
  generalize StreamDriver.new streamDraws = opened at stays
  cases opened with
  | error refusal => cases stays
  | ok driver => exact congrArg Except.ok (Option.some.inj stays)

end Sample

end Simulator
end Gearwit
