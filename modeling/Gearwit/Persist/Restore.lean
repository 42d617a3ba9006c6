import Gearwit.Persist.Recovery

/-!
# Restore

A store is rebuilt from a recovery snapshot and the payload partition.  Repeated
keys are refused while the tables are collected; then the helper tables are
checked against the claims.  Every check comes with the proposition it decides.
-/

namespace Gearwit
namespace FakePersist

/-! ## Tables -/

/-- The map of a list of rows, refusing a repeated key. -/
def collect {κ α β : Type} [Ord κ] [Std.TransOrd κ] (key : β → κ) (value : β → α)
    (list : List β) : Except PersistError (BTreeMap κ α) :=
  match BTreeMap.collectUnique key value list ∅ with
  | none => .error .conflict
  | some map => .ok map

/-- Rebuild the tables of a snapshot.  The claims and the write evidence each
fill two tables from the same rows. -/
def restoreTables (activeMacKey : Bytes32) (snapshot : RecoverySnapshot)
    (payloads : BTreeMap ClaimPayloadRef BoundedClaimPayload) :
    Except PersistError FakePersist := do
  let arms ← collect PersistedArm.armId id snapshot.arms
  let claimAttempts ← collect PersistedClaimRecord.requestId
    PersistedClaimRecord.attemptId snapshot.claims
  let claims ← collect PersistedClaimRecord.requestId id snapshot.claims
  let attachments ← collect PersistedControllerAttachment.attemptId id
    snapshot.attachments
  let births ← collect PersistedControllerBirth.birthId id snapshot.controllerBirths
  let ownership ← collect PersistedThreadOwnership.birthId
    PersistedThreadOwnership.state snapshot.ownership
  let prepared ← collect PersistedTurnCorrelation.attemptId id
    snapshot.turnCorrelations
  let reservations ← collect
    (fun row : PersistedNativeReservation => row.correlation.attemptId) id
    snapshot.reservations
  let writeEvidence ← collect
    (fun row : PersistedNativeWriteEvidence => row.correlation.attemptId)
    PersistedNativeWriteEvidence.evidence snapshot.nativeWriteEvidence
  let writeEvidenceRefs ← collect
    (fun row : PersistedNativeWriteEvidence => row.correlation.attemptId)
    PersistedNativeWriteEvidence.evidenceRef snapshot.nativeWriteEvidence
  let turnFacts ← collect PersistedNativeTurnFacts.attemptId
    PersistedNativeTurnFacts.facts snapshot.nativeTurnFacts
  let reconciliations ← collect PersistedReconciliation.attemptId
    PersistedReconciliation.disposition snapshot.reconciliations
  let prewrite ← collect PersistedPreWriteConclusion.attemptId id
    snapshot.prewriteConclusions
  let activeObservations ← collect PersistedActiveObservationEvidence.attemptId id
    snapshot.activeObservations
  let retrieveReplays ← collect PersistedRetrieveReplay.requestId id
    snapshot.retrieveReplays
  let retrievals ← collect PersistedRetrievalRecord.retrievalId id
    snapshot.retrievalBindings
  let ackReplays ← collect PersistedAckReplay.requestId id snapshot.ackReplays
  let handled ← collect PersistedHandledCoverage.attemptId id
    snapshot.handledCoverage
  let rearmed ← collect (id : PersistedRearmJoin → PersistedRearmJoin)
    (fun _ => ()) snapshot.rearmedJoins
  return { FakePersist.default activeMacKey with
    arms, claimAttempts, claims, payloads, attachments, births, ownership, prepared,
    reservations, writeEvidence, writeEvidenceRefs, turnFacts, reconciliations,
    prewrite, activeObservations, retrieveReplays, retrievals, ackReplays, handled,
    rearmed
    grants := snapshot.helperGrants
    retiredGrants := snapshot.retiredHelperGrants
    attemptSeq := snapshot.attemptSeq }

/-- A store rebuilt from a snapshot: every table collects its rows, and what a
snapshot does not carry starts over. -/
structure Rebuilt (activeMacKey : Bytes32) (snapshot : RecoverySnapshot)
    (payloads : BTreeMap ClaimPayloadRef BoundedClaimPayload)
    (store : FakePersist) : Prop where
  arms : collect PersistedArm.armId id snapshot.arms = .ok store.arms
  claimAttempts : collect PersistedClaimRecord.requestId
    PersistedClaimRecord.attemptId snapshot.claims = .ok store.claimAttempts
  claims : collect PersistedClaimRecord.requestId id snapshot.claims =
    .ok store.claims
  attachments : collect PersistedControllerAttachment.attemptId id
    snapshot.attachments = .ok store.attachments
  births : collect PersistedControllerBirth.birthId id snapshot.controllerBirths =
    .ok store.births
  ownership : collect PersistedThreadOwnership.birthId
    PersistedThreadOwnership.state snapshot.ownership = .ok store.ownership
  prepared : collect PersistedTurnCorrelation.attemptId id
    snapshot.turnCorrelations = .ok store.prepared
  reservations : collect
    (fun row : PersistedNativeReservation => row.correlation.attemptId) id
    snapshot.reservations = .ok store.reservations
  writeEvidence : collect
    (fun row : PersistedNativeWriteEvidence => row.correlation.attemptId)
    PersistedNativeWriteEvidence.evidence snapshot.nativeWriteEvidence =
      .ok store.writeEvidence
  writeEvidenceRefs : collect
    (fun row : PersistedNativeWriteEvidence => row.correlation.attemptId)
    PersistedNativeWriteEvidence.evidenceRef snapshot.nativeWriteEvidence =
      .ok store.writeEvidenceRefs
  turnFacts : collect PersistedNativeTurnFacts.attemptId
    PersistedNativeTurnFacts.facts snapshot.nativeTurnFacts = .ok store.turnFacts
  reconciliations : collect PersistedReconciliation.attemptId
    PersistedReconciliation.disposition snapshot.reconciliations =
      .ok store.reconciliations
  prewrite : collect PersistedPreWriteConclusion.attemptId id
    snapshot.prewriteConclusions = .ok store.prewrite
  activeObservations : collect PersistedActiveObservationEvidence.attemptId id
    snapshot.activeObservations = .ok store.activeObservations
  retrieveReplays : collect PersistedRetrieveReplay.requestId id
    snapshot.retrieveReplays = .ok store.retrieveReplays
  retrievals : collect PersistedRetrievalRecord.retrievalId id
    snapshot.retrievalBindings = .ok store.retrievals
  ackReplays : collect PersistedAckReplay.requestId id snapshot.ackReplays =
    .ok store.ackReplays
  handled : collect PersistedHandledCoverage.attemptId id snapshot.handledCoverage =
    .ok store.handled
  rearmed : collect (id : PersistedRearmJoin → PersistedRearmJoin) (fun _ => ())
    snapshot.rearmedJoins = .ok store.rearmed
  rest : store = { FakePersist.default activeMacKey with
    arms := store.arms
    claimAttempts := store.claimAttempts
    claims := store.claims
    payloads := payloads
    attachments := store.attachments
    births := store.births
    ownership := store.ownership
    prepared := store.prepared
    reservations := store.reservations
    writeEvidence := store.writeEvidence
    writeEvidenceRefs := store.writeEvidenceRefs
    turnFacts := store.turnFacts
    reconciliations := store.reconciliations
    prewrite := store.prewrite
    activeObservations := store.activeObservations
    retrieveReplays := store.retrieveReplays
    retrievals := store.retrievals
    ackReplays := store.ackReplays
    handled := store.handled
    rearmed := store.rearmed
    grants := snapshot.helperGrants
    retiredGrants := snapshot.retiredHelperGrants
    attemptSeq := snapshot.attemptSeq }

private theorem bind_eq_ok {ε α β : Type} {first : Except ε α} {next : α → Except ε β}
    {result : β} :
    (first >>= next) = .ok result ↔ ∃ value, first = .ok value ∧
      next value = .ok result := by
  cases first <;> simp [bind, Except.bind]

/-- Tables are restored exactly as the store they rebuild. -/
theorem restoreTables_eq_ok_iff (activeMacKey : Bytes32) (snapshot : RecoverySnapshot)
    (payloads : BTreeMap ClaimPayloadRef BoundedClaimPayload) (store : FakePersist) :
    restoreTables activeMacKey snapshot payloads = .ok store ↔
      Rebuilt activeMacKey snapshot payloads store := by
  constructor
  · intro restored
    simp only [restoreTables, bind_eq_ok, pure, Except.pure, Except.ok.injEq]
      at restored
    obtain ⟨arms, armsFrom, claimAttempts, claimAttemptsFrom, claims, claimsFrom,
      attachments, attachmentsFrom, births, birthsFrom, ownership, ownershipFrom,
      prepared, preparedFrom, reservations, reservationsFrom, writeEvidence,
      writeEvidenceFrom, writeEvidenceRefs, writeEvidenceRefsFrom, turnFacts,
      turnFactsFrom, reconciliations, reconciliationsFrom, prewrite, prewriteFrom,
      activeObservations, activeObservationsFrom, retrieveReplays,
      retrieveReplaysFrom, retrievals, retrievalsFrom, ackReplays, ackReplaysFrom,
      handled, handledFrom, rearmed, rearmedFrom, rfl⟩ := restored
    exact ⟨armsFrom, claimAttemptsFrom, claimsFrom, attachmentsFrom, birthsFrom,
      ownershipFrom, preparedFrom, reservationsFrom, writeEvidenceFrom,
      writeEvidenceRefsFrom, turnFactsFrom, reconciliationsFrom, prewriteFrom,
      activeObservationsFrom, retrieveReplaysFrom, retrievalsFrom, ackReplaysFrom,
      handledFrom, rearmedFrom, rfl⟩
  · intro rebuilt
    rw [rebuilt.rest]
    simp only [restoreTables, rebuilt.arms, rebuilt.claimAttempts, rebuilt.claims,
      rebuilt.attachments, rebuilt.births, rebuilt.ownership, rebuilt.prepared,
      rebuilt.reservations, rebuilt.writeEvidence, rebuilt.writeEvidenceRefs,
      rebuilt.turnFacts, rebuilt.reconciliations, rebuilt.prewrite,
      rebuilt.activeObservations, rebuilt.retrieveReplays, rebuilt.retrievals,
      rebuilt.ackReplays, rebuilt.handled, rebuilt.rearmed]
    rfl

/-- Collected rows are the stored rows. -/
theorem mem_rows_collect {κ α : Type} [Ord κ] [Std.TransOrd κ] [Std.LawfulEqOrd κ]
    {key : α → κ} {list : List α} {map : BTreeMap κ α}
    (collected : collect key id list = .ok map) (row : α) :
    map[key row]? = some row ↔ row ∈ list := by
  have found : BTreeMap.collectUnique key id list ∅ = some map := by
    unfold collect at collected
    split at collected
    · cases collected
    · next result same =>
      simp only [Except.ok.injEq] at collected
      rw [same, collected]
  constructor
  · intro stored
    rcases BTreeMap.getElem?_collectUnique_cases key id found stored with
      empty | ⟨other, present, _, same⟩
    · simp at empty
    · exact (show other = row from same) ▸ present
  · exact BTreeMap.getElem?_collectUnique_of_mem key id found

/-- Collected tables are keyed. -/
theorem keyed_collect {κ α : Type} [Ord κ] [Std.TransOrd κ] [Std.LawfulEqOrd κ]
    {key : α → κ} {list : List α} {map : BTreeMap κ α}
    (collected : collect key id list = .ok map) : BTreeMap.Keyed key map := by
  intro probe row stored
  unfold collect at collected
  split at collected
  · cases collected
  next result found =>
  simp only [Except.ok.injEq] at collected
  subst collected
  rcases BTreeMap.getElem?_collectUnique_cases key id found stored with
    empty | ⟨other, _, named, same⟩
  · simp at empty
  · exact (show other = row from same) ▸ named

/-- Collected keys are the listed keys. -/
theorem mem_keys_of_collect {κ : Type} [Ord κ] [Std.TransOrd κ] [Std.LawfulEqOrd κ]
    {list : List κ} {map : BTreeSet κ}
    (collected : collect (id : κ → κ) (fun _ => ()) list = .ok map) (key : κ) :
    key ∈ map.keys ↔ key ∈ list := by
  have found : BTreeMap.collectUnique (id : κ → κ) (fun _ => ()) list ∅ =
      some map := by
    unfold collect at collected
    split at collected
    · cases collected
    · next result same =>
      simp only [Except.ok.injEq] at collected
      rw [same, collected]
  rw [Std.ExtTreeMap.mem_keys, Std.ExtTreeMap.mem_iff_isSome_getElem?,
    Option.isSome_iff_exists]
  constructor
  · rintro ⟨_, stored⟩
    rcases BTreeMap.getElem?_collectUnique_cases _ _ found stored with
      empty | ⟨other, present, named, _⟩
    · simp at empty
    · exact (show other = key from named) ▸ present
  · intro present
    exact ⟨(), BTreeMap.getElem?_collectUnique_of_mem _ _ found present⟩

/-! ## Checks -/

/-- Key of a grant. -/
def grantKey (grant : PersistedHelperGrant) : ControllerBirthId × AttemptId :=
  (grant.birthId, grant.attemptId)

/-- Check grants in order against the keys seen so far. -/
def validateGrants (store : FakePersist) :
    List PersistedHelperGrant → (seen : List (ControllerBirthId × AttemptId)) →
      Except PersistError Unit
  | [], _ => .ok ()
  | grant :: rest, seen =>
      if grantKey grant ∈ seen then .error .conflict
      else if store.grantIdentityRetired grant then .error .conflict
      else store.validateGrants rest (grantKey grant :: seen)

/-- Distinct keys, none seen before, and no retired identity. -/
theorem validateGrants_eq_ok_iff (store : FakePersist)
    (grants : List PersistedHelperGrant)
    (seen : List (ControllerBirthId × AttemptId)) :
    store.validateGrants grants seen = .ok () ↔
      (grants.map grantKey).Nodup ∧ (∀ grant ∈ grants, grantKey grant ∉ seen) ∧
        ∀ grant ∈ grants, store.grantIdentityRetired grant = false := by
  induction grants generalizing seen with
  | nil => simp [validateGrants]
  | cons grant rest inductionHypothesis =>
      simp only [validateGrants]
      split
      · next repeated =>
        simp only [reduceCtorEq, false_iff, not_and]
        intro _ unseen
        exact absurd repeated (unseen grant (by simp))
      next unseen =>
      split
      · next retired =>
        simp only [reduceCtorEq, false_iff, not_and]
        intro _ _ live
        exact absurd (live grant (by simp)) (by simp [retired])
      next live =>
      rw [inductionHypothesis]
      simp only [List.map_cons, List.nodup_cons, List.mem_map, List.mem_cons,
        forall_eq_or_imp, not_or, not_exists, not_and]
      constructor
      · rintro ⟨distinct, fresh, rest⟩
        exact ⟨⟨fun other present equal => (fresh other present).1 equal, distinct⟩,
          ⟨unseen, fun other present => (fresh other present).2⟩,
          by simpa using live, rest⟩
      · rintro ⟨⟨headFresh, distinct⟩, ⟨_, fresh⟩, _, rest⟩
        exact ⟨distinct, fun other present =>
          ⟨headFresh other present, fresh other present⟩, rest⟩

section Validation

variable [Blake3]

/-- The one claim an origin names, if the origin is intact and its operations
allow what the row claims. -/
def claimForOrigin (store : FakePersist) (origin : PersistedHelperBindingIdentity)
    (bindingDigest : Bytes32) (required : HelperOperation) :
    Except PersistError PersistedClaimRecord :=
  if canonicalBindingIdentityDigest origin ≠ bindingDigest ∨
      origin.operations.allows required = false then .error .conflict
  else
    match (BTreeMap.rows store.claims).filter fun claim =>
        decide (claim.claimDigest = origin.claimDigest) with
    | [claim] =>
        if claim.armId ≠ origin.armId ∨ claim.generation ≠ origin.generation ∨
            claim.attemptId ≠ origin.attemptId ∨
            claim.signalId ≠ origin.signalId then .error .conflict
        else .ok claim
    | _ => .error .conflict

/-- Check one retrieval row. -/
def validateRetrieval (store : FakePersist) (stored : PersistedRetrievalRecord) :
    Except PersistError Unit :=
  if stored.retrievalId ≠ stored.result.retrievalId then .error .conflict
  else if !(BTreeMap.rows store.retrieveReplays).any fun replay =>
      decide (replay.result.retrievalId = stored.retrievalId ∧
        replay.origin = stored.origin ∧
        replay.bindingDigest = stored.bindingDigest) then .error .conflict
  else
    match store.claimForOrigin stored.origin stored.bindingDigest .retrieve with
    | .error refusal => .error refusal
    | .ok claim =>
        if retrieveResultMatchesClaim stored.result claim then .ok ()
        else .error .conflict

/-- Check one retrieve replay row. -/
def validateRetrieveReplay (store : FakePersist) (replay : PersistedRetrieveReplay) :
    Except PersistError Unit :=
  match store.retrievals[replay.result.retrievalId]? with
  | none => .error .conflict
  | some stored =>
      if stored.bindingDigest ≠ replay.bindingDigest ∨
          stored.origin ≠ replay.origin ∨ stored.result ≠ replay.result ∨
          stored.retrievalId ≠ replay.result.retrievalId then .error .conflict
      else
        match store.claimForOrigin replay.origin replay.bindingDigest .retrieve with
        | .error refusal => .error refusal
        | .ok claim =>
            if retrieveResultMatchesClaim replay.result claim = false then
              .error .conflict
            else if canonicalRetrieveBodyDigest replay.bindingDigest
                replay.requestId ≠ replay.canonicalBodyDigest then
              .error .conflict
            else .ok ()

/-- Check that a cursor lies within what the claim's coverage proves. -/
def validateCursor (store : FakePersist) (claim : PersistedClaimRecord)
    (cursor : EventRef) : Except PersistError Unit :=
  match provedAckIndex claim claim.eventRefs.asSlice
      store.payloads[claim.payloadRef]? with
  | .error _ => .error .conflict
  | .ok proved =>
      match claim.eventRefs.asSlice.idxOf? cursor with
      | none => .error .conflict
      | some position =>
          if proved < position then .error .conflict else .ok ()

/-- Check one acknowledge replay row. -/
def validateAckReplay (store : FakePersist) (replay : PersistedAckReplay) :
    Except PersistError Unit :=
  match store.retrievals[replay.retrievalId]? with
  | none => .error .conflict
  | some stored =>
      if stored.bindingDigest ≠ replay.bindingDigest ∨
          stored.result.retrievalId ≠ replay.retrievalId then .error .conflict
      else if canonicalAckBodyDigest replay.bindingDigest replay.requestId
          replay.retrievalId replay.cursor ≠ replay.canonicalBodyDigest then
        .error .conflict
      else
        match store.claimForOrigin stored.origin stored.bindingDigest
            .acknowledge with
        | .error refusal => .error refusal
        | .ok claim =>
            if replay.result.attemptId ≠ claim.attemptId ∨
                replay.result.signalId ≠ claim.signalId ∨
                replay.result.cursor ≠ replay.cursor then .error .conflict
            else store.validateCursor claim replay.cursor

/-- Check one handled coverage row. -/
def validateHandled (store : FakePersist) (coverage : PersistedHandledCoverage) :
    Except PersistError Unit :=
  match store.claimForAttempt coverage.attemptId with
  | none => .error .conflict
  | some claim =>
      if coverage.signalId ≠ claim.signalId then .error .conflict
      else
        match store.validateCursor claim coverage.cursor with
        | .error refusal => .error refusal
        | .ok () =>
            if coverage.coveredThroughNewest ≠
                decide (claim.eventRefs.asSlice.getLast? = some coverage.cursor) then
              .error .conflict
            else .ok ()

/-- Check one join row. -/
def validateJoin (store : FakePersist) (join : PersistedRearmJoin) :
    Except PersistError Unit :=
  match store.claimForAttempt join.attemptId with
  | none => .error .conflict
  | some claim =>
      if claim.armId ≠ join.armId ∨ claim.generation ≠ join.generation ∨
          claim.signalId ≠ join.signalId then .error .conflict
      else if !store.handledThroughNewest join ||
          !store.attemptTerminal join.attemptId then .error .conflict
      else .ok ()

/-- Check the helper tables against the claims. -/
def validateRestoredHelperInvariants (store : FakePersist) :
    Except PersistError Unit := do
  store.validateGrants store.grants []
  checkAll store.validateRetrieval (BTreeMap.rows store.retrievals)
  checkAll store.validateRetrieveReplay (BTreeMap.rows store.retrieveReplays)
  checkAll store.validateAckReplay (BTreeMap.rows store.ackReplays)
  checkAll store.validateHandled (BTreeMap.rows store.handled)
  checkAll store.validateJoin store.rearmed.keys

/-- Rebuild a store from a snapshot and the payload partition.  The observation
key of the rebuilt store is a fresh random draw. -/
def restoreFromSnapshot (activeMacKey : Bytes32) (snapshot : RecoverySnapshot)
    (payloads : BTreeMap ClaimPayloadRef BoundedClaimPayload) :
    Except PersistError FakePersist :=
  match restoreTables activeMacKey snapshot payloads with
  | .error refusal => .error refusal
  | .ok store =>
      if store.helperRequestNonceCollision then .error .conflict
      else
        match store.validateRecoveredCoverage with
        | .error refusal => .error refusal
        | .ok () =>
            match store.validateRestoredHelperInvariants with
            | .error refusal => .error refusal
            | .ok () => .ok store

/-! ## What the checks decide -/

/-- Claim an intact origin names: the only one with its digest, agreeing on every
other field. -/
structure OriginClaim (store : FakePersist) (origin : PersistedHelperBindingIdentity)
    (bindingDigest : Bytes32) (required : HelperOperation)
    (claim : PersistedClaimRecord) : Prop where
  digest : canonicalBindingIdentityDigest origin = bindingDigest
  allowed : origin.operations.allows required = true
  only : (BTreeMap.rows store.claims).filter (fun other =>
    decide (other.claimDigest = origin.claimDigest)) = [claim]
  arm : claim.armId = origin.armId
  generation : claim.generation = origin.generation
  attempt : claim.attemptId = origin.attemptId
  signal : claim.signalId = origin.signalId

/-- A claim is found for an origin exactly if it is the origin's claim. -/
theorem claimForOrigin_eq_ok_iff (store : FakePersist)
    (origin : PersistedHelperBindingIdentity) (bindingDigest : Bytes32)
    (required : HelperOperation) (claim : PersistedClaimRecord) :
    store.claimForOrigin origin bindingDigest required = .ok claim ↔
      OriginClaim store origin bindingDigest required claim := by
  constructor
  · intro found
    unfold claimForOrigin at found
    split at found
    · cases found
    next intact =>
    split at found
    · next only listed =>
      split at found
      · cases found
      next agrees =>
      simp only [Except.ok.injEq] at found
      subst found
      simp only [not_or, not_not, Bool.not_eq_false] at intact agrees
      exact ⟨intact.1, intact.2, listed, agrees.1, agrees.2.1, agrees.2.2.1,
        agrees.2.2.2⟩
    · cases found
  · rintro ⟨digest, allowed, only, arm, generation, attempt, signal⟩
    simp [claimForOrigin, digest, allowed, only, arm, generation, attempt, signal]

/-- The claim of an origin is stored. -/
theorem OriginClaim.stored {store : FakePersist}
    {origin : PersistedHelperBindingIdentity} {bindingDigest : Bytes32}
    {required : HelperOperation} {claim : PersistedClaimRecord}
    (named : OriginClaim store origin bindingDigest required claim) :
    claim ∈ BTreeMap.rows store.claims ∧ claim.claimDigest = origin.claimDigest := by
  have present : claim ∈ (BTreeMap.rows store.claims).filter fun other =>
      decide (other.claimDigest = origin.claimDigest) := by
    rw [named.only]
    exact List.mem_singleton_self claim
  simpa using List.mem_filter.1 present

/-- What a retrieval row must satisfy. -/
def RetrievalValid (store : FakePersist) (stored : PersistedRetrievalRecord) : Prop :=
  stored.retrievalId = stored.result.retrievalId ∧
  (∃ replay ∈ BTreeMap.rows store.retrieveReplays,
    replay.result.retrievalId = stored.retrievalId ∧
      replay.origin = stored.origin ∧
      replay.bindingDigest = stored.bindingDigest) ∧
  ∃ claim, OriginClaim store stored.origin stored.bindingDigest .retrieve claim ∧
    retrieveResultMatchesClaim stored.result claim = true

/-- A retrieval passes exactly if it is valid. -/
theorem validateRetrieval_eq_ok_iff (store : FakePersist)
    (stored : PersistedRetrievalRecord) :
    store.validateRetrieval stored = .ok () ↔ RetrievalValid store stored := by
  unfold validateRetrieval RetrievalValid
  split
  · next different => simp [different]
  next same =>
  split
  · next unreplayed =>
    simp only [Bool.not_eq_true', List.any_eq_false, decide_eq_true_eq] at unreplayed
    simp only [reduceCtorEq, false_iff, not_and, not_exists]
    rintro _ ⟨replay, present, matched⟩
    exact absurd matched (unreplayed replay present)
  next replayed =>
  simp only [Bool.not_eq_true', Bool.not_eq_false, List.any_eq_true,
    decide_eq_true_eq] at replayed
  have sameId : stored.retrievalId = stored.result.retrievalId := by simpa using same
  simp only [sameId, true_and]
  rw [sameId] at replayed
  simp only [replayed, true_and]
  simp only [← claimForOrigin_eq_ok_iff]
  cases store.claimForOrigin stored.origin stored.bindingDigest .retrieve with
  | error refusal => simp
  | ok claim =>
      cases retrieveResultMatchesClaim stored.result claim <;> simp_all

/-- What a retrieve replay row must satisfy. -/
def RetrieveReplayValid (store : FakePersist) (replay : PersistedRetrieveReplay) :
    Prop :=
  (∃ stored, store.retrievals[replay.result.retrievalId]? = some stored ∧
    stored.bindingDigest = replay.bindingDigest ∧ stored.origin = replay.origin ∧
    stored.result = replay.result ∧
    stored.retrievalId = replay.result.retrievalId) ∧
  (∃ claim, OriginClaim store replay.origin replay.bindingDigest .retrieve claim ∧
    retrieveResultMatchesClaim replay.result claim = true) ∧
  canonicalRetrieveBodyDigest replay.bindingDigest replay.requestId =
    replay.canonicalBodyDigest

/-- A retrieval replay passes exactly if it is valid. -/
theorem validateRetrieveReplay_eq_ok_iff (store : FakePersist)
    (replay : PersistedRetrieveReplay) :
    store.validateRetrieveReplay replay = .ok () ↔
      RetrieveReplayValid store replay := by
  unfold validateRetrieveReplay RetrieveReplayValid
  simp only [← claimForOrigin_eq_ok_iff]
  cases store.retrievals[replay.result.retrievalId]? with
  | none => simp
  | some stored =>
      simp only [Option.some.injEq, exists_eq_left']
      split
      · next different => simp only [reduceCtorEq, false_iff]; tauto
      next same =>
      simp only [not_or, not_not] at same
      simp only [same, and_self, true_and]
      cases store.claimForOrigin replay.origin replay.bindingDigest .retrieve with
      | error refusal => simp
      | ok claim =>
          cases matched : retrieveResultMatchesClaim replay.result claim <;>
            simp [matched]

/-- What a cursor must satisfy. -/
def CursorValid (store : FakePersist) (claim : PersistedClaimRecord)
    (cursor : EventRef) : Prop :=
  ∃ proved position,
    provedAckIndex claim claim.eventRefs.asSlice store.payloads[claim.payloadRef]? =
      .ok proved ∧
    claim.eventRefs.asSlice.idxOf? cursor = some position ∧ position ≤ proved

/-- A cursor passes exactly if it is valid. -/
theorem validateCursor_eq_ok_iff (store : FakePersist) (claim : PersistedClaimRecord)
    (cursor : EventRef) :
    store.validateCursor claim cursor = .ok () ↔ CursorValid store claim cursor := by
  unfold validateCursor CursorValid
  cases provedAckIndex claim claim.eventRefs.asSlice
      store.payloads[claim.payloadRef]? with
  | error refusal => simp
  | ok proved =>
      cases claim.eventRefs.asSlice.idxOf? cursor with
      | none => simp
      | some position => simp

/-- What an acknowledge replay row must satisfy. -/
def AckReplayValid (store : FakePersist) (replay : PersistedAckReplay) : Prop :=
  ∃ stored, store.retrievals[replay.retrievalId]? = some stored ∧
    stored.bindingDigest = replay.bindingDigest ∧
    stored.result.retrievalId = replay.retrievalId ∧
    canonicalAckBodyDigest replay.bindingDigest replay.requestId replay.retrievalId
      replay.cursor = replay.canonicalBodyDigest ∧
    ∃ claim, OriginClaim store stored.origin stored.bindingDigest .acknowledge claim ∧
      replay.result.attemptId = claim.attemptId ∧
      replay.result.signalId = claim.signalId ∧
      replay.result.cursor = replay.cursor ∧
      CursorValid store claim replay.cursor

/-- An acknowledgement replay passes exactly if it is valid. -/
theorem validateAckReplay_eq_ok_iff (store : FakePersist)
    (replay : PersistedAckReplay) :
    store.validateAckReplay replay = .ok () ↔ AckReplayValid store replay := by
  unfold validateAckReplay AckReplayValid
  simp only [← claimForOrigin_eq_ok_iff, ← validateCursor_eq_ok_iff]
  cases store.retrievals[replay.retrievalId]? with
  | none => simp
  | some stored =>
      simp only [Option.some.injEq, exists_eq_left']
      split
      · next different => simp only [reduceCtorEq, false_iff]; tauto
      next same =>
      simp only [not_or, not_not] at same
      rw [if_congr (Iff.rfl) rfl rfl]
      split
      · next different => simp only [reduceCtorEq, false_iff]; tauto
      next digest =>
      simp only [not_not] at digest
      simp only [same.1, same.2, digest, true_and]
      cases store.claimForOrigin stored.origin replay.bindingDigest .acknowledge with
      | error refusal => simp
      | ok claim =>
          simp only [Except.ok.injEq, exists_eq_left']
          split
          · next different => simp only [reduceCtorEq, false_iff]; tauto
          next agrees =>
          simp only [not_or, not_not] at agrees
          simp [agrees]

/-- What a handled coverage row must satisfy. -/
def HandledValid (store : FakePersist) (coverage : PersistedHandledCoverage) : Prop :=
  ∃ claim, store.claimForAttempt coverage.attemptId = some claim ∧
    coverage.signalId = claim.signalId ∧ CursorValid store claim coverage.cursor ∧
    coverage.coveredThroughNewest =
      decide (claim.eventRefs.asSlice.getLast? = some coverage.cursor)

/-- A coverage passes exactly if it is valid. -/
theorem validateHandled_eq_ok_iff (store : FakePersist)
    (coverage : PersistedHandledCoverage) :
    store.validateHandled coverage = .ok () ↔ HandledValid store coverage := by
  unfold validateHandled HandledValid
  simp only [← validateCursor_eq_ok_iff]
  cases store.claimForAttempt coverage.attemptId with
  | none => simp
  | some claim =>
      simp only [Option.some.injEq, exists_eq_left']
      split
      · next different => simp [different]
      next same =>
      simp only [not_not] at same
      cases store.validateCursor claim coverage.cursor with
      | error refusal => simp
      | ok valid => simp [same]

/-- What a join row must satisfy. -/
def JoinValid (store : FakePersist) (join : PersistedRearmJoin) : Prop :=
  ∃ claim, store.claimForAttempt join.attemptId = some claim ∧
    claim.armId = join.armId ∧ claim.generation = join.generation ∧
    claim.signalId = join.signalId ∧ store.handledThroughNewest join = true ∧
    store.attemptTerminal join.attemptId = true

omit [Blake3] in
/-- A join passes exactly if it is valid. -/
theorem validateJoin_eq_ok_iff (store : FakePersist) (join : PersistedRearmJoin) :
    store.validateJoin join = .ok () ↔ JoinValid store join := by
  unfold validateJoin JoinValid
  cases store.claimForAttempt join.attemptId with
  | none => simp
  | some claim =>
      simp only [Option.some.injEq, exists_eq_left']
      split
      · next different => simp only [reduceCtorEq, false_iff]; tauto
      next same =>
      simp only [not_or, not_not] at same
      cases store.handledThroughNewest join <;>
        cases store.attemptTerminal join.attemptId <;> simp [same]

/-- The cross-table conditions a restored store meets. -/
structure HelperInvariants (store : FakePersist) : Prop where
  grantKeys : (store.grants.map grantKey).Nodup
  grantsLive : ∀ grant ∈ store.grants, store.grantIdentityRetired grant = false
  retrievals : ∀ stored ∈ BTreeMap.rows store.retrievals, RetrievalValid store stored
  retrieveReplays : ∀ replay ∈ BTreeMap.rows store.retrieveReplays,
    RetrieveReplayValid store replay
  ackReplays : ∀ replay ∈ BTreeMap.rows store.ackReplays, AckReplayValid store replay
  handled : ∀ coverage ∈ BTreeMap.rows store.handled, HandledValid store coverage
  joins : ∀ join ∈ store.rearmed.keys, JoinValid store join

omit [Blake3] in
private theorem bind_eq_ok_iff {first second : Except PersistError Unit} :
    (first >>= fun _ => second) = .ok () ↔ first = .ok () ∧ second = .ok () := by
  cases first with
  | error refusal => simp [bind, Except.bind]
  | ok value => simp [bind, Except.bind]

/-- A restored store passes exactly if its helper tables keep their invariants. -/
theorem validateRestoredHelperInvariants_eq_ok_iff (store : FakePersist) :
    store.validateRestoredHelperInvariants = .ok () ↔ HelperInvariants store := by
  unfold validateRestoredHelperInvariants
  simp only [bind_eq_ok_iff, validateGrants_eq_ok_iff, checkAll_eq_ok_iff,
    validateRetrieval_eq_ok_iff, validateRetrieveReplay_eq_ok_iff,
    validateAckReplay_eq_ok_iff, validateHandled_eq_ok_iff, validateJoin_eq_ok_iff]
  constructor
  · rintro ⟨⟨keys, _, live⟩, retrievals, replays, acks, handled, joins⟩
    exact ⟨keys, live, retrievals, replays, acks, handled, joins⟩
  · rintro ⟨keys, live, retrievals, replays, acks, handled, joins⟩
    exact ⟨⟨keys, by simp, live⟩, retrievals, replays, acks, handled, joins⟩

/-- A restore that succeeds rebuilt its tables and passed every check. -/
theorem restoreFromSnapshot_eq_ok_iff (activeMacKey : Bytes32)
    (snapshot : RecoverySnapshot)
    (payloads : BTreeMap ClaimPayloadRef BoundedClaimPayload) (store : FakePersist) :
    restoreFromSnapshot activeMacKey snapshot payloads = .ok store ↔
      restoreTables activeMacKey snapshot payloads = .ok store ∧
        store.helperRequestNonceCollision = false ∧
        store.validateRecoveredCoverage = .ok () ∧ HelperInvariants store := by
  rw [← validateRestoredHelperInvariants_eq_ok_iff]
  unfold restoreFromSnapshot
  cases restoreTables activeMacKey snapshot payloads with
  | error refusal => simp
  | ok tables =>
      simp only [Except.ok.injEq]
      split
      · next collision =>
        simp only [reduceCtorEq, false_iff, not_and]
        rintro rfl distinct
        simp [collision] at distinct
      next distinct =>
      simp only [Bool.not_eq_true] at distinct
      cases coverage : tables.validateRecoveredCoverage with
      | error refusal =>
          simp only [reduceCtorEq, false_iff, not_and]
          rintro rfl _ valid
          simp [coverage] at valid
      | ok passed =>
          cases helpers : tables.validateRestoredHelperInvariants with
          | error refusal =>
              simp only [reduceCtorEq, false_iff, not_and]
              rintro rfl _ _ valid
              simp [helpers] at valid
          | ok checked =>
              simp only [Except.ok.injEq]
              constructor
              · rintro rfl
                exact ⟨rfl, distinct, coverage, helpers⟩
              · rintro ⟨same, _⟩
                exact same

end Validation

end FakePersist
end Gearwit
