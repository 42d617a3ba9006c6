import Gearwit.Persist.Store

/-!
# Prepared dispatches, reservations, evidence and facts

The native half of an attempt: what was prepared, what concluded before any
write, what was reserved, what the write boundary answered, which facts of the
turn were observed and how an unknown outcome was reconciled.
-/

namespace Gearwit
namespace FakePersist

/-! ## Prepared dispatches -/

/-- Record a prepared dispatch once. -/
def recordDispatchPrepared (commit : PreparedDispatchCommit) (store : FakePersist) :
    Except PersistError (IdempotentWrite × FakePersist) :=
  match store.prepared[commit.correlation.attemptId]? with
  | some existing =>
      if existing = commit.correlation then .ok (.exactReplay, store)
      else .error .conflict
  | none =>
      .ok (.recorded, { store with
        prepared := store.prepared.insert commit.correlation.attemptId
          commit.correlation })

/-- A recorded dispatch is the stored one. -/
theorem recordDispatchPrepared_cases {commit : PreparedDispatchCommit}
    {store next : FakePersist} {outcome : IdempotentWrite}
    (recorded : recordDispatchPrepared commit store = .ok (outcome, next)) :
    (outcome = .exactReplay ∧ next = store ∧
        store.prepared[commit.correlation.attemptId]? = some commit.correlation) ∨
      (outcome = .recorded ∧
        store.prepared[commit.correlation.attemptId]? = none ∧
        next = { store with
          prepared := store.prepared.insert commit.correlation.attemptId
            commit.correlation }) := by
  unfold recordDispatchPrepared at recorded
  split at recorded
  · next existing stored =>
    split at recorded
    · next same =>
      simp only [Except.ok.injEq, Prod.mk.injEq] at recorded
      exact .inl ⟨recorded.1.symm, recorded.2.symm, same ▸ stored⟩
    · cases recorded
  · next vacant =>
    simp only [Except.ok.injEq, Prod.mk.injEq] at recorded
    exact .inr ⟨recorded.1.symm, vacant, recorded.2.symm⟩

/-! ## Conclusions before any write -/

/-- Mark the reservation of an attempt concluded, when there is one. -/
def concludeReservation (store : FakePersist) (attemptId : AttemptId) :
    BTreeMap AttemptId PersistedNativeReservation :=
  match store.reservations[attemptId]? with
  | none => store.reservations
  | some reservation =>
      store.reservations.insert attemptId { reservation with concluded := true }

/-- Row of a pre-write commit. -/
def prewriteRow (commit : PreWriteConclusionCommit) : PersistedPreWriteConclusion where
  attemptId := commit.attemptId
  signalId := commit.signalId
  conclusion := commit.conclusion.into
  recordedAt := commit.recordedAt

/-- Record a conclusion that needed no active observation. -/
def recordPrewriteConclusion (commit : PreWriteConclusionCommit)
    (store : FakePersist) : Except PersistError (IdempotentWrite × FakePersist) :=
  match store.prewrite[commit.attemptId]? with
  | some existing =>
      if existing.conclusion = (prewriteRow commit).conclusion then
        .ok (.exactReplay, store)
      else .error .conflict
  | none =>
      .ok (.recorded, { store with
        reservations := store.concludeReservation commit.attemptId
        prewrite := store.prewrite.insert commit.attemptId (prewriteRow commit) })

/-- A recorded conclusion is the stored one. -/
theorem recordPrewriteConclusion_cases {commit : PreWriteConclusionCommit}
    {store next : FakePersist} {outcome : IdempotentWrite}
    (recorded : recordPrewriteConclusion commit store = .ok (outcome, next)) :
    (outcome = .exactReplay ∧ next = store ∧
        ∃ existing, store.prewrite[commit.attemptId]? = some existing ∧
          existing.conclusion = commit.conclusion.into) ∨
      (outcome = .recorded ∧ store.prewrite[commit.attemptId]? = none ∧
        next = { store with
          reservations := store.concludeReservation commit.attemptId
          prewrite := store.prewrite.insert commit.attemptId
            (prewriteRow commit) }) := by
  unfold recordPrewriteConclusion at recorded
  split at recorded
  · next existing stored =>
    split at recorded
    · next same =>
      simp only [Except.ok.injEq, Prod.mk.injEq] at recorded
      exact .inl ⟨recorded.1.symm, recorded.2.symm, existing, stored, same⟩
    · cases recorded
  · next vacant =>
    simp only [Except.ok.injEq, Prod.mk.injEq] at recorded
    exact .inr ⟨recorded.1.symm, vacant, recorded.2.symm⟩

/-- Producer version an active hold is accepted from. -/
def heldProducerVersion : String := "codex-cli 0.152.1"

/-- Producer dialect an active hold is accepted from. -/
def heldProducerDialect : String := "thread/read-v2"

/-- Whether a proof disagrees with the authority rows it names. -/
def activeHoldRejected (store : FakePersist) (proof : ActiveObservationProof)
    (attachment : PersistedControllerAttachment) (birth : PersistedControllerBirth)
    (claim : PersistedClaimRecord) (prepared : PersistedTurnCorrelation) : Bool :=
  decide (attachment.birthId ≠ proof.birthId) ||
  decide (attachment.seatId ≠ proof.seatId) ||
  decide (attachment.armId ≠ proof.armId) ||
  decide (attachment.generation ≠ proof.generation) ||
  decide (attachment.capability ≠ proof.capability) ||
  decide (attachment.verifierRef ≠ proof.attachmentVerifierRef) ||
  decide (attachment.leaseUntil ≠ proof.leaseUntil) ||
  attachment.revoked ||
  birth.revoked ||
  decide (birth.seatId ≠ proof.seatId) ||
  decide (birth.armId ≠ proof.armId) ||
  decide (birth.generation ≠ proof.generation) ||
  decide (birth.capability ≠ proof.capability) ||
  decide (birth.leaseUntil < proof.observedAt) ||
  decide (claim.signalId ≠ proof.signalId) ||
  decide (prepared.signalId ≠ proof.signalId) ||
  decide (prepared.birthId ≠ proof.birthId) ||
  decide (prepared.threadRef ≠ proof.threadRef) ||
  decide (proof.mutationEpoch.birthId ≠ proof.birthId) ||
  decide (proof.producerVersion ≠ heldProducerVersion) ||
  decide (proof.producerDialect ≠ heldProducerDialect) ||
  !decide (store.ownership[proof.birthId]? =
    some (.owned proof.createAttemptId proof.threadRef))

section ActiveHold

variable [Blake3]

/-- Evidence row of an active hold. -/
def activeEvidenceRow (store : FakePersist) (proof : ActiveObservationProof)
    (producerVersion producerDialect : ProducerLabel) :
    PersistedActiveObservationEvidence where
  evidenceRef := activeObservationEvidenceRef store.activeMacKey
    (activeObservationFingerprint store.activeMacKey proof)
  birthId := proof.birthId
  createAttemptId := proof.createAttemptId
  seatId := proof.seatId
  armId := proof.armId
  generation := proof.generation
  capability := proof.capability
  attachmentVerifierRef := proof.attachmentVerifierRef
  leaseUntil := proof.leaseUntil
  attemptId := proof.attemptId
  signalId := proof.signalId
  probeId := proof.probeId
  mutationEpoch := proof.mutationEpoch
  observedAt := proof.observedAt
  fingerprint := activeObservationFingerprint store.activeMacKey proof
  producerVersion := producerVersion
  producerDialect := producerDialect

/-- Conclusion row of an active hold. -/
def heldRow (proof : ActiveObservationProof)
    (evidenceRef : ActiveObservationEvidenceRef) : PersistedPreWriteConclusion where
  attemptId := proof.attemptId
  signalId := proof.signalId
  conclusion := .heldBeforeNativeWrite evidenceRef
  recordedAt := proof.observedAt

/-- Record an active hold with its evidence. -/
def recordActiveHold (commit : ActiveHoldCommit) (store : FakePersist) :
    Except PersistError (IdempotentWrite × FakePersist) :=
  match store.attachments[commit.proof.attemptId]? with
  | none => .error .unauthorized
  | some attachment =>
  match store.births[commit.proof.birthId]? with
  | none => .error .unauthorized
  | some birth =>
  match store.claimForAttempt commit.proof.attemptId with
  | none => .error .unauthorized
  | some claim =>
  match store.prepared[commit.proof.attemptId]? with
  | none => .error .unauthorized
  | some prepared =>
  if store.activeHoldRejected commit.proof attachment birth claim prepared then
    .error .unauthorized
  else
    match ProducerLabel.new commit.proof.producerVersion with
    | .error _ => .error .invalidTransition
    | .ok producerVersion =>
    match ProducerLabel.new commit.proof.producerDialect with
    | .error _ => .error .invalidTransition
    | .ok producerDialect =>
    let record :=
      store.activeEvidenceRow commit.proof producerVersion producerDialect
    match store.activeObservations[commit.proof.attemptId]? with
    | some existing =>
        if existing = record ∧ store.prewrite[commit.proof.attemptId]? =
            some (heldRow commit.proof record.evidenceRef) then
          .ok (.exactReplay, store)
        else .error .conflict
    | none =>
        if store.prewrite.contains commit.proof.attemptId ∨
            store.consumedProbes.contains record.probeId then
          .error .conflict
        else
          .ok (.recorded, { store with
            consumedProbes := store.consumedProbes.insert record.probeId ()
            activeObservations :=
              store.activeObservations.insert commit.proof.attemptId record
            prewrite := store.prewrite.insert commit.proof.attemptId
              (heldRow commit.proof record.evidenceRef) })

/-- A recorded hold is the stored one, and its attempt has an attachment and a
prepared dispatch of the proof's birth and thread. -/
theorem recordActiveHold_cases {commit : ActiveHoldCommit}
    {store next : FakePersist} {outcome : IdempotentWrite}
    (recorded : recordActiveHold commit store = .ok (outcome, next)) :
    (∃ attachment, store.attachments[commit.proof.attemptId]? = some attachment) ∧
    (∃ prepared, store.prepared[commit.proof.attemptId]? = some prepared) ∧
    ((outcome = .exactReplay ∧ next = store ∧
        (∃ existing,
          store.activeObservations[commit.proof.attemptId]? = some existing ∧
          store.prewrite[commit.proof.attemptId]? =
            some (heldRow commit.proof existing.evidenceRef))) ∨
      (outcome = .recorded ∧ store.prewrite[commit.proof.attemptId]? = none ∧
        store.activeObservations[commit.proof.attemptId]? = none ∧
        store.consumedProbes[commit.proof.probeId]? = none ∧
        ∃ record : PersistedActiveObservationEvidence,
          record.attemptId = commit.proof.attemptId ∧
          record.probeId = commit.proof.probeId ∧
          next = { store with
            consumedProbes := store.consumedProbes.insert record.probeId ()
            activeObservations :=
              store.activeObservations.insert commit.proof.attemptId record
            prewrite := store.prewrite.insert commit.proof.attemptId
              (heldRow commit.proof record.evidenceRef) })) := by
  unfold recordActiveHold at recorded
  split at recorded
  · cases recorded
  next attachment attached =>
  split at recorded
  · cases recorded
  split at recorded
  · cases recorded
  split at recorded
  · cases recorded
  next prepared dispatched =>
  split at recorded
  · cases recorded
  split at recorded
  · cases recorded
  next producerVersion _ =>
  split at recorded
  · cases recorded
  next producerDialect _ =>
  refine ⟨⟨attachment, attached⟩, ⟨prepared, dispatched⟩, ?_⟩
  simp only at recorded
  split at recorded
  · next existing observed =>
    split at recorded
    · next same =>
      simp only [Except.ok.injEq, Prod.mk.injEq] at recorded
      refine .inl ⟨recorded.1.symm, recorded.2.symm, existing, observed, ?_⟩
      rw [same.1]
      exact same.2
    · cases recorded
  · next unobserved =>
    split at recorded
    · cases recorded
    next fresh =>
    simp only [not_or, Bool.not_eq_true] at fresh
    simp only [Except.ok.injEq, Prod.mk.injEq] at recorded
    exact .inr ⟨recorded.1.symm,
      (BTreeMap.contains_eq_false_iff _ _).1 fresh.1, unobserved,
      (BTreeMap.contains_eq_false_iff _ _).1 fresh.2,
      store.activeEvidenceRow commit.proof producerVersion producerDialect,
      rfl, rfl, recorded.2.symm⟩

end ActiveHold

/-! ## Reservations -/

/-- Row of a fresh reservation. -/
def reservationRow (idle : ValidatedIdlePermit)
    (correlation : PersistedTurnCorrelation) : PersistedNativeReservation where
  correlation := correlation
  probeId := idle.probeId
  expectedEpoch := idle.mutationEpoch
  concluded := false

/-- Reserve the one native write of an attempt. -/
def reserveNativeTurnWrite (idle : ValidatedIdlePermit)
    (correlation : PersistedTurnCorrelation) (store : FakePersist) :
    Except PersistError (NativeWriteReservation × FakePersist) :=
  if idle.validUntil ≤ idle.observedAt ∨ idle.attemptId ≠ correlation.attemptId ∨
      idle.signalId ≠ correlation.signalId ∨ idle.birthId ≠ correlation.birthId ∨
      idle.threadRef ≠ correlation.threadRef ∨
      idle.mutationEpoch.birthId ≠ idle.birthId ∨
      store.consumedProbes.contains idle.probeId = true ∨
      store.reservations.contains idle.attemptId = true then
    .error .unauthorized
  else
    match store.attachments[idle.attemptId]? with
    | none => .error .unauthorized
    | some attachment =>
        if attachment.birthId ≠ idle.birthId ∨ attachment.armId ≠ idle.armId ∨
            attachment.generation ≠ idle.generation ∨
            attachment.capability ≠ idle.capability ∨
            attachment.verifierRef ≠ idle.verifierRef ∨
            attachment.revoked = true then
          .error .unauthorized
        else
          .ok (⟨correlation, idle.probeId, idle.mutationEpoch⟩, { store with
            consumedProbes := store.consumedProbes.insert idle.probeId ()
            reservations := store.reservations.insert idle.attemptId
              (reservationRow idle correlation) })

/-- A reservation is made once, under the attempt's own attachment. -/
theorem reserveNativeTurnWrite_cases {idle : ValidatedIdlePermit}
    {correlation : PersistedTurnCorrelation} {store next : FakePersist}
    {reservation : NativeWriteReservation}
    (reserved : reserveNativeTurnWrite idle correlation store =
      .ok (reservation, next)) :
    reservation = ⟨correlation, idle.probeId, idle.mutationEpoch⟩ ∧
      next = { store with
        consumedProbes := store.consumedProbes.insert idle.probeId ()
        reservations := store.reservations.insert idle.attemptId
          (reservationRow idle correlation) } ∧
      idle.attemptId = correlation.attemptId ∧
      store.reservations[idle.attemptId]? = none ∧
      ∃ attachment, store.attachments[idle.attemptId]? = some attachment ∧
        attachment.armId = idle.armId ∧
        attachment.generation = idle.generation ∧
        attachment.revoked = false := by
  unfold reserveNativeTurnWrite at reserved
  split at reserved
  · cases reserved
  next checked =>
  simp only [not_or, not_not, Bool.not_eq_true] at checked
  obtain ⟨_, sameAttempt, _, _, _, _, _, unreserved⟩ := checked
  split at reserved
  · cases reserved
  next attachment attached =>
  split at reserved
  · cases reserved
  next matched =>
  simp only [not_or, not_not, Bool.not_eq_true] at matched
  obtain ⟨_, sameArm, sameGeneration, _, _, live⟩ := matched
  simp only [Except.ok.injEq, Prod.mk.injEq] at reserved
  exact ⟨reserved.1.symm, reserved.2.symm, sameAttempt,
    (BTreeMap.contains_eq_false_iff _ _).1 unreserved, attachment, attached,
    sameArm, sameGeneration, live⟩

/-! ## Write evidence -/

/-- Record what the native write boundary answered. -/
def recordNativeWriteEvidence (commit : NativeWriteEvidenceCommit)
    (store : FakePersist) : Except PersistError (IdempotentWrite × FakePersist) :=
  match store.reservations[commit.correlation.attemptId]? with
  | none => .error .invalidTransition
  | some reservation =>
      if reservation.correlation ≠ commit.correlation then .error .unauthorized
      else
        match store.writeEvidence[commit.correlation.attemptId]? with
        | some existing =>
            if existing = commit.evidence ∧
                store.writeEvidenceRefs[commit.correlation.attemptId]? =
                  some commit.evidenceRef then
              .ok (.exactReplay, store)
            else .error .conflict
        | none =>
            .ok (.recorded, { store with
              writeEvidence := store.writeEvidence.insert
                commit.correlation.attemptId commit.evidence
              writeEvidenceRefs := store.writeEvidenceRefs.insert
                commit.correlation.attemptId commit.evidenceRef
              reservations := store.reservations.insert
                commit.correlation.attemptId
                { reservation with concluded := true } })

/-- Recorded evidence belongs to the reservation of its own correlation. -/
theorem recordNativeWriteEvidence_cases {commit : NativeWriteEvidenceCommit}
    {store next : FakePersist} {outcome : IdempotentWrite}
    (recorded : recordNativeWriteEvidence commit store = .ok (outcome, next)) :
    ∃ reservation,
      store.reservations[commit.correlation.attemptId]? = some reservation ∧
      reservation.correlation = commit.correlation ∧
      ((outcome = .exactReplay ∧ next = store ∧
          store.writeEvidence[commit.correlation.attemptId]? =
            some commit.evidence ∧
          store.writeEvidenceRefs[commit.correlation.attemptId]? =
            some commit.evidenceRef) ∨
        (outcome = .recorded ∧
          store.writeEvidence[commit.correlation.attemptId]? = none ∧
          next = { store with
            writeEvidence := store.writeEvidence.insert
              commit.correlation.attemptId commit.evidence
            writeEvidenceRefs := store.writeEvidenceRefs.insert
              commit.correlation.attemptId commit.evidenceRef
            reservations := store.reservations.insert
              commit.correlation.attemptId
              { reservation with concluded := true } })) := by
  unfold recordNativeWriteEvidence at recorded
  split at recorded
  · cases recorded
  next reservation reserved =>
  split at recorded
  · cases recorded
  next sameCorrelation =>
  refine ⟨reservation, reserved, by simpa using sameCorrelation, ?_⟩
  split at recorded
  · next existing stored =>
    split at recorded
    · next same =>
      simp only [Except.ok.injEq, Prod.mk.injEq] at recorded
      exact .inl ⟨recorded.1.symm, recorded.2.symm, same.1 ▸ stored, same.2⟩
    · cases recorded
  · next vacant =>
    simp only [Except.ok.injEq, Prod.mk.injEq] at recorded
    exact .inr ⟨recorded.1.symm, vacant, recorded.2.symm⟩

/-! ## Turn facts -/

/-- Whether a stored turn reference names another turn. -/
def namesOtherTurn (stored : Option PrivateNativeRef) (turnRef : PrivateNativeRef) :
    Bool :=
  match stored with
  | none => false
  | some existing => decide (existing ≠ turnRef)

/-- Whether the store refuses to bind a turn to a correlation. -/
def turnRejected (store : FakePersist) (correlation prepared : PersistedTurnCorrelation)
    (turnRef : PrivateNativeRef) : Bool :=
  match store.privateRecovery[turnRef]? with
  | none => true
  | some coordinate =>
      decide (coordinate.scope ≠ correlation.turnScope) ||
      decide (coordinate.plaintext = []) ||
      (match store.reservations[correlation.attemptId]? with
        | none => true
        | some reservation =>
            decide (reservation.correlation.birthId ≠ correlation.birthId) ||
            decide (reservation.correlation.signalId ≠ correlation.signalId) ||
            decide (reservation.correlation.threadRef ≠ correlation.threadRef) ||
            decide (reservation.correlation.turnWriteId ≠ correlation.turnWriteId) ||
            namesOtherTurn reservation.correlation.turnRef turnRef ||
            namesOtherTurn prepared.turnRef turnRef)

/-- Whether the store refuses a fact under a correlation. -/
def turnFactRejected (store : FakePersist) (correlation prepared : PersistedTurnCorrelation)
    (fact : NativeTurnFact) : Bool :=
  decide (prepared.signalId ≠ correlation.signalId) ||
  decide (prepared.birthId ≠ correlation.birthId) ||
  decide (prepared.threadRef ≠ correlation.threadRef) ||
  decide (prepared.turnWriteId ≠ correlation.turnWriteId) ||
  (match fact.turnRef with
    | none => false
    | some turnRef =>
        decide (correlation.turnRef ≠ some turnRef) ||
        store.turnRejected correlation prepared turnRef)

/-- Name the turn in a stored correlation, when a fact names one. -/
def nameTurn (correlations : BTreeMap AttemptId PersistedTurnCorrelation)
    (attemptId : AttemptId) (turnRef : Option PrivateNativeRef) :
    BTreeMap AttemptId PersistedTurnCorrelation :=
  match turnRef, correlations[attemptId]? with
  | some turnRef, some correlation =>
      correlations.insert attemptId (correlation.withTurnRef turnRef)
  | _, _ => correlations

/-- Name the turn in a stored reservation, when a fact names one. -/
def nameReservedTurn (reservations : BTreeMap AttemptId PersistedNativeReservation)
    (attemptId : AttemptId) (turnRef : Option PrivateNativeRef) :
    BTreeMap AttemptId PersistedNativeReservation :=
  match turnRef, reservations[attemptId]? with
  | some turnRef, some reservation =>
      reservations.insert attemptId
        { reservation with correlation := reservation.correlation.withTurnRef turnRef }
  | _, _ => reservations

/-- The store after a new fact. -/
def withTurnFact (store : FakePersist) (attemptId : AttemptId)
    (fact : NativeTurnFact) : FakePersist :=
  { store with
    turnFacts := store.turnFacts.insert attemptId (store.factsOf attemptId ++ [fact])
    prepared := nameTurn store.prepared attemptId fact.turnRef
    reservations := nameReservedTurn store.reservations attemptId fact.turnRef
    writeEvidence :=
      if fact.isDegraded then store.writeEvidence.insert attemptId .unknown
      else store.writeEvidence }

/-- Record an exact fact of the reserved turn. -/
def recordNativeTurnFact (commit : NativeTurnFactCommit) (store : FakePersist) :
    Except PersistError (IdempotentWrite × FakePersist) :=
  match store.prepared[commit.correlation.attemptId]? with
  | none => .error .unauthorized
  | some prepared =>
      if store.turnFactRejected commit.correlation prepared commit.fact then
        .error .unauthorized
      else if commit.fact ∈ store.factsOf commit.correlation.attemptId then
        .ok (.exactReplay, store)
      else
        .ok (.recorded,
          store.withTurnFact commit.correlation.attemptId commit.fact)

/-- A recorded fact is a known one or is appended to the attempt's facts. -/
theorem recordNativeTurnFact_cases {commit : NativeTurnFactCommit}
    {store next : FakePersist} {outcome : IdempotentWrite}
    (recorded : recordNativeTurnFact commit store = .ok (outcome, next)) :
    ∃ prepared, store.prepared[commit.correlation.attemptId]? = some prepared ∧
      store.turnFactRejected commit.correlation prepared commit.fact = false ∧
      ((outcome = .exactReplay ∧ next = store ∧
          commit.fact ∈ store.factsOf commit.correlation.attemptId) ∨
        (outcome = .recorded ∧
          commit.fact ∉ store.factsOf commit.correlation.attemptId ∧
          next = store.withTurnFact commit.correlation.attemptId commit.fact)) := by
  unfold recordNativeTurnFact at recorded
  split at recorded
  · cases recorded
  next prepared stored =>
  split at recorded
  · cases recorded
  next accepted =>
  refine ⟨prepared, stored, by simpa using accepted, ?_⟩
  split at recorded
  · next known =>
    simp only [Except.ok.injEq, Prod.mk.injEq] at recorded
    exact .inl ⟨recorded.1.symm, recorded.2.symm, known⟩
  · next fresh =>
    simp only [Except.ok.injEq, Prod.mk.injEq] at recorded
    exact .inr ⟨recorded.1.symm, fresh, recorded.2.symm⟩

/-! ## Reconciliation -/

/-- Record how an unknown outcome was reconciled. -/
def recordReconciliationFact (scope : ReconciliationScope)
    (disposition : ReconciliationDisposition) (store : FakePersist) :
    Except PersistError (IdempotentWrite × FakePersist) :=
  match store.reservations[scope.correlation.attemptId]? with
  | none => .error .invalidTransition
  | some reservation =>
      if reservation.correlation ≠ scope.correlation ∨
          store.writeEvidence[scope.correlation.attemptId]? ≠ some .unknown ∨
          store.writeEvidenceRefs[scope.correlation.attemptId]? ≠
            some scope.nativeWriteEvidenceRef then
        .error .unauthorized
      else
        match store.reconciliations[scope.correlation.attemptId]? with
        | some existing =>
            if existing = disposition then .ok (.exactReplay, store)
            else if existing = .unknown then
              .ok (.recorded, { store with
                reconciliations := store.reconciliations.insert
                  scope.correlation.attemptId disposition })
            else .error .conflict
        | none =>
            .ok (.recorded, { store with
              reconciliations := store.reconciliations.insert
                scope.correlation.attemptId disposition })

/-- A recorded reconciliation stores its disposition, over nothing or over an
unknown one. -/
theorem recordReconciliationFact_cases {scope : ReconciliationScope}
    {disposition : ReconciliationDisposition} {store next : FakePersist}
    {outcome : IdempotentWrite}
    (recorded : recordReconciliationFact scope disposition store =
      .ok (outcome, next)) :
    ∃ reservation,
      store.reservations[scope.correlation.attemptId]? = some reservation ∧
      reservation.correlation = scope.correlation ∧
      store.writeEvidence[scope.correlation.attemptId]? = some .unknown ∧
      store.writeEvidenceRefs[scope.correlation.attemptId]? =
        some scope.nativeWriteEvidenceRef ∧
      (store.reconciliations[scope.correlation.attemptId]? = none ∨
        store.reconciliations[scope.correlation.attemptId]? = some .unknown ∨
        store.reconciliations[scope.correlation.attemptId]? = some disposition) ∧
      next = { store with
        reconciliations := store.reconciliations.insert
          scope.correlation.attemptId disposition } := by
  unfold recordReconciliationFact at recorded
  split at recorded
  · cases recorded
  next reservation reserved =>
  split at recorded
  · cases recorded
  next authorized =>
  simp only [not_or, not_not] at authorized
  obtain ⟨sameCorrelation, unknown, sameRef⟩ := authorized
  refine ⟨reservation, reserved, sameCorrelation, unknown, sameRef, ?_⟩
  split at recorded
  · next existing stored =>
    split at recorded
    · next same =>
      simp only [Except.ok.injEq, Prod.mk.injEq] at recorded
      rw [same] at stored
      refine ⟨.inr (.inr stored), ?_⟩
      rw [BTreeMap.insert_eq_self _ _ _ stored]
      exact recorded.2.symm
    · split at recorded
      · next wasUnknown =>
        simp only [Except.ok.injEq, Prod.mk.injEq] at recorded
        exact ⟨.inr (.inl (wasUnknown ▸ stored)), recorded.2.symm⟩
      · cases recorded
  · next vacant =>
    simp only [Except.ok.injEq, Prod.mk.injEq] at recorded
    exact ⟨.inl vacant, recorded.2.symm⟩

end FakePersist
end Gearwit
