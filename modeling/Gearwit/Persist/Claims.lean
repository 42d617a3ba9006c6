import Gearwit.Persist.Store

/-!
# Arms, claim admission and attachments

Admission recomputes the claim digest, checks the payload and the coverage, then
either answers an exact replay or commits the claim, its payload and its
attachment together.  Operations return the next store with their result; a
refusal keeps the store it was given.
-/

namespace Gearwit
namespace FakePersist

/-- Upsert an arm policy. -/
def persistArm (arm : PersistedArm) (store : FakePersist) :
    Except PersistError (Unit × FakePersist) :=
  .ok ((), { store with arms := store.arms.insert arm.armId arm })

/-! ## Admission -/

/-- Whether an admission repeats a stored claim exactly. -/
def admissionReplays (store : FakePersist) (admission : ClaimAdmission)
    (existing : PersistedClaimRecord) : Bool :=
  decide (existing.armId = admission.armId ∧
    existing.generation = admission.generation ∧
    existing.signalId = admission.signalId ∧
    existing.eventRefs = admission.eventRefs ∧
    existing.claimDigest = admission.claimDigest ∧
    existing.coverage = admission.coverage ∧
    existing.drainWitness = admission.drainWitness ∧
    store.payloads[existing.payloadRef]? = some admission.payload)

/-- Record of an admitted claim. -/
def claimRecord (admission : ClaimAdmission) (attemptId : AttemptId)
    (payloadRef : ClaimPayloadRef) : PersistedClaimRecord where
  attemptId := attemptId
  requestId := admission.requestId
  armId := admission.armId
  generation := admission.generation
  signalId := admission.signalId
  eventRefs := admission.eventRefs
  claimDigest := admission.claimDigest
  payloadRef := payloadRef
  claimedAt := admission.claimedAt
  coverage := admission.coverage
  drainWitness := admission.drainWitness

/-- Saturating successor of the attempt counter. -/
def nextAttemptSeq (attemptSeq : UInt64) : UInt64 :=
  if attemptSeq.toNat = UInt64.size - 1 then attemptSeq else attemptSeq + 1

/-- The store after a fresh admission. -/
def withClaim (store : FakePersist) (admission : ClaimAdmission)
    (attachment : PersistedControllerAttachment) (payloadRef : ClaimPayloadRef) :
    FakePersist :=
  { store with
    claims := store.claims.insert admission.requestId
      (claimRecord admission attachment.attemptId payloadRef)
    payloads := store.payloads.insert payloadRef admission.payload
    claimAttempts :=
      store.claimAttempts.insert admission.requestId attachment.attemptId
    attachments := store.attachments.insert attachment.attemptId attachment
    attemptSeq := nextAttemptSeq store.attemptSeq }

section Admission

variable [Blake3]

/-- Digest an admission should carry. -/
def admissionDigest (admission : ClaimAdmission) : ClaimDigest :=
  canonicalClaimDigest admission.requestId admission.armId admission.generation
    admission.signalId admission.eventRefs admission.payload admission.coverage
    admission.drainWitness

/-- Admit a claim under a prospective attachment.  The payload reference is the
next random draw, absent when the entropy source fails. -/
def admitClaim (admission : ClaimAdmission)
    (attachment : PersistedControllerAttachment)
    (payloadRef : Option ClaimPayloadRef) (store : FakePersist) :
    Except PersistError (AdmissionRecord × FakePersist) :=
  if admissionDigest admission ≠ admission.claimDigest then .error .conflict
  else if admission.eventRefs.asSlice ≠ admission.payload.eventRefs then
    .error .conflict
  else if coverageAdmissionInvalid admission then .error .conflict
  else
    match store.claims[admission.requestId]? with
    | some existing =>
        if store.admissionReplays admission existing then
          match store.claimAttempts[admission.requestId]? with
          | none => .error .invalidTransition
          | some attemptId =>
              match store.attachments[attemptId]? with
              | none => .error .invalidTransition
              | some stored =>
                  .ok (⟨.exactReplay, attemptId, stored.verifierRef,
                    existing.payloadRef⟩, store)
        else .error .conflict
    | none =>
        if (BTreeMap.rows store.claims).any fun claim =>
            decide (claim.armId = admission.armId ∧
              claim.generation = admission.generation) then
          .error .conflict
        else if store.attachments.contains attachment.attemptId then
          .error .conflict
        else
          match payloadRef with
          | none => .error .storageUnavailable
          | some payloadRef =>
              .ok (⟨.admitted, attachment.attemptId, attachment.verifierRef,
                payloadRef⟩, store.withClaim admission attachment payloadRef)

/-- What admission checks before it looks at the store. -/
structure AdmissionValid (admission : ClaimAdmission) : Prop where
  digest : admissionDigest admission = admission.claimDigest
  refs : admission.eventRefs.asSlice = admission.payload.eventRefs
  coverage : coverageAdmissionInvalid admission = false

/-- An accepted admission replays a stored claim or commits a fresh one. -/
theorem admitClaim_cases {admission : ClaimAdmission}
    {attachment : PersistedControllerAttachment}
    {payloadRef : Option ClaimPayloadRef} {store next : FakePersist}
    {record : AdmissionRecord}
    (accepted : admitClaim admission attachment payloadRef store =
      .ok (record, next)) :
    AdmissionValid admission ∧
      ((record.outcome = .exactReplay ∧ next = store ∧
          (∃ existing, store.claims[admission.requestId]? = some existing ∧
            store.admissionReplays admission existing = true ∧
            record.payloadRef = existing.payloadRef) ∧
          store.claimAttempts[admission.requestId]? = some record.attemptId ∧
          ∃ stored, store.attachments[record.attemptId]? = some stored ∧
            record.verifierRef = stored.verifierRef) ∨
        (∃ drawn, payloadRef = some drawn ∧
          record = ⟨.admitted, attachment.attemptId, attachment.verifierRef, drawn⟩ ∧
          next = store.withClaim admission attachment drawn ∧
          store.claims[admission.requestId]? = none ∧
          (∀ claim ∈ BTreeMap.rows store.claims,
            ¬(claim.armId = admission.armId ∧
              claim.generation = admission.generation)) ∧
          store.attachments[attachment.attemptId]? = none)) := by
  unfold admitClaim at accepted
  split at accepted
  · cases accepted
  next digest =>
  split at accepted
  · cases accepted
  next refs =>
  split at accepted
  · cases accepted
  next coverage =>
  refine ⟨⟨by simpa using digest, by simpa using refs, by simpa using coverage⟩, ?_⟩
  split at accepted
  · next existing claimed =>
    left
    split at accepted
    · next replays =>
      split at accepted
      · cases accepted
      next attemptId attempted =>
      split at accepted
      · cases accepted
      next stored attached =>
      simp only [Except.ok.injEq, Prod.mk.injEq] at accepted
      obtain ⟨rfl, rfl⟩ := accepted
      exact ⟨rfl, rfl, ⟨existing, claimed, replays, rfl⟩, attempted, stored,
        attached, rfl⟩
    · cases accepted
  · next unclaimed =>
    right
    split at accepted
    · cases accepted
    next unused =>
    split at accepted
    · cases accepted
    next unattached =>
    split at accepted
    · cases accepted
    next drawn =>
    simp only [Except.ok.injEq, Prod.mk.injEq] at accepted
    obtain ⟨rfl, rfl⟩ := accepted
    refine ⟨drawn, rfl, rfl, rfl, unclaimed, by simpa using unused, ?_⟩
    rw [Bool.not_eq_true] at unattached
    exact (BTreeMap.contains_eq_false_iff _ _).1 unattached

end Admission

/-! ## Attachment revocation -/

/-- Revoke the attachment a sealed scope names exactly. -/
def revokeControllerAttachment (scope : ValidatedAttachmentScope)
    (store : FakePersist) : Except PersistError (IdempotentWrite × FakePersist) :=
  match store.attachments[scope.attemptId]? with
  | none => .error .unauthorized
  | some attachment =>
      if attachment.birthId ≠ scope.birthId ∨ attachment.armId ≠ scope.armId ∨
          attachment.generation ≠ scope.generation ∨
          attachment.verifierRef ≠ scope.verifierRef then
        .error .unauthorized
      else if attachment.revoked then .ok (.exactReplay, store)
      else
        .ok (.recorded, { store with
          attachments := store.attachments.insert scope.attemptId
            { attachment with revoked := true } })

/-- A revocation that succeeds leaves the attachment revoked and otherwise
unchanged. -/
theorem revokeControllerAttachment_cases {scope : ValidatedAttachmentScope}
    {store next : FakePersist} {outcome : IdempotentWrite}
    (revoked : revokeControllerAttachment scope store = .ok (outcome, next)) :
    ∃ attachment, store.attachments[scope.attemptId]? = some attachment ∧
      attachment.birthId = scope.birthId ∧ attachment.armId = scope.armId ∧
      attachment.generation = scope.generation ∧
      attachment.verifierRef = scope.verifierRef ∧
      next = { store with
        attachments := store.attachments.insert scope.attemptId
          { attachment with revoked := true } } := by
  unfold revokeControllerAttachment at revoked
  split at revoked
  · cases revoked
  next attachment stored =>
  split at revoked
  · cases revoked
  next matched =>
  simp only [not_or, not_not] at matched
  obtain ⟨birth, arm, generation, verifier⟩ := matched
  refine ⟨attachment, stored, birth, arm, generation, verifier, ?_⟩
  split at revoked
  · next already =>
    simp only [Except.ok.injEq, Prod.mk.injEq] at revoked
    have unchanged : { attachment with revoked := true } = attachment := by
      rw [← already]
    rw [unchanged, BTreeMap.insert_eq_self _ _ _ stored]
    exact revoked.2.symm
  · simp only [Except.ok.injEq, Prod.mk.injEq] at revoked
    exact revoked.2.symm

end FakePersist
end Gearwit
