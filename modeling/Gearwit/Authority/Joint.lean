import Gearwit.Authority.Runs

/-!
# What an operation does to the image and to the store

The authority keeps six tables of its store in memory.  Every operation other than a
recovery either leaves both sides alone or makes the same change in both, the store
first; only a creation resolved over a store that stops answering changes one side.
-/

namespace Gearwit

open FakePersist

/-! ## Images -/

/-- The tables an authority keeps in memory. -/
structure Image where
  arms : BTreeMap ArmId PersistedArm
  births : BTreeMap ControllerBirthId PersistedControllerBirth
  ownership : BTreeMap ControllerBirthId ThreadOwnershipState
  claims : BTreeMap AttemptId PersistedClaimRecord
  attachments : BTreeMap AttemptId PersistedControllerAttachment
  attemptSeq : UInt64

namespace Image

/-- The image with an arm registered. -/
def withArm (image : Image) (arm : PersistedArm) : Image :=
  { image with arms := image.arms.insert arm.armId arm }

/-- The image with a birth reserved. -/
def withBirth (image : Image) (birth : PersistedControllerBirth)
    (create : ThreadCreateReservation) : Image :=
  { image with
    births := image.births.insert birth.birthId birth
    ownership := image.ownership.insert birth.birthId
      (.reserved create.createAttemptId) }

/-- The image with a creation in another state. -/
def withOwnership (image : Image) (birthId : ControllerBirthId)
    (state : ThreadOwnershipState) : Image :=
  { image with ownership := image.ownership.insert birthId state }

/-- The image with a claim admitted. -/
def withClaim (image : Image) (claim : PersistedClaimRecord)
    (attachment : PersistedControllerAttachment) : Image :=
  { image with
    claims := image.claims.insert claim.attemptId claim
    attachments := image.attachments.insert attachment.attemptId attachment
    attemptSeq := nextAttemptSeq image.attemptSeq }

/-- The image with an attachment replaced. -/
def withAttachment (image : Image) (attemptId : AttemptId)
    (attachment : PersistedControllerAttachment) : Image :=
  { image with attachments := image.attachments.insert attemptId attachment }

/-- The image with every reserved creation unknown. -/
def quarantined (image : Image) : Image :=
  { image with ownership := image.ownership.map fun _ state => quarantineReserved state }

end Image

/-- Image of an authority. -/
def DaemonAuthority.image {P : Type} (authority : DaemonAuthority P) : Image where
  arms := authority.arms
  births := authority.births
  ownership := authority.ownership
  claims := authority.claims
  attachments := authority.attachments
  attemptSeq := authority.attemptSeq

/-- Image a store asks for: its own tables, with the claims listed by attempt. -/
def FakePersist.image (store : FakePersist) : Image where
  arms := store.arms
  births := store.births
  ownership := store.ownership
  claims := BTreeMap.fromRows PersistedClaimRecord.attemptId id
    (BTreeMap.rows store.claims)
  attachments := store.attachments
  attemptSeq := store.attemptSeq

/-- The in-memory tables equal those of the store. -/
def DaemonAuthority.Mirrors (authority : DaemonAuthority (Interrupted FakePersist)) :
    Prop :=
  authority.image = authority.store.image

/-- Operations that touch a mirrored table. -/
def PortOp.isMirrored : PortOp → Bool
  | .persistArm _ | .admitClaim _ _ _ | .reserveControllerBirth _ _
  | .resolveThreadCreate _ | .revokeControllerAttachment _
  | .recoverAuthorityState _ => true
  | _ => false

namespace FakePersist

variable {store : FakePersist}

/-- The listed claim of an attempt is the stored claim that names it. -/
theorem image_claims_eq_some_iff (identified : ClaimsIdentified store)
    (attemptId : AttemptId) (claim : PersistedClaimRecord) :
    store.image.claims[attemptId]? = some claim ↔
      claim ∈ BTreeMap.rows store.claims ∧ claim.attemptId = attemptId := by
  constructor
  · intro found
    obtain ⟨row, listed, named, rfl⟩ := BTreeMap.getElem?_fromRows_cases _ _ found
    exact ⟨listed, named⟩
  · rintro ⟨listed, rfl⟩
    exact BTreeMap.getElem?_fromRows_of_mem _ id listed fun other among same =>
      identified.claim_eq_of_attempt among listed same

/-- A fresh claim is one more listed claim. -/
theorem image_withClaim [Blake3] (identified : ClaimsIdentified store)
    {admission : ClaimAdmission} {attachment : PersistedControllerAttachment}
    (payloadRef : ClaimPayloadRef)
    (unclaimed : store.claims[admission.requestId]? = none)
    (unused : ∀ claim ∈ BTreeMap.rows store.claims,
      ¬(claim.armId = admission.armId ∧ claim.generation = admission.generation))
    (unattached : store.attachments[attachment.attemptId]? = none) :
    (store.withClaim admission attachment payloadRef).image =
      store.image.withClaim
        (claimRecord admission attachment.attemptId payloadRef) attachment := by
  have after := identified.withClaim payloadRef unused unattached
  have claims : (store.withClaim admission attachment payloadRef).image.claims =
      store.image.claims.insert attachment.attemptId
        (claimRecord admission attachment.attemptId payloadRef) := by
    apply Std.ExtTreeMap.ext_getElem?
    intro attemptId
    ext claim
    rw [image_claims_eq_some_iff after, BTreeMap.getElem?_insert_eq, BTreeMap.mem_rows]
    simp only [FakePersist.withClaim, BTreeMap.getElem?_insert_eq]
    have fresh : ∀ (requestId : ClaimRequestId) row,
        store.claims[requestId]? = some row → row.attemptId ≠ attachment.attemptId := by
      intro requestId row stored same
      obtain ⟨_, attached⟩ := identified.attached requestId row stored
      rw [same, unattached] at attached
      cases attached
    constructor
    · rintro ⟨⟨requestId, stored⟩, rfl⟩
      split at stored
      · obtain rfl := Option.some.inj stored
        exact if_pos rfl
      · rw [if_neg (Ne.symm (fresh requestId claim stored)),
          image_claims_eq_some_iff identified]
        exact ⟨(BTreeMap.mem_rows _ _).2 ⟨requestId, stored⟩, rfl⟩
    · intro found
      split at found
      · next same =>
        obtain rfl := Option.some.inj found
        exact ⟨⟨admission.requestId, if_pos rfl⟩, same⟩
      · obtain ⟨listed, named⟩ := (image_claims_eq_some_iff identified _ _).1 found
        obtain ⟨requestId, stored⟩ := (BTreeMap.mem_rows _ _).1 listed
        refine ⟨⟨requestId, ?_⟩, named⟩
        rw [if_neg, stored]
        rintro rfl
        rw [unclaimed] at stored
        cases stored
  change Image.mk _ _ _ _ _ _ = Image.mk _ _ _ _ _ _
  simp only [Image.mk.injEq]
  exact ⟨rfl, rfl, rfl, claims, rfl, rfl⟩

/-- Every other operation leaves the mirrored tables alone. -/
theorem Effect.image_kept [Blake3] {next : FakePersist} {operation : PortOp}
    (effect : Effect store operation next) (plain : operation.isMirrored = false) :
    next.image = store.image := by
  cases effect with
  | arm | claim | birth | ownership | attachmentRevoked | recovered => cases plain
  | _ => rfl

/-- A recovery quarantines the creations of the image. -/
theorem image_classified (draws : List VerifierRef) (store : FakePersist) :
    (store.classified draws).2.image = store.image.quarantined := by
  rw [classified_frame]
  rfl

end FakePersist

/-! ## What each operation does to both sides -/

namespace DaemonAuthority

variable {authority next : DaemonAuthority (Interrupted FakePersist)}

/-- An operation leaves both sides alone. -/
structure Keeps (authority next : DaemonAuthority (Interrupted FakePersist)) : Prop where
  image : next.image = authority.image
  stored : next.store.image = authority.store.image

namespace Keeps

/-- Doing nothing leaves both sides alone. -/
theorem refl (authority : DaemonAuthority (Interrupted FakePersist)) :
    Keeps authority authority := ⟨rfl, rfl⟩

/-- Leaving both sides alone composes. -/
theorem trans {middle : DaemonAuthority (Interrupted FakePersist)}
    (early : Keeps authority middle) (late : Keeps middle next) : Keeps authority next :=
  ⟨late.image.trans early.image, late.stored.trans early.stored⟩

end Keeps

/-- A call keeps the image of the authority. -/
theorem call_keeps_image {α : Type}
    {operation : Interrupted FakePersist → Except PersistError α × Interrupted FakePersist}
    {reply : Except AuthorityError α}
    (called : authority.call operation = (reply, next)) :
    next.image = authority.image := by
  rw [call_image called]
  rfl

section Calls

variable [Blake3]

omit [Blake3] in
/-- A refused call leaves both sides alone. -/
theorem call_refused_keeps {α : Type}
    (perform : FakePersist → Except PersistError (α × FakePersist))
    {refusal : AuthorityError}
    (called : authority.call (Interrupted.guard fun store =>
      commit (perform store) store) = (.error refusal, next)) :
    Keeps authority next :=
  ⟨call_keeps_image called, congrArg FakePersist.image (call_refused perform called)⟩

/-- A call of an operation that touches no mirrored table leaves both sides alone. -/
theorem call_plain_keeps {α : Type} (operation : PortOp)
    (perform : FakePersist → Except PersistError (α × FakePersist))
    (performs : ∀ store, FakePersist.step store operation =
      (commit (perform store) store).2)
    (plain : operation.isMirrored = false) {reply : Except AuthorityError α}
    (called : authority.call (Interrupted.guard fun store =>
      commit (perform store) store) = (reply, next)) :
    Keeps authority next := by
  cases reply with
  | error refusal => exact call_refused_keeps perform called
  | ok value =>
      have performed := call_performed perform called
      have reached : FakePersist.step authority.store operation = next.store := by
        rw [performs, performed]
        rfl
      exact ⟨call_keeps_image called,
        reached ▸ (step_effect authority.store operation).image_kept plain⟩

/-! ### Operations that keep both sides -/

/-- Preparing a dispatch leaves image and tables alone. -/
theorem prepareHandleClaimedSignal_keeps {receipt : AdmissionReceipt}
    {writeDraw probeDraw : Option RequestNonce}
    {reply : Except AuthorityError (PreparedDispatch × IdleProbeScope)}
    (done : authority.prepareHandleClaimedSignal receipt writeDraw probeDraw =
      (reply, next)) : Keeps authority next := by
  unfold prepareHandleClaimedSignal at done
  simp only at done
  repeat' split at done
  all_goals cases done
  any_goals exact .refl _
  all_goals
    next called =>
    exact call_plain_keeps (.recordDispatchPrepared _) (recordDispatchPrepared _)
      (fun _ => rfl) rfl called

/-- Authorizing a probe leaves image and tables alone. -/
theorem authorizeProbe_keeps {prepared : PreparedDispatch}
    {result : Except ControllerProbeError IdleProbeResult}
    {reply : Except AuthorityError ProbeAuthorization}
    (done : authority.authorizeProbe prepared result = (reply, next)) :
    Keeps authority next := by
  unfold authorizeProbe at done
  split at done
  · cases done
    exact .refl _
  split at done
  · cases done
    exact .refl _
  · split at done
    · cases done
      exact .refl _
    split at done <;> next called =>
      cases done
      exact call_plain_keeps (.recordActiveHold _) (recordActiveHold _) (fun _ => rfl)
        rfl called
  · split at done
    · cases done
      exact .refl _
    split at done <;> next called =>
      cases done
      exact call_plain_keeps (.recordPrewriteConclusion _) (recordPrewriteConclusion _)
        (fun _ => rfl) rfl called
  · split at done
    · cases done
      exact .refl _
    split at done
    · cases done
      exact .refl _
    split at done <;> next called =>
      cases done
      exact call_plain_keeps (.reserveNativeTurnWrite _ _) (reserveNativeTurnWrite _ _)
        (fun _ => rfl) rfl called
  all_goals
    cases done
    exact .refl _

/-- Recording an immediate fact leaves image and tables alone. -/
theorem recordImmediateFact_keeps {fact : Option NativeTurnFact}
    {correlation : PersistedTurnCorrelation} {factDraw : Option VerifierRef}
    {reply : Except AuthorityError Unit}
    (done : authority.recordImmediateFact fact correlation factDraw = (reply, next)) :
    Keeps authority next := by
  unfold recordImmediateFact at done
  split at done
  · cases done
    exact .refl _
  split at done
  · cases done
    exact .refl _
  split at done <;> next called =>
    cases done
    exact call_plain_keeps (.recordNativeTurnFact _) (recordNativeTurnFact _)
      (fun _ => rfl) rfl called

/-- Concluding a write leaves image and tables alone. -/
theorem concludeNativeWrite_keeps {prepared : PreparedDispatch}
    {disposition : Except ControllerWriteError NativeWriteDisposition}
    {evidenceDraw factDraw : Option VerifierRef}
    {reply : Except AuthorityError NativeWriteConclusion}
    (done : authority.concludeNativeWrite prepared disposition evidenceDraw factDraw =
      (reply, next)) : Keeps authority next := by
  unfold concludeNativeWrite at done
  split at done
  · cases done
    exact .refl _
  · split at done <;> next called =>
      cases done
      exact call_plain_keeps (.recordPrewriteConclusion _) (recordPrewriteConclusion _)
        (fun _ => rfl) rfl called
  split at done
  · cases done
    exact .refl _
  unfold concludeEvidence at done
  split at done
  · cases done
    exact .refl _
  split at done
  · next called =>
    cases done
    exact call_plain_keeps (.recordNativeWriteEvidence _) (recordNativeWriteEvidence _)
      (fun _ => rfl) rfl called
  next called =>
  have evidenced := call_plain_keeps (.recordNativeWriteEvidence _)
    (recordNativeWriteEvidence _) (fun _ => rfl) rfl called
  simp only at done
  split at done <;> next recorded =>
    cases done
    exact evidenced.trans (recordImmediateFact_keeps recorded)

/-- Recording an observation leaves image and tables alone. -/
theorem recordExactObservation_keeps {scope : ObservationScope} {fact : NativeTurnFact}
    {evidenceDraw : Option VerifierRef}
    {reply : Except AuthorityError ExactObservationRecord}
    (done : authority.recordExactObservation scope fact evidenceDraw = (reply, next)) :
    Keeps authority next := by
  unfold recordExactObservation at done
  split at done
  · cases done
    exact .refl _
  split at done <;> next called =>
    cases done
    exact call_plain_keeps (.recordNativeTurnFact _) (recordNativeTurnFact _)
      (fun _ => rfl) rfl called

/-- Recording a reconciliation leaves image and tables alone. -/
theorem recordReconciliation_keeps {scope : ReconciliationScope}
    {disposition : Except ControllerReconcileError ReconciliationDisposition}
    {factDraw : Option VerifierRef}
    {reply : Except AuthorityError (IdempotentWrite × ReconciliationPhase)}
    (done : authority.recordReconciliation scope disposition factDraw =
      (reply, next)) : Keeps authority next := by
  unfold recordReconciliation at done
  split at done
  · cases done
    exact .refl _
  split at done
  · next called =>
    cases done
    exact call_plain_keeps (.recordReconciliationFact _ _) (recordReconciliationFact _ _)
      (fun _ => rfl) rfl called
  next called =>
  have reconciled := call_plain_keeps (.recordReconciliationFact _ _)
    (recordReconciliationFact _ _) (fun _ => rfl) rfl called
  split at done <;> next recorded =>
    cases done
    exact reconciled.trans (recordImmediateFact_keeps recorded)

/-- Sealing a coordinate leaves image and tables alone. -/
theorem sealNativeCoordinate_keeps {scope : NativeCoordinateScope}
    {coordinate : SecretNativeCoordinate} {draws : List PrivateNativeRef}
    {reply : Except AuthorityError PrivateNativeRef}
    (done : authority.call (Persist.sealNativeCoordinate scope coordinate draws) =
      (reply, next)) : Keeps authority next :=
  call_plain_keeps (.sealNativeCoordinate scope coordinate draws)
    (FakePersist.sealNativeCoordinate scope coordinate draws) (fun _ => rfl) rfl done

/-! ### Operations that change both sides -/

/-- What one operation other than a recovery does to the image and to the tables it
mirrors. -/
inductive Joint (authority next : DaemonAuthority (Interrupted FakePersist)) : Prop
  | keeps (kept : Keeps authority next)
  | arm (arm : PersistedArm) (image : next.image = authority.image.withArm arm)
      (stored : next.store.image = authority.store.image.withArm arm)
  | birth (birth : PersistedControllerBirth) (create : ThreadCreateReservation)
      (unborn : BTreeMap.Keyed PersistedArm.armId authority.arms →
        ∀ row ∈ BTreeMap.rows authority.births,
          ¬(row.armId = birth.armId ∧ row.generation = birth.generation))
      (vacant : authority.store.births[birth.birthId]? = none)
      (image : next.image = authority.image.withBirth birth create)
      (stored : next.store.image = authority.store.image.withBirth birth create)
  | ownership (birthId : ControllerBirthId) (current state : ThreadOwnershipState)
      (resolved : ∃ resolution createAttemptId,
        state = ThreadCreateResolution.state createAttemptId resolution)
      (owned : authority.store.ownership[birthId]? = some current)
      (moves : current = state ∨ ownershipMoves current state = true)
      (image : next.image = authority.image.withOwnership birthId state ∨
        (next.image = authority.image ∧ authority.persist.remaining ≠ none))
      (stored : next.store.image = authority.store.image.withOwnership birthId state)
  | claim (admission : ClaimAdmission) (attachment : PersistedControllerAttachment)
      (payloadRef : ClaimPayloadRef)
      (counted : authority.attemptSeq.toNat ≠ UInt64.size - 1)
      (numbered : attachment.attemptId.text = attemptText (authority.attemptSeq + 1))
      (carried : ∃ birth createAttemptId threadRef,
        authority.births[attachment.birthId]? = some birth ∧
        authority.ownership[attachment.birthId]? =
          some (.owned createAttemptId threadRef) ∧
        birth.generation = admission.generation ∧
        (BTreeMap.Keyed PersistedArm.armId authority.arms →
          birth.armId = admission.armId))
      (unclaimed : authority.store.claims[admission.requestId]? = none)
      (unused : ∀ claim ∈ BTreeMap.rows authority.store.claims,
        ¬(claim.armId = admission.armId ∧ claim.generation = admission.generation))
      (unattached : authority.store.attachments[attachment.attemptId]? = none)
      (image : next.image = authority.image.withClaim
        (claimRecord admission attachment.attemptId payloadRef) attachment)
      (stored : next.store = authority.store.withClaim admission attachment payloadRef)
  | revoked (attemptId : AttemptId) (attachment row : PersistedControllerAttachment)
      (found : authority.attachments[attemptId]? = some attachment)
      (present : authority.store.attachments[attachment.attemptId]? = some row)
      (image : next.image = authority.image.withAttachment attemptId
        { attachment with revoked := true })
      (stored : next.store.image = authority.store.image.withAttachment
        attachment.attemptId { row with revoked := true })

/-- Registering an arm changes image and store together. -/
theorem registerManagedArm_joint {arm : ManagedArmRegistration}
    {reply : Except AuthorityError Unit}
    (done : authority.registerManagedArm arm = (reply, next)) :
    Joint authority next := by
  unfold registerManagedArm at done
  split at done
  · cases done
    exact .keeps (.refl _)
  split at done
  · cases done
    exact .keeps (.refl _)
  simp only at done
  split at done
  · next called =>
    cases done
    exact .keeps (call_refused_keeps (persistArm _) called)
  · next called =>
    cases done
    have persisted := call_performed (persistArm _) called
    simp only [persistArm, Except.ok.injEq, Prod.mk.injEq, true_and] at persisted
    refine .arm ⟨_, arm.generation, _, .handleClaimedSignal, arm.coverageUntil⟩ ?_
      (congrArg FakePersist.image persisted.symm)
    rw [← call_keeps_image called]
    rfl

/-- Reserving a birth changes image and store together. -/
theorem reserveControllerBirth_joint {armText : String}
    {birthDraw : Option ControllerBirthId} {createDraw : Option RequestNonce}
    {verifierDraw : Option VerifierRef}
    {reply : Except AuthorityError ControllerBirthReservation}
    (done : authority.reserveControllerBirth armText birthDraw createDraw verifierDraw =
      (reply, next)) : Joint authority next := by
  have called_cases : ∀ {birth create outcome}
      {after : DaemonAuthority (Interrupted FakePersist)},
      authority.call (Persist.reserveControllerBirth birth create) =
        (.ok outcome, after) →
      (outcome ≠ .reserved ∧ Keeps authority after) ∨
        (outcome = .reserved ∧ authority.store.births[birth.birthId]? = none ∧
          after.image = authority.image ∧
          after.store = authority.store.withBirth birth create) := by
    intro birth create outcome after called
    have performed := call_performed
      (FakePersist.reserveControllerBirth birth create) called
    rcases reserveControllerBirth_cases performed with
      ⟨same, _, _, other, _⟩ | ⟨reserved, vacant, _, same⟩
    · exact .inl ⟨other, call_keeps_image called, congrArg FakePersist.image same⟩
    · exact .inr ⟨reserved, vacant, call_keeps_image called, same⟩
  unfold reserveControllerBirth at done
  split at done
  · cases done
    exact .keeps (.refl _)
  split at done
  · cases done
    exact .keeps (.refl _)
  next arm registered =>
  split at done
  · cases done
    exact .keeps (.refl _)
  split at done
  · cases done
    exact .keeps (.refl _)
  next unborn =>
  split at done
  · simp only at done
    split at done
    · next called =>
      cases done
      exact .keeps (call_refused_keeps (FakePersist.reserveControllerBirth _ _) called)
    · next called =>
      cases done
      rcases called_cases called with ⟨other, _⟩ | ⟨_, vacant, image, stored⟩
      · exact absurd rfl other
      · refine .birth _ _ ?_ vacant ?_ (congrArg FakePersist.image stored)
        · intro keyed row listed same
          have named := keyed _ arm registered
          exact unborn (List.any_eq_true.2 ⟨row, listed,
            decide_eq_true ⟨same.1.trans named, same.2⟩⟩)
        · rw [← image]
          rfl
    · next other called =>
      cases done
      rcases called_cases called with ⟨_, keeps⟩ | ⟨reserved, _⟩
      · exact .keeps keeps
      · exact absurd reserved other
  · cases done
    exact .keeps (.refl _)

omit [Blake3] in
/-- A call over a store that never stops leaves one that never stops. -/
theorem call_endless {α : Type}
    {operation : FakePersist → Except PersistError α × FakePersist}
    {reply : Except AuthorityError α}
    (called : authority.call (Interrupted.guard operation) = (reply, next))
    (endless : authority.persist.remaining = none) : next.persist.remaining = none := by
  unfold call at called
  rw [Interrupted.guard_uninterrupted operation endless] at called
  split at called <;> next answered =>
    cases called
    exact congrArg Interrupted.remaining (congrArg Prod.snd answered).symm

/-- An ownership read fails exactly over a store that stopped answering. -/
theorem ownershipRead_cases {birthId : ControllerBirthId}
    {reply : Except AuthorityError ThreadOwnershipState}
    (read : authority.call (fun store : Interrupted FakePersist =>
      (Persist.threadOwnershipState birthId store, store)) = (reply, next)) :
    (authority.persist.remaining = some 0 ∧ reply = .error .storage) ∨
      reply = .ok ((authority.store.ownership[birthId]?).getD .absent) := by
  unfold call at read
  by_cases stopped : authority.persist.remaining = some 0
  · have refused : (Persist.threadOwnershipState birthId authority.persist :
        Except PersistError ThreadOwnershipState) = .error .storageUnavailable :=
      if_pos stopped
    simp only [refused] at read
    exact .inl ⟨stopped, (congrArg Prod.fst read).symm⟩
  · have answered : (Persist.threadOwnershipState birthId authority.persist :
        Except PersistError ThreadOwnershipState) =
        .ok ((authority.store.ownership[birthId]?).getD .absent) := if_neg stopped
    simp only [answered] at read
    exact .inr (congrArg Prod.fst read).symm

/-- Resolving a creation changes image and store together. -/
theorem resolveCreate_joint {birthId : ControllerBirthId}
    {createAttemptId : RequestNonce} {resolution : ThreadCreateResolution}
    {evidenceDraw : Option VerifierRef} {reply : Except AuthorityError IdempotentWrite}
    (done : authority.resolveCreate birthId createAttemptId resolution evidenceDraw =
      (reply, next)) : Joint authority next := by
  unfold resolveCreate at done
  split at done
  · cases done
    exact .keeps (.refl _)
  split at done
  · next called =>
    cases done
    exact .keeps (call_refused_keeps (FakePersist.resolveThreadCreate _) called)
  next after called =>
  have performed := call_performed (FakePersist.resolveThreadCreate _) called
  obtain ⟨_, current, _, _, owned, resolved⟩ := resolveThreadCreate_cases performed
  have moved : (current = resolution.state createAttemptId ∨
        ownershipMoves current (resolution.state createAttemptId) = true) ∧
      after.store.image = authority.store.image.withOwnership birthId
        (resolution.state createAttemptId) ∧
      after.store.ownership[birthId]? = some (resolution.state createAttemptId) := by
    rcases resolved with ⟨_, same, replayed, _⟩ | ⟨_, moves, _, same⟩
    · subst replayed
      refine ⟨.inl rfl, ?_, by rw [same]; exact owned⟩
      rw [same]
      exact congrArg (fun ownership => { authority.store.image with ownership })
        (BTreeMap.insert_eq_self _ _ _ owned).symm
    · exact ⟨.inr moves, by rw [same]; rfl, by
        rw [same]
        exact BTreeMap.getElem?_insert_same _ _ _⟩
  obtain ⟨moves, stored, present⟩ := moved
  split at done
  · next read =>
    cases done
    have kept := call_read _ read
    refine .ownership birthId current _ ⟨resolution, createAttemptId, rfl⟩ owned moves (.inr ⟨?_, fun endless => ?_⟩)
      (kept ▸ stored)
    · rw [kept]
      exact call_keeps_image called
    · rcases ownershipRead_cases read with ⟨stopped, _⟩ | answered
      · rw [call_endless called endless] at stopped
        cases stopped
      · cases answered
  · next state read =>
    cases done
    have kept := call_read _ read
    refine .ownership birthId current _ ⟨resolution, createAttemptId, rfl⟩ owned moves (.inl ?_) (kept ▸ stored)
    rcases ownershipRead_cases read with ⟨_, impossible⟩ | answered
    · cases impossible
    · rw [present] at answered
      cases answered
      rw [← call_keeps_image called, ← kept]
      rfl

/-- Resolving a reserved creation changes image and store together. -/
theorem resolveThreadCreate_joint {reservation : ControllerBirthReservation}
    {resolution : ThreadCreateResolution} {evidenceDraw : Option VerifierRef}
    {reply : Except AuthorityError CreateResolution}
    (done : authority.resolveThreadCreate reservation resolution evidenceDraw =
      (reply, next)) : Joint authority next := by
  unfold resolveThreadCreate at done
  split at done <;> next resolved =>
    repeat' split at done
    all_goals cases done
    all_goals exact resolveCreate_joint resolved

/-- Resolving a quarantined creation changes image and store together. -/
theorem resolveQuarantinedThreadCreate_joint
    {reservation : QuarantinedBirthReservation} {resolution : ThreadCreateResolution}
    {evidenceDraw : Option VerifierRef} {reply : Except AuthorityError IdempotentWrite}
    (done : authority.resolveQuarantinedThreadCreate reservation resolution
      evidenceDraw = (reply, next)) : Joint authority next := by
  unfold resolveQuarantinedThreadCreate at done
  split at done
  · cases done
    exact .keeps (.refl _)
  · exact resolveCreate_joint done

/-- Revoking an attachment changes image and store together. -/
theorem revokeAttachment_joint {attemptText : String}
    {reply : Except AuthorityError IdempotentWrite}
    (done : authority.revokeAttachment attemptText = (reply, next)) :
    Joint authority next := by
  unfold revokeAttachment at done
  split at done
  · cases done
    exact .keeps (.refl _)
  next attemptId attachment found =>
  split at done
  · next called =>
    cases done
    exact .keeps (call_refused_keeps (revokeControllerAttachment _) called)
  · next called =>
    cases done
    have performed := call_performed (revokeControllerAttachment _) called
    obtain ⟨row, present, _, _, _, _, same⟩ := revokeControllerAttachment_cases performed
    refine .revoked attemptId attachment row
      (Std.ExtTreeMap.mem_toList_iff_getElem?_eq_some.1 (List.mem_of_find?_eq_some found))
      present ?_ (congrArg FakePersist.image same)
    rw [← call_keeps_image called]
    rfl

/-- Admitting a claim changes image and store together. -/
theorem admitClaim_joint [Rfc3339] {request : ClaimRequest}
    {verifierDraw : Option VerifierRef} {payloadDraw : Option ClaimPayloadRef}
    {reply : Except AuthorityError AdmissionResult}
    (done : authority.admitClaim request verifierDraw payloadDraw = (reply, next)) :
    Joint authority next := by
  unfold admitClaim at done
  split at done
  · cases done
    exact .keeps (.refl _)
  split at done
  · cases done
    exact .keeps (.refl _)
  split at done
  · cases done
    exact .keeps (.refl _)
  next arm registered =>
  split at done
  · cases done
    exact .keeps (.refl _)
  next birthId _ chosen =>
  split at done
  · cases done
    exact .keeps (.refl _)
  split at done
  · cases done
    exact .keeps (.refl _)
  split at done
  · cases done
    exact .keeps (.refl _)
  next counted =>
  split at done
  · cases done
    exact .keeps (.refl _)
  next attemptId named =>
  split at done
  · cases done
    exact .keeps (.refl _)
  simp only at done
  split at done
  · next called =>
    cases done
    exact .keeps (call_refused_keeps (FakePersist.admitClaim _ _ _) called)
  next record after called =>
  have performed := call_performed (FakePersist.admitClaim _ _ payloadDraw) called
  obtain ⟨_, ⟨replayed, same, _⟩ |
    ⟨payloadRef, _, rfl, stored, unclaimed, unused, unattached⟩⟩ :=
      admitClaim_cases performed
  · rw [if_pos replayed] at done
    cases done
    exact .keeps ⟨call_keeps_image called, congrArg FakePersist.image same⟩
  · rw [if_neg (by simp)] at done
    cases done
    refine .claim _ _ payloadRef counted ?_ ?_ unclaimed unused unattached ?_ stored
    · exact SafeToken.text_of_new named
    · have owned := List.find?_some chosen
      unfold birthOwned at owned
      simp only [Bool.and_eq_true, decide_eq_true_eq] at owned
      obtain ⟨⟨sameArm, sameGeneration, _⟩, resolved⟩ := owned
      split at resolved
      · next createAttemptId threadRef state =>
        exact ⟨_, createAttemptId, threadRef,
          Std.ExtTreeMap.mem_toList_iff_getElem?_eq_some.1 (List.mem_of_find?_eq_some chosen),
          state, sameGeneration,
          fun keyed => sameArm.trans (keyed _ arm registered).symm⟩
      · cases resolved
    · have counter : after.attemptSeq = authority.attemptSeq :=
        congrArg Image.attemptSeq (call_keeps_image called)
      have advanced : nextAttemptSeq after.attemptSeq = after.attemptSeq + 1 := by
        rw [counter]
        exact if_neg counted
      rw [← call_keeps_image called]
      unfold image Image.withClaim
      simp only [Image.mk.injEq, true_and]
      exact ⟨rfl, rfl, advanced.symm⟩

/-! ### Recovery -/

omit [Blake3] in
/-- The image of a snapshot is that of the store it was taken of. -/
theorem withSnapshot_image {store : FakePersist} (keyed : TablesKeyed store)
    (authority : DaemonAuthority (Interrupted FakePersist)) :
    (authority.withSnapshot store.snapshot).image = store.image := by
  have ownership := BTreeMap.fromRows_entries PersistedThreadOwnership.birthId
    PersistedThreadOwnership.state (fun entry => ⟨entry.1, entry.2⟩) store.ownership
    (fun _ => rfl) (fun _ => rfl)
  unfold withSnapshot image FakePersist.image snapshot recoveredBirths recoveredOwnership
  simp only [BTreeMap.fromRows_rows keyed.arms, BTreeMap.fromRows_rows keyed.births,
    BTreeMap.fromRows_rows keyed.attachments, ownership]

/-- A recovery keeps the image or rebuilds it from its snapshot. -/
theorem recover_rebuilds {draws : List VerifierRef}
    {reply : Except AuthorityError AuthorityRecovery}
    (done : authority.recover draws = (reply, next)) :
    (reply.isOk = false ∧ next.image = authority.image) ∨
      ∃ recovery middle, reply = .ok recovery ∧
        next = DaemonAuthority.withSnapshot middle recovery.snapshot := by
  unfold recover at done
  split at done
  · next called =>
    cases done
    exact .inl ⟨rfl, call_keeps_image called⟩
  next called =>
  split at done
  · cases done
    exact .inl ⟨rfl, call_keeps_image called⟩
  split at done
  · cases done
    exact .inl ⟨rfl, call_keeps_image called⟩
  split at done
  · cases done
    exact .inl ⟨rfl, call_keeps_image called⟩
  · cases done
    exact .inr ⟨_, _, rfl, rfl⟩

/-- A recovery that succeeds rebuilds the image; one that fails keeps the image but may
have quarantined the creations of the store. -/
theorem recover_image (keyed : TablesKeyed authority.store) {draws : List VerifierRef}
    {reply : Except AuthorityError AuthorityRecovery}
    (done : authority.recover draws = (reply, next)) :
    (reply.isOk = true ∧ next.Mirrors ∧
        next.store.image = authority.store.image.quarantined) ∨
      (reply.isOk = false ∧ next.image = authority.image ∧
        (next.store.image = authority.store.image ∨
          next.store.image = authority.store.image.quarantined)) := by
  have stored := recover_store done
  rcases recover_rebuilds done with ⟨refused, image⟩ | ⟨recovery, middle, rfl, rebuilt⟩
  · refine .inr ⟨refused, image, ?_⟩
    rcases stored with ⟨same, _⟩ | ⟨same, _, _⟩
    · exact .inl (congrArg FakePersist.image same)
    · exact .inr (by rw [same, image_classified])
  · rcases stored with ⟨_, _, impossible⟩ |
      ⟨same, _, ⟨_, impossible⟩ | ⟨_, answered, dumped, _⟩⟩
    · cases impossible
    · cases impossible
    cases answered
    obtain ⟨_, taken, _⟩ := recoverAuthorityState_ok dumped
    refine .inl ⟨rfl, ?_, by rw [same, image_classified]⟩
    have keyedAfter := (Effect.recovered draws).keyed keyed
    unfold Mirrors
    rw [same, rebuilt, taken]
    exact withSnapshot_image keyedAfter middle

end Calls

end DaemonAuthority

namespace AuthorityWorld

open DaemonAuthority

variable [Blake3]

/-- Concluding keeps both sides. -/
theorem conclude_keeps (world : AuthorityWorld) (prepared : PreparedDispatch)
    (disposition : Except ControllerWriteError NativeWriteDisposition)
    (evidenceDraw factDraw : Option VerifierRef) :
    Keeps world.authority
      (world.conclude prepared disposition evidenceDraw factDraw).authority := by
  unfold conclude
  split <;> next done => exact concludeNativeWrite_keeps done

/-- Every operation of a running daemon makes one joint change. -/
theorem perform_joint [Rfc3339] (world : AuthorityWorld) (call : AuthorityCall)
    (stays : ∀ now draws, call ≠ .restart now draws) :
    Joint world.authority (world.perform call).authority := by
  cases call with
  | setNow now => exact .keeps ⟨rfl, rfl⟩
  | registerManagedArm arm => exact registerManagedArm_joint rfl
  | reserveControllerBirth armText birthDraw createDraw verifierDraw =>
      simp only [perform]
      split <;> next done => exact reserveControllerBirth_joint done
  | resolveThreadCreate reservation resolution evidenceDraw =>
      simp only [perform]
      split
      · split <;> next done => exact resolveThreadCreate_joint done
      · exact .keeps (.refl _)
  | resolveQuarantinedThreadCreate reservation resolution evidenceDraw =>
      simp only [perform]
      split
      · exact resolveQuarantinedThreadCreate_joint rfl
      · exact .keeps (.refl _)
  | admitClaim request verifierDraw payloadDraw =>
      simp only [perform]
      split <;> next done => exact admitClaim_joint done
  | prepareHandleClaimedSignal receipt writeDraw probeDraw =>
      simp only [perform]
      split
      · split <;> next done => exact .keeps (prepareHandleClaimedSignal_keeps done)
      · exact .keeps (.refl _)
  | authorizeProbe prepared result =>
      simp only [perform]
      split
      · split <;> next done => exact .keeps (authorizeProbe_keeps done)
      · exact .keeps (.refl _)
  | concludePrepared prepared disposition evidenceDraw factDraw =>
      simp only [perform]
      split
      · have kept := conclude_keeps { world with prepared := world.prepared.erase prepared }
          prepared disposition evidenceDraw factDraw
        exact .keeps kept
      · exact .keeps (.refl _)
  | concludeAuthorized authorized disposition evidenceDraw factDraw =>
      simp only [perform]
      split
      · have kept := conclude_keeps
          { world with authorized := world.authorized.erase authorized }
          authorized.prepared disposition evidenceDraw factDraw
        exact .keeps kept
      · exact .keeps (.refl _)
  | recordExactObservation scope fact evidenceDraw =>
      simp only [perform]
      split
      · split <;> next done => exact .keeps (recordExactObservation_keeps done)
      · exact .keeps (.refl _)
  | recordReconciliation scope disposition factDraw =>
      simp only [perform]
      split
      · split <;> next done => exact .keeps (recordReconciliation_keeps done)
      · exact .keeps (.refl _)
  | revokeAttachment attemptText => exact revokeAttachment_joint rfl
  | sealNativeCoordinate scope coordinate draws =>
      exact .keeps (sealNativeCoordinate_keeps rfl)
  | restart now draws => exact absurd rfl (stays now draws)

end AuthorityWorld
end Gearwit
