import Gearwit.Authority.Image
import Gearwit.Authority.Interruption
import Gearwit.Authority.Lifecycle

/-!
# What authority operations do to their store

One lemma for each operation of an authority over an interrupted semantic store:
which store it leaves, and how that is tied to the product it answers with.  No
lemma trusts the in-memory image of the authority.
-/

namespace Gearwit

open FakePersist

/-- The semantic store under an authority. -/
abbrev DaemonAuthority.store
    (authority : DaemonAuthority (Interrupted FakePersist)) : FakePersist :=
  authority.persist.store

section Calls

variable [Blake3]

/-- Whether an operation admits a claim. -/
def PortOp.isAdmission : PortOp → Bool
  | .admitClaim _ _ _ => true
  | _ => false

/-- A store other operations of the port lead to. -/
def FakePersist.Reaches (store next : FakePersist) : Prop :=
  ∃ operations, next = Transition.run FakePersist.step store operations

/-- A store operations of the port lead to that admit no claim. -/
def FakePersist.Settles (store next : FakePersist) : Prop :=
  ∃ operations : List PortOp, (∀ operation ∈ operations, operation.isAdmission = false) ∧
    next = Transition.run FakePersist.step store operations

/-- A store reaches itself. -/
theorem FakePersist.Reaches.refl (store : FakePersist) : Reaches store store :=
  ⟨[], rfl⟩

/-- Reaching composes. -/
theorem FakePersist.Reaches.trans {first second third : FakePersist}
    (early : Reaches first second) (late : Reaches second third) :
    Reaches first third := by
  obtain ⟨before, rfl⟩ := early
  obtain ⟨after, rfl⟩ := late
  exact ⟨before ++ after, (Transition.run_append _ _ _ _).symm⟩

/-- A store leads to itself without an admission. -/
theorem FakePersist.Settles.refl (store : FakePersist) : Settles store store :=
  ⟨[], by simp, rfl⟩

/-- Going without an admission composes. -/
theorem FakePersist.Settles.trans {first second third : FakePersist}
    (early : Settles first second) (late : Settles second third) :
    Settles first third := by
  obtain ⟨before, plain, rfl⟩ := early
  obtain ⟨after, simple, rfl⟩ := late
  refine ⟨before ++ after, ?_, (Transition.run_append _ _ _ _).symm⟩
  intro operation listed
  rcases List.mem_append.1 listed with present | present
  · exact plain operation present
  · exact simple operation present

/-- What is led to without an admission is reached. -/
theorem FakePersist.Settles.reaches {store next : FakePersist}
    (settles : Settles store next) : Reaches store next := by
  obtain ⟨operations, _, same⟩ := settles
  exact ⟨operations, same⟩

/-- A store other operations lead to, with the same rows of every attempt. -/
structure FakePersist.Quiet (store next : FakePersist) : Prop where
  settles : Settles store next
  rows : ∀ attemptId, next.attemptRows attemptId = store.attemptRows attemptId

/-- A store that does not change is quiet. -/
theorem FakePersist.Quiet.refl (store : FakePersist) : Quiet store store :=
  ⟨.refl store, fun _ => rfl⟩

namespace DaemonAuthority

variable {authority next : DaemonAuthority (Interrupted FakePersist)}

omit [Blake3] in
/-- A call replaces the store and keeps the image. -/
theorem call_image {α : Type}
    {operation : Interrupted FakePersist → Except PersistError α × Interrupted FakePersist}
    {reply : Except AuthorityError α}
    (called : authority.call operation = (reply, next)) :
    next = { authority with persist := next.persist } := by
  unfold call at called
  split at called <;> cases called <;> rfl

omit [Blake3] in
/-- A refused call keeps the store. -/
theorem call_refused {α : Type}
    (perform : FakePersist → Except PersistError (α × FakePersist))
    {refusal : AuthorityError}
    (called : authority.call (Interrupted.guard fun store =>
      commit (perform store) store) = (.error refusal, next)) :
    next.store = authority.store := by
  have cases := Interrupted.guard_cases
    (fun store => commit (perform store) store) authority.persist
  unfold call at called
  split at called
  · next guarded =>
    cases called
    rw [guarded] at cases
    rcases cases with stopped | ⟨refused, stored⟩
    · simp only [Prod.mk.injEq] at stopped
      exact congrArg Interrupted.store stopped.2
    · refine stored.trans ?_
      cases outcome : perform authority.store with
      | error _ => rfl
      | ok pair => simp [commit, outcome] at refused
  · cases called

omit [Blake3] in
/-- An accepted call performed the operation. -/
theorem call_performed {α : Type}
    (perform : FakePersist → Except PersistError (α × FakePersist)) {value : α}
    (called : authority.call (Interrupted.guard fun store =>
      commit (perform store) store) = (.ok value, next)) :
    perform authority.store = .ok (value, next.store) := by
  have cases := Interrupted.guard_cases
    (fun store => commit (perform store) store) authority.persist
  unfold call at called
  split at called
  · cases called
  · next persist guarded =>
    cases called
    rw [guarded] at cases
    rcases cases with stopped | ⟨accepted, stored⟩
    · simp at stopped
    · cases outcome : perform authority.store with
      | error _ => simp [commit, outcome] at accepted
      | ok pair =>
          simp only [commit, outcome, Except.ok.injEq] at accepted stored
          rw [accepted]
          exact congrArg (fun after => Except.ok (pair.1, after)) stored.symm

/-- An accepted call that admits nothing is one operation of the store. -/
theorem call_accepted {α : Type} (operation : PortOp)
    (perform : FakePersist → Except PersistError (α × FakePersist))
    (performs : ∀ store, FakePersist.step store operation =
      (commit (perform store) store).2)
    (plain : operation.isAdmission = false) {value : α}
    (called : authority.call (Interrupted.guard fun store =>
      commit (perform store) store) = (.ok value, next)) :
    perform authority.store = .ok (value, next.store) ∧
      Settles authority.store next.store := by
  have performed := call_performed perform called
  refine ⟨performed, [operation], by simpa using plain, ?_⟩
  rw [Transition.run_cons, Transition.run_nil, performs, performed]
  rfl

omit [Blake3] in
/-- A read keeps the authority. -/
theorem call_read {α : Type} (read : Interrupted FakePersist → Except PersistError α)
    {reply : Except AuthorityError α}
    (called : authority.call (fun store => (read store, store)) = (reply, next)) :
    next = authority := by
  unfold call at called
  split at called
  all_goals
    next guarded =>
    simp only [Prod.mk.injEq] at called guarded
    rw [← called.2, ← guarded.2]

/-! ## Arms, births and revocations keep every row -/

/-- Registering an arm changes no row of an attempt. -/
theorem registerManagedArm_quiet {arm : ManagedArmRegistration}
    {reply : Except AuthorityError Unit}
    (done : authority.registerManagedArm arm = (reply, next)) :
    Quiet authority.store next.store := by
  unfold registerManagedArm at done
  split at done
  · cases done
    exact .refl _
  split at done
  · cases done
    exact .refl _
  simp only at done
  split at done
  · next called =>
    cases done
    exact call_refused (persistArm _) called ▸ .refl _
  · next called =>
    cases done
    obtain ⟨persisted, settles⟩ :=
      call_accepted (.persistArm _) (persistArm _) (fun _ => rfl) rfl called
    simp only [persistArm, Except.ok.injEq, Prod.mk.injEq, true_and] at persisted
    exact ⟨settles, fun attemptId => by rw [← persisted]; rfl⟩

/-- Reserving a birth changes no row of an attempt. -/
theorem reserveControllerBirth_quiet {armText : String}
    {birthDraw : Option ControllerBirthId} {createDraw : Option RequestNonce}
    {verifierDraw : Option VerifierRef}
    {reply : Except AuthorityError ControllerBirthReservation}
    (done : authority.reserveControllerBirth armText birthDraw createDraw verifierDraw =
      (reply, next)) :
    Quiet authority.store next.store := by
  have reserved : ∀ {birth create outcome}
      {after : DaemonAuthority (Interrupted FakePersist)},
      authority.call (Persist.reserveControllerBirth birth create) =
        (.ok outcome, after) → Quiet authority.store after.store := by
    intro birth create outcome after called
    obtain ⟨performed, settles⟩ := call_accepted (.reserveControllerBirth birth create)
      (FakePersist.reserveControllerBirth birth create) (fun _ => rfl) rfl called
    rcases reserveControllerBirth_cases performed with ⟨same, _⟩ | ⟨_, _, _, same⟩
    · exact same ▸ .refl _
    · exact ⟨settles, fun attemptId => by rw [same]; rfl⟩
  unfold reserveControllerBirth at done
  split at done
  · cases done
    exact .refl _
  split at done
  · cases done
    exact .refl _
  split at done
  · cases done
    exact .refl _
  split at done
  · cases done
    exact .refl _
  split at done
  · simp only at done
    split at done
    · next called =>
      cases done
      exact call_refused (FakePersist.reserveControllerBirth _ _) called ▸ .refl _
    · next called =>
      cases done
      have quiet := reserved called
      exact quiet
    · next called =>
      cases done
      exact reserved called
  · cases done
    exact .refl _

/-- Resolving a creation changes no row of an attempt. -/
theorem resolveCreate_quiet {birthId : ControllerBirthId} {createAttemptId : RequestNonce}
    {resolution : ThreadCreateResolution} {evidenceDraw : Option VerifierRef}
    {reply : Except AuthorityError IdempotentWrite}
    (done : authority.resolveCreate birthId createAttemptId resolution evidenceDraw =
      (reply, next)) :
    Quiet authority.store next.store := by
  unfold resolveCreate at done
  split at done
  · cases done
    exact .refl _
  split at done
  · next called =>
    cases done
    exact call_refused (FakePersist.resolveThreadCreate _) called ▸ .refl _
  next evidenceRef _ _ _ called =>
  obtain ⟨performed, settles⟩ := call_accepted (.resolveThreadCreate _)
    (FakePersist.resolveThreadCreate _) (fun _ => rfl) rfl called
  have resolved : Quiet authority.store _ := ⟨settles, fun attemptId => by
    obtain ⟨_, _, _, _, _, ⟨_, same, _⟩ | ⟨_, _, _, same⟩⟩ :=
      resolveThreadCreate_cases performed
    · rw [same]
    · rw [same]
      rfl⟩
  split at done
  · next read =>
    cases done
    exact call_read _ read ▸ resolved
  · next read =>
    cases done
    exact call_read _ read ▸ resolved

/-- Resolving a reserved creation changes no row of an attempt. -/
theorem resolveThreadCreate_quiet {reservation : ControllerBirthReservation}
    {resolution : ThreadCreateResolution} {evidenceDraw : Option VerifierRef}
    {reply : Except AuthorityError CreateResolution}
    (done : authority.resolveThreadCreate reservation resolution evidenceDraw =
      (reply, next)) :
    Quiet authority.store next.store := by
  unfold resolveThreadCreate at done
  split at done
  · next resolved =>
    cases done
    exact resolveCreate_quiet resolved
  · next resolved =>
    split at done <;> cases done <;> exact resolveCreate_quiet resolved

/-- Resolving a quarantined creation changes no row of an attempt. -/
theorem resolveQuarantinedThreadCreate_quiet {reservation : QuarantinedBirthReservation}
    {resolution : ThreadCreateResolution} {evidenceDraw : Option VerifierRef}
    {reply : Except AuthorityError IdempotentWrite}
    (done : authority.resolveQuarantinedThreadCreate reservation resolution
      evidenceDraw = (reply, next)) :
    Quiet authority.store next.store := by
  unfold resolveQuarantinedThreadCreate at done
  split at done
  · cases done
    exact .refl _
  · exact resolveCreate_quiet done

/-- Revoking an attachment changes no row of an attempt. -/
theorem revokeAttachment_quiet {attemptText : String}
    {reply : Except AuthorityError IdempotentWrite}
    (done : authority.revokeAttachment attemptText = (reply, next)) :
    Quiet authority.store next.store := by
  unfold revokeAttachment at done
  split at done
  · cases done
    exact .refl _
  split at done
  · next called =>
    cases done
    exact call_refused (revokeControllerAttachment _) called ▸ .refl _
  · next result after called =>
    cases done
    obtain ⟨performed, settles⟩ := call_accepted (.revokeControllerAttachment _)
      (revokeControllerAttachment _) (fun _ => rfl) rfl called
    obtain ⟨_, stored, _, _, _, _, same⟩ := revokeControllerAttachment_cases performed
    refine ⟨settles, fun attemptId => ?_⟩
    change after.store.attemptRows attemptId = _
    rw [same]
    exact withRevokedAttachment_rows stored _ attemptId

/-- Sealing a coordinate changes no row of an attempt. -/
theorem sealNativeCoordinate_quiet {scope : NativeCoordinateScope}
    {coordinate : SecretNativeCoordinate} {draws : List PrivateNativeRef}
    {reply : Except AuthorityError PrivateNativeRef}
    (done : authority.call (Persist.sealNativeCoordinate scope coordinate draws) =
      (reply, next)) :
    Quiet authority.store next.store := by
  cases reply with
  | error refusal =>
      exact call_refused (FakePersist.sealNativeCoordinate scope coordinate draws) done ▸
        .refl _
  | ok nativeRef =>
      obtain ⟨performed, settles⟩ := call_accepted
        (.sealNativeCoordinate scope coordinate draws)
        (FakePersist.sealNativeCoordinate scope coordinate draws) (fun _ => rfl) rfl done
      obtain ⟨_, ⟨same, _⟩ | ⟨_, _, same⟩⟩ := sealNativeCoordinate_cases performed
      · exact same ▸ .refl _
      · exact ⟨settles, fun attemptId => by rw [same]; rfl⟩

/-! ## Admission -/

/-- A fresh admission of an authority: uncovered, under an unused attempt, and
answered with a receipt. -/
structure Admits (authority next : DaemonAuthority (Interrupted FakePersist))
    (payloadDraw : Option ClaimPayloadRef)
    (reply : Except AuthorityError AdmissionResult)
    (admission : ClaimAdmission) (attachment : PersistedControllerAttachment)
    (payloadRef : ClaimPayloadRef) : Prop where
  reaches : Reaches authority.store next.store
  stored : next.store = authority.store.withClaim admission attachment payloadRef
  drawn : payloadDraw = some payloadRef
  valid : AdmissionValid admission
  uncovered : admission.coverage = none ∧ admission.drainWitness = none
  unattached : authority.store.attachments[attachment.attemptId]? = none
  unclaimed : authority.store.claims[admission.requestId]? = none
  sameArm : attachment.armId = admission.armId
  sameGeneration : attachment.generation = admission.generation
  answer : reply =
    .ok ⟨.admitted, attachment.attemptId.text, some ⟨attachment.attemptId⟩⟩
  imaged : next.attachments =
    authority.attachments.insert attachment.attemptId attachment

/-- An admission is refused, replayed without a receipt, or fresh. -/
theorem admitClaim_store [Rfc3339] {request : ClaimRequest}
    {verifierDraw : Option VerifierRef} {payloadDraw : Option ClaimPayloadRef}
    {reply : Except AuthorityError AdmissionResult}
    (done : authority.admitClaim request verifierDraw payloadDraw = (reply, next)) :
    (Quiet authority.store next.store ∧ next.attachments = authority.attachments ∧
        ∀ result, reply = .ok result → result.receipt = none) ∨
      ∃ admission attachment payloadRef,
        Admits authority next payloadDraw reply admission attachment payloadRef := by
  unfold admitClaim at done
  split at done
  · cases done
    exact .inl ⟨.refl _, rfl, fun _ impossible => by cases impossible⟩
  split at done
  · cases done
    exact .inl ⟨.refl _, rfl, fun _ impossible => by cases impossible⟩
  split at done
  · cases done
    exact .inl ⟨.refl _, rfl, fun _ impossible => by cases impossible⟩
  split at done
  · cases done
    exact .inl ⟨.refl _, rfl, fun _ impossible => by cases impossible⟩
  split at done
  · cases done
    exact .inl ⟨.refl _, rfl, fun _ impossible => by cases impossible⟩
  split at done
  · cases done
    exact .inl ⟨.refl _, rfl, fun _ impossible => by cases impossible⟩
  split at done
  · cases done
    exact .inl ⟨.refl _, rfl, fun _ impossible => by cases impossible⟩
  split at done
  · cases done
    exact .inl ⟨.refl _, rfl, fun _ impossible => by cases impossible⟩
  split at done
  · cases done
    exact .inl ⟨.refl _, rfl, fun _ impossible => by cases impossible⟩
  simp only at done
  split at done
  · next called =>
    cases done
    refine .inl ⟨?_, call_attachments called, fun _ impossible => by cases impossible⟩
    exact call_refused (FakePersist.admitClaim _ _ _) called ▸ .refl _
  next record after called =>
  have performed := call_performed (FakePersist.admitClaim _ _ payloadDraw) called
  have reaches : Reaches authority.store after.store :=
    ⟨[.admitClaim _ _ payloadDraw], (congrArg Prod.snd
      (congrArg (commit · authority.store) performed)).symm⟩
  obtain ⟨valid, ⟨replayed, same, _⟩ |
    ⟨payloadRef, drawn, rfl, stored, unclaimed, _, unattached⟩⟩ :=
      admitClaim_cases performed
  · rw [if_pos replayed] at done
    cases done
    refine .inl ⟨same ▸ .refl _, call_attachments called, ?_⟩
    rintro result answered
    cases answered
    rfl
  · rw [if_neg (by simp)] at done
    cases done
    exact .inr ⟨_, _, payloadRef, reaches, stored, drawn, valid, ⟨rfl, rfl⟩,
      unattached, unclaimed, rfl, rfl, rfl,
      inserted_attachments called (attachmentRow _ _ _ _)⟩

/-! ## Dispatch -/

/-- A dispatch is refused, or recorded for the attempt of its receipt and, unless
the entropy source failed, answered with a prepared dispatch. -/
theorem prepareHandleClaimedSignal_store {receipt : AdmissionReceipt}
    {writeDraw probeDraw : Option RequestNonce}
    {reply : Except AuthorityError (PreparedDispatch × IdleProbeScope)}
    (done : authority.prepareHandleClaimedSignal receipt writeDraw probeDraw =
      (reply, next)) :
    (Quiet authority.store next.store ∧ ∃ refusal, reply = .error refusal) ∨
      ∃ correlation outcome, correlation.attemptId = receipt.attemptId ∧
        correlation.turnRef = none ∧
        recordDispatchPrepared ⟨correlation⟩ authority.store =
          .ok (outcome, next.store) ∧
        Settles authority.store next.store ∧
        ((∃ refusal, reply = .error refusal) ∨
          ∃ prepared scope, reply = .ok (prepared, scope) ∧
            prepared.correlation = correlation ∧
            authority.attachments[receipt.attemptId]? = some prepared.attachment) := by
  unfold prepareHandleClaimedSignal at done
  split at done
  · cases done
    exact .inl ⟨.refl _, _, rfl⟩
  split at done
  · cases done
    exact .inl ⟨.refl _, _, rfl⟩
  next attachment attached =>
  split at done
  · cases done
    exact .inl ⟨.refl _, _, rfl⟩
  split at done
  · cases done
    exact .inl ⟨.refl _, _, rfl⟩
  split at done
  · cases done
    exact .inl ⟨.refl _, _, rfl⟩
  simp only at done
  split at done
  · next called =>
    cases done
    exact .inl ⟨call_refused (recordDispatchPrepared _) called ▸ .refl _, _, rfl⟩
  next outcome after called =>
  obtain ⟨performed, settles⟩ := call_accepted (.recordDispatchPrepared _)
    (recordDispatchPrepared _) (fun _ => rfl) rfl called
  split at done
  · cases done
    exact .inr ⟨_, outcome, rfl, rfl, performed, settles, .inl ⟨_, rfl⟩⟩
  · cases done
    exact .inr ⟨_, outcome, rfl, rfl, performed, settles,
      .inr ⟨_, _, rfl, rfl, attached⟩⟩

/-- A probe is refused, or recorded as a hold, as unproven, or as the reservation a
command is minted from. -/
theorem authorizeProbe_store {prepared : PreparedDispatch}
    {result : Except ControllerProbeError IdleProbeResult}
    {reply : Except AuthorityError ProbeAuthorization}
    (done : authority.authorizeProbe prepared result = (reply, next)) :
    (Quiet authority.store next.store ∧ ∃ refusal, reply = .error refusal) ∨
      (Settles authority.store next.store ∧
        ((∃ proof outcome, proof.attemptId = prepared.correlation.attemptId ∧
            recordActiveHold ⟨proof⟩ authority.store = .ok (outcome, next.store) ∧
            reply = .ok .heldBeforeNativeWrite) ∨
          (∃ observedAt outcome,
            recordPrewriteConclusion ⟨prepared.correlation.attemptId,
                prepared.correlation.signalId, .idleStateUnproven, observedAt⟩
              authority.store = .ok (outcome, next.store) ∧
            reply = .ok .idleStateUnproven) ∨
          ∃ probeId epoch observedAt lane reservation,
            reserveNativeTurnWrite (idlePermit prepared probeId epoch observedAt)
              prepared.correlation authority.store = .ok (reservation, next.store) ∧
            reply = .ok (.ready ⟨prepared, lane, .fromReservation
              prepared.attachment.controller ⟨prepared.correlation.signalId⟩
              reservation⟩))) := by
  unfold authorizeProbe at done
  split at done
  · cases done
    exact .inl ⟨.refl _, _, rfl⟩
  split at done
  · cases done
    exact .inl ⟨.refl _, _, rfl⟩
  · split at done
    · cases done
      exact .inl ⟨.refl _, _, rfl⟩
    next proof _ bound =>
    split at done
    · next called =>
      cases done
      exact .inl ⟨call_refused (recordActiveHold _) called ▸ .refl _, _, rfl⟩
    · next outcome after called =>
      cases done
      obtain ⟨performed, settles⟩ := call_accepted (.recordActiveHold _)
        (recordActiveHold _) (fun _ => rfl) rfl called
      exact .inr ⟨settles, .inl ⟨_, outcome, validateActiveProof_ok bound, performed,
        rfl⟩⟩
  · split at done
    · cases done
      exact .inl ⟨.refl _, _, rfl⟩
    split at done
    · next called =>
      cases done
      exact .inl ⟨call_refused (recordPrewriteConclusion _) called ▸ .refl _, _, rfl⟩
    · next outcome after called =>
      cases done
      obtain ⟨performed, settles⟩ := call_accepted (.recordPrewriteConclusion _)
        (recordPrewriteConclusion _) (fun _ => rfl) rfl called
      exact .inr ⟨settles, .inr (.inl ⟨_, outcome, performed, rfl⟩)⟩
  · split at done
    · cases done
      exact .inl ⟨.refl _, _, rfl⟩
    split at done
    · cases done
      exact .inl ⟨.refl _, _, rfl⟩
    split at done
    · next called =>
      cases done
      exact .inl ⟨call_refused (reserveNativeTurnWrite _ _) called ▸ .refl _, _, rfl⟩
    · next reservation after called =>
      cases done
      obtain ⟨performed, settles⟩ := call_accepted (.reserveNativeTurnWrite _ _)
        (reserveNativeTurnWrite _ _) (fun _ => rfl) rfl called
      exact .inr ⟨settles, .inr (.inr ⟨_, _, _, _, reservation, performed, rfl⟩)⟩
  · cases done
    exact .inl ⟨.refl _, _, rfl⟩
  · cases done
    exact .inl ⟨.refl _, _, rfl⟩

/-! ## Conclusion and follow-up -/

/-- A carried fact is refused, absent, or recorded. -/
theorem recordImmediateFact_store {fact : Option NativeTurnFact}
    {correlation : PersistedTurnCorrelation} {factDraw : Option VerifierRef}
    {reply : Except AuthorityError Unit}
    (done : authority.recordImmediateFact fact correlation factDraw = (reply, next)) :
    (next.store = authority.store ∧
        ((∃ refusal, reply = .error refusal) ∨ (fact = none ∧ reply = .ok ()))) ∨
      ∃ carried factRef outcome, fact = some carried ∧ factDraw = some factRef ∧
        recordNativeTurnFact ⟨correlation, carried, factRef⟩ authority.store =
          .ok (outcome, next.store) ∧
        Settles authority.store next.store ∧ reply = .ok () := by
  unfold recordImmediateFact at done
  split at done
  · cases done
    exact .inl ⟨rfl, .inr ⟨rfl, rfl⟩⟩
  split at done
  · cases done
    exact .inl ⟨rfl, .inl ⟨_, rfl⟩⟩
  split at done
  · next called =>
    cases done
    exact .inl ⟨call_refused (recordNativeTurnFact _) called, .inl ⟨_, rfl⟩⟩
  · next outcome after called =>
    cases done
    obtain ⟨performed, settles⟩ := call_accepted (.recordNativeTurnFact _)
      (recordNativeTurnFact _) (fun _ => rfl) rfl called
    exact .inr ⟨_, _, outcome, rfl, rfl, performed, settles, rfl⟩

/-- A conclusion is refused, recorded as an invalidated epoch, or recorded as
evidence, after which the carried fact is refused, absent or recorded. -/
theorem concludeNativeWrite_store {prepared : PreparedDispatch}
    {disposition : Except ControllerWriteError NativeWriteDisposition}
    {evidenceDraw factDraw : Option VerifierRef}
    {reply : Except AuthorityError NativeWriteConclusion}
    (done : authority.concludeNativeWrite prepared disposition evidenceDraw factDraw =
      (reply, next)) :
    (Quiet authority.store next.store ∧ ∃ refusal, reply = .error refusal) ∨
      (∃ probeId expectedEpoch observedEpoch recordedAt outcome,
        recordPrewriteConclusion ⟨prepared.correlation.attemptId,
            prepared.correlation.signalId,
            .idleEpochInvalidated probeId expectedEpoch observedEpoch, recordedAt⟩
          authority.store = .ok (outcome, next.store) ∧
        Settles authority.store next.store ∧
        reply = .ok ⟨.idleEpochInvalidated probeId expectedEpoch observedEpoch,
          none, none⟩) ∨
      ∃ answered evidence evidenceRef outcome middle,
        disposition = .ok answered ∧
        writeEvidenceOf prepared.correlation answered = some evidence ∧
        recordNativeWriteEvidence ⟨prepared.correlation, evidence, evidenceRef⟩
          authority.store = .ok (outcome, middle) ∧
        Settles authority.store middle ∧
        ((next.store = middle ∧ ((∃ refusal, reply = .error refusal) ∨
            (immediateFact answered = none ∧
              reply = .ok (conclusionOf answered prepared.correlation evidenceRef)))) ∨
          ∃ fact factRef factOutcome, immediateFact answered = some fact ∧
            recordNativeTurnFact ⟨nameTurnOf prepared.correlation (some fact), fact,
              factRef⟩ middle = .ok (factOutcome, next.store) ∧
            Settles middle next.store ∧
            reply = .ok (conclusionOf answered
              (nameTurnOf prepared.correlation (some fact)) evidenceRef)) := by
  unfold concludeNativeWrite at done
  split at done
  · cases done
    exact .inl ⟨.refl _, _, rfl⟩
  · split at done
    · next called =>
      cases done
      exact .inl ⟨call_refused (recordPrewriteConclusion _) called ▸ .refl _, _, rfl⟩
    · next outcome after called =>
      cases done
      obtain ⟨performed, settles⟩ := call_accepted (.recordPrewriteConclusion _)
        (recordPrewriteConclusion _) (fun _ => rfl) rfl called
      exact .inr (.inl ⟨_, _, _, _, outcome, performed, settles, rfl⟩)
  next answered _ =>
  split at done
  · cases done
    exact .inl ⟨.refl _, _, rfl⟩
  next evidence classified =>
  unfold concludeEvidence at done
  split at done
  · cases done
    exact .inl ⟨.refl _, _, rfl⟩
  next evidenceRef =>
  split at done
  · next called =>
    cases done
    exact .inl ⟨call_refused (recordNativeWriteEvidence _) called ▸ .refl _, _, rfl⟩
  next outcome after called =>
  obtain ⟨performed, settles⟩ := call_accepted (.recordNativeWriteEvidence _)
    (recordNativeWriteEvidence _) (fun _ => rfl) rfl called
  refine .inr (.inr ⟨answered, evidence, evidenceRef, outcome, after.store, rfl,
    classified, performed, settles, ?_⟩)
  simp only at done
  split at done
  · next carried =>
    cases done
    rcases recordImmediateFact_store carried with
      ⟨same, _⟩ | ⟨_, _, _, _, _, _, _, impossible⟩
    · exact .inl ⟨same, .inl ⟨_, rfl⟩⟩
    · cases impossible
  · next carried =>
    cases done
    rcases recordImmediateFact_store carried with
      ⟨same, ⟨_, impossible⟩ | ⟨none, _⟩⟩ |
      ⟨fact, factRef, factOutcome, some, _, recorded, reached, _⟩
    · cases impossible
    · refine .inl ⟨same, .inr ⟨none, ?_⟩⟩
      rw [none]
      rfl
    · rw [some] at recorded ⊢
      exact .inr ⟨fact, factRef, factOutcome, rfl, recorded, reached, rfl⟩

/-- An observation is refused or recorded. -/
theorem recordExactObservation_store {scope : ObservationScope} {fact : NativeTurnFact}
    {evidenceDraw : Option VerifierRef}
    {reply : Except AuthorityError ExactObservationRecord}
    (done : authority.recordExactObservation scope fact evidenceDraw = (reply, next)) :
    (Quiet authority.store next.store ∧ ∃ refusal, reply = .error refusal) ∨
      ∃ evidenceRef outcome,
        recordNativeTurnFact ⟨scope.correlation, fact, evidenceRef⟩ authority.store =
          .ok (outcome, next.store) ∧
        Settles authority.store next.store ∧
        reply = .ok ⟨outcome, if fact.isDegraded then
          some ⟨scope.correlation, scope.evidenceRef⟩ else none⟩ := by
  unfold recordExactObservation at done
  split at done
  · cases done
    exact .inl ⟨.refl _, _, rfl⟩
  split at done
  · next called =>
    cases done
    exact .inl ⟨call_refused (recordNativeTurnFact _) called ▸ .refl _, _, rfl⟩
  · next outcome after called =>
    cases done
    obtain ⟨performed, settles⟩ := call_accepted (.recordNativeTurnFact _)
      (recordNativeTurnFact _) (fun _ => rfl) rfl called
    exact .inr ⟨_, outcome, performed, settles, rfl⟩

/-- A reconciliation is refused or recorded, after which the fact it carries is
refused, absent or recorded. -/
theorem recordReconciliation_store {scope : ReconciliationScope}
    {disposition : Except ControllerReconcileError ReconciliationDisposition}
    {factDraw : Option VerifierRef}
    {reply : Except AuthorityError (IdempotentWrite × ReconciliationPhase)}
    (done : authority.recordReconciliation scope disposition factDraw =
      (reply, next)) :
    (Quiet authority.store next.store ∧ ∃ refusal, reply = .error refusal) ∨
      ∃ answered outcome middle, disposition = .ok answered ∧
        recordReconciliationFact scope answered authority.store =
          .ok (outcome, middle) ∧
        Settles authority.store middle ∧
        ((next.store = middle ∧ ((∃ refusal, reply = .error refusal) ∨
            (reconciledFact answered = none ∧
              reply = .ok (outcome, phaseOf scope answered)))) ∨
          ∃ fact factRef factOutcome, reconciledFact answered = some fact ∧
            recordNativeTurnFact ⟨nameTurnOf scope.correlation (some fact), fact,
              factRef⟩ middle = .ok (factOutcome, next.store) ∧
            Settles middle next.store ∧
            reply = .ok (outcome, phaseOf scope answered)) := by
  unfold recordReconciliation at done
  split at done
  · cases done
    exact .inl ⟨.refl _, _, rfl⟩
  next answered =>
  split at done
  · next called =>
    cases done
    exact .inl ⟨call_refused (recordReconciliationFact _ _) called ▸ .refl _, _, rfl⟩
  next outcome after called =>
  obtain ⟨performed, settles⟩ := call_accepted (.recordReconciliationFact _ _)
    (recordReconciliationFact _ _) (fun _ => rfl) rfl called
  refine .inr ⟨answered, outcome, after.store, rfl, performed, settles, ?_⟩
  split at done
  · next carried =>
    cases done
    rcases recordImmediateFact_store carried with
      ⟨same, _⟩ | ⟨_, _, _, _, _, _, _, impossible⟩
    · exact .inl ⟨same, .inl ⟨_, rfl⟩⟩
    · cases impossible
  · next carried =>
    cases done
    rcases recordImmediateFact_store carried with
      ⟨same, ⟨_, impossible⟩ | ⟨none, _⟩⟩ |
      ⟨fact, factRef, factOutcome, some, _, recorded, reached, _⟩
    · cases impossible
    · exact .inl ⟨same, .inr ⟨none, rfl⟩⟩
    · rw [some] at recorded
      exact .inr ⟨fact, factRef, factOutcome, some, recorded, reached, rfl⟩

/-! ## Recovery -/

/-- A recovery is refused before it starts, or leaves the recovered store and, when
it succeeds, the scopes of its snapshot and the image of its snapshot. -/
theorem recover_store {draws : List VerifierRef}
    {reply : Except AuthorityError AuthorityRecovery}
    (done : authority.recover draws = (reply, next)) :
    (next.store = authority.store ∧ ∃ refusal, reply = .error refusal) ∨
      (next.store = (authority.store.classified draws).2 ∧
        Settles authority.store next.store ∧
        ((∃ refusal, reply = .error refusal) ∨
          ∃ recovery, reply = .ok recovery ∧
            (authority.store.recoverAuthorityState draws).1 = .ok recovery.snapshot ∧
            recoveryFollowupScopes recovery.snapshot =
              .ok (recovery.observationScopes, recovery.reconciliationScopes))) := by
  have cases := Interrupted.guard_cases
    (FakePersist.recoverAuthorityState draws) authority.persist
  have recovered : ∀ {persist : Interrupted FakePersist},
      persist.store = (FakePersist.recoverAuthorityState draws
        authority.persist.store).2 →
      persist.store = (authority.store.classified draws).2 ∧
        Settles authority.store persist.store := by
    intro persist stored
    refine ⟨stored.trans (recoverAuthorityState_store draws _), [.recoverAuthorityState
      draws], by simp [PortOp.isAdmission], stored⟩
  unfold recover at done
  split at done
  · next refusal after called =>
    cases done
    unfold call at called
    split at called
    · next refused persist guarded =>
      cases called
      rw [show Interrupted.guard (FakePersist.recoverAuthorityState draws)
        authority.persist = _ from guarded] at cases
      rcases cases with stopped | ⟨_, stored⟩
      · simp only [Prod.mk.injEq] at stopped
        exact .inl ⟨congrArg Interrupted.store stopped.2, _, rfl⟩
      · obtain ⟨same, settles⟩ := recovered stored
        exact .inr ⟨same, settles, .inl ⟨_, rfl⟩⟩
    · cases called
  next dump after called =>
  have answered : (authority.store.recoverAuthorityState draws).1 = .ok dump ∧
      after.store = (authority.store.classified draws).2 ∧
      Settles authority.store after.store := by
    unfold call at called
    split at called
    · cases called
    · next persist guarded =>
      cases called
      rw [show Interrupted.guard (FakePersist.recoverAuthorityState draws)
        authority.persist = _ from guarded] at cases
      rcases cases with stopped | ⟨accepted, stored⟩
      · simp at stopped
      · exact ⟨accepted.symm, recovered stored⟩
  obtain ⟨ok, stored, settles⟩ := answered
  split at done
  · cases done
    exact .inr ⟨stored, settles, .inl ⟨_, rfl⟩⟩
  next observing reconciling scopes =>
  split at done
  · cases done
    exact .inr ⟨stored, settles, .inl ⟨_, rfl⟩⟩
  split at done
  · cases done
    exact .inr ⟨stored, settles, .inl ⟨_, rfl⟩⟩
  · cases done
    exact .inr ⟨stored, settles, .inr ⟨_, rfl, ok, scopes⟩⟩

end DaemonAuthority
end Calls
end Gearwit
