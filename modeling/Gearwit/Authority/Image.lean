import Gearwit.Authority.Daemon

/-!
# Attachments of the in-memory image

The image of an authority gains an attachment by an admission or a recovery, loses
none, and changes one only to revoke it.  Every other operation leaves the attachments
alone, also when it refuses.
-/

namespace Gearwit
namespace DaemonAuthority

variable {P : Type} {authority next : DaemonAuthority P}

/-- Calling the store leaves the cached attachments alone. -/
theorem call_attachments {α : Type} {operation : P → Except PersistError α × P}
    {reply : Except AuthorityError α}
    (called : authority.call operation = (reply, next)) :
    next.attachments = authority.attachments := by
  unfold call at called
  split at called <;> cases called <;> rfl

/-- An attachment inserted after a call is inserted into the old ones. -/
theorem inserted_attachments {α : Type}
    {operation : P → Except PersistError α × P} {reply : Except AuthorityError α}
    (called : authority.call operation = (reply, next))
    (attachment : PersistedControllerAttachment) :
    next.attachments.insert attachment.attemptId attachment =
      authority.attachments.insert attachment.attemptId attachment := by
  rw [call_attachments called]

section Port

variable [Persist P]

/-- Registering an arm leaves the cached attachments alone. -/
theorem registerManagedArm_attachments {arm : ManagedArmRegistration}
    {reply : Except AuthorityError Unit}
    (done : authority.registerManagedArm arm = (reply, next)) :
    next.attachments = authority.attachments := by
  unfold registerManagedArm at done
  simp only at done
  repeat' split at done
  all_goals cases done
  any_goals rfl
  all_goals next called => exact (call_attachments called :)

/-- Reserving a birth leaves the cached attachments alone. -/
theorem reserveControllerBirth_attachments {armText : String}
    {birthDraw : Option ControllerBirthId} {createDraw : Option RequestNonce}
    {verifierDraw : Option VerifierRef}
    {reply : Except AuthorityError ControllerBirthReservation}
    (done : authority.reserveControllerBirth armText birthDraw createDraw verifierDraw =
      (reply, next)) :
    next.attachments = authority.attachments := by
  unfold reserveControllerBirth at done
  simp only at done
  repeat' split at done
  all_goals cases done
  any_goals rfl
  all_goals next called => exact (call_attachments called :)

/-- Resolving a creation leaves the cached attachments alone. -/
theorem resolveCreate_attachments {birthId : ControllerBirthId}
    {createAttemptId : RequestNonce} {resolution : ThreadCreateResolution}
    {evidenceDraw : Option VerifierRef} {reply : Except AuthorityError IdempotentWrite}
    (done : authority.resolveCreate birthId createAttemptId resolution evidenceDraw =
      (reply, next)) :
    next.attachments = authority.attachments := by
  unfold resolveCreate at done
  split at done
  · cases done
    rfl
  split at done
  · next called =>
    cases done
    exact call_attachments called
  next called =>
  split at done <;> next read =>
    cases done
    exact (call_attachments read).trans (call_attachments called)

/-- Resolving a reserved creation leaves the cached attachments alone. -/
theorem resolveThreadCreate_attachments {reservation : ControllerBirthReservation}
    {resolution : ThreadCreateResolution} {evidenceDraw : Option VerifierRef}
    {reply : Except AuthorityError CreateResolution}
    (done : authority.resolveThreadCreate reservation resolution evidenceDraw =
      (reply, next)) :
    next.attachments = authority.attachments := by
  unfold resolveThreadCreate at done
  split at done <;> next resolved =>
    repeat' split at done
    all_goals cases done
    all_goals exact resolveCreate_attachments resolved

/-- Resolving a quarantined creation leaves the cached attachments alone. -/
theorem resolveQuarantinedThreadCreate_attachments
    {reservation : QuarantinedBirthReservation} {resolution : ThreadCreateResolution}
    {evidenceDraw : Option VerifierRef} {reply : Except AuthorityError IdempotentWrite}
    (done : authority.resolveQuarantinedThreadCreate reservation resolution
      evidenceDraw = (reply, next)) :
    next.attachments = authority.attachments := by
  unfold resolveQuarantinedThreadCreate at done
  split at done
  · cases done
    rfl
  · exact resolveCreate_attachments done

/-- Preparing a dispatch leaves the cached attachments alone. -/
theorem prepareHandleClaimedSignal_attachments {receipt : AdmissionReceipt}
    {writeDraw probeDraw : Option RequestNonce}
    {reply : Except AuthorityError (PreparedDispatch × IdleProbeScope)}
    (done : authority.prepareHandleClaimedSignal receipt writeDraw probeDraw =
      (reply, next)) :
    next.attachments = authority.attachments := by
  unfold prepareHandleClaimedSignal at done
  simp only at done
  repeat' split at done
  all_goals cases done
  any_goals rfl
  all_goals next called => exact (call_attachments called :)

/-- Authorizing a probe leaves the cached attachments alone. -/
theorem authorizeProbe_attachments {prepared : PreparedDispatch}
    {result : Except ControllerProbeError IdleProbeResult}
    {reply : Except AuthorityError ProbeAuthorization}
    (done : authority.authorizeProbe prepared result = (reply, next)) :
    next.attachments = authority.attachments := by
  unfold authorizeProbe at done
  repeat' split at done
  all_goals cases done
  any_goals rfl
  all_goals next called => exact (call_attachments called :)

/-- Recording an immediate fact leaves the cached attachments alone. -/
theorem recordImmediateFact_attachments {fact : Option NativeTurnFact}
    {correlation : PersistedTurnCorrelation} {factDraw : Option VerifierRef}
    {reply : Except AuthorityError Unit}
    (done : authority.recordImmediateFact fact correlation factDraw = (reply, next)) :
    next.attachments = authority.attachments := by
  unfold recordImmediateFact at done
  repeat' split at done
  all_goals cases done
  any_goals rfl
  all_goals next called => exact (call_attachments called :)

/-- Recording the evidence of a write leaves the cached attachments alone. -/
theorem concludeEvidence_attachments {prepared : PreparedDispatch}
    {disposition : NativeWriteDisposition} {evidence : NativeWriteEvidence}
    {evidenceDraw factDraw : Option VerifierRef}
    {reply : Except AuthorityError NativeWriteConclusion}
    (done : authority.concludeEvidence prepared disposition evidence evidenceDraw
      factDraw = (reply, next)) :
    next.attachments = authority.attachments := by
  unfold concludeEvidence at done
  split at done
  · cases done
    rfl
  split at done
  · next called =>
    cases done
    exact call_attachments called
  next called =>
  simp only at done
  split at done <;> next recorded =>
    cases done
    exact (recordImmediateFact_attachments recorded).trans (call_attachments called)

/-- Concluding a write leaves the cached attachments alone. -/
theorem concludeNativeWrite_attachments {prepared : PreparedDispatch}
    {disposition : Except ControllerWriteError NativeWriteDisposition}
    {evidenceDraw factDraw : Option VerifierRef}
    {reply : Except AuthorityError NativeWriteConclusion}
    (done : authority.concludeNativeWrite prepared disposition evidenceDraw factDraw =
      (reply, next)) :
    next.attachments = authority.attachments := by
  unfold concludeNativeWrite at done
  split at done
  · cases done
    rfl
  · split at done <;> next called =>
      cases done
      exact call_attachments called
  · split at done
    · cases done
      rfl
    · exact concludeEvidence_attachments done

/-- Recording an observation leaves the cached attachments alone. -/
theorem recordExactObservation_attachments {scope : ObservationScope}
    {fact : NativeTurnFact} {evidenceDraw : Option VerifierRef}
    {reply : Except AuthorityError ExactObservationRecord}
    (done : authority.recordExactObservation scope fact evidenceDraw = (reply, next)) :
    next.attachments = authority.attachments := by
  unfold recordExactObservation at done
  repeat' split at done
  all_goals cases done
  any_goals rfl
  all_goals next called => exact (call_attachments called :)

/-- Recording a reconciliation leaves the cached attachments alone. -/
theorem recordReconciliation_attachments {scope : ReconciliationScope}
    {disposition : Except ControllerReconcileError ReconciliationDisposition}
    {factDraw : Option VerifierRef}
    {reply : Except AuthorityError (IdempotentWrite × ReconciliationPhase)}
    (done : authority.recordReconciliation scope disposition factDraw =
      (reply, next)) :
    next.attachments = authority.attachments := by
  unfold recordReconciliation at done
  split at done
  · cases done
    rfl
  split at done
  · next called =>
    cases done
    exact call_attachments called
  next called =>
  split at done <;> next recorded =>
    cases done
    exact (recordImmediateFact_attachments recorded).trans (call_attachments called)

/-- A revocation revokes an attachment, or changes nothing. -/
theorem revokeAttachment_attachments {attemptText : String}
    {reply : Except AuthorityError IdempotentWrite}
    (done : authority.revokeAttachment attemptText = (reply, next)) :
    next.attachments = authority.attachments ∨
      ∃ attemptId attachment, authority.attachments[attemptId]? = some attachment ∧
        next.attachments =
          authority.attachments.insert attemptId { attachment with revoked := true } := by
  unfold revokeAttachment at done
  split at done
  · cases done
    exact .inl rfl
  next attemptId attachment found =>
  split at done
  · next called =>
    cases done
    exact .inl (call_attachments called)
  · next called =>
    cases done
    have stored := Std.ExtTreeMap.mem_toList_iff_getElem?_eq_some.1
      (List.mem_of_find?_eq_some found)
    refine .inr ⟨attemptId, attachment, stored, ?_⟩
    exact congrArg (fun map : BTreeMap AttemptId PersistedControllerAttachment =>
      map.insert _ _) (call_attachments called)

/-- A recovery rebuilds the attachments from its snapshot, or changes nothing. -/
theorem recover_attachments {draws : List VerifierRef}
    {reply : Except AuthorityError AuthorityRecovery}
    (done : authority.recover draws = (reply, next)) :
    next.attachments = authority.attachments ∨
      ∃ recovery, reply = .ok recovery ∧
        next.attachments = BTreeMap.fromRows PersistedControllerAttachment.attemptId id
          recovery.snapshot.attachments := by
  unfold recover at done
  split at done
  · next called =>
    cases done
    exact .inl (call_attachments called)
  next called =>
  split at done
  · cases done
    exact .inl (call_attachments called)
  split at done
  · cases done
    exact .inl (call_attachments called)
  split at done
  · cases done
    exact .inl (call_attachments called)
  · cases done
    exact .inr ⟨_, rfl, rfl⟩

end Port

end DaemonAuthority
end Gearwit
