import Gearwit.Persist.Port

/-!
# Interrupted stores

A store that stops answering after a number of completed calls.  An authority over
it leaves, between two calls of one operation, exactly the store a crash would
leave there.
-/

namespace Gearwit

/-- A store with the number of calls it still answers; none when it never
stops. -/
structure Interrupted (P : Type) where
  store : P
  remaining : Option Nat

namespace Interrupted

variable {P : Type}

/-- One call, refused once no calls are left. -/
def guard {α : Type} (operation : P → Except PersistError α × P)
    (interrupted : Interrupted P) : Except PersistError α × Interrupted P :=
  match interrupted.remaining with
  | some 0 => (.error .storageUnavailable, interrupted)
  | some (remaining + 1) =>
      ((operation interrupted.store).1,
        ⟨(operation interrupted.store).2, some remaining⟩)
  | none =>
      ((operation interrupted.store).1, ⟨(operation interrupted.store).2, none⟩)

/-- One read, refused once no calls are left. -/
def guardRead {α : Type} (operation : P → Except PersistError α)
    (interrupted : Interrupted P) : Except PersistError α :=
  if interrupted.remaining = some 0 then .error .storageUnavailable
  else operation interrupted.store

/-- A guarded call is refused without effect or is the call itself. -/
theorem guard_cases {α : Type} (operation : P → Except PersistError α × P)
    (interrupted : Interrupted P) :
    guard operation interrupted = (.error .storageUnavailable, interrupted) ∨
      ((guard operation interrupted).1 = (operation interrupted.store).1 ∧
        (guard operation interrupted).2.store = (operation interrupted.store).2) := by
  unfold guard
  split
  · exact .inl rfl
  · exact .inr ⟨rfl, rfl⟩
  · exact .inr ⟨rfl, rfl⟩

/-- A store that never stops makes every call. -/
theorem guard_uninterrupted {α : Type} (operation : P → Except PersistError α × P)
    {interrupted : Interrupted P} (endless : interrupted.remaining = none) :
    guard operation interrupted =
      ((operation interrupted.store).1, ⟨(operation interrupted.store).2, none⟩) := by
  unfold guard
  rw [endless]

instance [Persist P] : Persist (Interrupted P) where
  persistArm arm := guard (Persist.persistArm arm)
  admitClaim admission attachment payloadRef :=
    guard (Persist.admitClaim admission attachment payloadRef)
  reserveControllerBirth birth create :=
    guard (Persist.reserveControllerBirth birth create)
  resolveThreadCreate request := guard (Persist.resolveThreadCreate request)
  threadOwnershipState birthId := guardRead (Persist.threadOwnershipState birthId)
  sealNativeCoordinate scope coordinate draws :=
    guard (Persist.sealNativeCoordinate scope coordinate draws)
  openNativeCoordinate scope nativeRef :=
    guardRead (Persist.openNativeCoordinate scope nativeRef)
  recordDispatchPrepared request := guard (Persist.recordDispatchPrepared request)
  recordPrewriteConclusion request :=
    guard (Persist.recordPrewriteConclusion request)
  recordActiveHold request := guard (Persist.recordActiveHold request)
  reserveNativeTurnWrite idle correlation :=
    guard (Persist.reserveNativeTurnWrite idle correlation)
  recordNativeWriteEvidence request :=
    guard (Persist.recordNativeWriteEvidence request)
  recordNativeTurnFact request := guard (Persist.recordNativeTurnFact request)
  recordReconciliationFact scope disposition :=
    guard (Persist.recordReconciliationFact scope disposition)
  revokeControllerAttachment scope :=
    guard (Persist.revokeControllerAttachment scope)
  persistHelperGrant grant := guard (Persist.persistHelperGrant grant)
  revokeHelperGrant scope := guard (Persist.revokeHelperGrant scope)
  recordRetrieveExchange exchange retrievalId :=
    guard (Persist.recordRetrieveExchange exchange retrievalId)
  materializeClaimedBatch binding permit :=
    guardRead (Persist.materializeClaimedBatch binding permit)
  acknowledgeRetrievedBatch binding request :=
    guard (Persist.acknowledgeRetrievedBatch binding request)
  tryRearmJoin scope := guard (Persist.tryRearmJoin scope)
  recoverAuthorityState draws := guard (Persist.recoverAuthorityState draws)

end Interrupted
end Gearwit
