import Gearwit.Authority.Daemon

/-!
# The host coordinator

The coordinator owns the authority and keeps the products that cross a controller call:
the prepared dispatch that is probed for or written, and the scope of the follow-up.  A
controller is represented by what it answers to the scope it is given.
-/

namespace Gearwit

/-- Controller work that may cross the authority only after a durable reservation. -/
structure ReservedControllerWrite where
  lane : ControllerIdleGuard
  command : ControllerCommand
  deriving DecidableEq

/-- Outcome of a validated probe. -/
inductive CoordinatedProbe
  | ready (write : ReservedControllerWrite)
  | heldBeforeNativeWrite
  | idleStateUnproven
  deriving DecidableEq

/-- The authority with the products the coordinator keeps. -/
structure HostCoordinator (P : Type) where
  authority : DaemonAuthority P
  probing : Option PreparedDispatch
  writing : Option PreparedDispatch
  observing : Option ObservationScope
  reconciling : Option ReconciliationScope

namespace HostCoordinator

variable {P : Type}

/-- A coordinator without pending products. -/
def new (authority : DaemonAuthority P) : HostCoordinator P where
  authority := authority
  probing := none
  writing := none
  observing := none
  reconciling := none

/-- Move the clock. -/
def setNow (now : OffsetDateTime) (coordinator : HostCoordinator P) : HostCoordinator P :=
  { coordinator with authority := coordinator.authority.setNow now }

/-- Pass an operation on to the authority. -/
def delegate {α : Type} (operation : DaemonAuthority P → Except AuthorityError α × DaemonAuthority P)
    (coordinator : HostCoordinator P) : Except AuthorityError α × HostCoordinator P :=
  let (result, authority) := operation coordinator.authority
  (result, { coordinator with authority })

variable [Persist P]

/-- Recover the authority and take up its only follow-up.  The authority is dropped when
that fails, and its store stays. -/
def recover (authority : DaemonAuthority P) (draws : List VerifierRef) :
    Except AuthorityError (HostCoordinator P) × DaemonAuthority P :=
  match authority.recover draws with
  | (.error refusal, authority) => (.error refusal, authority)
  | (.ok recovery, authority) =>
      if recovery.observationScopes.length + recovery.reconciliationScopes.length > 1 then
        (.error .conflict, authority)
      else
        (.ok { new authority with
          observing := recovery.observationScopes.getLast?
          reconciling := recovery.reconciliationScopes.getLast? }, authority)

/-- Reserve a controller birth. -/
def reserveControllerBirth (armText : String) (birthDraw : Option ControllerBirthId)
    (createDraw : Option RequestNonce) (verifierDraw : Option VerifierRef) :
    HostCoordinator P → Except AuthorityError ControllerBirthReservation × HostCoordinator P :=
  delegate (DaemonAuthority.reserveControllerBirth armText birthDraw createDraw verifierDraw)

/-- Resolve a reserved creation. -/
def resolveThreadCreate (reservation : ControllerBirthReservation)
    (resolution : ThreadCreateResolution) (evidenceDraw : Option VerifierRef) :
    HostCoordinator P → Except AuthorityError CreateResolution × HostCoordinator P :=
  delegate (DaemonAuthority.resolveThreadCreate reservation resolution evidenceDraw)

/-- Resolve a quarantined creation. -/
def resolveQuarantinedThreadCreate (reservation : QuarantinedBirthReservation)
    (resolution : ThreadCreateResolution) (evidenceDraw : Option VerifierRef) :
    HostCoordinator P → Except AuthorityError IdempotentWrite × HostCoordinator P :=
  delegate (DaemonAuthority.resolveQuarantinedThreadCreate reservation resolution evidenceDraw)

/-- Admit a claim. -/
def admitClaim [Blake3] [Rfc3339] (request : ClaimRequest) (verifierDraw : Option VerifierRef)
    (payloadDraw : Option ClaimPayloadRef) :
    HostCoordinator P → Except AuthorityError AdmissionResult × HostCoordinator P :=
  delegate (DaemonAuthority.admitClaim request verifierDraw payloadDraw)

/-- Record that a dispatch is prepared and return the exact probe scope. -/
def prepare (receipt : AdmissionReceipt) (writeDraw probeDraw : Option RequestNonce)
    (coordinator : HostCoordinator P) :
    Except AuthorityError IdleProbeScope × HostCoordinator P :=
  if coordinator.probing.isSome || coordinator.writing.isSome then
    (.error .conflict, coordinator)
  else
    match coordinator.authority.prepareHandleClaimedSignal receipt writeDraw probeDraw with
    | (.error refusal, authority) => (.error refusal, { coordinator with authority })
    | (.ok (prepared, scope), authority) =>
        (.ok scope, { coordinator with authority, probing := some prepared })

/-- Validate an exact probe.  The pending probe is taken also when that fails. -/
def authorizeProbe (result : Except ControllerProbeError IdleProbeResult)
    (coordinator : HostCoordinator P) :
    Except AuthorityError CoordinatedProbe × HostCoordinator P :=
  match coordinator.probing with
  | none => (.error .conflict, coordinator)
  | some prepared =>
      let coordinator := { coordinator with probing := none }
      match coordinator.authority.authorizeProbe prepared result with
      | (.error refusal, authority) => (.error refusal, { coordinator with authority })
      | (.ok (.ready authorized), authority) =>
          (.ok (.ready ⟨authorized.lane, authorized.command⟩),
            { coordinator with authority, writing := some authorized.prepared })
      | (.ok .heldBeforeNativeWrite, authority) =>
          (.ok .heldBeforeNativeWrite, { coordinator with authority })
      | (.ok .idleStateUnproven, authority) =>
          (.ok .idleStateUnproven, { coordinator with authority })

/-- Conclude the pending write.  Its scopes replace those of any follow-up. -/
def concludeNativeWrite (disposition : Except ControllerWriteError NativeWriteDisposition)
    (evidenceDraw factDraw : Option VerifierRef) (coordinator : HostCoordinator P) :
    Except AuthorityError Unit × HostCoordinator P :=
  match coordinator.writing with
  | none => (.error .conflict, coordinator)
  | some prepared =>
      let coordinator := { coordinator with writing := none }
      match coordinator.authority.concludeNativeWrite prepared disposition evidenceDraw
          factDraw with
      | (.error refusal, authority) => (.error refusal, { coordinator with authority })
      | (.ok conclusion, authority) =>
          (.ok (), { coordinator with
            authority
            observing := conclusion.observationScope
            reconciling := conclusion.reconciliationScope })

/-- Poll the controller for a fact and record it. -/
def pollAndRecordExact (pollExactObservation : ObservationScope → Option NativeTurnFact)
    (evidenceDraw : Option VerifierRef) (coordinator : HostCoordinator P) :
    Except AuthorityError (Option IdempotentWrite) × HostCoordinator P :=
  match coordinator.observing with
  | none => (.error .conflict, coordinator)
  | some scope =>
      match pollExactObservation scope with
      | none => (.ok none, coordinator)
      | some fact =>
          match coordinator.authority.recordExactObservation scope fact evidenceDraw with
          | (.error refusal, authority) => (.error refusal, { coordinator with authority })
          | (.ok record, authority) =>
              (.ok (some record.write), { coordinator with
                authority
                observing :=
                  if fact.isTerminal || record.reconciliation.isSome then none else some scope
                reconciling := record.reconciliation })

/-- Let the controller reconcile and record its disposition. -/
def reconcileAndRecord
    (reconcileExact : ReconciliationScope →
      Except ControllerReconcileError ReconciliationDisposition)
    (factDraw : Option VerifierRef) (coordinator : HostCoordinator P) :
    Except AuthorityError IdempotentWrite × HostCoordinator P :=
  match coordinator.reconciling with
  | none => (.error .conflict, coordinator)
  | some scope =>
      match coordinator.authority.recordReconciliation scope (reconcileExact scope) factDraw with
      | (.error refusal, authority) => (.error refusal, { coordinator with authority })
      | (.ok (write, .reconciling), authority) => (.ok write, { coordinator with authority })
      | (.ok (write, .observing scope), authority) =>
          (.ok write, { coordinator with authority, observing := some scope, reconciling := none })
      | (.ok (write, .closed), authority) =>
          (.ok write, { coordinator with authority, reconciling := none })

end HostCoordinator
end Gearwit
