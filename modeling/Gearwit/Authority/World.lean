import Gearwit.Authority.StoreCalls

/-!
# Runs of a daemon

One authority over one store, the move-only products it has handed out and not yet
taken back, and the commands it has ever produced.  An event is one operation with
one of the products at hand, one seal by a controller, or a crash followed by a
restart over the same store, which loses every product.  Probe answers,
dispositions, facts and random draws are arbitrary arguments of the events.
-/

namespace Gearwit

open FakePersist

/-- An authority with the products it handed out and its command history. -/
structure AuthorityWorld where
  authority : DaemonAuthority (Interrupted FakePersist)
  birthReservations : List ControllerBirthReservation
  quarantinedBirths : List QuarantinedBirthReservation
  receipts : List AdmissionReceipt
  prepared : List PreparedDispatch
  authorized : List AuthorizedNativeWrite
  observationScopes : List ObservationScope
  reconciliationScopes : List ReconciliationScope
  commands : List ControllerCommand

/-- One operation of the daemon or its surroundings. -/
inductive AuthorityCall
  | setNow (now : OffsetDateTime)
  | registerManagedArm (arm : ManagedArmRegistration)
  | reserveControllerBirth (armText : String) (birthDraw : Option ControllerBirthId)
      (createDraw : Option RequestNonce) (verifierDraw : Option VerifierRef)
  | resolveThreadCreate (reservation : ControllerBirthReservation)
      (resolution : ThreadCreateResolution) (evidenceDraw : Option VerifierRef)
  | resolveQuarantinedThreadCreate (reservation : QuarantinedBirthReservation)
      (resolution : ThreadCreateResolution) (evidenceDraw : Option VerifierRef)
  | admitClaim (request : ClaimRequest) (verifierDraw : Option VerifierRef)
      (payloadDraw : Option ClaimPayloadRef)
  | prepareHandleClaimedSignal (receipt : AdmissionReceipt)
      (writeDraw probeDraw : Option RequestNonce)
  | authorizeProbe (prepared : PreparedDispatch)
      (result : Except ControllerProbeError IdleProbeResult)
  | concludePrepared (prepared : PreparedDispatch)
      (disposition : Except ControllerWriteError NativeWriteDisposition)
      (evidenceDraw factDraw : Option VerifierRef)
  | concludeAuthorized (authorized : AuthorizedNativeWrite)
      (disposition : Except ControllerWriteError NativeWriteDisposition)
      (evidenceDraw factDraw : Option VerifierRef)
  | recordExactObservation (scope : ObservationScope) (fact : NativeTurnFact)
      (evidenceDraw : Option VerifierRef)
  | recordReconciliation (scope : ReconciliationScope)
      (disposition : Except ControllerReconcileError ReconciliationDisposition)
      (factDraw : Option VerifierRef)
  | revokeAttachment (attemptText : String)
  | sealNativeCoordinate (scope : NativeCoordinateScope)
      (coordinate : SecretNativeCoordinate) (draws : List PrivateNativeRef)
  | restart (now : OffsetDateTime) (draws : List VerifierRef)

/-- An operation with the number of store calls it may complete; none when nothing
interrupts it. -/
structure AuthorityEvent where
  call : AuthorityCall
  completes : Option Nat

namespace AuthorityWorld

/-- The semantic store of a world. -/
abbrev store (world : AuthorityWorld) : FakePersist := world.authority.store

/-- A daemon that has just come up on an empty store. -/
def initial (activeMacKey : Bytes32) (now : OffsetDateTime) : AuthorityWorld where
  authority := .new ⟨FakePersist.default activeMacKey, none⟩ now
  birthReservations := []
  quarantinedBirths := []
  receipts := []
  prepared := []
  authorized := []
  observationScopes := []
  reconciliationScopes := []
  commands := []

/-- The world with another authority. -/
def withAuthority (world : AuthorityWorld)
    (authority : DaemonAuthority (Interrupted FakePersist)) : AuthorityWorld :=
  { world with authority := authority }

/-- Let the store complete so many calls. -/
def allow (world : AuthorityWorld) (completes : Option Nat) : AuthorityWorld :=
  world.withAuthority { world.authority with
    persist := ⟨world.authority.persist.store, completes⟩ }

/-- Hand out the scopes of a conclusion. -/
def withConclusion (world : AuthorityWorld) (conclusion : NativeWriteConclusion) :
    AuthorityWorld :=
  { world with
    observationScopes := conclusion.observationScope.toList ++ world.observationScopes
    reconciliationScopes :=
      conclusion.reconciliationScope.toList ++ world.reconciliationScopes }

/-- Scopes a reconciliation hands out. -/
def phaseScopes : ReconciliationPhase → List ObservationScope
  | .observing scope => [scope]
  | .reconciling | .closed => []

section Steps

variable [Blake3] [Rfc3339]

/-- Conclude a native write and hand out its scopes. -/
def conclude (world : AuthorityWorld) (prepared : PreparedDispatch)
    (disposition : Except ControllerWriteError NativeWriteDisposition)
    (evidenceDraw factDraw : Option VerifierRef) : AuthorityWorld :=
  match world.authority.concludeNativeWrite prepared disposition evidenceDraw
      factDraw with
  | (.error _, authority) => world.withAuthority authority
  | (.ok conclusion, authority) =>
      (world.withAuthority authority).withConclusion conclusion

/-- Crash, then come up again over the same store and recover. -/
def restart (world : AuthorityWorld) (now : OffsetDateTime)
    (draws : List VerifierRef) : AuthorityWorld :=
  let bare := { initial world.store.activeMacKey now with commands := world.commands }
  match (DaemonAuthority.new world.authority.persist now).recover draws with
  | (.error _, authority) => bare.withAuthority authority
  | (.ok recovery, authority) =>
      { bare.withAuthority authority with
        observationScopes := recovery.observationScopes
        reconciliationScopes := recovery.reconciliationScopes }

/-- Perform one operation.  A product that is not at hand cannot be used. -/
def perform (world : AuthorityWorld) : AuthorityCall → AuthorityWorld
  | .setNow now => world.withAuthority (world.authority.setNow now)
  | .registerManagedArm arm =>
      world.withAuthority (world.authority.registerManagedArm arm).2
  | .reserveControllerBirth armText birthDraw createDraw verifierDraw =>
      match world.authority.reserveControllerBirth armText birthDraw createDraw
          verifierDraw with
      | (.error _, authority) => world.withAuthority authority
      | (.ok reservation, authority) =>
          { world.withAuthority authority with
            birthReservations := reservation :: world.birthReservations }
  | .resolveThreadCreate reservation resolution evidenceDraw =>
      if reservation ∈ world.birthReservations then
        let taken := { world with
          birthReservations := world.birthReservations.erase reservation }
        match world.authority.resolveThreadCreate reservation resolution
            evidenceDraw with
        | (.ok (.unknown _ quarantined), authority) =>
            { taken.withAuthority authority with
              quarantinedBirths := quarantined :: world.quarantinedBirths }
        | (_, authority) => taken.withAuthority authority
      else world
  | .resolveQuarantinedThreadCreate reservation resolution evidenceDraw =>
      if reservation ∈ world.quarantinedBirths then
        { world with
          quarantinedBirths := world.quarantinedBirths.erase reservation
          authority := (world.authority.resolveQuarantinedThreadCreate reservation
            resolution evidenceDraw).2 }
      else world
  | .admitClaim request verifierDraw payloadDraw =>
      match world.authority.admitClaim request verifierDraw payloadDraw with
      | (.error _, authority) => world.withAuthority authority
      | (.ok result, authority) =>
          { world.withAuthority authority with
            receipts := result.receipt.toList ++ world.receipts }
  | .prepareHandleClaimedSignal receipt writeDraw probeDraw =>
      if receipt ∈ world.receipts then
        let taken := { world with receipts := world.receipts.erase receipt }
        match world.authority.prepareHandleClaimedSignal receipt writeDraw
            probeDraw with
        | (.error _, authority) => taken.withAuthority authority
        | (.ok (prepared, _), authority) =>
            { taken.withAuthority authority with
              prepared := prepared :: world.prepared }
      else world
  | .authorizeProbe prepared result =>
      if prepared ∈ world.prepared then
        let taken := { world with prepared := world.prepared.erase prepared }
        match world.authority.authorizeProbe prepared result with
        | (.ok (.ready authorized), authority) =>
            { taken.withAuthority authority with
              authorized := authorized :: world.authorized
              commands := authorized.command :: world.commands }
        | (_, authority) => taken.withAuthority authority
      else world
  | .concludePrepared prepared disposition evidenceDraw factDraw =>
      if prepared ∈ world.prepared then
        { world with prepared := world.prepared.erase prepared }.conclude prepared
          disposition evidenceDraw factDraw
      else world
  | .concludeAuthorized authorized disposition evidenceDraw factDraw =>
      if authorized ∈ world.authorized then
        { world with authorized := world.authorized.erase authorized }.conclude
          authorized.prepared disposition evidenceDraw factDraw
      else world
  | .recordExactObservation scope fact evidenceDraw =>
      if scope ∈ world.observationScopes then
        match world.authority.recordExactObservation scope fact evidenceDraw with
        | (.error _, authority) => world.withAuthority authority
        | (.ok record, authority) =>
            { world.withAuthority authority with
              reconciliationScopes :=
                record.reconciliation.toList ++ world.reconciliationScopes }
      else world
  | .recordReconciliation scope disposition factDraw =>
      if scope ∈ world.reconciliationScopes then
        match world.authority.recordReconciliation scope disposition factDraw with
        | (.error _, authority) => world.withAuthority authority
        | (.ok (_, phase), authority) =>
            { world.withAuthority authority with
              observationScopes := phaseScopes phase ++ world.observationScopes }
      else world
  | .revokeAttachment attemptText =>
      world.withAuthority (world.authority.revokeAttachment attemptText).2
  | .sealNativeCoordinate scope coordinate draws =>
      world.withAuthority (world.authority.call
        (Persist.sealNativeCoordinate scope coordinate draws)).2
  | .restart now draws => world.restart now draws

/-- The world after one event. -/
def step (world : AuthorityWorld) (event : AuthorityEvent) : AuthorityWorld :=
  (world.allow event.completes).perform event.call

/-- The world after a run of events on an empty store. -/
def after (activeMacKey : Bytes32) (now : OffsetDateTime)
    (events : List AuthorityEvent) : AuthorityWorld :=
  Transition.run step (initial activeMacKey now) events

end Steps

end AuthorityWorld
end Gearwit
