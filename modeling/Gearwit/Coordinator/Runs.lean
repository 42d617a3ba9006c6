import Gearwit.Authority.Runs
import Gearwit.Coordinator.State
import Gearwit.Foundations.Simulation

/-!
# Runs of a coordinator

A host drives one coordinator over one store.  It holds the products that the coordinator
hands out, and a crash loses them together with those the coordinator keeps.  Every such run
is a run of the authority, in which the products a coordinator keeps are at hand.
-/

namespace Gearwit

open FakePersist

/-- A coordinator with the products it handed out and its command history.  It is down
after a recovery that failed. -/
structure HostWorld where
  coordinator : HostCoordinator (Interrupted FakePersist)
  up : Bool
  birthReservations : List ControllerBirthReservation
  quarantinedBirths : List QuarantinedBirthReservation
  receipts : List AdmissionReceipt
  commands : List ControllerCommand

/-- One operation of the host or its surroundings. -/
inductive HostCall
  | setNow (now : OffsetDateTime)
  | reserveControllerBirth (armText : String) (birthDraw : Option ControllerBirthId)
      (createDraw : Option RequestNonce) (verifierDraw : Option VerifierRef)
  | resolveThreadCreate (reservation : ControllerBirthReservation)
      (resolution : ThreadCreateResolution) (evidenceDraw : Option VerifierRef)
  | resolveQuarantinedThreadCreate (reservation : QuarantinedBirthReservation)
      (resolution : ThreadCreateResolution) (evidenceDraw : Option VerifierRef)
  | admitClaim (request : ClaimRequest) (verifierDraw : Option VerifierRef)
      (payloadDraw : Option ClaimPayloadRef)
  | prepare (receipt : AdmissionReceipt) (writeDraw probeDraw : Option RequestNonce)
  | authorizeProbe (result : Except ControllerProbeError IdleProbeResult)
  | concludeNativeWrite (disposition : Except ControllerWriteError NativeWriteDisposition)
      (evidenceDraw factDraw : Option VerifierRef)
  | pollAndRecordExact (pollExactObservation : ObservationScope → Option NativeTurnFact)
      (evidenceDraw : Option VerifierRef)
  | reconcileAndRecord
      (reconcileExact : ReconciliationScope →
        Except ControllerReconcileError ReconciliationDisposition)
      (factDraw : Option VerifierRef)
  | sealNativeCoordinate (scope : NativeCoordinateScope)
      (coordinate : SecretNativeCoordinate) (draws : List PrivateNativeRef)
  | restart (now : OffsetDateTime) (draws : List VerifierRef)

/-- An operation with the number of store calls it may complete; none when nothing
interrupts it. -/
structure HostEvent where
  call : HostCall
  completes : Option Nat

namespace HostWorld

/-- The semantic store of a host. -/
abbrev store (host : HostWorld) : FakePersist := host.coordinator.authority.store

/-- A coordinator takes over an authority and the products at hand. -/
def takeOver (world : AuthorityWorld) : HostWorld where
  coordinator := .new world.authority
  up := true
  birthReservations := world.birthReservations
  quarantinedBirths := world.quarantinedBirths
  receipts := world.receipts
  commands := world.commands

/-- Replace the coordinator. -/
def withCoordinator (host : HostWorld)
    (coordinator : HostCoordinator (Interrupted FakePersist)) : HostWorld :=
  { host with coordinator }

/-- Let the store complete so many calls. -/
def allow (host : HostWorld) (completes : Option Nat) : HostWorld :=
  host.withCoordinator { host.coordinator with
    authority := { host.coordinator.authority with
      persist := ⟨host.coordinator.authority.persist.store, completes⟩ } }

section Steps

variable [Blake3] [Rfc3339]

/-- Crash, then come up again over the same store and recover. -/
def restart (host : HostWorld) (now : OffsetDateTime) (draws : List VerifierRef) : HostWorld :=
  match HostCoordinator.recover
    (DaemonAuthority.new host.coordinator.authority.persist now) draws with
  | (.error _, authority) => ⟨.new authority, false, [], [], [], host.commands⟩
  | (.ok coordinator, _) => ⟨coordinator, true, [], [], [], host.commands⟩

/-- Perform one operation of a coordinator that is up.  A product that is not at hand
cannot be used. -/
def operate (host : HostWorld) : HostCall → HostWorld
  | .setNow now => host.withCoordinator (host.coordinator.setNow now)
  | .reserveControllerBirth armText birthDraw createDraw verifierDraw =>
      match host.coordinator.reserveControllerBirth armText birthDraw createDraw
          verifierDraw with
      | (.error _, coordinator) => host.withCoordinator coordinator
      | (.ok reservation, coordinator) =>
          { host.withCoordinator coordinator with
            birthReservations := reservation :: host.birthReservations }
  | .resolveThreadCreate reservation resolution evidenceDraw =>
      if reservation ∈ host.birthReservations then
        let taken := { host with birthReservations := host.birthReservations.erase reservation }
        match host.coordinator.resolveThreadCreate reservation resolution evidenceDraw with
        | (.ok (.unknown _ quarantined), coordinator) =>
            { taken.withCoordinator coordinator with
              quarantinedBirths := quarantined :: host.quarantinedBirths }
        | (_, coordinator) => taken.withCoordinator coordinator
      else host
  | .resolveQuarantinedThreadCreate reservation resolution evidenceDraw =>
      if reservation ∈ host.quarantinedBirths then
        { host with
          quarantinedBirths := host.quarantinedBirths.erase reservation
          coordinator := (host.coordinator.resolveQuarantinedThreadCreate reservation
            resolution evidenceDraw).2 }
      else host
  | .admitClaim request verifierDraw payloadDraw =>
      match host.coordinator.admitClaim request verifierDraw payloadDraw with
      | (.error _, coordinator) => host.withCoordinator coordinator
      | (.ok result, coordinator) =>
          { host.withCoordinator coordinator with
            receipts := result.receipt.toList ++ host.receipts }
  | .prepare receipt writeDraw probeDraw =>
      if receipt ∈ host.receipts then
        { host with
          receipts := host.receipts.erase receipt
          coordinator := (host.coordinator.prepare receipt writeDraw probeDraw).2 }
      else host
  | .authorizeProbe result =>
      match host.coordinator.authorizeProbe result with
      | (.ok (.ready write), coordinator) =>
          { host.withCoordinator coordinator with commands := write.command :: host.commands }
      | (_, coordinator) => host.withCoordinator coordinator
  | .concludeNativeWrite disposition evidenceDraw factDraw =>
      host.withCoordinator
        (host.coordinator.concludeNativeWrite disposition evidenceDraw factDraw).2
  | .pollAndRecordExact pollExactObservation evidenceDraw =>
      host.withCoordinator
        (host.coordinator.pollAndRecordExact pollExactObservation evidenceDraw).2
  | .reconcileAndRecord reconcileExact factDraw =>
      host.withCoordinator (host.coordinator.reconcileAndRecord reconcileExact factDraw).2
  | .sealNativeCoordinate scope coordinate draws =>
      host.withCoordinator { host.coordinator with
        authority := (host.coordinator.authority.call
          (Persist.sealNativeCoordinate scope coordinate draws)).2 }
  | .restart now draws => host.restart now draws

/-- Perform one operation.  A coordinator that is down can only be restarted. -/
def perform (host : HostWorld) (call : HostCall) : HostWorld :=
  if host.up then host.operate call
  else
    match call with
    | .restart now draws => host.restart now draws
    | _ => host

/-- The host after one event. -/
def step (host : HostWorld) (event : HostEvent) : HostWorld :=
  (host.allow event.completes).perform event.call

/-- The host after a run of events, taken over from an authority. -/
def after (world : AuthorityWorld) (events : List HostEvent) : HostWorld :=
  Transition.run step (takeOver world) events

end Steps

/-! ## The authority under a coordinator -/

/-- An authority under a coordinator: it is the same one, and whatever the coordinator keeps
or handed out is at hand. -/
structure Under (host : HostWorld) (world : AuthorityWorld) : Prop where
  authority : world.authority = host.coordinator.authority
  commands : world.commands = host.commands
  births : world.birthReservations = host.birthReservations
  quarantined : world.quarantinedBirths = host.quarantinedBirths
  receipts : host.receipts.Subperm world.receipts
  probing : ∀ prepared, host.coordinator.probing = some prepared → prepared ∈ world.prepared
  writing : ∀ prepared, host.coordinator.writing = some prepared →
    ∃ authorized ∈ world.authorized, authorized.prepared = prepared
  observing : ∀ scope, host.coordinator.observing = some scope → scope ∈ world.observationScopes
  reconciling : ∀ scope, host.coordinator.reconciling = some scope →
    scope ∈ world.reconciliationScopes
  single : host.coordinator.probing = none ∨ host.coordinator.writing = none
  followup : host.coordinator.observing = none ∨ host.coordinator.reconciling = none

namespace Under

variable {host : HostWorld} {world : AuthorityWorld}

/-- The authority that a coordinator takes over. -/
theorem takeOver (world : AuthorityWorld) : Under (takeOver world) world where
  authority := rfl
  commands := rfl
  births := rfl
  quarantined := rfl
  receipts := .refl _
  probing _ same := by cases same
  writing _ same := by cases same
  observing _ same := by cases same
  reconciling _ same := by cases same
  single := .inl rfl
  followup := .inl rfl

/-- Letting the store complete so many calls changes the authority only. -/
theorem allow (under : Under host world) (completes : Option Nat) :
    Under (host.allow completes) (world.allow completes) where
  authority := by
    simp only [AuthorityWorld.allow, AuthorityWorld.withAuthority, HostWorld.allow,
      HostWorld.withCoordinator, under.authority]
  commands := under.commands
  births := under.births
  quarantined := under.quarantined
  receipts := under.receipts
  probing := under.probing
  writing := under.writing
  observing := under.observing
  reconciling := under.reconciling
  single := under.single
  followup := under.followup

/-- The same change of the authority under both. -/
theorem withAuthority (under : Under host world)
    (authority : DaemonAuthority (Interrupted FakePersist)) :
    Under (host.withCoordinator { host.coordinator with authority })
      (world.withAuthority authority) where
  authority := rfl
  commands := under.commands
  births := under.births
  quarantined := under.quarantined
  receipts := under.receipts
  probing := under.probing
  writing := under.writing
  observing := under.observing
  reconciling := under.reconciling
  single := under.single
  followup := under.followup

section Steps

attribute [local simp] operate AuthorityWorld.perform

variable [Blake3] [Rfc3339]

/-- An operation that the authority need not match. -/
theorem idle (under : Under host world) :
    ∃ matched, Under host (world.perform matched) :=
  ⟨.setNow world.authority.now, under⟩

/-- Reserving a birth is matched by the authority. -/
theorem reserveControllerBirth_matched (under : Under host world) (armText : String)
    (birthDraw : Option ControllerBirthId) (createDraw : Option RequestNonce)
    (verifierDraw : Option VerifierRef) :
    Under (host.operate (.reserveControllerBirth armText birthDraw createDraw verifierDraw))
      (world.perform (.reserveControllerBirth armText birthDraw createDraw verifierDraw)) := by
  rcases answered : host.coordinator.authority.reserveControllerBirth armText birthDraw createDraw
    verifierDraw with ⟨refusal | reservation, authority⟩
  · simp only [operate, HostCoordinator.reserveControllerBirth, HostCoordinator.delegate,
      AuthorityWorld.perform, under.authority, answered]
    exact under.withAuthority authority
  · simp only [operate, HostCoordinator.reserveControllerBirth, HostCoordinator.delegate,
      AuthorityWorld.perform, under.authority, answered]
    exact { under.withAuthority authority with
      births := congrArg (reservation :: ·) under.births }

/-- Resolving a reserved creation is matched by the authority. -/
theorem resolveThreadCreate_matched (under : Under host world)
    (reservation : ControllerBirthReservation) (resolution : ThreadCreateResolution)
    (evidenceDraw : Option VerifierRef) :
    Under (host.operate (.resolveThreadCreate reservation resolution evidenceDraw))
      (world.perform (.resolveThreadCreate reservation resolution evidenceDraw)) := by
  by_cases held : reservation ∈ host.birthReservations
  · have taken (authority : DaemonAuthority (Interrupted FakePersist)) :
        Under (({ host with birthReservations := host.birthReservations.erase reservation } :
            HostWorld).withCoordinator { host.coordinator with authority })
          (({ world with birthReservations := host.birthReservations.erase reservation } :
            AuthorityWorld).withAuthority authority) :=
      { under.withAuthority authority with births := rfl }
    rcases answered : host.coordinator.authority.resolveThreadCreate reservation resolution
      evidenceDraw with ⟨refusal | resolved, authority⟩
    · simp only [operate, if_pos held, HostCoordinator.resolveThreadCreate,
        HostCoordinator.delegate, AuthorityWorld.perform, under.births, under.authority, answered]
      exact taken authority
    · cases resolved with
      | final write =>
          simp only [operate, if_pos held, HostCoordinator.resolveThreadCreate,
            HostCoordinator.delegate, AuthorityWorld.perform, under.births, under.authority,
            answered]
          exact taken authority
      | unknown write quarantined =>
          simp only [operate, if_pos held, HostCoordinator.resolveThreadCreate,
            HostCoordinator.delegate, AuthorityWorld.perform, under.births, under.authority,
            answered]
          exact { taken authority with
            quarantined := congrArg (quarantined :: ·) under.quarantined }
  · simp only [operate, if_neg held, AuthorityWorld.perform, under.births]
    exact under

/-- Resolving a quarantined creation is matched by the authority. -/
theorem resolveQuarantinedThreadCreate_matched (under : Under host world)
    (reservation : QuarantinedBirthReservation) (resolution : ThreadCreateResolution)
    (evidenceDraw : Option VerifierRef) :
    Under (host.operate (.resolveQuarantinedThreadCreate reservation resolution evidenceDraw))
      (world.perform (.resolveQuarantinedThreadCreate reservation resolution evidenceDraw)) := by
  by_cases held : reservation ∈ host.quarantinedBirths
  · simp only [operate, if_pos held, HostCoordinator.resolveQuarantinedThreadCreate,
      HostCoordinator.delegate, AuthorityWorld.perform, under.quarantined, under.authority]
    exact { under.withAuthority _ with
      quarantined := rfl }
  · simp only [operate, if_neg held, AuthorityWorld.perform, under.quarantined]
    exact under

/-- Admitting a claim is matched by the authority. -/
theorem admit_matched (under : Under host world) (request : ClaimRequest)
    (verifierDraw : Option VerifierRef) (payloadDraw : Option ClaimPayloadRef) :
    Under (host.operate (.admitClaim request verifierDraw payloadDraw))
      (world.perform (.admitClaim request verifierDraw payloadDraw)) := by
  rcases answered : host.coordinator.authority.admitClaim request verifierDraw payloadDraw with
    ⟨refusal | result, authority⟩
  · simp only [operate, HostCoordinator.admitClaim, HostCoordinator.delegate, AuthorityWorld.perform,
      under.authority, answered]
    exact under.withAuthority authority
  · simp only [operate, HostCoordinator.admitClaim, HostCoordinator.delegate, AuthorityWorld.perform,
      under.authority, answered]
    exact { under.withAuthority authority with
      receipts := (List.subperm_append_left result.receipt.toList).2 under.receipts }

/-- A coordinator whose slot is taken drops the receipt. -/
theorem prepare_matched (under : Under host world) (receipt : AdmissionReceipt)
    (writeDraw probeDraw : Option RequestNonce) :
    ∃ matched, Under (host.operate (.prepare receipt writeDraw probeDraw))
      (world.perform matched) := by
  by_cases held : receipt ∈ host.receipts
  · have fewer : (host.receipts.erase receipt).Subperm world.receipts :=
      (List.erase_sublist.subperm).trans under.receipts
    by_cases taken : (host.coordinator.probing.isSome || host.coordinator.writing.isSome) = true
    · refine ⟨.setNow world.authority.now, ?_⟩
      simp only [operate, if_pos held, HostCoordinator.prepare, taken, if_true]
      exact { under with receipts := fewer }
    · refine ⟨.prepareHandleClaimedSignal receipt writeDraw probeDraw, ?_⟩
      have free : host.coordinator.writing = none := by
        cases writing : host.coordinator.writing with
        | none => rfl
        | some prepared => exact absurd (by simp [writing]) taken
      have member : receipt ∈ world.receipts := under.receipts.subset held
      rcases answered : host.coordinator.authority.prepareHandleClaimedSignal receipt writeDraw
        probeDraw with ⟨refusal | ⟨prepared, scope⟩, authority⟩
      · simp only [operate, if_pos held, HostCoordinator.prepare, if_neg taken,
          AuthorityWorld.perform, if_pos member, under.authority, answered]
        exact { under.withAuthority authority with receipts := under.receipts.erase receipt }
      · simp only [operate, if_pos held, HostCoordinator.prepare, if_neg taken,
          AuthorityWorld.perform, if_pos member, under.authority, answered]
        exact { under.withAuthority authority with
          receipts := under.receipts.erase receipt
          probing := by
            intro _ same
            cases same
            exact List.mem_cons_self
          single := .inr free }
  · refine ⟨.setNow world.authority.now, ?_⟩
    simp only [operate, if_neg held]
    exact under

/-- Authorizing the probe that waits is matched by the authority. -/
theorem authorizeProbe_matched (under : Under host world)
    (result : Except ControllerProbeError IdleProbeResult) :
    ∃ matched, Under (host.operate (.authorizeProbe result)) (world.perform matched) := by
  cases probing : host.coordinator.probing with
  | none =>
      refine ⟨.setNow world.authority.now, ?_⟩
      simp only [operate, HostCoordinator.authorizeProbe, probing]
      exact under
  | some prepared =>
      refine ⟨.authorizeProbe prepared result, ?_⟩
      have member := under.probing prepared probing
      have taken (authority : DaemonAuthority (Interrupted FakePersist)) :
          Under (host.withCoordinator { host.coordinator with authority, probing := none })
            (({ world with prepared := world.prepared.erase prepared } :
              AuthorityWorld).withAuthority authority) :=
        { under.withAuthority authority with
          probing := by
            intro other same
            cases same
          single := .inl rfl }
      rcases answered : host.coordinator.authority.authorizeProbe prepared result with
        ⟨refusal | authorization, authority⟩
      · simp only [operate, HostCoordinator.authorizeProbe, probing, AuthorityWorld.perform,
          if_pos member, under.authority, answered]
        exact taken authority
      · cases authorization with
        | ready authorized =>
            simp only [operate, HostCoordinator.authorizeProbe, probing, AuthorityWorld.perform,
              if_pos member, under.authority, answered]
            exact { taken authority with
              commands := congrArg (authorized.command :: ·) under.commands
              writing := by
                intro _ same
                cases same
                exact ⟨authorized, List.mem_cons_self, rfl⟩
              single := .inl rfl }
        | heldBeforeNativeWrite =>
            simp only [operate, HostCoordinator.authorizeProbe, probing, AuthorityWorld.perform,
              if_pos member, under.authority, answered]
            exact taken authority
        | idleStateUnproven =>
            simp only [operate, HostCoordinator.authorizeProbe, probing, AuthorityWorld.perform,
              if_pos member, under.authority, answered]
            exact taken authority

omit [Rfc3339] in
/-- A conclusion has one follow-up at most. -/
theorem conclusion_single {authority next : DaemonAuthority (Interrupted FakePersist)}
    {prepared : PreparedDispatch}
    {disposition : Except ControllerWriteError NativeWriteDisposition}
    {evidenceDraw factDraw : Option VerifierRef} {conclusion : NativeWriteConclusion}
    (answered : authority.concludeNativeWrite prepared disposition evidenceDraw factDraw =
      (.ok conclusion, next)) :
    conclusion.observationScope = none ∨ conclusion.reconciliationScope = none := by
  have concluded (disposition : NativeWriteDisposition) (correlation : PersistedTurnCorrelation)
      (evidenceRef : VerifierRef) :
      (DaemonAuthority.conclusionOf disposition correlation evidenceRef).observationScope =
          none ∨
        (DaemonAuthority.conclusionOf disposition correlation
          evidenceRef).reconciliationScope = none := by
    cases disposition with
    | unknown => exact .inl rfl
    | accepted | exactResponse | provenNotAccepted | idleEpochInvalidated => exact .inr rfl
  rcases DaemonAuthority.concludeNativeWrite_store answered with
    ⟨_, _, refused⟩ | ⟨_, _, _, _, _, _, _, same⟩ |
      ⟨_, _, _, _, _, _, _, _, _, ⟨_, ⟨_, refused⟩ | ⟨_, same⟩⟩ |
        ⟨_, _, _, _, _, _, same⟩⟩
  · cases refused
  · cases same
    exact .inl rfl
  · cases refused
  · cases same
    exact concluded _ _ _
  · cases same
    exact concluded _ _ _

/-- Concluding the write that waits is matched by the authority. -/
theorem concludeNativeWrite_matched (under : Under host world)
    (disposition : Except ControllerWriteError NativeWriteDisposition)
    (evidenceDraw factDraw : Option VerifierRef) :
    ∃ matched, Under (host.operate (.concludeNativeWrite disposition evidenceDraw factDraw))
      (world.perform matched) := by
  cases writing : host.coordinator.writing with
  | none =>
      refine ⟨.setNow world.authority.now, ?_⟩
      simp only [operate, HostCoordinator.concludeNativeWrite, writing]
      exact under
  | some prepared =>
      obtain ⟨authorized, member, rfl⟩ := under.writing prepared writing
      refine ⟨.concludeAuthorized authorized disposition evidenceDraw factDraw, ?_⟩
      have taken (authority : DaemonAuthority (Interrupted FakePersist)) :
          Under (host.withCoordinator { host.coordinator with authority, writing := none })
            (({ world with authorized := world.authorized.erase authorized } :
              AuthorityWorld).withAuthority authority) :=
        { under.withAuthority authority with
          writing := by
            intro other same
            cases same
          single := .inr rfl }
      rcases answered : host.coordinator.authority.concludeNativeWrite authorized.prepared
        disposition evidenceDraw factDraw with ⟨refusal | conclusion, authority⟩
      · simp only [operate, HostCoordinator.concludeNativeWrite, writing, AuthorityWorld.perform,
          if_pos member, AuthorityWorld.conclude, under.authority, answered]
        exact taken authority
      · simp only [operate, HostCoordinator.concludeNativeWrite, writing, AuthorityWorld.perform,
          if_pos member, AuthorityWorld.conclude, under.authority, answered]
        exact { taken authority with
          observing := by
            intro scope same
            exact List.mem_append_left _ (Option.mem_toList.2 same)
          reconciling := by
            intro scope same
            exact List.mem_append_left _ (Option.mem_toList.2 same)
          followup := conclusion_single answered }

/-- A recorded poll is matched by the authority. -/
theorem pollAndRecordExact_matched (under : Under host world)
    (pollExactObservation : ObservationScope → Option NativeTurnFact)
    (evidenceDraw : Option VerifierRef) :
    ∃ matched, Under (host.operate (.pollAndRecordExact pollExactObservation evidenceDraw))
      (world.perform matched) := by
  have still (same : (host.coordinator.pollAndRecordExact pollExactObservation
      evidenceDraw).2 = host.coordinator) :
      ∃ matched, Under (host.operate (.pollAndRecordExact pollExactObservation evidenceDraw))
        (world.perform matched) := by
    refine ⟨.setNow world.authority.now, ?_⟩
    simp only [operate, same]
    exact under
  cases observing : host.coordinator.observing with
  | none => exact still (by simp only [HostCoordinator.pollAndRecordExact, observing])
  | some scope =>
      cases polled : pollExactObservation scope with
      | none => exact still (by simp only [HostCoordinator.pollAndRecordExact, observing, polled])
      | some fact =>
          refine ⟨.recordExactObservation scope fact evidenceDraw, ?_⟩
          have member := under.observing scope observing
          have calm : host.coordinator.reconciling = none :=
            under.followup.resolve_left (by rw [observing]; exact Option.some_ne_none scope)
          rcases answered : host.coordinator.authority.recordExactObservation scope fact
            evidenceDraw with ⟨refusal | record, authority⟩
          · simp only [operate, HostCoordinator.pollAndRecordExact, observing, polled,
              AuthorityWorld.perform, if_pos member, under.authority, answered]
            exact { under.withAuthority authority with
              observing := by
                intro other same
                cases same
                exact member
              followup := .inr calm }
          · simp only [operate, HostCoordinator.pollAndRecordExact, observing, polled,
              AuthorityWorld.perform, if_pos member, under.authority, answered]
            exact { under.withAuthority authority with
              observing := by
                intro other same
                change (if (fact.isTerminal || record.reconciliation.isSome) = true then none
                  else some scope) = some other at same
                split_ifs at same
                cases same
                exact member
              reconciling := by
                intro other same
                exact List.mem_append_left _ (Option.mem_toList.2 same)
              followup := by
                cases kept : record.reconciliation with
                | none => exact .inr rfl
                | some other => exact .inl (if_pos (by simp)) }

/-- A recorded reconciliation is matched by the authority. -/
theorem reconcileAndRecord_matched (under : Under host world)
    (reconcileExact : ReconciliationScope →
      Except ControllerReconcileError ReconciliationDisposition)
    (factDraw : Option VerifierRef) :
    ∃ matched, Under (host.operate (.reconcileAndRecord reconcileExact factDraw))
      (world.perform matched) := by
  cases reconciling : host.coordinator.reconciling with
  | none =>
      refine ⟨.setNow world.authority.now, ?_⟩
      simp only [operate, HostCoordinator.reconcileAndRecord, reconciling]
      exact under
  | some scope =>
      refine ⟨.recordReconciliation scope (reconcileExact scope) factDraw, ?_⟩
      have member := under.reconciling scope reconciling
      have calm : host.coordinator.observing = none :=
        under.followup.resolve_right (by rw [reconciling]; exact Option.some_ne_none scope)
      have kept (authority : DaemonAuthority (Interrupted FakePersist)) :
          Under (host.withCoordinator { host.coordinator with
              authority, reconciling := some scope }) (world.withAuthority authority) :=
        { under.withAuthority authority with
          reconciling := by
            intro other same
            cases same
            exact member
          followup := .inl calm }
      rcases answered : host.coordinator.authority.recordReconciliation scope
        (reconcileExact scope) factDraw with ⟨refusal | ⟨write, phase⟩, authority⟩
      · simp only [operate, HostCoordinator.reconcileAndRecord, reconciling,
          AuthorityWorld.perform, if_pos member, under.authority, answered]
        exact kept authority
      · cases phase with
        | reconciling =>
            simp only [operate, HostCoordinator.reconcileAndRecord, reconciling,
              AuthorityWorld.perform, if_pos member, under.authority, answered]
            exact kept authority
        | observing next =>
            simp only [operate, HostCoordinator.reconcileAndRecord, reconciling,
              AuthorityWorld.perform, if_pos member, under.authority, answered]
            exact { under.withAuthority authority with
              observing := by
                intro other same
                cases same
                exact List.mem_cons_self
              reconciling := by
                intro other same
                cases same
              followup := .inr rfl }
        | closed =>
            simp only [operate, HostCoordinator.reconcileAndRecord, reconciling,
              AuthorityWorld.perform, if_pos member, under.authority, answered]
            exact { under.withAuthority authority with
              reconciling := by
                intro other same
                cases same
              followup := .inr rfl }

/-- Sealing a coordinate is matched by the authority. -/
theorem sealNativeCoordinate_matched (under : Under host world) (scope : NativeCoordinateScope)
    (coordinate : SecretNativeCoordinate) (draws : List PrivateNativeRef) :
    Under (host.operate (.sealNativeCoordinate scope coordinate draws))
      (world.perform (.sealNativeCoordinate scope coordinate draws)) := by
  simp only [operate, AuthorityWorld.perform, under.authority]
  exact under.withAuthority _

/-- A recovery takes up one follow-up at most, and one that the authority recovered. -/
theorem restart_matched (under : Under host world) (now : OffsetDateTime)
    (draws : List VerifierRef) :
    Under (host.restart now draws) (world.perform (.restart now draws)) := by
  rcases answered : (DaemonAuthority.new host.coordinator.authority.persist now).recover draws with
    ⟨refusal | recovery, authority⟩
  · simp only [HostWorld.restart, HostCoordinator.recover, AuthorityWorld.perform,
      AuthorityWorld.restart, under.authority, answered]
    exact ⟨rfl, under.commands, rfl, rfl, .refl _, fun _ same => (by cases same),
      fun _ same => (by cases same), fun _ same => (by cases same), fun _ same => (by cases same),
      .inl rfl, .inl rfl⟩
  · simp only [HostWorld.restart, HostCoordinator.recover, AuthorityWorld.perform,
      AuthorityWorld.restart, under.authority, answered]
    split_ifs with several
    · exact ⟨rfl, under.commands, rfl, rfl, .refl _, fun _ same => (by cases same),
        fun _ same => (by cases same), fun _ same => (by cases same),
        fun _ same => (by cases same), .inl rfl, .inl rfl⟩
    · refine ⟨rfl, under.commands, rfl, rfl, .refl _, fun _ same => (by cases same),
        fun _ same => (by cases same), fun scope same => List.mem_of_getLast? same,
        fun scope same => List.mem_of_getLast? same, .inl rfl, ?_⟩
      cases observed : recovery.observationScopes with
      | nil => exact .inl (by simp)
      | cons scope rest =>
          right
          have none : recovery.reconciliationScopes = [] := by
            rw [observed] at several
            simp only [List.length_cons] at several
            exact List.length_eq_zero_iff.1 (by omega)
          rw [none]
          rfl

/-- Every event is matched by one of the authority. -/
theorem simulates : Transition.Simulates HostWorld.step AuthorityWorld.step Under := by
  intro host world event under
  have allowed := under.allow event.completes
  suffices matches' : ∃ matched, Under (HostWorld.step host event)
      ((world.allow event.completes).perform matched) by
    obtain ⟨matched, related⟩ := matches'
    exact ⟨⟨matched, event.completes⟩, related⟩
  simp only [HostWorld.step, HostWorld.perform]
  split_ifs with up
  · cases event.call with
    | setNow now =>
        refine ⟨.setNow now, ?_⟩
        simp only [operate, HostCoordinator.setNow, AuthorityWorld.perform, allowed.authority]
        exact allowed.withAuthority _
    | reserveControllerBirth armText birthDraw createDraw verifierDraw =>
        exact ⟨_, allowed.reserveControllerBirth_matched armText birthDraw createDraw verifierDraw⟩
    | resolveThreadCreate reservation resolution evidenceDraw =>
        exact ⟨_, allowed.resolveThreadCreate_matched reservation resolution evidenceDraw⟩
    | resolveQuarantinedThreadCreate reservation resolution evidenceDraw =>
        exact ⟨_, allowed.resolveQuarantinedThreadCreate_matched reservation resolution
          evidenceDraw⟩
    | admitClaim request verifierDraw payloadDraw =>
        exact ⟨_, allowed.admit_matched request verifierDraw payloadDraw⟩
    | prepare receipt writeDraw probeDraw =>
        exact allowed.prepare_matched receipt writeDraw probeDraw
    | authorizeProbe result => exact allowed.authorizeProbe_matched result
    | concludeNativeWrite disposition evidenceDraw factDraw =>
        exact allowed.concludeNativeWrite_matched disposition evidenceDraw factDraw
    | pollAndRecordExact pollExactObservation evidenceDraw =>
        exact allowed.pollAndRecordExact_matched pollExactObservation evidenceDraw
    | reconcileAndRecord reconcileExact factDraw =>
        exact allowed.reconcileAndRecord_matched reconcileExact factDraw
    | sealNativeCoordinate scope coordinate draws =>
        exact ⟨_, allowed.sealNativeCoordinate_matched scope coordinate draws⟩
    | restart now draws => exact ⟨_, allowed.restart_matched now draws⟩
  · cases event.call with
    | restart now draws => exact ⟨_, allowed.restart_matched now draws⟩
    | _ => exact allowed.idle

end Steps

end Under

section Steps

variable [Blake3] [Rfc3339]

/-- Every run of a coordinator is a run of the authority it took over, in which whatever the
coordinator keeps or handed out is at hand. -/
theorem coordinator_refines (activeMacKey : Bytes32) (now : OffsetDateTime)
    (events : List AuthorityEvent) (operations : List HostEvent) :
    ∃ more, more.length = operations.length ∧
      Under (after (AuthorityWorld.after activeMacKey now events) operations)
        (AuthorityWorld.after activeMacKey now (events ++ more)) := by
  obtain ⟨more, length, under⟩ := Under.simulates.run
    (Under.takeOver (AuthorityWorld.after activeMacKey now events)) operations
  have whole : AuthorityWorld.after activeMacKey now (events ++ more) =
      Transition.run AuthorityWorld.step (AuthorityWorld.after activeMacKey now events) more :=
    Transition.run_append ..
  refine ⟨more, length, ?_⟩
  rw [whole]
  exact under

end Steps

end HostWorld
end Gearwit
