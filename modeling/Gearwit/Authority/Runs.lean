import Gearwit.Authority.Simulation

/-!
# Runs of a daemon follow the lifecycle

Restarts and the events that leave every attempt alone complete the simulation, and
the run theorem folds it.  Every store of a run is one the port operations lead to,
so the invariants of the store hold in it.
-/

namespace Gearwit

open FakePersist

namespace AuthorityWorld

section Steps

variable [Blake3] {world : AuthorityWorld} {phases : AttemptId → Phase}

/-! ## Restarts -/

omit [Blake3] in
/-- A restart over a store whose rows moved along loses every product and hands out
scopes of concluded attempts. -/
private theorem restarted_follows (tracks : Tracks world phases)
    {later : AttemptId → Phase}
    {authority : DaemonAuthority (Interrupted FakePersist)} {reached : FakePersist}
    (stored : authority.store = reached)
    (rows : ∀ attemptId, reached.attemptRows attemptId = (later attemptId).rows)
    (leads : ∀ attemptId, Phase.Leads (phases attemptId) (later attemptId))
    (observing : List ObservationScope) (reconciling : List ReconciliationScope)
    (observed : ∀ scope ∈ observing, (later scope.correlation.attemptId).Concluded)
    (reconciled : ∀ scope ∈ reconciling,
      (later scope.correlation.attemptId).Concluded) :
    Follows phases ⟨authority, [], [], [], [], [], observing, reconciling,
      world.commands⟩ :=
  ⟨later,
    { rows := fun attemptId => by rw [← rows, ← stored]
      receipts := by simp
      receiptsDistinct := .nil
      prepared := by simp
      preparedDistinct := .nil
      authorized := by simp
      authorizedDistinct := .nil
      observing := observed
      reconciling := reconciled
      commands := fun command produced =>
        (leads _).crossed (tracks.commands command produced)
      commandsDistinct := tracks.commandsDistinct },
    leads⟩

/-- Scopes of a recovered snapshot belong to attempts whose write has evidence. -/
theorem recovered_evidence {store : FakePersist} (keyed : TablesKeyed store)
    {draws : List VerifierRef} {snapshot : RecoverySnapshot}
    {observing : List ObservationScope} {reconciling : List ReconciliationScope}
    (recovered : (store.recoverAuthorityState draws).1 = .ok snapshot)
    (scopes : recoveryFollowupScopes snapshot = .ok (observing, reconciling)) :
    (∀ scope ∈ observing, ∃ evidence, (store.classified draws).2.writeEvidence[
        scope.correlation.attemptId]? = some evidence) ∧
      ∀ scope ∈ reconciling, ∃ evidence, (store.classified draws).2.writeEvidence[
        scope.correlation.attemptId]? = some evidence := by
  obtain ⟨_, rfl, _, _⟩ := recoverAuthorityState_ok recovered
  rw [recoveryFollowupScopes_snapshot, Except.ok.injEq, Prod.mk.injEq] at scopes
  obtain ⟨rfl, rfl⟩ := scopes
  have concluded : ∀ needed ∈ (store.classified draws).2.snapshot.followups,
      ∃ evidence, (store.classified draws).2.writeEvidence[
        needed.correlation.attemptId]? = some evidence := by
    intro needed listed
    have reservations := classified_reservations_keyed keyed draws
    obtain ⟨attemptId, derived⟩ := (mem_followups reservations needed).1 listed
    obtain ⟨stored, rfl⟩ := followup_attempt reservations derived
    exact stored
  constructor
  · intro scope listed
    obtain ⟨needed, present, isObservation⟩ := List.mem_filterMap.1 listed
    cases needed with
    | observe found =>
        cases isObservation
        exact concluded _ present
    | reconcile found => cases isObservation
  · intro scope listed
    obtain ⟨needed, present, isReconciliation⟩ := List.mem_filterMap.1 listed
    cases needed with
    | observe found => cases isReconciliation
    | reconcile found =>
        cases isReconciliation
        exact concluded _ present

/-- Scopes of a recovered snapshot belong to concluded attempts. -/
private theorem recovered_concluded {store : FakePersist} (keyed : TablesKeyed store)
    {draws : List VerifierRef} {snapshot : RecoverySnapshot}
    {observing : List ObservationScope} {reconciling : List ReconciliationScope}
    (recovered : (store.recoverAuthorityState draws).1 = .ok snapshot)
    (scopes : recoveryFollowupScopes snapshot = .ok (observing, reconciling))
    {later : AttemptId → Phase}
    (rows : ∀ attemptId, (store.classified draws).2.attemptRows attemptId =
      (later attemptId).rows) :
    (∀ scope ∈ observing, (later scope.correlation.attemptId).Concluded) ∧
      ∀ scope ∈ reconciling, (later scope.correlation.attemptId).Concluded := by
  have concluded : ∀ attemptId : AttemptId,
      (∃ evidence, (store.classified draws).2.writeEvidence[attemptId]? =
        some evidence) → (later attemptId).Concluded := by
    rintro attemptId ⟨evidence, stored⟩
    obtain ⟨reservation, outcome, isConcluded, _⟩ := Phase.concluded_of_evidence
      ((congrArg AttemptRows.evidence (rows attemptId)).symm.trans stored)
    exact ⟨reservation, outcome, isConcluded⟩
  obtain ⟨observed, reconciled⟩ := recovered_evidence keyed recovered scopes
  exact ⟨fun scope listed => concluded _ (observed scope listed),
    fun scope listed => concluded _ (reconciled scope listed)⟩

/-- A restart follows the phases it leads to. -/
theorem restart_follows (tracks : Tracks world phases) (keyed : TablesKeyed world.store)
    (now : OffsetDateTime) (draws : List VerifierRef) :
    Follows phases (world.restart now draws) := by
  choose later classified advance _ _ using fun attemptId =>
    classified_phase draws (tracks.rows attemptId)
  unfold restart
  simp only
  split
  · next refusal authority done =>
    rcases DaemonAuthority.recover_store done with
      ⟨same, _⟩ | ⟨stored, _, _⟩
    · exact restarted_follows tracks same tracks.rows (fun _ => .refl) [] []
        (by simp) (by simp)
    · exact restarted_follows tracks stored classified
        (fun attemptId => .single (advance attemptId)) [] [] (by simp) (by simp)
  · next recovery authority done =>
    rcases DaemonAuthority.recover_store done with
      ⟨_, _, impossible⟩ | ⟨stored, _, ⟨_, impossible⟩ |
        ⟨_, answered, recovered, scopes⟩⟩
    · cases impossible
    · cases impossible
    · cases answered
      have concluded := recovered_concluded keyed recovered scopes classified
      exact restarted_follows tracks stored classified
        (fun attemptId => .single (advance attemptId)) _ _ concluded.1 concluded.2

/-! ## Steps -/

variable [Rfc3339]

/-- Every operation follows the lifecycle. -/
theorem perform_follows (tracks : Tracks world phases) (keyed : TablesKeyed world.store)
    (call : AuthorityCall) : Follows phases (world.perform call) := by
  cases call with
  | setNow now =>
      have quiet : Tracks (world.withAuthority (world.authority.setNow now)) phases :=
        tracks.withAuthority_quiet fun _ => rfl
      exact quiet.follows
  | registerManagedArm arm =>
      exact (tracks.withAuthority_quiet
        (DaemonAuthority.registerManagedArm_quiet rfl).rows).follows
  | reserveControllerBirth armText birthDraw createDraw verifierDraw =>
      simp only [perform]
      split
      · next done =>
        exact (tracks.withAuthority_quiet
          (DaemonAuthority.reserveControllerBirth_quiet done).rows).follows
      · next done =>
        have quiet := tracks.withAuthority_quiet
          (DaemonAuthority.reserveControllerBirth_quiet done).rows
        exact ⟨phases, { quiet with }, fun _ => .refl⟩
  | resolveThreadCreate reservation resolution evidenceDraw =>
      simp only [perform]
      split
      · split
        · next done =>
          have quiet := tracks.withAuthority_quiet
            (DaemonAuthority.resolveThreadCreate_quiet done).rows
          exact ⟨phases, { quiet with }, fun _ => .refl⟩
        · next done =>
          have quiet := tracks.withAuthority_quiet
            (DaemonAuthority.resolveThreadCreate_quiet done).rows
          exact ⟨phases, { quiet with }, fun _ => .refl⟩
      · exact tracks.follows
  | resolveQuarantinedThreadCreate reservation resolution evidenceDraw =>
      simp only [perform]
      split
      · cases done : world.authority.resolveQuarantinedThreadCreate reservation
          resolution evidenceDraw with
        | mk reply authority =>
        have quiet := tracks.withAuthority_quiet
          (DaemonAuthority.resolveQuarantinedThreadCreate_quiet done).rows
        exact ⟨phases, { quiet with }, fun _ => .refl⟩
      · exact tracks.follows
  | admitClaim request verifierDraw payloadDraw =>
      exact admitClaim_follows tracks request verifierDraw payloadDraw
  | prepareHandleClaimedSignal receipt writeDraw probeDraw =>
      exact prepareHandleClaimedSignal_follows tracks receipt writeDraw probeDraw
  | authorizeProbe prepared result =>
      exact authorizeProbe_follows tracks prepared result
  | concludePrepared prepared disposition evidenceDraw factDraw =>
      exact concludePrepared_follows tracks prepared disposition evidenceDraw factDraw
  | concludeAuthorized authorized disposition evidenceDraw factDraw =>
      exact concludeAuthorized_follows tracks authorized disposition evidenceDraw
        factDraw
  | recordExactObservation scope fact evidenceDraw =>
      exact recordExactObservation_follows tracks scope fact evidenceDraw
  | recordReconciliation scope disposition factDraw =>
      exact recordReconciliation_follows tracks scope disposition factDraw
  | revokeAttachment attemptText =>
      exact (tracks.withAuthority_quiet
        (DaemonAuthority.revokeAttachment_quiet rfl).rows).follows
  | sealNativeCoordinate scope coordinate draws =>
      exact (tracks.withAuthority_quiet
        (DaemonAuthority.sealNativeCoordinate_quiet rfl).rows).follows
  | restart now draws => exact restart_follows tracks keyed now draws

/-- Every event follows the lifecycle. -/
theorem step_follows (tracks : Tracks world phases) (keyed : TablesKeyed world.store)
    (event : AuthorityEvent) : Follows phases (world.step event) := by
  have allowed : Tracks (world.allow event.completes) phases :=
    tracks.withAuthority_quiet fun _ => rfl
  exact perform_follows allowed keyed event.call

/-! ## Stores of a run -/

omit [Rfc3339] in
/-- A conclusion admits no claim. -/
theorem conclude_settles (world : AuthorityWorld) (prepared : PreparedDispatch)
    (disposition : Except ControllerWriteError NativeWriteDisposition)
    (evidenceDraw factDraw : Option VerifierRef) :
    Settles world.store
      (world.conclude prepared disposition evidenceDraw factDraw).store := by
  have concluded : ∀ {reply next},
      world.authority.concludeNativeWrite prepared disposition evidenceDraw factDraw =
        (reply, next) → Settles world.store next.store := by
    intro reply next done
    rcases DaemonAuthority.concludeNativeWrite_store done with
      ⟨quiet, _⟩ | ⟨_, _, _, _, _, _, settles, _⟩ |
        ⟨_, _, _, _, middle, _, _, _, settles, ⟨same, _⟩ |
          ⟨_, _, _, _, _, further, _⟩⟩
    · exact quiet.settles
    · exact settles
    · exact same ▸ settles
    · exact settles.trans further
  unfold conclude
  split <;> next done => exact concluded done

omit [Rfc3339] in
/-- A restart admits no claim. -/
theorem restart_settles (world : AuthorityWorld) (now : OffsetDateTime)
    (draws : List VerifierRef) : Settles world.store (world.restart now draws).store := by
  have recovered : ∀ {reply next},
      (DaemonAuthority.new world.authority.persist now).recover draws =
        (reply, next) → Settles world.store next.store := by
    intro reply next done
    rcases DaemonAuthority.recover_store done with ⟨same, _⟩ | ⟨_, settles, _⟩
    · exact same ▸ .refl _
    · exact settles
  unfold restart
  simp only
  split <;> next done => exact recovered done

/-- An operation settles the store, or is a fresh admission. -/
theorem perform_settles (world : AuthorityWorld) (call : AuthorityCall) :
    Settles world.store (world.perform call).store ∨
      ∃ payloadDraw reply admission attachment payloadRef,
        DaemonAuthority.Admits world.authority (world.perform call).authority
          payloadDraw reply admission attachment payloadRef := by
  cases call with
  | setNow now => exact .inl (.refl _)
  | registerManagedArm arm =>
      exact .inl (DaemonAuthority.registerManagedArm_quiet rfl).settles
  | reserveControllerBirth armText birthDraw createDraw verifierDraw =>
      simp only [perform]
      split <;> next done =>
        exact .inl (DaemonAuthority.reserveControllerBirth_quiet done).settles
  | resolveThreadCreate reservation resolution evidenceDraw =>
      simp only [perform]
      split
      · split <;> next done =>
          exact .inl (DaemonAuthority.resolveThreadCreate_quiet done).settles
      · exact .inl (.refl _)
  | resolveQuarantinedThreadCreate reservation resolution evidenceDraw =>
      simp only [perform]
      split
      · exact .inl (DaemonAuthority.resolveQuarantinedThreadCreate_quiet rfl).settles
      · exact .inl (.refl _)
  | admitClaim request verifierDraw payloadDraw =>
      simp only [perform]
      split
      all_goals
        next done =>
        rcases DaemonAuthority.admitClaim_store done with
          ⟨quiet, _⟩ | ⟨admission, attachment, payloadRef, admits⟩
        · exact .inl quiet.settles
        · exact .inr ⟨_, _, admission, attachment, payloadRef, admits⟩
  | prepareHandleClaimedSignal receipt writeDraw probeDraw =>
      have dispatched : ∀ {reply next},
          world.authority.prepareHandleClaimedSignal receipt writeDraw probeDraw =
            (reply, next) → Settles world.store next.store := by
        intro reply next done
        rcases DaemonAuthority.prepareHandleClaimedSignal_store done with
          ⟨quiet, _⟩ | ⟨_, _, _, _, _, settles, _⟩
        · exact quiet.settles
        · exact settles
      simp only [perform]
      split
      · split <;> next done => exact .inl (dispatched done)
      · exact .inl (.refl _)
  | authorizeProbe prepared result =>
      have probed : ∀ {reply next}, world.authority.authorizeProbe prepared result =
          (reply, next) → Settles world.store next.store := by
        intro reply next done
        rcases DaemonAuthority.authorizeProbe_store done with
          ⟨quiet, _⟩ | ⟨settles, _⟩
        · exact quiet.settles
        · exact settles
      simp only [perform]
      split
      · split <;> next done => exact .inl (probed done)
      · exact .inl (.refl _)
  | concludePrepared prepared disposition evidenceDraw factDraw =>
      simp only [perform]
      split
      · exact .inl (conclude_settles _ prepared disposition evidenceDraw factDraw)
      · exact .inl (.refl _)
  | concludeAuthorized authorized disposition evidenceDraw factDraw =>
      simp only [perform]
      split
      · exact .inl
          (conclude_settles _ authorized.prepared disposition evidenceDraw factDraw)
      · exact .inl (.refl _)
  | recordExactObservation scope fact evidenceDraw =>
      have observed : ∀ {reply next},
          world.authority.recordExactObservation scope fact evidenceDraw =
            (reply, next) → Settles world.store next.store := by
        intro reply next done
        rcases DaemonAuthority.recordExactObservation_store done with
          ⟨quiet, _⟩ | ⟨_, _, _, settles, _⟩
        · exact quiet.settles
        · exact settles
      simp only [perform]
      split
      · split <;> next done => exact .inl (observed done)
      · exact .inl (.refl _)
  | recordReconciliation scope disposition factDraw =>
      have reconciled : ∀ {reply next},
          world.authority.recordReconciliation scope disposition factDraw =
            (reply, next) → Settles world.store next.store := by
        intro reply next done
        rcases DaemonAuthority.recordReconciliation_store done with
          ⟨quiet, _⟩ | ⟨_, _, middle, _, _, settles, ⟨same, _⟩ |
            ⟨_, _, _, _, _, further, _⟩⟩
        · exact quiet.settles
        · exact same ▸ settles
        · exact settles.trans further
      simp only [perform]
      split
      · split <;> next done => exact .inl (reconciled done)
      · exact .inl (.refl _)
  | revokeAttachment attemptText =>
      exact .inl (DaemonAuthority.revokeAttachment_quiet rfl).settles
  | sealNativeCoordinate scope coordinate draws =>
      exact .inl (DaemonAuthority.sealNativeCoordinate_quiet rfl).settles
  | restart now draws => exact .inl (restart_settles world now draws)

/-- An operation leads to a store port operations lead to. -/
theorem perform_reaches (world : AuthorityWorld) (call : AuthorityCall) :
    Reaches world.store (world.perform call).store := by
  rcases perform_settles world call with settles | ⟨_, _, _, _, _, admits⟩
  · exact settles.reaches
  · exact admits.reaches

/-- Every event leads to a store port operations lead to. -/
theorem step_reaches (world : AuthorityWorld) (event : AuthorityEvent) :
    Reaches world.store (world.step event).store :=
  perform_reaches (world.allow event.completes) event.call

/-- The store of a world is one the port operations lead to. -/
def Reached (activeMacKey : Bytes32) (world : AuthorityWorld) : Prop :=
  Reaches (FakePersist.default activeMacKey) world.store

omit [Rfc3339] in
/-- The daemon comes up over a reached store. -/
theorem Reached.initial (activeMacKey : Bytes32) (now : OffsetDateTime) :
    Reached activeMacKey (initial activeMacKey now) :=
  Reaches.refl _

omit [Rfc3339] in
/-- A reached store is that of a run of the port. -/
theorem Reached.exists_after {activeMacKey : Bytes32}
    (reached : Reached activeMacKey world) :
    ∃ operations, world.store = FakePersist.after activeMacKey operations :=
  reached

omit [Rfc3339] in
/-- A reached store has keyed tables. -/
theorem Reached.keyed {activeMacKey : Bytes32} (reached : Reached activeMacKey world) :
    TablesKeyed world.store := by
  obtain ⟨operations, same⟩ := reached.exists_after
  rw [same]
  exact tablesKeyed_after activeMacKey operations

/-- Every world of a run has a reached store. -/
theorem reached_run {activeMacKey : Bytes32} (reached : Reached activeMacKey world)
    (events : List AuthorityEvent) :
    Reached activeMacKey (Transition.run step world events) :=
  Transition.invariant_run (Reached activeMacKey)
    (fun world event reached => reached.trans (step_reaches world event)) reached events

/-- What events lead to is reached. -/
theorem reached_after (activeMacKey : Bytes32) (now : OffsetDateTime)
    (events : List AuthorityEvent) : Reached activeMacKey (after activeMacKey now events) :=
  reached_run (.initial activeMacKey now) events

/-! ## Runs -/

omit [Blake3] [Rfc3339] in
/-- The daemon comes up without any attempt. -/
theorem tracks_initial (activeMacKey : Bytes32) (now : OffsetDateTime) :
    Tracks (initial activeMacKey now) fun _ => .absent where
  rows attemptId := by
    simp [FakePersist.attemptRows, store, DaemonAuthority.store, initial,
      DaemonAuthority.new, FakePersist.default, Phase.rows]
  receipts _ present := by cases present
  receiptsDistinct := .nil
  prepared _ present := by cases present
  preparedDistinct := .nil
  authorized _ present := by cases present
  authorizedDistinct := .nil
  observing _ present := by cases present
  reconciling _ present := by cases present
  commands _ present := by cases present
  commandsDistinct := .nil

/-- Every run follows the lifecycle. -/
theorem run_follows {activeMacKey : Bytes32} (reached : Reached activeMacKey world)
    (tracks : Tracks world phases) (events : List AuthorityEvent) :
    Follows phases (Transition.run step world events) := by
  induction events generalizing world phases with
  | nil => exact tracks.follows
  | cons event rest inductionHypothesis =>
      obtain ⟨middle, tracked, leads⟩ := step_follows tracks reached.keyed event
      obtain ⟨last, tracking, leading⟩ :=
        inductionHypothesis (reached.trans (step_reaches world event)) tracked
      exact ⟨last, tracking, fun attemptId =>
        (leads attemptId).trans (leading attemptId)⟩

/-- Every world of a run is tracked. -/
theorem tracked_after (activeMacKey : Bytes32) (now : OffsetDateTime)
    (events : List AuthorityEvent) :
    ∃ phases, Tracks (after activeMacKey now events) phases := by
  obtain ⟨phases, tracks, _⟩ :=
    run_follows (.initial activeMacKey now) (tracks_initial activeMacKey now) events
  exact ⟨phases, tracks⟩

end Steps

end AuthorityWorld
end Gearwit
