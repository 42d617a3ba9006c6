import Gearwit.Authority.Moves
import Gearwit.Persist.Answered

/-!
# Scopes at hand rest on evidence

In every run, with recoveries of a running daemon among its moves, only answered attempts
have facts and every observation or reconciliation scope at hand belongs to one.  The
invariant trusts no other product at hand: a write that recovery has already classified
cannot be concluded with a fact any more.
-/

namespace Gearwit

open FakePersist

section Calls

variable [Blake3]

/-- A store that answers every attempt another one answers, and gives facts to no
other. -/
structure FakePersist.Answering (store next : FakePersist) : Prop where
  backed : next.Backed
  answered : ∀ attemptId, store.Answered attemptId → next.Answered attemptId

namespace FakePersist

variable {store next : FakePersist}

omit [Blake3] in
/-- The same rows answer the same attempts. -/
theorem Backed.answering_of_rows (backed : store.Backed)
    (rows : ∀ attemptId, next.attemptRows attemptId = store.attemptRows attemptId) :
    Answering store next := by
  have kept : ∀ attemptId, store.Answered attemptId → next.Answered attemptId :=
    fun attemptId answered => answered.congr
      (congrArg AttemptRows.evidence (rows attemptId))
      (congrArg AttemptRows.facts (rows attemptId))
  refine ⟨fun attemptId present => kept attemptId (backed attemptId ?_), kept⟩
  have facts : next.turnFacts[attemptId]? = store.turnFacts[attemptId]? :=
    congrArg AttemptRows.facts (rows attemptId)
  rwa [facts] at present

omit [Blake3] in
/-- A store with backed answers answers for itself. -/
theorem Answering.refl (backed : store.Backed) : Answering store store :=
  ⟨backed, fun _ answered => answered⟩

omit [Blake3] in
/-- Answering composes along steps. -/
theorem Answering.trans {middle : FakePersist} (early : Answering store middle)
    (late : Answering middle next) : Answering store next :=
  ⟨late.backed, fun attemptId answered =>
    late.answered attemptId (early.answered attemptId answered)⟩

/-- An accepted operation answers, when the fact it records is one of an attempt that is
answered then. -/
theorem Backed.answering_performed {α : Type} {value : α} (backed : store.Backed)
    (operation : PortOp) (perform : FakePersist → Except PersistError (α × FakePersist))
    (performs : store.step operation = (commit (perform store) store).2)
    (done : perform store = .ok (value, next))
    (recorded : ∀ commit, operation = .recordNativeTurnFact commit →
      next.Answered commit.correlation.attemptId) : Answering store next := by
  have reached : store.step operation = next := by
    rw [performs, done]
    rfl
  have effect := step_effect store operation
  rw [reached] at effect
  exact ⟨effect.backed backed recorded, fun _ answered => effect.answered answered⟩

/-- A fact of an answered attempt answers. -/
theorem Backed.answering_fact (backed : store.Backed) {commit : NativeTurnFactCommit}
    {outcome : IdempotentWrite}
    (recorded : recordNativeTurnFact commit store = .ok (outcome, next))
    (answered : next.Answered commit.correlation.attemptId) : Answering store next :=
  backed.answering_performed (.recordNativeTurnFact commit) _ rfl recorded
    fun _ same => by cases same; exact answered

omit [Blake3] in
/-- A recorded fact keeps answered attempts. -/
theorem Answered.fact {commit : NativeTurnFactCommit} {outcome : IdempotentWrite}
    {attemptId : AttemptId} (answered : store.Answered attemptId)
    (recorded : recordNativeTurnFact commit store = .ok (outcome, next)) :
    next.Answered attemptId := by
  obtain ⟨_, _, _, ⟨_, same, _⟩ | ⟨_, _, same⟩⟩ := recordNativeTurnFact_cases recorded
  · exact same ▸ answered
  · exact same ▸ answered.withTurnFact _ _

omit [Blake3] in
/-- The fact of an exact response answers its attempt. -/
theorem Backed.answered_fact (backed : store.Backed) {commit : NativeTurnFactCommit}
    {outcome : IdempotentWrite} {evidence : NativeWriteEvidence}
    (stored : store.writeEvidence[commit.correlation.attemptId]? = some evidence)
    (carried : ∀ response, evidence = .exactResponse response → response = commit.fact)
    (recorded : recordNativeTurnFact commit store = .ok (outcome, next)) :
    next.Answered commit.correlation.attemptId := by
  obtain ⟨_, _, _, ⟨_, same, known⟩ | ⟨_, _, same⟩⟩ := recordNativeTurnFact_cases recorded
  · rw [same]
    refine backed _ fun factless => ?_
    rw [factsOf, factless] at known
    cases known
  · exact same ▸ answered_withTurnFact stored carried

omit [Blake3] in
/-- Recorded evidence is in the store. -/
theorem recordNativeWriteEvidence_evidence {commit : NativeWriteEvidenceCommit}
    {outcome : IdempotentWrite}
    (recorded : recordNativeWriteEvidence commit store = .ok (outcome, next)) :
    next.writeEvidence[commit.correlation.attemptId]? = some commit.evidence := by
  obtain ⟨_, _, _, ⟨_, same, known, _⟩ | ⟨_, _, same⟩⟩ :=
    recordNativeWriteEvidence_cases recorded
  · exact same ▸ known
  · rw [same]
    exact BTreeMap.getElem?_insert_same _ _ _

end FakePersist

namespace DaemonAuthority

variable {authority next : DaemonAuthority (Interrupted FakePersist)}

omit [Blake3] in
/-- Evidence of an exact response is that of the fact the disposition carries. -/
theorem response_of_immediateFact {correlation : PersistedTurnCorrelation}
    {disposition : NativeWriteDisposition} {evidence : NativeWriteEvidence}
    {fact : NativeTurnFact}
    (classified : writeEvidenceOf correlation disposition = some evidence)
    (carried : immediateFact disposition = some fact) :
    ∀ response, evidence = .exactResponse response → response = fact := by
  rintro response rfl
  cases disposition <;>
    simp only [writeEvidenceOf, immediateFact, Option.some.injEq, reduceCtorEq,
      NativeWriteEvidence.exactResponse.injEq] at classified carried
  exact classified.symm.trans carried

/-- An admission answers. -/
theorem admitClaim_answering [Rfc3339] {request : ClaimRequest}
    {verifierDraw : Option VerifierRef} {payloadDraw : Option ClaimPayloadRef}
    {reply : Except AuthorityError AdmissionResult} (backed : authority.store.Backed)
    (done : authority.admitClaim request verifierDraw payloadDraw = (reply, next)) :
    Answering authority.store next.store := by
  rcases admitClaim_store done with ⟨quiet, _⟩ | ⟨_, _, _, admits⟩
  · exact backed.answering_of_rows quiet.rows
  · rw [admits.stored]
    exact ⟨backed, fun _ answered => answered⟩

/-- A dispatch answers. -/
theorem prepareHandleClaimedSignal_answering {receipt : AdmissionReceipt}
    {writeDraw probeDraw : Option RequestNonce}
    {reply : Except AuthorityError (PreparedDispatch × IdleProbeScope)}
    (backed : authority.store.Backed)
    (done : authority.prepareHandleClaimedSignal receipt writeDraw probeDraw =
      (reply, next)) :
    Answering authority.store next.store := by
  rcases prepareHandleClaimedSignal_store done with ⟨quiet, _⟩ | ⟨_, _, _, _, recorded, _⟩
  · exact backed.answering_of_rows quiet.rows
  · exact backed.answering_performed (.recordDispatchPrepared _) _ rfl recorded
      fun _ equal => by cases equal

/-- A probe answers. -/
theorem authorizeProbe_answering {prepared : PreparedDispatch}
    {result : Except ControllerProbeError IdleProbeResult}
    {reply : Except AuthorityError ProbeAuthorization} (backed : authority.store.Backed)
    (done : authority.authorizeProbe prepared result = (reply, next)) :
    Answering authority.store next.store := by
  rcases authorizeProbe_store done with
    ⟨quiet, _⟩ | ⟨_, ⟨_, _, _, recorded, _⟩ | ⟨_, _, recorded, _⟩ |
      ⟨_, _, _, _, _, recorded, _⟩⟩
  · exact backed.answering_of_rows quiet.rows
  · exact backed.answering_performed (.recordActiveHold _) _ rfl recorded
      fun _ equal => by cases equal
  · exact backed.answering_performed (.recordPrewriteConclusion _) _ rfl recorded
      fun _ equal => by cases equal
  · exact backed.answering_performed (.reserveNativeTurnWrite _ _) _ rfl recorded
      fun _ equal => by cases equal

/-- A conclusion answers, and its scopes belong to an answered attempt. -/
theorem concludeNativeWrite_answering {prepared : PreparedDispatch}
    {disposition : Except ControllerWriteError NativeWriteDisposition}
    {evidenceDraw factDraw : Option VerifierRef}
    {reply : Except AuthorityError NativeWriteConclusion}
    (backed : authority.store.Backed)
    (done : authority.concludeNativeWrite prepared disposition evidenceDraw factDraw =
      (reply, next)) :
    Answering authority.store next.store ∧ ∀ conclusion, reply = .ok conclusion →
      (∀ scope ∈ conclusion.observationScope.toList,
        next.store.Answered scope.correlation.attemptId) ∧
      ∀ scope ∈ conclusion.reconciliationScope.toList,
        next.store.Answered scope.correlation.attemptId := by
  rcases concludeNativeWrite_store done with
    ⟨quiet, _, refused⟩ | ⟨_, _, _, _, _, recorded, _, rfl⟩ |
      ⟨answered, evidence, evidenceRef, _, middle, _, classified, recorded, _, noted⟩
  · refine ⟨backed.answering_of_rows quiet.rows, fun _ impossible => ?_⟩
    rw [refused] at impossible
    cases impossible
  · refine ⟨backed.answering_performed (.recordPrewriteConclusion _) _ rfl recorded ?_,
      fun conclusion concluded => ?_⟩
    · intro _ impossible
      cases impossible
    · cases concluded
      simp
  · have evident := recordNativeWriteEvidence_evidence recorded
    have concluded := backed.answering_performed (.recordNativeWriteEvidence _) _ rfl
      recorded fun _ impossible => by cases impossible
    rcases noted with ⟨same, ⟨_, rfl⟩ | ⟨factless, rfl⟩⟩ |
      ⟨fact, _, _, carried, factRecorded, _, rfl⟩
    · exact ⟨same ▸ concluded, fun _ impossible => by cases impossible⟩
    · -- without a fact only an unknown outcome leaves a scope
      refine ⟨same ▸ concluded, fun conclusion replied => ?_⟩
      cases replied
      simp only [conclusionOf, factless, Option.map_none, Option.toList_none,
        List.not_mem_nil, false_implies, implies_true, true_and, Option.mem_toList,
        Option.ite_none_right_eq_some, Option.some.injEq]
      rintro scope ⟨rfl, rfl⟩
      cases classified
      exact .of_unknown (same ▸ evident)
    · have here := concluded.backed.answered_fact
        ((congrArg (middle.writeEvidence[·]?) (AuthorityWorld.nameTurnOf_attemptId _ _)).trans evident)
        (response_of_immediateFact classified carried) factRecorded
      refine ⟨concluded.trans (concluded.backed.answering_fact factRecorded here),
        fun conclusion replied => ?_⟩
      cases replied
      obtain ⟨observed, reconciled⟩ := AuthorityWorld.conclusionOf_scopes answered
        (nameTurnOf prepared.correlation (some fact)) evidenceRef
      exact ⟨fun scope listed => observed scope listed ▸ here,
        fun scope listed => reconciled scope listed ▸ here⟩

/-- An observation of an answered attempt answers. -/
theorem recordExactObservation_answering {scope : ObservationScope}
    {fact : NativeTurnFact} {evidenceDraw : Option VerifierRef}
    {reply : Except AuthorityError ExactObservationRecord}
    (backed : authority.store.Backed)
    (answered : authority.store.Answered scope.correlation.attemptId)
    (done : authority.recordExactObservation scope fact evidenceDraw = (reply, next)) :
    Answering authority.store next.store ∧ ∀ record, reply = .ok record →
      ∀ handed ∈ record.reconciliation.toList,
        handed.correlation.attemptId = scope.correlation.attemptId := by
  rcases recordExactObservation_store done with
    ⟨quiet, _, refused⟩ | ⟨_, _, recorded, _, replied⟩
  · refine ⟨backed.answering_of_rows quiet.rows, fun _ impossible => ?_⟩
    rw [refused] at impossible
    cases impossible
  · refine ⟨backed.answering_fact recorded (answered.fact recorded), ?_⟩
    rintro record accepted handed listed
    rw [replied] at accepted
    cases accepted
    simp only [Option.mem_toList, Option.ite_none_right_eq_some, Option.some.injEq]
      at listed
    exact listed.2 ▸ rfl

/-- A reconciliation of an answered attempt answers. -/
theorem recordReconciliation_answering {scope : ReconciliationScope}
    {disposition : Except ControllerReconcileError ReconciliationDisposition}
    {factDraw : Option VerifierRef}
    {reply : Except AuthorityError (IdempotentWrite × ReconciliationPhase)}
    (backed : authority.store.Backed)
    (answered : authority.store.Answered scope.correlation.attemptId)
    (done : authority.recordReconciliation scope disposition factDraw = (reply, next)) :
    Answering authority.store next.store ∧ ∀ outcome phase, reply = .ok (outcome, phase) →
      ∀ handed ∈ AuthorityWorld.phaseScopes phase,
        handed.correlation.attemptId = scope.correlation.attemptId := by
  have phased : ∀ disposition, ∀ handed ∈ AuthorityWorld.phaseScopes
      (phaseOf scope disposition),
      handed.correlation.attemptId = scope.correlation.attemptId := by
    intro disposition handed listed
    cases disposition <;>
      simp only [phaseOf, AuthorityWorld.phaseScopes, List.not_mem_nil,
        List.mem_singleton] at listed
    exact listed ▸ rfl
  rcases recordReconciliation_store done with
    ⟨quiet, _, refused⟩ | ⟨disposed, _, middle, _, reconciled, _, noted⟩
  · refine ⟨backed.answering_of_rows quiet.rows, fun _ _ impossible => ?_⟩
    rw [refused] at impossible
    cases impossible
  have disposes := backed.answering_performed (.recordReconciliationFact scope disposed) _
    rfl reconciled fun _ impossible => by cases impossible
  rcases noted with ⟨same, ⟨_, rfl⟩ | ⟨_, rfl⟩⟩ | ⟨fact, _, _, _, recorded, _, rfl⟩
  · exact ⟨same ▸ disposes, fun _ _ impossible => by cases impossible⟩
  · refine ⟨same ▸ disposes, fun outcome phase replied => ?_⟩
    cases replied
    exact phased disposed
  · have here : middle.Answered
        (nameTurnOf scope.correlation (some fact)).attemptId := by
      rw [AuthorityWorld.nameTurnOf_attemptId]
      exact disposes.answered _ answered
    refine ⟨disposes.trans (disposes.backed.answering_fact recorded
      (here.fact recorded)), fun outcome phase replied => ?_⟩
    cases replied
    exact phased disposed

/-- A recovery answers, and its scopes belong to answered attempts. -/
theorem recover_answering {draws : List VerifierRef}
    {reply : Except AuthorityError AuthorityRecovery} (backed : authority.store.Backed)
    (keyed : TablesKeyed authority.store)
    (done : authority.recover draws = (reply, next)) :
    Answering authority.store next.store ∧ ∀ recovery, reply = .ok recovery →
      (∀ scope ∈ recovery.observationScopes,
        next.store.Answered scope.correlation.attemptId) ∧
      ∀ scope ∈ recovery.reconciliationScopes,
        next.store.Answered scope.correlation.attemptId := by
  have classified : Answering authority.store (authority.store.classified draws).2 :=
    ⟨backed.classified draws, fun _ answered => answered.classified draws⟩
  rcases recover_store done with
    ⟨same, _, refused⟩ | ⟨stored, _, ⟨_, refused⟩ | ⟨_, replied, recovered, scopes⟩⟩
  · refine ⟨same.symm ▸ .refl backed, fun _ impossible => ?_⟩
    rw [refused] at impossible
    cases impossible
  · refine ⟨stored ▸ classified, fun _ impossible => ?_⟩
    rw [refused] at impossible
    cases impossible
  · refine ⟨stored ▸ classified, fun recovery answered => ?_⟩
    rw [replied] at answered
    cases answered
    have answeredScope : ∀ {attemptId : AttemptId},
        (∃ evidence, (authority.store.classified draws).2.writeEvidence[attemptId]? =
          some evidence) → next.store.Answered attemptId := by
      rintro attemptId ⟨evidence, present⟩
      exact stored ▸ backed.answered_classified present
    obtain ⟨observed, reconciled⟩ :=
      AuthorityWorld.recovered_evidence keyed recovered scopes
    exact ⟨fun scope listed => answeredScope (observed scope listed),
      fun scope listed => answeredScope (reconciled scope listed)⟩

end DaemonAuthority
end Calls

/-! ## Worlds -/

namespace AuthorityWorld

/-- Only answered attempts have facts, and scopes at hand belong to answered attempts. -/
structure Answers (world : AuthorityWorld) : Prop where
  backed : world.store.Backed
  observing : ∀ scope ∈ world.observationScopes,
    world.store.Answered scope.correlation.attemptId
  reconciling : ∀ scope ∈ world.reconciliationScopes,
    world.store.Answered scope.correlation.attemptId

namespace Answers

variable {world : AuthorityWorld}

/-- The invariant speaks of the store and of the scopes at hand. -/
theorem of_parts (answers : world.Answers) {next : AuthorityWorld}
    (store : next.store = world.store)
    (observing : next.observationScopes = world.observationScopes)
    (reconciling : next.reconciliationScopes = world.reconciliationScopes) :
    next.Answers := by
  refine ⟨?_, ?_, ?_⟩
  · rw [store]
    exact answers.backed
  · rw [store, observing]
    exact answers.observing
  · rw [store, reconciling]
    exact answers.reconciling

/-- An answering store keeps the scopes at hand. -/
theorem withAuthority (answers : world.Answers)
    {authority : DaemonAuthority (Interrupted FakePersist)}
    (answering : Answering world.store authority.store) :
    (world.withAuthority authority).Answers where
  backed := answering.backed
  observing scope listed := answering.answered _ (answers.observing scope listed)
  reconciling scope listed := answering.answered _ (answers.reconciling scope listed)

/-- Handed-out scopes belong to answered attempts. -/
theorem giveScopes (answers : world.Answers) {observing : List ObservationScope}
    {reconciling : List ReconciliationScope}
    (observed : ∀ scope ∈ observing, world.store.Answered scope.correlation.attemptId)
    (reconciled : ∀ scope ∈ reconciling,
      world.store.Answered scope.correlation.attemptId) :
    Answers { world with
      observationScopes := observing ++ world.observationScopes
      reconciliationScopes := reconciling ++ world.reconciliationScopes } where
  backed := answers.backed
  observing scope listed := by
    rcases List.mem_append.1 listed with new | kept
    · exact observed scope new
    · exact answers.observing scope kept
  reconciling scope listed := by
    rcases List.mem_append.1 listed with new | kept
    · exact reconciled scope new
    · exact answers.reconciling scope kept

/-- A daemon comes up without facts and without scopes. -/
theorem initial (activeMacKey : Bytes32) (now : OffsetDateTime) :
    (AuthorityWorld.initial activeMacKey now).Answers where
  backed := backed_default activeMacKey
  observing _ listed := by cases listed
  reconciling _ listed := by cases listed

variable [Blake3]

/-- Another authority with the same rows keeps the invariant. -/
theorem quiet (answers : world.Answers)
    {authority : DaemonAuthority (Interrupted FakePersist)}
    (quiet : Quiet world.store authority.store) :
    (world.withAuthority authority).Answers :=
  answers.withAuthority (answers.backed.answering_of_rows quiet.rows)

/-- A conclusion keeps the invariant. -/
theorem conclude (answers : world.Answers) (prepared : PreparedDispatch)
    (disposition : Except ControllerWriteError NativeWriteDisposition)
    (evidenceDraw factDraw : Option VerifierRef) :
    (world.conclude prepared disposition evidenceDraw factDraw).Answers := by
  unfold AuthorityWorld.conclude
  split
  · next done =>
    exact answers.withAuthority
      (DaemonAuthority.concludeNativeWrite_answering answers.backed done).1
  · next done =>
    obtain ⟨answering, handed⟩ :=
      DaemonAuthority.concludeNativeWrite_answering answers.backed done
    obtain ⟨observed, reconciled⟩ := handed _ rfl
    exact (answers.withAuthority answering).giveScopes observed reconciled

/-- A recovery of the running daemon keeps the invariant. -/
theorem recoverAgain (answers : world.Answers) (keyed : TablesKeyed world.store)
    (draws : List VerifierRef) : (world.recoverAgain draws).Answers := by
  unfold AuthorityWorld.recoverAgain
  split
  · next done =>
    exact answers.withAuthority
      (DaemonAuthority.recover_answering answers.backed keyed done).1
  · next done =>
    obtain ⟨answering, handed⟩ :=
      DaemonAuthority.recover_answering answers.backed keyed done
    obtain ⟨observed, reconciled⟩ := handed _ rfl
    exact (answers.withAuthority answering).giveScopes observed reconciled

/-- A restart keeps the invariant. -/
theorem restart (answers : world.Answers) (keyed : TablesKeyed world.store)
    (now : OffsetDateTime) (draws : List VerifierRef) :
    (world.restart now draws).Answers := by
  have backed : (DaemonAuthority.new world.authority.persist now).store.Backed :=
    answers.backed
  unfold AuthorityWorld.restart
  simp only
  split
  · next done =>
    have answering := (DaemonAuthority.recover_answering backed keyed done).1
    exact ⟨answering.backed, List.forall_mem_nil _, List.forall_mem_nil _⟩
  · next done =>
    obtain ⟨answering, handed⟩ := DaemonAuthority.recover_answering backed keyed done
    obtain ⟨observed, reconciled⟩ := handed _ rfl
    exact ⟨answering.backed, observed, reconciled⟩

variable [Rfc3339]

/-- Every operation keeps the invariant. -/
theorem perform (answers : world.Answers) (keyed : TablesKeyed world.store)
    (call : AuthorityCall) : (world.perform call).Answers := by
  cases call with
  | setNow now => exact answers.of_parts rfl rfl rfl
  | registerManagedArm arm =>
      exact answers.quiet (DaemonAuthority.registerManagedArm_quiet rfl)
  | reserveControllerBirth armText birthDraw createDraw verifierDraw =>
      simp only [AuthorityWorld.perform]
      split <;> next done =>
        exact (answers.quiet (DaemonAuthority.reserveControllerBirth_quiet done)).of_parts
          rfl rfl rfl
  | resolveThreadCreate reservation resolution evidenceDraw =>
      simp only [AuthorityWorld.perform]
      split
      · split <;> next done =>
          exact (answers.quiet (DaemonAuthority.resolveThreadCreate_quiet done)).of_parts
            rfl rfl rfl
      · exact answers
  | resolveQuarantinedThreadCreate reservation resolution evidenceDraw =>
      simp only [AuthorityWorld.perform]
      split
      · exact (answers.quiet
          (DaemonAuthority.resolveQuarantinedThreadCreate_quiet rfl)).of_parts rfl rfl rfl
      · exact answers
  | admitClaim request verifierDraw payloadDraw =>
      simp only [AuthorityWorld.perform]
      split <;> next done =>
        exact (answers.withAuthority
          (DaemonAuthority.admitClaim_answering answers.backed done)).of_parts rfl rfl rfl
  | prepareHandleClaimedSignal receipt writeDraw probeDraw =>
      simp only [AuthorityWorld.perform]
      split
      · split <;> next done =>
          exact (answers.withAuthority (DaemonAuthority.prepareHandleClaimedSignal_answering
            answers.backed done)).of_parts rfl rfl rfl
      · exact answers
  | authorizeProbe prepared result =>
      simp only [AuthorityWorld.perform]
      split
      · split <;> next done =>
          exact (answers.withAuthority
            (DaemonAuthority.authorizeProbe_answering answers.backed done)).of_parts rfl rfl rfl
      · exact answers
  | concludePrepared prepared disposition evidenceDraw factDraw =>
      simp only [AuthorityWorld.perform]
      split
      · have taken : Answers { world with
            prepared := world.prepared.erase prepared } := answers.of_parts rfl rfl rfl
        exact taken.conclude _ _ _ _
      · exact answers
  | concludeAuthorized authorized disposition evidenceDraw factDraw =>
      simp only [AuthorityWorld.perform]
      split
      · have taken : Answers { world with
            authorized := world.authorized.erase authorized } := answers.of_parts rfl rfl rfl
        exact taken.conclude _ _ _ _
      · exact answers
  | recordExactObservation scope fact evidenceDraw =>
      simp only [AuthorityWorld.perform]
      split
      · next present =>
        have answered := answers.observing scope present
        split
        · next done =>
          exact answers.withAuthority (DaemonAuthority.recordExactObservation_answering
            answers.backed answered done).1
        · next done =>
          obtain ⟨answering, handed⟩ := DaemonAuthority.recordExactObservation_answering
            answers.backed answered done
          refine (answers.withAuthority answering).giveScopes
            (List.forall_mem_nil _) fun given listed => ?_
          rw [handed _ rfl given listed]
          exact answering.answered _ answered
      · exact answers
  | recordReconciliation scope disposition factDraw =>
      simp only [AuthorityWorld.perform]
      split
      · next present =>
        have answered := answers.reconciling scope present
        split
        · next done =>
          exact answers.withAuthority (DaemonAuthority.recordReconciliation_answering
            answers.backed answered done).1
        · next done =>
          obtain ⟨answering, handed⟩ := DaemonAuthority.recordReconciliation_answering
            answers.backed answered done
          refine (answers.withAuthority answering).giveScopes (fun given listed => ?_)
            (List.forall_mem_nil _)
          rw [handed _ _ rfl given listed]
          exact answering.answered _ answered
      · exact answers
  | revokeAttachment attemptText =>
      exact answers.quiet (DaemonAuthority.revokeAttachment_quiet rfl)
  | sealNativeCoordinate scope coordinate draws =>
      exact answers.quiet (DaemonAuthority.sealNativeCoordinate_quiet rfl)
  | restart now draws => exact answers.restart keyed now draws

end Answers

end AuthorityWorld

/-! ## Runs -/

namespace DaemonRun

variable [Blake3] [Rfc3339]

/-- Every move of a daemon over keyed tables keeps the invariant. -/
theorem step_answers {run : DaemonRun} (answers : run.world.Answers)
    (keyed : TablesKeyed run.world.store) (move : DaemonMove) :
    (run.step move).world.Answers := by
  have allowed : ∀ completes, (run.world.allow completes).Answers :=
    fun completes => answers.of_parts rfl rfl rfl
  cases move with
  | event event => exact (allowed event.completes).perform keyed event.call
  | recover draws => exact (allowed none).recoverAgain keyed draws

/-- The stores of a run have keyed tables. -/
theorem keyed_after (activeMacKey : Bytes32) (now : OffsetDateTime)
    (moves : List DaemonMove) : TablesKeyed (after activeMacKey now moves).world.store := by
  have reached : AuthorityWorld.Reached activeMacKey (after activeMacKey now moves).world :=
    (initial activeMacKey now).run_reaches moves
  exact reached.keyed

/-- In every run only answered attempts have facts, and scopes at hand belong to answered
attempts. -/
theorem answers_after (activeMacKey : Bytes32) (now : OffsetDateTime)
    (moves : List DaemonMove) : (after activeMacKey now moves).world.Answers := by
  refine Transition.history_run _ (fun _ (run : DaemonRun) => run.world.Answers)
    (AuthorityWorld.Answers.initial activeMacKey now) (fun performed move answers => ?_)
    moves
  exact step_answers answers (keyed_after activeMacKey now performed) move

end DaemonRun
end Gearwit
