import Gearwit.Authority.Tracking
import Gearwit.Persist.Growth

/-!
# Every event follows the lifecycle

One lemma for each kind of event: from a tracked world it leads to a tracked world
whose phases the old phases lead to.  The run theorem folds them.
-/

namespace Gearwit

open FakePersist

namespace AuthorityWorld

/-- The next world is tracked by phases the given ones lead to. -/
def Follows (phases : AttemptId → Phase) (next : AuthorityWorld) : Prop :=
  ∃ later, Tracks next later ∧
    ∀ attemptId, Phase.Leads (phases attemptId) (later attemptId)

/-- Unchanged phases are followed. -/
theorem Tracks.follows {world : AuthorityWorld} {phases : AttemptId → Phase}
    (tracks : Tracks world phases) : Follows phases world :=
  ⟨phases, tracks, fun _ => .refl⟩

/-- One phase moved along. -/
theorem Tracks.follows_update {world : AuthorityWorld} {phases : AttemptId → Phase}
    {attemptId : AttemptId} {phase : Phase}
    (leads : Phase.Leads (phases attemptId) phase)
    (tracks : Tracks world (Function.update phases attemptId phase)) :
    Follows phases world := by
  refine ⟨_, tracks, fun other => ?_⟩
  by_cases same : other = attemptId
  · subst same
    rw [Function.update_self]
    exact leads
  · rw [Function.update_of_ne same]

section Steps

variable [Blake3] {world : AuthorityWorld} {phases : AttemptId → Phase}

/-! ## Admission and dispatch -/

/-- Admitting a claim follows the phases it leads to. -/
theorem admitClaim_follows [Rfc3339] (tracks : Tracks world phases)
    (request : ClaimRequest) (verifierDraw : Option VerifierRef)
    (payloadDraw : Option ClaimPayloadRef) :
    Follows phases (world.perform (.admitClaim request verifierDraw payloadDraw)) := by
  simp only [perform]
  split
  · next refusal authority done =>
    rcases DaemonAuthority.admitClaim_store done with
      ⟨quiet, _⟩ | ⟨_, _, _, admits⟩
    · exact (tracks.withAuthority_quiet quiet.rows).follows
    · cases admits.answer
  · next result authority done =>
    rcases DaemonAuthority.admitClaim_store done with
      ⟨quiet, _, unanswered⟩ | ⟨admission, attachment, payloadRef, admits⟩
    · rw [unanswered result rfl]
      exact (tracks.withAuthority_quiet quiet.rows).follows
    · have answer := admits.answer
      simp only [Except.ok.injEq] at answer
      have absent : phases attachment.attemptId = .absent := by
        apply Phase.eq_absent_of_rows
        rw [← tracks.rows]
        exact (BTreeMap.contains_eq_false_iff _ _).2 admits.unattached
      have free : Free world attachment.attemptId :=
        tracks.free_of_phase (by simp [absent]) (by simp [absent]) (by simp [absent])
      have change : RowsChange world.store authority.store attachment.attemptId
          Phase.admitted.rows := by
        have fresh := withClaim_rows world.store admission attachment payloadRef
        rw [tracks.rows, absent] at fresh
        rw [admits.stored]
        exact fresh
      have leads : Phase.Leads (phases attachment.attemptId) .admitted :=
        absent ▸ .single .claim
      have advanced := tracks.withAuthority_change free leads change
      rw [answer]
      exact (advanced.giveReceipt ⟨attachment.attemptId⟩
        ⟨free.receipts, free.prepared, free.authorized⟩
        (Function.update_self _ _ _)).follows_update leads

/-- Preparing a dispatch follows the phases it leads to. -/
theorem prepareHandleClaimedSignal_follows [Rfc3339] (tracks : Tracks world phases)
    (receipt : AdmissionReceipt) (writeDraw probeDraw : Option RequestNonce) :
    Follows phases
      (world.perform (.prepareHandleClaimedSignal receipt writeDraw probeDraw)) := by
  simp only [perform]
  split
  · next present =>
    have admitted := tracks.receipts receipt present
    obtain ⟨taken, free⟩ := tracks.takeReceipt present
    split
    · next refusal authority done =>
      rcases DaemonAuthority.prepareHandleClaimedSignal_store done with
        ⟨quiet, _⟩ | ⟨correlation, outcome, named, _, recorded, _, _⟩
      · exact (taken.withAuthority_quiet quiet.rows).follows
      · have leads : Phase.Leads (phases receipt.attemptId)
            (.dispatched correlation) := admitted ▸ .single (.dispatch correlation)
        have change := dispatch_rows (by rw [named, tracks.rows, admitted]) recorded
        rw [named] at change
        exact (taken.withAuthority_change free leads change).follows_update leads
    · next prepared scope authority done =>
      rcases DaemonAuthority.prepareHandleClaimedSignal_store done with
        ⟨_, _, impossible⟩ | ⟨correlation, outcome, named, unnamed, recorded, _, answer⟩
      · cases impossible
      · rcases answer with ⟨_, impossible⟩ | ⟨_, _, answer, same, _⟩
        · cases impossible
        cases answer
        have leads : Phase.Leads (phases receipt.attemptId)
            (.dispatched correlation) := admitted ▸ .single (.dispatch correlation)
        have change := dispatch_rows (by rw [named, tracks.rows, admitted]) recorded
        rw [named] at change
        have advanced := taken.withAuthority_change free leads change
        have attempt : prepared.correlation.attemptId = receipt.attemptId :=
          same ▸ named
        refine (advanced.givePrepared prepared ?_ ?_
          (same ▸ unnamed)).follows_update leads
        · rw [attempt]
          exact ⟨free.receipts, free.prepared, free.authorized⟩
        · rw [attempt, Function.update_self, same]
  · exact tracks.follows

/-! ## Probes and conclusions -/

/-- Authorizing a probe follows the phases it leads to. -/
theorem authorizeProbe_follows [Rfc3339] (tracks : Tracks world phases)
    (prepared : PreparedDispatch)
    (result : Except ControllerProbeError IdleProbeResult) :
    Follows phases (world.perform (.authorizeProbe prepared result)) := by
  simp only [perform]
  split
  · next present =>
    obtain ⟨dispatched, unnamed⟩ := tracks.prepared prepared present
    obtain ⟨taken, free⟩ := tracks.takePrepared present
    have rows := tracks.rows prepared.correlation.attemptId
    rw [dispatched] at rows
    split
    · next authorized authority done =>
      rcases DaemonAuthority.authorizeProbe_store done with
        ⟨_, _, impossible⟩ | ⟨_, ⟨_, _, _, _, impossible⟩ | ⟨_, _, _, impossible⟩ |
          ⟨probeId, epoch, observedAt, lane, reservation, reserved, answer⟩⟩
      · cases impossible
      · cases impossible
      · cases impossible
      · cases answer
        obtain ⟨rfl, change⟩ := reserve_rows rows reserved
        have leads : Phase.Leads (phases prepared.correlation.attemptId)
            (.reserved ⟨prepared.correlation, probeId, epoch⟩) := by
          rw [dispatched]
          exact .single (.reserve ⟨prepared.correlation, probeId, epoch⟩)
        have advanced := taken.withAuthority_change free leads change
        refine (advanced.giveAuthorized ⟨prepared, lane, .fromReservation
          prepared.attachment.controller ⟨prepared.correlation.signalId⟩
          ⟨prepared.correlation, probeId, epoch⟩⟩
          ⟨free.receipts, free.prepared, free.authorized⟩
          (Function.update_self _ _ _) unnamed rfl ?_).follows_update leads
        intro command produced same
        have crossed := tracks.commands command produced
        rw [same, dispatched] at crossed
        exact crossed
    · next authority notReady done =>
      rcases DaemonAuthority.authorizeProbe_store done with
        ⟨quiet, _⟩ | ⟨_, ⟨proof, _, named, held, _⟩ | ⟨observedAt, _, concluded, _⟩ |
          ⟨_, _, _, _, _, _, answer⟩⟩
      · exact (taken.withAuthority_quiet quiet.rows).follows
      · obtain ⟨conclusion, change⟩ := hold_rows (named ▸ rows) held
        rw [named] at change
        have leads : Phase.Leads (phases prepared.correlation.attemptId)
            (.held prepared.correlation conclusion) :=
          dispatched ▸ .single (.hold _ _)
        exact (taken.withAuthority_change free leads change).follows_update leads
      · have change := conclude_dispatched_rows rows concluded
        have leads : Phase.Leads (phases prepared.correlation.attemptId)
            (.held prepared.correlation .idleStateUnproven) :=
          dispatched ▸ .single (.hold _ _)
        exact (taken.withAuthority_change free leads change).follows_update leads
      · exact absurd answer (notReady _)
  · exact tracks.follows

omit [Blake3] in
/-- Conclusion scopes carry the concluded correlation. -/
theorem conclusionOf_scopes (disposition : NativeWriteDisposition)
    (correlation : PersistedTurnCorrelation) (evidenceRef : VerifierRef) :
    (∀ scope ∈ (DaemonAuthority.conclusionOf disposition correlation
        evidenceRef).observationScope.toList, scope.correlation = correlation) ∧
      ∀ scope ∈ (DaemonAuthority.conclusionOf disposition correlation
        evidenceRef).reconciliationScope.toList, scope.correlation = correlation := by
  constructor
  · intro scope present
    simp only [DaemonAuthority.conclusionOf, Option.mem_toList,
      Option.map_eq_some_iff] at present
    obtain ⟨_, _, rfl⟩ := present
    rfl
  · intro scope present
    simp only [DaemonAuthority.conclusionOf, Option.mem_toList,
      Option.ite_none_right_eq_some, Option.some.injEq] at present
    exact present.2 ▸ rfl

omit [Blake3] in
/-- Naming a turn keeps the attempt. -/
@[simp] theorem nameTurnOf_attemptId (correlation : PersistedTurnCorrelation)
    (fact : Option NativeTurnFact) :
    (DaemonAuthority.nameTurnOf correlation fact).attemptId =
      correlation.attemptId := by
  unfold DaemonAuthority.nameTurnOf
  split <;> rfl

/-- A free attempt whose write can be concluded. -/
structure Waiting (world : AuthorityWorld) (phases : AttemptId → Phase)
    (correlation : PersistedTurnCorrelation) : Prop where
  free : Free world correlation.attemptId
  phase : phases correlation.attemptId = .dispatched correlation ∨
    ∃ probeId epoch,
      phases correlation.attemptId = .reserved ⟨correlation, probeId, epoch⟩

/-- The store took an attempt to a concluded phase. -/
def Concludes (world : AuthorityWorld) (phases : AttemptId → Phase)
    (attemptId : AttemptId) (next : FakePersist) : Prop :=
  ∃ reservation known,
    Phase.Leads (phases attemptId) (.concluded reservation known) ∧
      RowsChange world.store next attemptId (Phase.concluded reservation known).rows

omit [Blake3] in
/-- An invalidated epoch holds a dispatched attempt and invalidates a reserved
one. -/
theorem Waiting.invalidated {correlation : PersistedTurnCorrelation}
    (waiting : Waiting world phases correlation) (tracks : Tracks world phases)
    {authority : DaemonAuthority (Interrupted FakePersist)} {probeId : RequestNonce}
    {expectedEpoch observedEpoch : NativeMutationEpoch} {recordedAt : OffsetDateTime}
    {outcome : IdempotentWrite}
    (recorded : recordPrewriteConclusion ⟨correlation.attemptId, correlation.signalId,
        .idleEpochInvalidated probeId expectedEpoch observedEpoch, recordedAt⟩
      world.store = .ok (outcome, authority.store)) :
    Follows phases (world.withAuthority authority) := by
  have rows := tracks.rows correlation.attemptId
  rcases waiting.phase with dispatched | ⟨writeProbe, epoch, reserved⟩
  · rw [dispatched] at rows
    have leads : Phase.Leads (phases correlation.attemptId) (.held correlation
        (.idleEpochInvalidated probeId expectedEpoch observedEpoch)) :=
      dispatched ▸ .single (.hold _ _)
    exact (tracks.withAuthority_change waiting.free leads
      (conclude_dispatched_rows rows recorded)).follows_update leads
  · rw [reserved] at rows
    have leads : Phase.Leads (phases correlation.attemptId)
        (.invalidated ⟨correlation, writeProbe, epoch⟩ probeId expectedEpoch
          observedEpoch) := by
      rw [reserved]
      exact .single (.invalidate _ _ _ _)
    exact (tracks.withAuthority_change waiting.free leads
      (invalidate_rows rows rfl recorded)).follows_update leads

omit [Blake3] in
/-- Evidence concludes a reserved attempt; a dispatched one has no reservation. -/
theorem Waiting.evidenced {correlation : PersistedTurnCorrelation}
    (waiting : Waiting world phases correlation) (tracks : Tracks world phases)
    {evidence : NativeWriteEvidence} {evidenceRef : VerifierRef}
    {outcome : IdempotentWrite} {next : FakePersist}
    (recorded : recordNativeWriteEvidence ⟨correlation, evidence, evidenceRef⟩
      world.store = .ok (outcome, next)) :
    Concludes world phases correlation.attemptId next := by
  have rows := tracks.rows correlation.attemptId
  rcases waiting.phase with dispatched | ⟨writeProbe, epoch, reserved⟩
  · obtain ⟨_, stored, _⟩ := recordNativeWriteEvidence_cases recorded
    rw [dispatched] at rows
    have unreserved := congrArg AttemptRows.reservation rows
    exact absurd (stored.symm.trans unreserved) (by simp [Phase.rows])
  · rw [reserved] at rows
    refine ⟨_, _, ?_, evidence_rows rows recorded⟩
    rw [reserved]
    exact .single (.conclude _ evidence evidenceRef)

omit [Blake3] in
/-- A fact on top keeps the attempt concluded. -/
theorem Concludes.noted {attemptId : AttemptId} {middle next : FakePersist}
    (concludes : Concludes world phases attemptId middle)
    {correlation : PersistedTurnCorrelation} (named : correlation.attemptId = attemptId)
    {fact : NativeTurnFact} {factRef : VerifierRef} {outcome : IdempotentWrite}
    (recorded : recordNativeTurnFact ⟨correlation, fact, factRef⟩ middle =
      .ok (outcome, next)) :
    Concludes world phases attemptId next := by
  subst named
  obtain ⟨_, _, leads, change⟩ := concludes
  rcases fact_rows change.here recorded with ⟨rfl, _⟩ | factChange
  · exact ⟨_, _, leads, change⟩
  · exact ⟨_, _, leads.tail (.observe _ _ fact), change.trans factChange⟩

omit [Blake3] in
/-- A concluded attempt advances. -/
theorem Concludes.advances {attemptId : AttemptId}
    {authority : DaemonAuthority (Interrupted FakePersist)}
    (concludes : Concludes world phases attemptId authority.store)
    (tracks : Tracks world phases) (free : Free world attemptId) :
    Follows phases (world.withAuthority authority) := by
  obtain ⟨reservation, known, leads, change⟩ := concludes
  exact (tracks.withAuthority_change free leads change).follows_update leads

omit [Blake3] in
/-- A concluded attempt may hand out scopes of its correlation. -/
theorem Concludes.follows {attemptId : AttemptId}
    {authority : DaemonAuthority (Interrupted FakePersist)}
    (concludes : Concludes world phases attemptId authority.store)
    (tracks : Tracks world phases) (free : Free world attemptId)
    (observing : List ObservationScope) (reconciling : List ReconciliationScope)
    (observed : ∀ scope ∈ observing, scope.correlation.attemptId = attemptId)
    (reconciled : ∀ scope ∈ reconciling, scope.correlation.attemptId = attemptId) :
    Follows phases { world.withAuthority authority with
      observationScopes := observing ++ world.observationScopes
      reconciliationScopes := reconciling ++ world.reconciliationScopes } := by
  obtain ⟨reservation, known, leads, change⟩ := concludes
  have advanced := tracks.withAuthority_change free leads change
  have concluded : (Function.update phases attemptId (.concluded reservation known)
      attemptId).Concluded := by
    rw [Function.update_self]
    exact ⟨_, _, rfl⟩
  refine (advanced.giveScopes ?_ ?_).follows_update leads
  · intro scope present
    rw [observed scope present]
    exact concluded
  · intro scope present
    rw [reconciled scope present]
    exact concluded

/-- Concluding a waiting write follows the lifecycle. -/
theorem conclude_follows (tracks : Tracks world phases) {prepared : PreparedDispatch}
    (waiting : Waiting world phases prepared.correlation)
    (disposition : Except ControllerWriteError NativeWriteDisposition)
    (evidenceDraw factDraw : Option VerifierRef) :
    Follows phases (world.conclude prepared disposition evidenceDraw factDraw) := by
  have handed : ∀ {authority : DaemonAuthority (Interrupted FakePersist)} answered
      correlation evidenceRef,
      Concludes world phases prepared.correlation.attemptId authority.store →
      correlation.attemptId = prepared.correlation.attemptId →
      Follows phases ((world.withAuthority authority).withConclusion
        (DaemonAuthority.conclusionOf answered correlation evidenceRef)) := by
    intro authority answered correlation evidenceRef concludes named
    have scopes := conclusionOf_scopes answered correlation evidenceRef
    exact concludes.follows tracks waiting.free _ _
      (fun scope present => scopes.1 scope present ▸ named)
      (fun scope present => scopes.2 scope present ▸ named)
  unfold conclude
  split
  · next refusal authority done =>
    rcases DaemonAuthority.concludeNativeWrite_store done with
      ⟨quiet, _⟩ | ⟨_, _, _, _, _, _, _, impossible⟩ |
        ⟨_, _, _, _, middle, _, _, recorded, _, ⟨same, _⟩ |
          ⟨_, _, _, _, _, _, impossible⟩⟩
    · exact (tracks.withAuthority_quiet quiet.rows).follows
    · cases impossible
    · have concludes := waiting.evidenced tracks recorded
      rw [← same] at concludes
      exact concludes.advances tracks waiting.free
    · cases impossible
  · next conclusion authority done =>
    rcases DaemonAuthority.concludeNativeWrite_store done with
      ⟨_, _, impossible⟩ | ⟨_, _, _, _, _, recorded, _, answer⟩ |
        ⟨answered, _, evidenceRef, _, middle, _, _, recorded, _, answer⟩
    · cases impossible
    · cases answer
      exact waiting.invalidated tracks recorded
    · have concludes := waiting.evidenced tracks recorded
      rcases answer with ⟨same, ⟨_, impossible⟩ | ⟨_, answer⟩⟩ |
        ⟨fact, _, _, _, factRecorded, _, answer⟩
      · cases impossible
      · cases answer
        rw [← same] at concludes
        exact handed answered _ evidenceRef concludes rfl
      · cases answer
        exact handed answered _ evidenceRef
          (concludes.noted (nameTurnOf_attemptId _ _) factRecorded)
          (nameTurnOf_attemptId _ _)

/-- Concluding a prepared dispatch follows the phases it leads to. -/
theorem concludePrepared_follows [Rfc3339] (tracks : Tracks world phases)
    (prepared : PreparedDispatch)
    (disposition : Except ControllerWriteError NativeWriteDisposition)
    (evidenceDraw factDraw : Option VerifierRef) :
    Follows phases (world.perform
      (.concludePrepared prepared disposition evidenceDraw factDraw)) := by
  simp only [perform]
  split
  · next present =>
    obtain ⟨taken, free⟩ := tracks.takePrepared present
    exact conclude_follows taken
      ⟨free, .inl (tracks.prepared prepared present).1⟩ disposition evidenceDraw factDraw
  · exact tracks.follows

/-- Concluding an authorized write follows the phases it leads to. -/
theorem concludeAuthorized_follows [Rfc3339] (tracks : Tracks world phases)
    (authorized : AuthorizedNativeWrite)
    (disposition : Except ControllerWriteError NativeWriteDisposition)
    (evidenceDraw factDraw : Option VerifierRef) :
    Follows phases (world.perform
      (.concludeAuthorized authorized disposition evidenceDraw factDraw)) := by
  simp only [perform]
  split
  · next present =>
    obtain ⟨taken, free⟩ := tracks.takeAuthorized present
    obtain ⟨probeId, epoch, reserved, _⟩ := tracks.authorized authorized present
    exact conclude_follows taken ⟨free, .inr ⟨probeId, epoch, reserved⟩⟩ disposition
      evidenceDraw factDraw
  · exact tracks.follows

/-! ## Observations and reconciliations -/

omit [Blake3] in
/-- A concluded attempt concludes with the store as it is. -/
theorem concludes_of_concluded (tracks : Tracks world phases) {attemptId : AttemptId}
    (concluded : (phases attemptId).Concluded) :
    Concludes world phases attemptId world.store := by
  obtain ⟨reservation, known, isConcluded⟩ := concluded
  refine ⟨reservation, known, isConcluded ▸ .refl, ⟨?_, fun _ _ => rfl⟩⟩
  rw [tracks.rows, isConcluded]

/-- Recording an observation follows the phases it leads to. -/
theorem recordExactObservation_follows [Rfc3339] (tracks : Tracks world phases)
    (scope : ObservationScope) (fact : NativeTurnFact)
    (evidenceDraw : Option VerifierRef) :
    Follows phases
      (world.perform (.recordExactObservation scope fact evidenceDraw)) := by
  simp only [perform]
  split
  · next present =>
    have concluded := tracks.observing scope present
    have free := tracks.free_of_concluded concluded
    have concludes := concludes_of_concluded tracks concluded
    split
    · next refusal authority done =>
      rcases DaemonAuthority.recordExactObservation_store done with
        ⟨quiet, _⟩ | ⟨_, _, _, _, impossible⟩
      · exact (tracks.withAuthority_quiet quiet.rows).follows
      · cases impossible
    · next record authority done =>
      rcases DaemonAuthority.recordExactObservation_store done with
        ⟨_, _, impossible⟩ | ⟨_, outcome, recorded, _, answer⟩
      · cases impossible
      · simp only [Except.ok.injEq] at answer
        subst answer
        refine (concludes.noted rfl recorded).follows tracks free [] _ (by simp) ?_
        intro handed listed
        simp only [Option.mem_toList, Option.ite_none_right_eq_some,
          Option.some.injEq] at listed
        rw [← listed.2]
  · exact tracks.follows

/-- Recording a reconciliation follows the phases it leads to. -/
theorem recordReconciliation_follows [Rfc3339] (tracks : Tracks world phases)
    (scope : ReconciliationScope)
    (disposition : Except ControllerReconcileError ReconciliationDisposition)
    (factDraw : Option VerifierRef) :
    Follows phases
      (world.perform (.recordReconciliation scope disposition factDraw)) := by
  simp only [perform]
  split
  · next present =>
    have concluded := tracks.reconciling scope present
    have free := tracks.free_of_concluded concluded
    have reconciled : ∀ {answered outcome middle},
        recordReconciliationFact scope answered world.store = .ok (outcome, middle) →
        Concludes world phases scope.correlation.attemptId middle := by
      intro answered outcome middle recorded
      obtain ⟨reservation, known, isConcluded⟩ := concluded
      have rows := tracks.rows scope.correlation.attemptId
      rw [isConcluded] at rows
      refine ⟨_, _, ?_, reconcile_rows rows recorded⟩
      rw [isConcluded]
      exact .single (.reconcile _ _ answered)
    split
    · next refusal authority done =>
      rcases DaemonAuthority.recordReconciliation_store done with
        ⟨quiet, _⟩ | ⟨_, _, middle, _, recorded, _, ⟨same, _⟩ |
          ⟨_, _, _, _, _, _, impossible⟩⟩
      · exact (tracks.withAuthority_quiet quiet.rows).follows
      · have concludes := reconciled recorded
        rw [← same] at concludes
        exact concludes.advances tracks free
      · cases impossible
    · next outcome phase authority done =>
      have scopes : ∀ answered handed,
          handed ∈ phaseScopes (DaemonAuthority.phaseOf scope answered) →
          handed.correlation.attemptId = scope.correlation.attemptId := by
        intro answered handed listed
        cases answered with
        | accepted turnRef =>
            simp only [DaemonAuthority.phaseOf, phaseScopes, List.mem_singleton]
              at listed
            rw [listed]
            rfl
        | provenNotAccepted => cases listed
        | terminal turnRef terminalClass => cases listed
        | unknown => cases listed
      rcases DaemonAuthority.recordReconciliation_store done with
        ⟨_, _, impossible⟩ | ⟨answered, _, middle, _, recorded, _, answer⟩
      · cases impossible
      have concludes := reconciled recorded
      rcases answer with ⟨same, ⟨_, impossible⟩ | ⟨_, answer⟩⟩ |
        ⟨_, _, _, _, factRecorded, _, answer⟩
      · cases impossible
      · cases answer
        rw [← same] at concludes
        exact concludes.follows tracks free _ [] (scopes answered) (by simp)
      · cases answer
        exact (concludes.noted (nameTurnOf_attemptId _ _) factRecorded).follows tracks
          free _ [] (scopes answered) (by simp)
  · exact tracks.follows

end Steps

end AuthorityWorld
end Gearwit
