import Gearwit.Authority.Products
import Gearwit.Persist.Recovery

/-!
# Follow-up scopes of a snapshot

Recovery derives from the snapshot alone which attempts still need an observation
or a reconciliation.  The derivation is one case split over the write evidence,
the recorded facts and the recorded reconciliation of an attempt.
-/

namespace Gearwit

/-- What one row of write evidence still needs. -/
inductive Followup
  | observe (scope : ObservationScope)
  | reconcile (scope : ReconciliationScope)
  deriving DecidableEq

/-- Turn of the first accepted or started fact. -/
def firstProgressTurn (facts : List NativeTurnFact) : Option PrivateNativeRef :=
  facts.findSome? fun fact =>
    match fact with
    | .accepted turnRef | .started turnRef => some turnRef
    | .terminal _ _ | .degradedTerminalObservation | .controllerLost | .unknown => none

/-- Follow-up of one row of write evidence, if any. -/
def followupOf (record : PersistedNativeWriteEvidence) (facts : List NativeTurnFact)
    (reconciliation : Option ReconciliationDisposition) : Option Followup :=
  if facts.any NativeTurnFact.isTerminal then none
  else
    match record.evidence with
    | .unknown =>
        match reconciliation with
        | none | some .unknown =>
            some (.reconcile ⟨record.correlation, record.evidenceRef⟩)
        | some (.accepted turnRef) =>
            some (.observe ⟨record.correlation.withTurnRef turnRef,
              record.evidenceRef⟩)
        | some (.terminal _ _) | some .provenNotAccepted => none
    | .writerAccepted _ | .exactResponse _ =>
        match firstProgressTurn facts with
        | none => none
        | some turnRef =>
            some (.observe ⟨record.correlation.withTurnRef turnRef,
              record.evidenceRef⟩)
    | .provenNotAccepted => none

/-- Scope of an observation. -/
def Followup.observation? : Followup → Option ObservationScope
  | .observe scope => some scope
  | .reconcile _ => none

/-- Scope of a reconciliation. -/
def Followup.reconciliation? : Followup → Option ReconciliationScope
  | .observe _ => none
  | .reconcile scope => some scope

/-- Correlation of either scope. -/
def Followup.correlation : Followup → PersistedTurnCorrelation
  | .observe scope => scope.correlation
  | .reconcile scope => scope.correlation

/-- Dispositions of a snapshot by attempt. -/
def RecoverySnapshot.dispositions (snapshot : RecoverySnapshot) :
    BTreeMap AttemptId ReconciliationDisposition :=
  BTreeMap.fromRows PersistedReconciliation.attemptId
    PersistedReconciliation.disposition snapshot.reconciliations

/-- Facts of a snapshot by attempt. -/
def RecoverySnapshot.facts (snapshot : RecoverySnapshot) :
    BTreeMap AttemptId (List NativeTurnFact) :=
  BTreeMap.fromRows PersistedNativeTurnFacts.attemptId
    PersistedNativeTurnFacts.facts snapshot.nativeTurnFacts

/-- Follow-ups of a snapshot, in the order of its evidence rows. -/
def RecoverySnapshot.followups (snapshot : RecoverySnapshot) : List Followup :=
  snapshot.nativeWriteEvidence.filterMap fun record =>
    followupOf record ((snapshot.facts[record.correlation.attemptId]?).getD [])
      snapshot.dispositions[record.correlation.attemptId]?

/-- Observation and reconciliation scopes of a snapshot. -/
def recoveryFollowupScopes (snapshot : RecoverySnapshot) :
    Except AuthorityError (List ObservationScope × List ReconciliationScope) :=
  if snapshot.dispositions.size ≠ snapshot.reconciliations.length ∨
      snapshot.facts.size ≠ snapshot.nativeTurnFacts.length then
    .error .conflict
  else
    .ok (snapshot.followups.filterMap Followup.observation?,
      snapshot.followups.filterMap Followup.reconciliation?)

/-- A first progress turn is named by a listed fact. -/
theorem firstProgressTurn_mem {facts : List NativeTurnFact}
    {turnRef : PrivateNativeRef} (found : firstProgressTurn facts = some turnRef) :
    NativeTurnFact.accepted turnRef ∈ facts ∨ NativeTurnFact.started turnRef ∈ facts := by
  obtain ⟨fact, present, named⟩ := List.exists_of_findSome?_eq_some found
  cases fact with
  | accepted other =>
      simp only [Option.some.injEq] at named
      exact .inl (named ▸ present)
  | started other =>
      simp only [Option.some.injEq] at named
      exact .inr (named ▸ present)
  | terminal _ _ => cases named
  | degradedTerminalObservation => cases named
  | controllerLost => cases named
  | unknown => cases named

/-- A follow-up keeps the core of its row's correlation and its evidence
reference. -/
theorem followupOf_correlation {record : PersistedNativeWriteEvidence}
    {facts : List NativeTurnFact}
    {reconciliation : Option ReconciliationDisposition} {followup : Followup}
    (needed : followupOf record facts reconciliation = some followup) :
    (∃ turnRef, followup =
        .observe ⟨record.correlation.withTurnRef turnRef, record.evidenceRef⟩) ∨
      followup = .reconcile ⟨record.correlation, record.evidenceRef⟩ := by
  unfold followupOf at needed
  split at needed
  · cases needed
  split at needed
  · split at needed
    · exact .inr (Option.some.inj needed).symm
    · exact .inr (Option.some.inj needed).symm
    · next turnRef => exact .inl ⟨turnRef, (Option.some.inj needed).symm⟩
    · cases needed
    · cases needed
  · split at needed
    · cases needed
    · next turnRef _ => exact .inl ⟨turnRef, (Option.some.inj needed).symm⟩
  · split at needed
    · cases needed
    · next turnRef _ => exact .inl ⟨turnRef, (Option.some.inj needed).symm⟩
  · cases needed

/-! ## Follow-ups of a dumped store -/

namespace FakePersist

private theorem collectUnique_entries {α β : Type} (map : BTreeMap AttemptId α)
    (row : AttemptId → α → β) (key : β → AttemptId) (value : β → α)
    (keyed : ∀ attemptId stored, key (row attemptId stored) = attemptId)
    (valued : ∀ attemptId stored, value (row attemptId stored) = stored) :
    BTreeMap.collectUnique key value
      (map.toList.map fun entry => row entry.1 entry.2) ∅ = some map := by
  have dumped := BTreeMap.collectUnique_filterMap map
    (fun attemptId stored => some (row attemptId stored)) key value (by
      intro attemptId stored found _ converted
      rw [← Option.some.inj converted]
      exact keyed attemptId stored)
  simp only [Option.map_some, valued] at dumped
  rw [← List.filterMap_eq_map]
  refine dumped.trans ?_
  rw [Option.some.injEq]
  apply Std.ExtTreeMap.ext_getElem?
  intro attemptId
  simp

/-- The facts of a dump are the stored ones, none of them lost. -/
theorem snapshot_facts (store : FakePersist) :
    store.snapshot.facts = store.turnFacts ∧
      store.turnFacts.size = store.snapshot.nativeTurnFacts.length :=
  BTreeMap.fromRows_of_collectUnique _ _
    (collectUnique_entries store.turnFacts PersistedNativeTurnFacts.mk
      PersistedNativeTurnFacts.attemptId PersistedNativeTurnFacts.facts
      (fun _ _ => rfl) (fun _ _ => rfl))

/-- The dispositions of a dump are the stored ones, none of them lost. -/
theorem snapshot_dispositions (store : FakePersist) :
    store.snapshot.dispositions = store.reconciliations ∧
      store.reconciliations.size = store.snapshot.reconciliations.length :=
  BTreeMap.fromRows_of_collectUnique _ _
    (collectUnique_entries store.reconciliations PersistedReconciliation.mk
      PersistedReconciliation.attemptId PersistedReconciliation.disposition
      (fun _ _ => rfl) (fun _ _ => rfl))

/-- Deriving the follow-ups of a dump succeeds. -/
theorem recoveryFollowupScopes_snapshot (store : FakePersist) :
    recoveryFollowupScopes store.snapshot =
      .ok (store.snapshot.followups.filterMap Followup.observation?,
        store.snapshot.followups.filterMap Followup.reconciliation?) := by
  unfold recoveryFollowupScopes
  rw [(snapshot_facts store).1, (snapshot_facts store).2,
    (snapshot_dispositions store).1, (snapshot_dispositions store).2]
  simp

/-- What an attempt still needs, by its own rows. -/
def followup (store : FakePersist) (attemptId : AttemptId) : Option Followup :=
  match store.writeEvidence[attemptId]?, store.reservations[attemptId]?,
      store.writeEvidenceRefs[attemptId]? with
  | some evidence, some reservation, some evidenceRef =>
      followupOf ⟨reservation.correlation, evidence, evidenceRef⟩
        (store.factsOf attemptId) store.reconciliations[attemptId]?
  | _, _, _ => none

/-- A follow-up belongs to an attempt with evidence and is for that attempt. -/
theorem followup_attempt {store : FakePersist}
    (keyed : BTreeMap.Keyed
      (fun row : PersistedNativeReservation => row.correlation.attemptId)
      store.reservations) {attemptId : AttemptId} {needed : Followup}
    (derived : store.followup attemptId = some needed) :
    (∃ evidence, store.writeEvidence[attemptId]? = some evidence) ∧
      needed.correlation.attemptId = attemptId := by
  unfold followup at derived
  split at derived
  · next evidence reservation evidenceRef stored reserved referenced =>
    refine ⟨⟨evidence, stored⟩, ?_⟩
    rcases followupOf_correlation derived with ⟨turnRef, rfl⟩ | rfl
    · exact keyed attemptId reservation reserved
    · exact keyed attemptId reservation reserved
  · cases derived

/-- The follow-ups of a dump are those of its attempts. -/
theorem mem_followups {store : FakePersist}
    (keyed : BTreeMap.Keyed
      (fun row : PersistedNativeReservation => row.correlation.attemptId)
      store.reservations) (needed : Followup) :
    needed ∈ store.snapshot.followups ↔
      ∃ attemptId, store.followup attemptId = some needed := by
  unfold RecoverySnapshot.followups
  rw [(snapshot_facts store).1, (snapshot_dispositions store).1, List.mem_filterMap]
  constructor
  · rintro ⟨record, listed, derived⟩
    obtain ⟨⟨attemptId, evidence⟩, stored, built⟩ := List.mem_filterMap.1 listed
    rw [Std.ExtTreeMap.mem_toList_iff_getElem?_eq_some] at stored
    unfold evidenceRow at built
    split at built
    · next reservation evidenceRef reserved referenced =>
      have named := keyed attemptId reservation reserved
      cases built
      refine ⟨attemptId, ?_⟩
      simp only [followup, stored, reserved, referenced]
      simp only [named] at derived
      exact derived
    · cases built
  · rintro ⟨attemptId, derived⟩
    unfold followup at derived
    split at derived
    · next evidence reservation evidenceRef stored reserved referenced =>
      have named := keyed attemptId reservation reserved
      refine ⟨⟨reservation.correlation, evidence, evidenceRef⟩,
        List.mem_filterMap.2 ⟨(attemptId, evidence),
          Std.ExtTreeMap.mem_toList_iff_getElem?_eq_some.2 stored, ?_⟩, ?_⟩
      · simp [evidenceRow, reserved, referenced]
      · simp only [named]
        exact derived
    · cases derived

end FakePersist
end Gearwit
