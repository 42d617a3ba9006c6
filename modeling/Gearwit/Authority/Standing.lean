import Gearwit.Authority.Followup
import Gearwit.Authority.Lifecycle
import Gearwit.Persist.Growth

/-!
# Standing of a concluded attempt

What a store says about an attempt whose write concluded with evidence: the
correlation of its reservation and its outcome.  The standing decides which follow-up
recovery derives for the attempt and which next record the store accepts.
-/

namespace Gearwit

/-- Follow-up an outcome still needs. -/
def WriteOutcome.followup (outcome : WriteOutcome)
    (correlation : PersistedTurnCorrelation) : Option Followup :=
  followupOf ⟨correlation, outcome.evidence, outcome.evidenceRef⟩ outcome.factList
    outcome.reconciliation

/-- A scope recovery derives from a snapshot. -/
def RecoverySnapshot.Derives (snapshot : RecoverySnapshot) (needed : Followup) : Prop :=
  ∃ observing reconciling,
    recoveryFollowupScopes snapshot = .ok (observing, reconciling) ∧
      match needed with
      | .observe scope => scope ∈ observing
      | .reconcile scope => scope ∈ reconciling

namespace FakePersist

/-- The store accepts the next record under a scope: any fact that names no other turn,
or any disposition. -/
def Accepts (store : FakePersist) : Followup → Prop
  | .observe scope => ∀ fact factRef,
      fact.turnRef = none ∨ fact.turnRef = scope.correlation.turnRef →
        ∃ written, store.recordNativeTurnFact ⟨scope.correlation, fact, factRef⟩ =
          .ok written
  | .reconcile scope => ∀ disposition, ∃ written,
      store.recordReconciliationFact scope disposition = .ok written

/-- What a store says about a concluded attempt. -/
structure Standing (store : FakePersist) (correlation : PersistedTurnCorrelation)
    (outcome : WriteOutcome) : Prop where
  reserved : ∃ row, store.reservations[correlation.attemptId]? = some row ∧
    row.correlation = correlation
  evidence : store.writeEvidence[correlation.attemptId]? = some outcome.evidence
  evidenceRef : store.writeEvidenceRefs[correlation.attemptId]? = some outcome.evidenceRef
  facts : store.turnFacts[correlation.attemptId]? = outcome.facts
  reconciliation : store.reconciliations[correlation.attemptId]? = outcome.reconciliation

/-! ## Derived follow-ups -/

/-- A dumped store derives exactly the follow-ups of its attempts. -/
theorem derives_snapshot_iff {store : FakePersist}
    (keyed : BTreeMap.Keyed
      (fun row : PersistedNativeReservation => row.correlation.attemptId)
      store.reservations) (needed : Followup) :
    store.snapshot.Derives needed ↔
      store.followup needed.correlation.attemptId = some needed := by
  have listed : store.snapshot.Derives needed ↔ needed ∈ store.snapshot.followups := by
    unfold RecoverySnapshot.Derives
    rw [recoveryFollowupScopes_snapshot]
    cases needed with
    | observe scope =>
        constructor
        · rintro ⟨observing, reconciling, scopes, present⟩
          cases scopes
          obtain ⟨followup, derived, same⟩ := List.mem_filterMap.1 present
          cases followup with
          | observe other => cases same; exact derived
          | reconcile other => cases same
        · intro derived
          exact ⟨_, _, rfl, List.mem_filterMap.2 ⟨_, derived, rfl⟩⟩
    | reconcile scope =>
        constructor
        · rintro ⟨observing, reconciling, scopes, present⟩
          cases scopes
          obtain ⟨followup, derived, same⟩ := List.mem_filterMap.1 present
          cases followup with
          | observe other => cases same
          | reconcile other => cases same; exact derived
        · intro derived
          exact ⟨_, _, rfl, List.mem_filterMap.2 ⟨_, derived, rfl⟩⟩
  rw [listed, mem_followups keyed]
  constructor
  · rintro ⟨attemptId, derived⟩
    rw [(followup_attempt keyed derived).2]
    exact derived
  · exact fun derived => ⟨_, derived⟩

namespace Standing

variable {store : FakePersist} {correlation : PersistedTurnCorrelation}
  {outcome : WriteOutcome}

/-- The facts of an attempt are those of its outcome. -/
theorem factsOf_eq (standing : Standing store correlation outcome) :
    store.factsOf correlation.attemptId = outcome.factList := by
  rw [factsOf, standing.facts]
  rfl

/-- The follow-up of an attempt is that of its outcome. -/
theorem followup_eq (standing : Standing store correlation outcome) :
    store.followup correlation.attemptId = outcome.followup correlation := by
  obtain ⟨row, reserved, named⟩ := standing.reserved
  unfold followup
  rw [standing.evidence, reserved, standing.evidenceRef]
  simp only [named, standing.factsOf_eq, standing.reconciliation]
  rfl

/-- What recovery leaves of a standing. -/
theorem classified (standing : Standing store correlation outcome)
    (draws : List VerifierRef) :
    Standing (store.classified draws).2 correlation outcome.resumed := by
  have rows := classified_attemptRows draws store correlation.attemptId
  simp only at rows
  have settled : ¬(store.attemptRows correlation.attemptId).Unresolved := by
    rintro ⟨_, _, _, vacant⟩
    have stored : (store.attemptRows correlation.attemptId).evidence =
        some outcome.evidence := standing.evidence
    rw [stored] at vacant
    cases vacant
  have same := (rows.resolve_right fun unresolved => settled unresolved.1).2
  have facts : (store.attemptRows correlation.attemptId).facts = outcome.facts :=
    standing.facts
  have evidence : (store.attemptRows correlation.attemptId).evidence =
      some outcome.evidence := standing.evidence
  obtain ⟨row, reserved, named⟩ := standing.reserved
  constructor
  · refine ⟨row, (congrArg AttemptRows.reservation same).trans reserved, named⟩
  · refine (congrArg AttemptRows.evidence same).trans ?_
    simp only [AttemptRows.resumed, WriteOutcome.resumed, facts, evidence]
    cases outcome.facts with
    | none => cases outcome.evidence <;> rfl
    | some known => rfl
  · exact (congrArg AttemptRows.evidenceRef same).trans standing.evidenceRef
  · refine (congrArg AttemptRows.facts same).trans ?_
    simp only [AttemptRows.resumed, WriteOutcome.resumed, facts, evidence]
  · exact (congrArg AttemptRows.reconciliation same).trans standing.reconciliation

/-- An unknown outcome that was not reconciled accepts any disposition. -/
theorem accepts_reconcile (standing : Standing store correlation outcome)
    (unknown : outcome.evidence = .unknown)
    (unreconciled : outcome.reconciliation = none ∨
      outcome.reconciliation = some .unknown) :
    store.Accepts (.reconcile ⟨correlation, outcome.evidenceRef⟩) := by
  obtain ⟨row, reserved, named⟩ := standing.reserved
  intro disposition
  have authorized : ¬(row.correlation ≠ correlation ∨
      store.writeEvidence[correlation.attemptId]? ≠ some .unknown ∨
      store.writeEvidenceRefs[correlation.attemptId]? ≠ some outcome.evidenceRef) := by
    rw [standing.evidence, standing.evidenceRef, unknown]
    simp [named]
  simp only [recordReconciliationFact, reserved, if_neg authorized]
  rw [standing.reconciliation]
  rcases unreconciled with absent | waiting
  · rw [absent]
    exact ⟨_, rfl⟩
  · rw [waiting]
    simp only
    split
    · exact ⟨_, rfl⟩
    · exact ⟨_, if_pos trivial⟩

end Standing

/-! ## Accepted observations -/

/-- Whether the store accepts facts about a turn depends on the sealed coordinates and
on the reserved correlation alone. -/
theorem turnFactRejected_congr {store next : FakePersist}
    {correlation prepared : PersistedTurnCorrelation} (fact : NativeTurnFact)
    (coordinates : next.privateRecovery = store.privateRecovery)
    (reserved : next.reservations[correlation.attemptId]?.map
        PersistedNativeReservation.correlation =
      store.reservations[correlation.attemptId]?.map
        PersistedNativeReservation.correlation) :
    next.turnFactRejected correlation prepared fact =
      store.turnFactRejected correlation prepared fact := by
  have turns : ∀ turnRef, next.turnRejected correlation prepared turnRef =
      store.turnRejected correlation prepared turnRef := by
    intro turnRef
    unfold turnRejected
    rw [coordinates]
    cases later : next.reservations[correlation.attemptId]? with
    | none =>
        cases earlier : store.reservations[correlation.attemptId]? with
        | none => rfl
        | some row => rw [later, earlier] at reserved; cases reserved
    | some row =>
        cases earlier : store.reservations[correlation.attemptId]? with
        | none => rw [later, earlier] at reserved; cases reserved
        | some other =>
            rw [later, earlier, Option.map_some, Option.map_some,
              Option.some.injEq] at reserved
            simp only [reserved]
  unfold turnFactRejected
  simp only [turns]

/-- A store accepts observations of a named turn when it accepts that the turn was
accepted. -/
theorem accepts_observe_iff (store : FakePersist)
    (correlation : PersistedTurnCorrelation) (turnRef : PrivateNativeRef)
    (evidenceRef : VerifierRef) :
    store.Accepts (.observe ⟨correlation.withTurnRef turnRef, evidenceRef⟩) ↔
      ∃ prepared, store.prepared[correlation.attemptId]? = some prepared ∧
        store.turnFactRejected (correlation.withTurnRef turnRef) prepared
          (.accepted turnRef) = false := by
  constructor
  · intro accepts
    obtain ⟨⟨outcome, next⟩, recorded⟩ := accepts (.accepted turnRef) evidenceRef
      (.inr rfl)
    obtain ⟨prepared, stored, accepted, _⟩ := recordNativeTurnFact_cases recorded
    exact ⟨prepared, stored, accepted⟩
  · rintro ⟨prepared, stored, accepted⟩ fact factRef named
    have unrejected : store.turnFactRejected (correlation.withTurnRef turnRef) prepared
        fact = false := by
      have naming : (NativeTurnFact.accepted turnRef).turnRef = some turnRef := rfl
      unfold turnFactRejected at accepted ⊢
      simp only [naming, Bool.or_eq_false_iff] at accepted ⊢
      refine ⟨accepted.1, ?_⟩
      rcases named with unnamed | same
      · rw [unnamed]
      · rw [same]
        simp only [PersistedTurnCorrelation.withTurnRef_turnRef]
        exact Bool.or_eq_false_iff.2 accepted.2
    simp only [recordNativeTurnFact, PersistedTurnCorrelation.withTurnRef_attemptId,
      stored, unrejected, Bool.false_eq_true, if_false]
    by_cases known : fact ∈ store.factsOf correlation.attemptId
    · exact ⟨_, if_pos known⟩
    · exact ⟨_, if_neg known⟩

end FakePersist
end Gearwit
