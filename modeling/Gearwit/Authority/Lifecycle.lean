import Gearwit.Persist.Port
import Mathlib.Logic.Relation

/-!
# Lifecycle of an attempt

What a store holds about one attempt, and the phases an attempt passes through:
admitted, dispatched, then either held without a write or reserved, and from a
reservation either invalidated without a write or concluded with evidence.  Only a
concluded attempt goes on changing.
-/

namespace Gearwit

/-! ## Rows of one attempt -/

/-- What a store holds about one attempt. -/
structure AttemptRows where
  attached : Bool
  prepared : Option PersistedTurnCorrelation := none
  reservation : Option PersistedNativeReservation := none
  prewrite : Option PreWriteConclusion := none
  evidence : Option NativeWriteEvidence := none
  evidenceRef : Option VerifierRef := none
  facts : Option (List NativeTurnFact) := none
  reconciliation : Option ReconciliationDisposition := none

/-- Rows of one attempt. -/
def FakePersist.attemptRows (store : FakePersist) (attemptId : AttemptId) :
    AttemptRows where
  attached := store.attachments.contains attemptId
  prepared := store.prepared[attemptId]?
  reservation := store.reservations[attemptId]?
  prewrite := store.prewrite[attemptId]?.map PersistedPreWriteConclusion.conclusion
  evidence := store.writeEvidence[attemptId]?
  evidenceRef := store.writeEvidenceRefs[attemptId]?
  facts := store.turnFacts[attemptId]?
  reconciliation := store.reconciliations[attemptId]?

/-! ## Phases -/

/-- Row of a reservation. -/
def NativeWriteReservation.row (reservation : NativeWriteReservation)
    (concluded : Bool) : PersistedNativeReservation where
  correlation := reservation.correlation
  probeId := reservation.probeId
  expectedEpoch := reservation.expectedEpoch
  concluded := concluded

/-- The reservation under a named turn. -/
def NativeWriteReservation.withTurn (reservation : NativeWriteReservation)
    (turnRef : Option PrivateNativeRef) : NativeWriteReservation :=
  match turnRef with
  | none => reservation
  | some turnRef =>
      { reservation with correlation := reservation.correlation.withTurnRef turnRef }

/-- What is known of a write that concluded with evidence. -/
structure WriteOutcome where
  evidence : NativeWriteEvidence
  evidenceRef : VerifierRef
  facts : Option (List NativeTurnFact)
  reconciliation : Option ReconciliationDisposition

/-- Facts of an outcome; none when there is no row. -/
def WriteOutcome.factList (outcome : WriteOutcome) : List NativeTurnFact :=
  outcome.facts.getD []

/-- The outcome after a new fact. -/
def WriteOutcome.withFact (outcome : WriteOutcome) (fact : NativeTurnFact) :
    WriteOutcome where
  evidence := if fact.isDegraded then .unknown else outcome.evidence
  evidenceRef := outcome.evidenceRef
  facts := some (outcome.factList ++ [fact])
  reconciliation := outcome.reconciliation

/-- The outcome after a reconciliation. -/
def WriteOutcome.reconciled (outcome : WriteOutcome)
    (disposition : ReconciliationDisposition) : WriteOutcome :=
  { outcome with reconciliation := some disposition }

/-- The outcome after recovery. -/
def WriteOutcome.resumed (outcome : WriteOutcome) : WriteOutcome where
  evidence := (FakePersist.resumedEvidence outcome.facts outcome.evidence).getD
    outcome.evidence
  evidenceRef := outcome.evidenceRef
  facts := FakePersist.resumedFacts outcome.facts outcome.evidence
  reconciliation := outcome.reconciliation

/-- A write without any answer. -/
def WriteOutcome.unanswered (evidenceRef : VerifierRef) : WriteOutcome where
  evidence := .unknown
  evidenceRef := evidenceRef
  facts := none
  reconciliation := none

/-- Phases of an attempt. -/
inductive Phase
  | absent
  | admitted
  | dispatched (correlation : PersistedTurnCorrelation)
  | held (correlation : PersistedTurnCorrelation) (conclusion : PreWriteConclusion)
  | reserved (reservation : NativeWriteReservation)
  | invalidated (reservation : NativeWriteReservation) (probeId : RequestNonce)
      (expectedEpoch observedEpoch : NativeMutationEpoch)
  | concluded (reservation : NativeWriteReservation) (outcome : WriteOutcome)

namespace Phase

/-- Rows of a phase. -/
def rows : Phase → AttemptRows
  | .absent => { attached := false }
  | .admitted => { attached := true }
  | .dispatched correlation => { attached := true, prepared := some correlation }
  | .held correlation conclusion =>
      { attached := true, prepared := some correlation, prewrite := some conclusion }
  | .reserved reservation =>
      { attached := true
        prepared := some reservation.correlation
        reservation := some (reservation.row false) }
  | .invalidated reservation probeId expectedEpoch observedEpoch =>
      { attached := true
        prepared := some reservation.correlation
        reservation := some (reservation.row true)
        prewrite := some (.idleEpochInvalidated probeId expectedEpoch observedEpoch) }
  | .concluded reservation outcome =>
      { attached := true
        prepared := some reservation.correlation
        reservation := some (reservation.row true)
        evidence := some outcome.evidence
        evidenceRef := some outcome.evidenceRef
        facts := outcome.facts
        reconciliation := outcome.reconciliation }

/-- A command may have left for the controller. -/
def Crossed : Phase → Prop
  | .reserved _ | .invalidated _ _ _ _ | .concluded _ _ => True
  | _ => False

/-- One change of phase, or none. -/
inductive Advance : Phase → Phase → Prop
  | stay (phase : Phase) : Advance phase phase
  | claim : Advance .absent .admitted
  | dispatch (correlation : PersistedTurnCorrelation) :
      Advance .admitted (.dispatched correlation)
  | hold (correlation : PersistedTurnCorrelation) (conclusion : PreWriteConclusion) :
      Advance (.dispatched correlation) (.held correlation conclusion)
  | reserve (reservation : NativeWriteReservation) :
      Advance (.dispatched reservation.correlation) (.reserved reservation)
  | invalidate (reservation : NativeWriteReservation) (probeId : RequestNonce)
      (expectedEpoch observedEpoch : NativeMutationEpoch) :
      Advance (.reserved reservation)
        (.invalidated reservation probeId expectedEpoch observedEpoch)
  | conclude (reservation : NativeWriteReservation) (evidence : NativeWriteEvidence)
      (evidenceRef : VerifierRef) :
      Advance (.reserved reservation)
        (.concluded reservation ⟨evidence, evidenceRef, none, none⟩)
  | observe (reservation : NativeWriteReservation) (outcome : WriteOutcome)
      (fact : NativeTurnFact) :
      Advance (.concluded reservation outcome)
        (.concluded (reservation.withTurn fact.turnRef) (outcome.withFact fact))
  | reconcile (reservation : NativeWriteReservation) (outcome : WriteOutcome)
      (disposition : ReconciliationDisposition) :
      Advance (.concluded reservation outcome)
        (.concluded reservation (outcome.reconciled disposition))
  | resume (reservation : NativeWriteReservation) (outcome : WriteOutcome) :
      Advance (.concluded reservation outcome)
        (.concluded reservation outcome.resumed)

/-- A command that may have left stays one. -/
theorem Advance.crossed {before after : Phase} (advance : Advance before after)
    (crossed : before.Crossed) : after.Crossed := by
  cases advance <;> first | exact crossed | trivial

/-- A held attempt stays held. -/
theorem Advance.held {correlation : PersistedTurnCorrelation}
    {conclusion : PreWriteConclusion} {after : Phase}
    (advance : Advance (.held correlation conclusion) after) :
    after = .held correlation conclusion := by
  cases advance
  rfl

/-- An invalidated attempt stays invalidated. -/
theorem Advance.invalidated {reservation : NativeWriteReservation}
    {probeId : RequestNonce} {expectedEpoch observedEpoch : NativeMutationEpoch}
    {after : Phase}
    (advance : Advance
      (.invalidated reservation probeId expectedEpoch observedEpoch) after) :
    after = .invalidated reservation probeId expectedEpoch observedEpoch := by
  cases advance
  rfl

/-- A concluded attempt stays concluded. -/
theorem Advance.concluded {reservation : NativeWriteReservation}
    {outcome : WriteOutcome} {after : Phase}
    (advance : Advance (.concluded reservation outcome) after) :
    ∃ reservation outcome, after = .concluded reservation outcome := by
  cases advance <;> exact ⟨_, _, rfl⟩

/-- Rows name their phase when there is no attachment. -/
theorem eq_absent_of_rows {phase : Phase} (unattached : phase.rows.attached = false) :
    phase = .absent := by
  cases phase <;> first | rfl | cases unattached

/-- A phase with evidence is concluded. -/
theorem concluded_of_evidence {phase : Phase} {evidence : NativeWriteEvidence}
    (present : phase.rows.evidence = some evidence) :
    ∃ reservation outcome, phase = .concluded reservation outcome ∧
      outcome.evidence = evidence := by
  cases phase with
  | concluded reservation outcome =>
      exact ⟨reservation, outcome, rfl, Option.some.inj present⟩
  | _ => cases present

/-- A phase with a conclusion before the write is held or invalidated. -/
theorem held_or_invalidated_of_prewrite {phase : Phase}
    {conclusion : PreWriteConclusion}
    (present : phase.rows.prewrite = some conclusion) :
    (∃ correlation, phase = .held correlation conclusion) ∨
      ∃ reservation probeId expectedEpoch observedEpoch,
        phase = .invalidated reservation probeId expectedEpoch observedEpoch ∧
        conclusion = .idleEpochInvalidated probeId expectedEpoch observedEpoch := by
  cases phase with
  | held correlation stored =>
      simp only [rows, Option.some.injEq] at present
      exact .inl ⟨correlation, by rw [present]⟩
  | invalidated reservation probeId expectedEpoch observedEpoch =>
      simp only [rows, Option.some.injEq] at present
      exact .inr ⟨reservation, probeId, expectedEpoch, observedEpoch, rfl,
        present.symm⟩
  | _ => cases present

end Phase

/-! ## Runs of a phase -/

/-- Some changes of phase. -/
abbrev Phase.Leads : Phase → Phase → Prop := Relation.ReflTransGen Phase.Advance

namespace Phase

/-- A command that may have left stays one. -/
theorem Leads.crossed {before after : Phase} (leads : Leads before after)
    (crossed : before.Crossed) : after.Crossed := by
  induction leads with
  | refl => exact crossed
  | tail _ advance inductionHypothesis => exact advance.crossed inductionHypothesis

/-- A held attempt stays held. -/
theorem Leads.held {correlation : PersistedTurnCorrelation}
    {conclusion : PreWriteConclusion} {after : Phase}
    (leads : Leads (.held correlation conclusion) after) :
    after = .held correlation conclusion := by
  induction leads with
  | refl => rfl
  | tail _ advance inductionHypothesis =>
      subst inductionHypothesis
      exact advance.held

/-- An invalidated attempt stays invalidated. -/
theorem Leads.invalidated {reservation : NativeWriteReservation}
    {probeId : RequestNonce} {expectedEpoch observedEpoch : NativeMutationEpoch}
    {after : Phase}
    (leads : Leads (.invalidated reservation probeId expectedEpoch observedEpoch)
      after) :
    after = .invalidated reservation probeId expectedEpoch observedEpoch := by
  induction leads with
  | refl => rfl
  | tail _ advance inductionHypothesis =>
      subst inductionHypothesis
      exact advance.invalidated

/-- Being concluded, with whatever outcome. -/
def Concluded (phase : Phase) : Prop :=
  ∃ reservation outcome, phase = .concluded reservation outcome

/-- A concluded attempt stays concluded. -/
theorem Leads.concluded {before after : Phase} (leads : Leads before after)
    (concluded : before.Concluded) : after.Concluded := by
  induction leads with
  | refl => exact concluded
  | tail _ advance inductionHypothesis =>
      obtain ⟨reservation, outcome, rfl⟩ := inductionHypothesis
      exact advance.concluded

end Phase

/-! ## What the store operations do to rows -/

namespace FakePersist

/-- Rows change at one attempt at most. -/
structure RowsChange (store next : FakePersist) (attemptId : AttemptId)
    (rows : AttemptRows) : Prop where
  here : next.attemptRows attemptId = rows
  elsewhere : ∀ other, other ≠ attemptId →
    next.attemptRows other = store.attemptRows other

/-- Changes of one attempt compose. -/
theorem RowsChange.trans {first second third : FakePersist} {attemptId : AttemptId}
    {middle last : AttemptRows} (early : RowsChange first second attemptId middle)
    (late : RowsChange second third attemptId last) :
    RowsChange first third attemptId last where
  here := late.here
  elsewhere other different :=
    (late.elsewhere other different).trans (early.elsewhere other different)

/-- A fresh admission attaches its attempt. -/
theorem withClaim_rows (store : FakePersist) (admission : ClaimAdmission)
    (attachment : PersistedControllerAttachment) (payloadRef : ClaimPayloadRef) :
    RowsChange store (store.withClaim admission attachment payloadRef)
      attachment.attemptId
      { store.attemptRows attachment.attemptId with attached := true } where
  here := by simp [attemptRows, withClaim]
  elsewhere other different := by
    simp only [attemptRows, withClaim, AttemptRows.mk.injEq, and_true]
    rw [← Std.ExtTreeMap.isSome_getElem?_eq_contains,
      ← Std.ExtTreeMap.isSome_getElem?_eq_contains,
      BTreeMap.getElem?_insert_ne _ _ (Ne.symm different)]

/-- Revoking an attachment keeps every row. -/
theorem withRevokedAttachment_rows {store : FakePersist} {attemptId : AttemptId}
    {attachment : PersistedControllerAttachment}
    (stored : store.attachments[attemptId]? = some attachment)
    (revised : PersistedControllerAttachment) (other : AttemptId) :
    ({ store with attachments := store.attachments.insert attemptId revised } :
      FakePersist).attemptRows other = store.attemptRows other := by
  simp only [attemptRows, AttemptRows.mk.injEq, and_true]
  rw [← Std.ExtTreeMap.isSome_getElem?_eq_contains,
    ← Std.ExtTreeMap.isSome_getElem?_eq_contains, BTreeMap.getElem?_insert_eq]
  split
  · next same => rw [← same, stored]; rfl
  · rfl

/-- A recorded dispatch is the prepared row. -/
theorem recordDispatchPrepared_rows (store : FakePersist)
    (correlation : PersistedTurnCorrelation) :
    RowsChange store
      { store with
        prepared := store.prepared.insert correlation.attemptId correlation }
      correlation.attemptId
      { store.attemptRows correlation.attemptId with prepared := some correlation } where
  here := by simp [attemptRows]
  elsewhere other different := by
    simp only [attemptRows, BTreeMap.getElem?_insert_ne _ _ (Ne.symm different)]

/-- Reservation row after a conclusion before the write. -/
theorem concludeReservation_lookup (store : FakePersist) (attemptId other : AttemptId) :
    (store.concludeReservation attemptId)[other]? =
      if other = attemptId then
        store.reservations[attemptId]?.map fun reservation =>
          { reservation with concluded := true }
      else store.reservations[other]? := by
  unfold concludeReservation
  split
  · next absent =>
    split
    · next same => rw [same, absent]; rfl
    · rfl
  · next reservation present =>
    rw [BTreeMap.getElem?_insert_eq]
    split
    · next same => rw [if_pos same.symm, present]; rfl
    · next different => rw [if_neg (Ne.symm different)]

/-- A conclusion before the write is the prewrite row and closes the
reservation. -/
theorem recordPrewriteConclusion_rows (store : FakePersist)
    (request : PreWriteConclusionCommit) :
    RowsChange store
      { store with
        reservations := store.concludeReservation request.attemptId
        prewrite := store.prewrite.insert request.attemptId (prewriteRow request) }
      request.attemptId
      { store.attemptRows request.attemptId with
        reservation := store.reservations[request.attemptId]?.map fun reservation =>
          { reservation with concluded := true }
        prewrite := some request.conclusion.into } where
  here := by simp [attemptRows, concludeReservation_lookup, prewriteRow]
  elsewhere other different := by
    simp only [attemptRows, BTreeMap.getElem?_insert_ne _ _ (Ne.symm different),
      concludeReservation_lookup, if_neg different]

/-- A hold is the prewrite row. -/
theorem recordActiveHold_rows (store : FakePersist) (proof : ActiveObservationProof)
    (record : PersistedActiveObservationEvidence) :
    RowsChange store
      { store with
        consumedProbes := store.consumedProbes.insert record.probeId ()
        activeObservations :=
          store.activeObservations.insert proof.attemptId record
        prewrite := store.prewrite.insert proof.attemptId
          (heldRow proof record.evidenceRef) }
      proof.attemptId
      { store.attemptRows proof.attemptId with
        prewrite := some (.heldBeforeNativeWrite record.evidenceRef) } where
  here := by simp [attemptRows, heldRow]
  elsewhere other different := by
    simp only [attemptRows, BTreeMap.getElem?_insert_ne _ _ (Ne.symm different)]

/-- A reservation is the reservation row. -/
theorem reserveNativeTurnWrite_rows (store : FakePersist) (idle : ValidatedIdlePermit)
    (correlation : PersistedTurnCorrelation) :
    RowsChange store
      { store with
        consumedProbes := store.consumedProbes.insert idle.probeId ()
        reservations := store.reservations.insert idle.attemptId
          (reservationRow idle correlation) }
      idle.attemptId
      { store.attemptRows idle.attemptId with
        reservation := some (reservationRow idle correlation) } where
  here := by simp [attemptRows]
  elsewhere other different := by
    simp only [attemptRows, BTreeMap.getElem?_insert_ne _ _ (Ne.symm different)]

/-- Evidence is the evidence row and closes the reservation. -/
theorem recordNativeWriteEvidence_rows (store : FakePersist)
    (request : NativeWriteEvidenceCommit) (reservation : PersistedNativeReservation) :
    RowsChange store
      { store with
        writeEvidence := store.writeEvidence.insert request.correlation.attemptId
          request.evidence
        writeEvidenceRefs := store.writeEvidenceRefs.insert
          request.correlation.attemptId request.evidenceRef
        reservations := store.reservations.insert request.correlation.attemptId
          { reservation with concluded := true } }
      request.correlation.attemptId
      { store.attemptRows request.correlation.attemptId with
        reservation := some { reservation with concluded := true }
        evidence := some request.evidence
        evidenceRef := some request.evidenceRef } where
  here := by simp [attemptRows]
  elsewhere other different := by
    simp only [attemptRows, BTreeMap.getElem?_insert_ne _ _ (Ne.symm different)]

/-- Correlations under a named turn. -/
theorem nameTurn_lookup (correlations : BTreeMap AttemptId PersistedTurnCorrelation)
    (attemptId other : AttemptId) (turnRef : Option PrivateNativeRef) :
    (nameTurn correlations attemptId turnRef)[other]? =
      if other = attemptId then
        correlations[attemptId]?.map fun correlation =>
          match turnRef with
          | none => correlation
          | some turnRef => correlation.withTurnRef turnRef
      else correlations[other]? := by
  unfold nameTurn
  cases turnRef with
  | none => split <;> simp_all
  | some turnRef =>
      cases present : correlations[attemptId]? with
      | none => split <;> simp_all
      | some correlation =>
          simp only [BTreeMap.getElem?_insert_eq, eq_comm (a := attemptId)]
          split <;> simp

/-- Reservations under a named turn. -/
theorem nameReservedTurn_lookup
    (reservations : BTreeMap AttemptId PersistedNativeReservation)
    (attemptId other : AttemptId) (turnRef : Option PrivateNativeRef) :
    (nameReservedTurn reservations attemptId turnRef)[other]? =
      if other = attemptId then
        reservations[attemptId]?.map fun reservation =>
          match turnRef with
          | none => reservation
          | some turnRef =>
              { reservation with
                correlation := reservation.correlation.withTurnRef turnRef }
      else reservations[other]? := by
  unfold nameReservedTurn
  cases turnRef with
  | none => split <;> simp_all
  | some turnRef =>
      cases present : reservations[attemptId]? with
      | none => split <;> simp_all
      | some reservation =>
          simp only [BTreeMap.getElem?_insert_eq, eq_comm (a := attemptId)]
          split <;> simp

/-- A fact of a concluded attempt is appended to its outcome. -/
theorem withTurnFact_rows {store : FakePersist} {attemptId : AttemptId}
    {reservation : NativeWriteReservation} {outcome : WriteOutcome}
    (rows : store.attemptRows attemptId = (Phase.concluded reservation outcome).rows)
    (fact : NativeTurnFact) :
    RowsChange store (store.withTurnFact attemptId fact) attemptId
      (Phase.concluded (reservation.withTurn fact.turnRef)
        (outcome.withFact fact)).rows where
  here := by
    simp only [attemptRows, Phase.rows, AttemptRows.mk.injEq] at rows
    obtain ⟨attached, prepared, reserved, prewrite, evidence, evidenceRef, facts,
      reconciliation⟩ := rows
    simp only [attemptRows, withTurnFact, nameTurn_lookup, nameReservedTurn_lookup,
      if_true, prepared, reserved, attached, prewrite, evidenceRef, reconciliation,
      BTreeMap.getElem?_insert_same, factsOf, facts, Phase.rows, AttemptRows.mk.injEq,
      Option.map_some, Option.some.injEq, WriteOutcome.withFact, WriteOutcome.factList,
      true_and, and_true]
    refine ⟨?_, ?_, ?_⟩
    · cases fact.turnRef <;> rfl
    · cases fact.turnRef <;> rfl
    · split
      · simp
      · exact evidence
  elsewhere other different := by
    simp only [attemptRows, withTurnFact, nameTurn_lookup, nameReservedTurn_lookup,
      if_neg different, BTreeMap.getElem?_insert_ne _ _ (Ne.symm different)]
    split
    · simp only [BTreeMap.getElem?_insert_ne _ _ (Ne.symm different)]
    · rfl

/-- A reconciliation is the reconciliation row. -/
theorem recordReconciliationFact_rows (store : FakePersist) (attemptId : AttemptId)
    (disposition : ReconciliationDisposition) :
    RowsChange store
      { store with
        reconciliations := store.reconciliations.insert attemptId disposition }
      attemptId
      { store.attemptRows attemptId with reconciliation := some disposition } where
  here := by simp [attemptRows]
  elsewhere other different := by
    simp only [attemptRows, BTreeMap.getElem?_insert_ne _ _ (Ne.symm different)]

/-! ## What the store operations do to phases -/

/-- A recorded dispatch of an admitted attempt dispatches it. -/
theorem dispatch_rows {store next : FakePersist} {correlation : PersistedTurnCorrelation}
    {outcome : IdempotentWrite}
    (rows : store.attemptRows correlation.attemptId = Phase.admitted.rows)
    (recorded : recordDispatchPrepared ⟨correlation⟩ store = .ok (outcome, next)) :
    RowsChange store next correlation.attemptId (Phase.dispatched correlation).rows := by
  rcases recordDispatchPrepared_cases recorded with ⟨_, _, stored⟩ | ⟨_, _, rfl⟩
  · have unprepared := congrArg AttemptRows.prepared rows
    exact absurd (stored.symm.trans unprepared) (by simp [Phase.rows])
  · have change := recordDispatchPrepared_rows store correlation
    rw [rows] at change
    exact change

/-- A hold of a dispatched attempt holds it. -/
theorem hold_rows [Blake3] {store next : FakePersist} {proof : ActiveObservationProof}
    {correlation : PersistedTurnCorrelation} {outcome : IdempotentWrite}
    (rows : store.attemptRows proof.attemptId = (Phase.dispatched correlation).rows)
    (recorded : recordActiveHold ⟨proof⟩ store = .ok (outcome, next)) :
    ∃ conclusion, RowsChange store next proof.attemptId
      (Phase.held correlation conclusion).rows := by
  obtain ⟨_, _, ⟨_, _, _, _, stored⟩ | ⟨_, _, _, _, record, _, _, rfl⟩⟩ :=
    recordActiveHold_cases recorded
  · have unconcluded := congrArg AttemptRows.prewrite rows
    simp only [attemptRows] at unconcluded
    rw [stored] at unconcluded
    cases unconcluded
  · have change := recordActiveHold_rows store proof record
    rw [rows] at change
    exact ⟨_, change⟩

/-- A conclusion before the write of a dispatched attempt holds it. -/
theorem conclude_dispatched_rows {store next : FakePersist}
    {request : PreWriteConclusionCommit} {correlation : PersistedTurnCorrelation}
    {outcome : IdempotentWrite}
    (rows : store.attemptRows request.attemptId = (Phase.dispatched correlation).rows)
    (recorded : recordPrewriteConclusion request store = .ok (outcome, next)) :
    RowsChange store next request.attemptId
      (Phase.held correlation request.conclusion.into).rows := by
  rcases recordPrewriteConclusion_cases recorded with
    ⟨_, _, existing, stored, _⟩ | ⟨_, _, rfl⟩
  · have unconcluded := congrArg AttemptRows.prewrite rows
    simp only [attemptRows] at unconcluded
    rw [stored] at unconcluded
    cases unconcluded
  · have change := recordPrewriteConclusion_rows store request
    have unreserved : store.reservations[request.attemptId]? = none :=
      congrArg AttemptRows.reservation rows
    rw [rows, unreserved] at change
    exact change

/-- An invalidated epoch of a reserved attempt invalidates it. -/
theorem invalidate_rows {store next : FakePersist}
    {request : PreWriteConclusionCommit} {reservation : NativeWriteReservation}
    {outcome : IdempotentWrite} {probeId : RequestNonce}
    {expectedEpoch observedEpoch : NativeMutationEpoch}
    (rows : store.attemptRows request.attemptId = (Phase.reserved reservation).rows)
    (conclusion : request.conclusion =
      .idleEpochInvalidated probeId expectedEpoch observedEpoch)
    (recorded : recordPrewriteConclusion request store = .ok (outcome, next)) :
    RowsChange store next request.attemptId
      (Phase.invalidated reservation probeId expectedEpoch observedEpoch).rows := by
  rcases recordPrewriteConclusion_cases recorded with
    ⟨_, _, existing, stored, _⟩ | ⟨_, _, rfl⟩
  · have unconcluded := congrArg AttemptRows.prewrite rows
    simp only [attemptRows] at unconcluded
    rw [stored] at unconcluded
    cases unconcluded
  · have change := recordPrewriteConclusion_rows store request
    have reserved : store.reservations[request.attemptId]? =
        some (reservation.row false) := congrArg AttemptRows.reservation rows
    rw [rows, reserved, conclusion] at change
    exact change

/-- A reservation of a dispatched attempt reserves it. -/
theorem reserve_rows {store next : FakePersist} {idle : ValidatedIdlePermit}
    {correlation : PersistedTurnCorrelation} {reservation : NativeWriteReservation}
    (rows : store.attemptRows correlation.attemptId =
      (Phase.dispatched correlation).rows)
    (reserved : reserveNativeTurnWrite idle correlation store =
      .ok (reservation, next)) :
    reservation = ⟨correlation, idle.probeId, idle.mutationEpoch⟩ ∧
      RowsChange store next correlation.attemptId (Phase.reserved reservation).rows := by
  obtain ⟨rfl, rfl, sameAttempt, _, _⟩ := reserveNativeTurnWrite_cases reserved
  have change := reserveNativeTurnWrite_rows store idle correlation
  rw [sameAttempt, rows] at change
  refine ⟨rfl, ?_⟩
  rw [sameAttempt]
  exact change

/-- Evidence of a reserved attempt concludes it; a dispatched attempt has none. -/
theorem evidence_rows {store next : FakePersist} {correlation : PersistedTurnCorrelation}
    {evidence : NativeWriteEvidence} {evidenceRef : VerifierRef}
    {outcome : IdempotentWrite} {reservation : NativeWriteReservation}
    (rows : store.attemptRows correlation.attemptId = (Phase.reserved reservation).rows)
    (recorded : recordNativeWriteEvidence ⟨correlation, evidence, evidenceRef⟩ store =
      .ok (outcome, next)) :
    RowsChange store next correlation.attemptId
      (Phase.concluded reservation ⟨evidence, evidenceRef, none, none⟩).rows := by
  obtain ⟨row, stored, _, ⟨_, _, existing, _⟩ | ⟨_, _, rfl⟩⟩ :=
    recordNativeWriteEvidence_cases recorded
  · have vacant := congrArg AttemptRows.evidence rows
    exact absurd (existing.symm.trans vacant) (by simp [Phase.rows])
  · have change := recordNativeWriteEvidence_rows store
      ⟨correlation, evidence, evidenceRef⟩ row
    have reserved : store.reservations[correlation.attemptId]? =
        some (reservation.row false) := congrArg AttemptRows.reservation rows
    simp only at stored change
    rw [stored, Option.some.injEq] at reserved
    subst reserved
    rw [rows] at change
    exact change

/-- A fact of a concluded attempt keeps it concluded. -/
theorem fact_rows {store next : FakePersist} {correlation : PersistedTurnCorrelation}
    {fact : NativeTurnFact} {factRef : VerifierRef} {outcome : IdempotentWrite}
    {reservation : NativeWriteReservation} {known : WriteOutcome}
    (rows : store.attemptRows correlation.attemptId =
      (Phase.concluded reservation known).rows)
    (recorded : recordNativeTurnFact ⟨correlation, fact, factRef⟩ store =
      .ok (outcome, next)) :
    (next = store ∧ fact ∈ known.factList) ∨
      RowsChange store next correlation.attemptId
        (Phase.concluded (reservation.withTurn fact.turnRef)
          (known.withFact fact)).rows := by
  obtain ⟨_, _, _, ⟨_, same, listed⟩ | ⟨_, _, rfl⟩⟩ := recordNativeTurnFact_cases recorded
  · refine .inl ⟨same, ?_⟩
    have facts : store.turnFacts[correlation.attemptId]? = known.facts :=
      congrArg AttemptRows.facts rows
    rw [factsOf, facts] at listed
    exact listed
  · exact .inr (withTurnFact_rows rows fact)

/-- A reconciliation of a concluded attempt keeps it concluded. -/
theorem reconcile_rows {store next : FakePersist} {scope : ReconciliationScope}
    {disposition : ReconciliationDisposition} {outcome : IdempotentWrite}
    {reservation : NativeWriteReservation} {known : WriteOutcome}
    (rows : store.attemptRows scope.correlation.attemptId =
      (Phase.concluded reservation known).rows)
    (recorded : recordReconciliationFact scope disposition store =
      .ok (outcome, next)) :
    RowsChange store next scope.correlation.attemptId
      (Phase.concluded reservation (known.reconciled disposition)).rows := by
  obtain ⟨_, _, _, _, _, _, rfl⟩ := recordReconciliationFact_cases recorded
  have change := recordReconciliationFact_rows store scope.correlation.attemptId
    disposition
  rw [rows] at change
  exact change

/-! ## What recovery does to rows -/

end FakePersist

namespace AttemptRows

/-- Rows after the interrupted evidence was completed. -/
def resumed (rows : AttemptRows) : AttemptRows :=
  { rows with
    evidence := FakePersist.resumedEvidence rows.facts rows.evidence
    facts := FakePersist.resumedFacts rows.facts rows.evidence }

/-- Rows after the attempt was classified as unknown. -/
def unanswered (rows : AttemptRows) (evidenceRef : VerifierRef) : AttemptRows :=
  { rows.resumed with
    reservation := rows.reservation.map fun reservation =>
      { reservation with concluded := true }
    evidence := some .unknown
    evidenceRef := some evidenceRef }

/-- A reservation that never concluded and has no evidence. -/
def Unresolved (rows : AttemptRows) : Prop :=
  ∃ reservation, rows.reservation = some reservation ∧
    reservation.concluded = false ∧ rows.evidence = none

end AttemptRows

namespace FakePersist

/-- Recovery completes the rows of an attempt and classifies an unresolved one. -/
theorem classified_attemptRows (draws : List VerifierRef) (store : FakePersist)
    (attemptId : AttemptId) :
    let rows := store.attemptRows attemptId
    (¬rows.Unresolved ∧
        (store.classified draws).2.attemptRows attemptId = rows.resumed) ∨
      (rows.Unresolved ∧ ((∃ evidenceRef ∈ draws,
          (store.classified draws).2.attemptRows attemptId =
            rows.unanswered evidenceRef) ∨
        ((store.classified draws).1 = .error .storageUnavailable ∧
          (store.classified draws).2.attemptRows attemptId = rows.resumed))) := by
  intro rows
  have classes := classified_attempt draws store attemptId
  have facts := classified_turnFacts draws store attemptId
  have fixed : (store.classified draws).2.attemptRows attemptId =
      { rows with
        reservation := (store.classified draws).2.reservations[attemptId]?
        evidence := (store.classified draws).2.writeEvidence[attemptId]?
        evidenceRef := (store.classified draws).2.writeEvidenceRefs[attemptId]?
        facts := (store.classified draws).2.turnFacts[attemptId]? } := by
    unfold attemptRows
    rw [classified_frame]
    rfl
  rw [fixed, facts]
  simp only [classifiable, Classifiable.unknown, Classifiable.mk.injEq] at classes
  rcases classes with ⟨settled, reservation, evidence, evidenceRef⟩ |
    ⟨unresolved, ⟨drawn, listed, reservation, evidence, evidenceRef⟩ |
      ⟨failed, reservation, evidence, evidenceRef⟩⟩
  · refine .inl ⟨settled, ?_⟩
    rw [reservation, evidence, evidenceRef]
    rfl
  · refine .inr ⟨unresolved, .inl ⟨drawn, listed, ?_⟩⟩
    rw [reservation, evidence, evidenceRef]
    rfl
  · refine .inr ⟨unresolved, .inr ⟨failed, ?_⟩⟩
    rw [reservation, evidence, evidenceRef]
    rfl

/-- Only a reserved phase is unresolved. -/
theorem unresolved_rows {phase : Phase} (unresolved : phase.rows.Unresolved) :
    ∃ reservation, phase = .reserved reservation := by
  obtain ⟨row, present, unconcluded, vacant⟩ := unresolved
  cases phase with
  | reserved reservation => exact ⟨reservation, rfl⟩
  | invalidated reservation probeId expectedEpoch observedEpoch =>
      simp only [Phase.rows, Option.some.injEq] at present
      rw [← present] at unconcluded
      cases unconcluded
  | concluded reservation outcome => cases vacant
  | _ => cases present

/-- Completing interrupted evidence moves only concluded attempts. -/
theorem resumed_rows (phase : Phase) :
    ∃ next, phase.rows.resumed = next.rows ∧ Phase.Advance phase next ∧
      (∀ reservation, phase = .reserved reservation → next = phase) ∧
      ∀ reservation outcome, phase = .concluded reservation outcome →
        next = .concluded reservation outcome.resumed := by
  cases phase with
  | concluded reservation outcome =>
      refine ⟨.concluded reservation outcome.resumed, ?_, .resume _ _, ?_, ?_⟩
      · simp only [Phase.rows, AttemptRows.resumed, WriteOutcome.resumed,
          AttemptRows.mk.injEq, true_and, and_true]
        cases outcome.facts with
        | none => cases outcome.evidence <;> rfl
        | some facts => rfl
      · intro _ equal
        cases equal
      · intro _ _ equal
        cases equal
        rfl
  | _ =>
      refine ⟨_, rfl, .stay _, fun _ _ => rfl, ?_⟩
      intro _ _ equal
      cases equal

/-- Recovery resumes a concluded attempt, concludes a reserved one when the draws
suffice and keeps every other phase. -/
theorem classified_phase (draws : List VerifierRef) {store : FakePersist}
    {attemptId : AttemptId} {phase : Phase}
    (rows : store.attemptRows attemptId = phase.rows) :
    ∃ next, (store.classified draws).2.attemptRows attemptId = next.rows ∧
      Phase.Advance phase next ∧
      ((store.classified draws).1 = .ok () → ∀ reservation,
        phase = .reserved reservation → ∃ evidenceRef ∈ draws,
          next = .concluded reservation (.unanswered evidenceRef)) ∧
      ∀ reservation outcome, phase = .concluded reservation outcome →
        next = .concluded reservation outcome.resumed := by
  have classes := classified_attemptRows draws store attemptId
  simp only [rows] at classes
  obtain ⟨next, same, advance, _, concludes⟩ := resumed_rows phase
  rcases classes with ⟨settled, resumed⟩ |
    ⟨unresolved, ⟨evidenceRef, drawn, classified⟩ | ⟨failed, resumed⟩⟩
  · refine ⟨next, resumed.trans same, advance, ?_, concludes⟩
    rintro _ reservation rfl
    exact absurd ⟨_, rfl, rfl, rfl⟩ settled
  · obtain ⟨reservation, rfl⟩ := unresolved_rows unresolved
    refine ⟨.concluded reservation (.unanswered evidenceRef), classified,
      .conclude reservation .unknown evidenceRef, ?_, ?_⟩
    · rintro _ other equal
      cases equal
      exact ⟨evidenceRef, drawn, rfl⟩
    · intro _ _ equal
      cases equal
  · refine ⟨next, resumed.trans same, advance, ?_, concludes⟩
    intro passed
    rw [failed] at passed
    cases passed

end FakePersist
end Gearwit
