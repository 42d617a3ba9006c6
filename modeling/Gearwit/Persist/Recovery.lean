import Gearwit.Foundations.Checks
import Gearwit.Persist.Store

/-!
# Recovery

Recovery quarantines thread creations nobody resolved, completes evidence whose
fact was never written, classifies unconcluded reservations as unknown and dumps
the authority metadata.  It changes the store it reads, also when it refuses.
-/

namespace Gearwit
namespace FakePersist

/-! ## The three passes -/

/-- An unresolved creation becomes unknown. -/
def quarantineReserved : ThreadOwnershipState → ThreadOwnershipState
  | .reserved createAttemptId => .unknown createAttemptId
  | state => state

/-- Quarantine every reserved creation. -/
def quarantineReservedOwnership (store : FakePersist) : FakePersist :=
  { store with
    ownership := store.ownership.map fun _ state => quarantineReserved state }

/-- Write evidence of attempts without any turn fact. -/
def interruptedFacts (store : FakePersist) : List (AttemptId × NativeWriteEvidence) :=
  store.writeEvidence.toList.filter fun entry => !store.turnFacts.contains entry.1

/-- Complete or downgrade one piece of interrupted evidence. -/
def resumeInterrupted (store : FakePersist)
    (entry : AttemptId × NativeWriteEvidence) : FakePersist :=
  match entry.2 with
  | .writerAccepted _ =>
      { store with writeEvidence := store.writeEvidence.insert entry.1 .unknown }
  | .exactResponse fact =>
      { store with turnFacts := store.turnFacts.insert entry.1 [fact] }
  | .provenNotAccepted => store
  | .unknown => store

/-- Attempts whose reservation never concluded and has no evidence. -/
def unresolvedAttempts (store : FakePersist) : List AttemptId :=
  (store.reservations.toList.filter fun entry =>
    !entry.2.concluded && !store.writeEvidence.contains entry.1).map Prod.fst

/-- Classify one reservation as unknown under a fresh evidence reference. -/
def classifyUnknown (store : FakePersist) (attemptId : AttemptId)
    (evidenceRef : VerifierRef) : FakePersist :=
  { store with
    writeEvidence := store.writeEvidence.insert attemptId .unknown
    writeEvidenceRefs := store.writeEvidenceRefs.insert attemptId evidenceRef
    reservations :=
      match store.reservations[attemptId]? with
      | none => store.reservations
      | some reservation =>
          store.reservations.insert attemptId
            { reservation with concluded := true } }

/-- Classify attempts in order; the references are the random draws in order,
and running out of them is an entropy failure. -/
def classifyAll : List AttemptId → List VerifierRef → FakePersist →
    Except PersistError Unit × FakePersist
  | [], _, store => (.ok (), store)
  | _ :: _, [], store => (.error .storageUnavailable, store)
  | attemptId :: rest, evidenceRef :: draws, store =>
      classifyAll rest draws (store.classifyUnknown attemptId evidenceRef)

section Validation

variable [Blake3]

/-- Check one claim against its payload. -/
def validateClaimCoverage (store : FakePersist) (claim : PersistedClaimRecord) :
    Except PersistError Unit :=
  if claimCoverageInvalid claim store.payloads[claim.payloadRef]? then
    .error .conflict
  else
    match store.payloads[claim.payloadRef]? with
    | some payload =>
        if claim.eventRefs.asSlice ≠ payload.eventRefs then .error .conflict
        else if canonicalClaimDigest claim.requestId claim.armId claim.generation
            claim.signalId claim.eventRefs payload claim.coverage
            claim.drainWitness ≠ claim.claimDigest then
          .error .conflict
        else .ok ()
    | none =>
        if claim.coverage.isSome || claim.drainWitness.isSome then
          .error .payloadUnavailable
        else .ok ()

/-- Check every claim against its payload. -/
def validateRecoveredCoverage (store : FakePersist) : Except PersistError Unit :=
  checkAll store.validateClaimCoverage (BTreeMap.rows store.claims)

end Validation

/-- Write evidence rows that still have a reservation and a reference. -/
def evidenceRow (store : FakePersist) (attemptId : AttemptId)
    (evidence : NativeWriteEvidence) : Option PersistedNativeWriteEvidence :=
  match store.reservations[attemptId]?, store.writeEvidenceRefs[attemptId]? with
  | some reservation, some evidenceRef =>
      some ⟨reservation.correlation, evidence, evidenceRef⟩
  | _, _ => none

/-- Metadata dump of a store. -/
def snapshot (store : FakePersist) : RecoverySnapshot where
  arms := BTreeMap.rows store.arms
  claims := BTreeMap.rows store.claims
  attachments := BTreeMap.rows store.attachments
  controllerBirths := BTreeMap.rows store.births
  ownership := store.ownership.toList.map fun entry => ⟨entry.1, entry.2⟩
  turnCorrelations := BTreeMap.rows store.prepared
  reservations := BTreeMap.rows store.reservations
  nativeWriteEvidence := store.writeEvidence.toList.filterMap fun entry =>
    store.evidenceRow entry.1 entry.2
  nativeTurnFacts := store.turnFacts.toList.map fun entry => ⟨entry.1, entry.2⟩
  reconciliations := store.reconciliations.toList.map fun entry => ⟨entry.1, entry.2⟩
  prewriteConclusions := BTreeMap.rows store.prewrite
  activeObservations := BTreeMap.rows store.activeObservations
  helperGrants := store.grants
  retiredHelperGrants := store.retiredGrants
  retrieveReplays := BTreeMap.rows store.retrieveReplays
  retrievalBindings := BTreeMap.rows store.retrievals
  ackReplays := BTreeMap.rows store.ackReplays
  handledCoverage := BTreeMap.rows store.handled
  rearmedJoins := store.rearmed.keys
  attemptSeq := store.attemptSeq

/-- The store after the quarantine and the interrupted evidence. -/
def resumed (store : FakePersist) : FakePersist :=
  store.quarantineReservedOwnership.interruptedFacts.foldl resumeInterrupted
    store.quarantineReservedOwnership

/-- The store and outcome after all three passes. -/
def classified (draws : List VerifierRef) (store : FakePersist) :
    Except PersistError Unit × FakePersist :=
  classifyAll store.resumed.unresolvedAttempts draws store.resumed

/-- Recover the authority metadata of a store. -/
def recoverAuthorityState [Blake3] (draws : List VerifierRef) (store : FakePersist) :
    Except PersistError RecoverySnapshot × FakePersist :=
  match store.classified draws with
  | (.error refusal, next) => (.error refusal, next)
  | (.ok (), next) =>
      if next.helperRequestNonceCollision then (.error .conflict, next)
      else
        match next.validateRecoveredCoverage with
        | .error refusal => (.error refusal, next)
        | .ok () => (.ok next.snapshot, next)

/-! ## What the passes do to one attempt -/

/-- Facts of an attempt after recovery. -/
def resumedFacts (facts : Option (List NativeTurnFact))
    (evidence : Option NativeWriteEvidence) : Option (List NativeTurnFact) :=
  match facts, evidence with
  | some facts, _ => some facts
  | none, some (.exactResponse fact) => some [fact]
  | none, _ => none

/-- Evidence of an attempt after the interrupted evidence was completed. -/
def resumedEvidence (facts : Option (List NativeTurnFact))
    (evidence : Option NativeWriteEvidence) : Option NativeWriteEvidence :=
  match facts, evidence with
  | none, some (.writerAccepted _) => some .unknown
  | _, evidence => evidence

/-- Resuming an interrupted write changes its evidence and its facts alone. -/
theorem resumeInterrupted_frame (store : FakePersist)
    (entry : AttemptId × NativeWriteEvidence) :
    store.resumeInterrupted entry =
      { store with
        writeEvidence := (store.resumeInterrupted entry).writeEvidence
        turnFacts := (store.resumeInterrupted entry).turnFacts } := by
  unfold resumeInterrupted
  split <;> rfl

/-- Resuming interrupted writes changes evidence and facts alone. -/
theorem foldl_resumeInterrupted_frame
    (list : List (AttemptId × NativeWriteEvidence)) (store : FakePersist) :
    list.foldl resumeInterrupted store =
      { store with
        writeEvidence := (list.foldl resumeInterrupted store).writeEvidence
        turnFacts := (list.foldl resumeInterrupted store).turnFacts } := by
  induction list generalizing store with
  | nil => rfl
  | cons entry rest inductionHypothesis =>
      rw [List.foldl_cons, inductionHypothesis, resumeInterrupted_frame]

/-- An entry touches only its own attempt. -/
theorem resumeInterrupted_other (store : FakePersist)
    (entry : AttemptId × NativeWriteEvidence) {attemptId : AttemptId}
    (different : entry.1 ≠ attemptId) :
    (store.resumeInterrupted entry).writeEvidence[attemptId]? =
        store.writeEvidence[attemptId]? ∧
      (store.resumeInterrupted entry).turnFacts[attemptId]? =
        store.turnFacts[attemptId]? := by
  unfold resumeInterrupted
  split
  · exact ⟨BTreeMap.getElem?_insert_ne _ _ different, rfl⟩
  · exact ⟨rfl, BTreeMap.getElem?_insert_ne _ _ different⟩
  · exact ⟨rfl, rfl⟩
  · exact ⟨rfl, rfl⟩

/-- An attempt that is not listed is not resumed. -/
theorem foldl_resumeInterrupted_other
    (list : List (AttemptId × NativeWriteEvidence)) (store : FakePersist)
    {attemptId : AttemptId} (absent : attemptId ∉ list.map Prod.fst) :
    (list.foldl resumeInterrupted store).writeEvidence[attemptId]? =
        store.writeEvidence[attemptId]? ∧
      (list.foldl resumeInterrupted store).turnFacts[attemptId]? =
        store.turnFacts[attemptId]? := by
  induction list generalizing store with
  | nil => exact ⟨rfl, rfl⟩
  | cons entry rest inductionHypothesis =>
      simp only [List.map_cons, List.mem_cons, not_or] at absent
      have here := resumeInterrupted_other store entry (Ne.symm absent.1)
      have later := inductionHypothesis (store.resumeInterrupted entry) absent.2
      exact ⟨later.1.trans here.1, later.2.trans here.2⟩

/-- An interrupted attempt gets its fact completed or its evidence downgraded. -/
theorem resumeInterrupted_self (store : FakePersist) (attemptId : AttemptId)
    (evidence : NativeWriteEvidence)
    (stored : store.writeEvidence[attemptId]? = some evidence)
    (factless : store.turnFacts[attemptId]? = none) :
    (store.resumeInterrupted (attemptId, evidence)).writeEvidence[attemptId]? =
        resumedEvidence none (some evidence) ∧
      (store.resumeInterrupted (attemptId, evidence)).turnFacts[attemptId]? =
        resumedFacts none (some evidence) := by
  cases evidence with
  | provenNotAccepted => exact ⟨stored, factless⟩
  | writerAccepted writeId => exact ⟨BTreeMap.getElem?_insert_same _ _ _, factless⟩
  | exactResponse fact => exact ⟨stored, BTreeMap.getElem?_insert_same _ _ _⟩
  | unknown => exact ⟨stored, factless⟩

/-- A listed attempt is resumed with its own evidence. -/
theorem foldl_resumeInterrupted_mem
    (list : List (AttemptId × NativeWriteEvidence)) (store : FakePersist)
    (distinct : (list.map Prod.fst).Nodup)
    {attemptId : AttemptId} {evidence : NativeWriteEvidence}
    (present : (attemptId, evidence) ∈ list)
    (stored : store.writeEvidence[attemptId]? = some evidence)
    (factless : store.turnFacts[attemptId]? = none) :
    (list.foldl resumeInterrupted store).writeEvidence[attemptId]? =
        resumedEvidence none (some evidence) ∧
      (list.foldl resumeInterrupted store).turnFacts[attemptId]? =
        resumedFacts none (some evidence) := by
  induction list generalizing store with
  | nil => cases present
  | cons entry rest inductionHypothesis =>
      simp only [List.map_cons, List.nodup_cons] at distinct
      rcases List.mem_cons.1 present with rfl | inRest
      · have later := foldl_resumeInterrupted_other rest
          (store.resumeInterrupted (attemptId, evidence)) distinct.1
        have here := resumeInterrupted_self store attemptId evidence stored factless
        exact ⟨later.1.trans here.1, later.2.trans here.2⟩
      · have different : entry.1 ≠ attemptId := by
          intro equal
          exact distinct.1 (equal ▸ List.mem_map.2 ⟨_, inRest, rfl⟩)
        have frame := resumeInterrupted_other store entry different
        exact inductionHypothesis _ distinct.2 inRest
          (frame.1.trans stored) (frame.2.trans factless)

/-- Facts and evidence of one attempt after the interrupted evidence was
completed. -/
theorem resumed_attempt (store : FakePersist) (attemptId : AttemptId) :
    store.resumed.writeEvidence[attemptId]? =
        resumedEvidence store.turnFacts[attemptId]? store.writeEvidence[attemptId]? ∧
      store.resumed.turnFacts[attemptId]? =
        resumedFacts store.turnFacts[attemptId]? store.writeEvidence[attemptId]? := by
  have distinct : (store.quarantineReservedOwnership.interruptedFacts.map
      Prod.fst).Nodup := by
    have sublist : (store.quarantineReservedOwnership.interruptedFacts.map
        Prod.fst).Sublist store.writeEvidence.keys := by
      rw [← Std.ExtTreeMap.map_fst_toList_eq_keys]
      exact List.filter_sublist.map _
    exact sublist.nodup Std.ExtTreeMap.nodup_keys
  cases evidence : store.writeEvidence[attemptId]? with
  | none =>
      have absent : attemptId ∉ store.quarantineReservedOwnership.interruptedFacts.map
          Prod.fst := by
        intro present
        obtain ⟨⟨found, stored⟩, listed, rfl⟩ := List.mem_map.1 present
        have entry := Std.ExtTreeMap.mem_toList_iff_getElem?_eq_some.1
          (List.mem_filter.1 listed).1
        exact absurd (entry.symm.trans evidence) (by simp)
      have frame := foldl_resumeInterrupted_other _
        store.quarantineReservedOwnership absent
      refine ⟨frame.1.trans (evidence.trans ?_), frame.2.trans ?_⟩
      · cases store.turnFacts[attemptId]? <;> rfl
      · change store.turnFacts[attemptId]? = _
        cases store.turnFacts[attemptId]? <;> rfl
  | some found =>
      cases facts : store.turnFacts[attemptId]? with
      | some stored =>
          have absent : attemptId ∉
              store.quarantineReservedOwnership.interruptedFacts.map Prod.fst := by
            intro present
            obtain ⟨⟨key, value⟩, listed, rfl⟩ := List.mem_map.1 present
            have factless := (List.mem_filter.1 listed).2
            simp only [Bool.not_eq_true'] at factless
            have none := (BTreeMap.contains_eq_false_iff _ _).1 factless
            exact absurd (facts.symm.trans none) (by simp)
          have frame := foldl_resumeInterrupted_other _
            store.quarantineReservedOwnership absent
          exact ⟨frame.1.trans evidence, frame.2.trans facts⟩
      | none =>
          have present : (attemptId, found) ∈
              store.quarantineReservedOwnership.interruptedFacts := by
            refine List.mem_filter.2
              ⟨Std.ExtTreeMap.mem_toList_iff_getElem?_eq_some.2 evidence, ?_⟩
            simp only [Bool.not_eq_true']
            exact (BTreeMap.contains_eq_false_iff _ _).2 facts
          exact foldl_resumeInterrupted_mem _ store.quarantineReservedOwnership
            distinct present evidence facts

/-- Completing interrupted evidence changes nothing else. -/
theorem resumed_frame (store : FakePersist) :
    store.resumed =
      { store with
        ownership := store.ownership.map fun _ state => quarantineReserved state
        writeEvidence := store.resumed.writeEvidence
        turnFacts := store.resumed.turnFacts } :=
  foldl_resumeInterrupted_frame _ _

@[simp] theorem resumed_reservations (store : FakePersist) :
    store.resumed.reservations = store.reservations := by
  rw [resumed_frame]

@[simp] theorem resumed_writeEvidenceRefs (store : FakePersist) :
    store.resumed.writeEvidenceRefs = store.writeEvidenceRefs := by
  rw [resumed_frame]

/-! ## Classification -/

/-- The rows of one attempt that classification may touch. -/
structure Classifiable where
  reservation : Option PersistedNativeReservation
  evidence : Option NativeWriteEvidence
  evidenceRef : Option VerifierRef

/-- The rows of one attempt that classification may touch. -/
def classifiable (store : FakePersist) (attemptId : AttemptId) : Classifiable where
  reservation := store.reservations[attemptId]?
  evidence := store.writeEvidence[attemptId]?
  evidenceRef := store.writeEvidenceRefs[attemptId]?

/-- The rows of an attempt after it was classified as unknown. -/
def Classifiable.unknown (rows : Classifiable) (evidenceRef : VerifierRef) :
    Classifiable where
  reservation := rows.reservation.map fun reservation =>
    { reservation with concluded := true }
  evidence := some .unknown
  evidenceRef := some evidenceRef

/-- Classifying an attempt makes it unknown. -/
theorem classifyUnknown_self (store : FakePersist) (attemptId : AttemptId)
    (evidenceRef : VerifierRef) :
    (store.classifyUnknown attemptId evidenceRef).classifiable attemptId =
      (store.classifiable attemptId).unknown evidenceRef := by
  simp only [classifiable, classifyUnknown, Classifiable.unknown,
    BTreeMap.getElem?_insert_same]
  cases stored : store.reservations[attemptId]? with
  | none => simp [stored]
  | some reservation => simp

/-- Classifying an attempt leaves the others alone. -/
theorem classifyUnknown_other (store : FakePersist) {attemptId other : AttemptId}
    (evidenceRef : VerifierRef) (different : attemptId ≠ other) :
    (store.classifyUnknown attemptId evidenceRef).classifiable other =
      store.classifiable other := by
  simp only [classifiable, classifyUnknown,
    BTreeMap.getElem?_insert_ne _ _ different]
  cases store.reservations[attemptId]? with
  | none => rfl
  | some reservation => simp only [BTreeMap.getElem?_insert_ne _ _ different]

/-- Classifying attempts changes the tables of classification alone. -/
theorem classifyAll_frame (attempts : List AttemptId) (draws : List VerifierRef)
    (store : FakePersist) :
    (classifyAll attempts draws store).2 =
      { store with
        reservations := (classifyAll attempts draws store).2.reservations
        writeEvidence := (classifyAll attempts draws store).2.writeEvidence
        writeEvidenceRefs := (classifyAll attempts draws store).2.writeEvidenceRefs } := by
  induction attempts generalizing draws store with
  | nil => rfl
  | cons attemptId rest inductionHypothesis =>
      cases draws with
      | nil => rfl
      | cons evidenceRef draws =>
          rw [classifyAll, inductionHypothesis]
          rfl

/-- Classification touches only the listed attempts. -/
theorem classifyAll_other (attempts : List AttemptId) (draws : List VerifierRef)
    (store : FakePersist) {other : AttemptId} (absent : other ∉ attempts) :
    (classifyAll attempts draws store).2.classifiable other =
      store.classifiable other := by
  induction attempts generalizing draws store with
  | nil => rfl
  | cons attemptId rest inductionHypothesis =>
      simp only [List.mem_cons, not_or] at absent
      cases draws with
      | nil => rfl
      | cons evidenceRef draws =>
          rw [classifyAll, inductionHypothesis draws _ absent.2,
            classifyUnknown_other store evidenceRef (Ne.symm absent.1)]

/-- A listed attempt is classified once or, when the draws ran out, left alone. -/
theorem classifyAll_mem (attempts : List AttemptId) (draws : List VerifierRef)
    (store : FakePersist) (distinct : attempts.Nodup)
    {attemptId : AttemptId} (present : attemptId ∈ attempts) :
    (∃ evidenceRef ∈ draws,
        (classifyAll attempts draws store).2.classifiable attemptId =
          (store.classifiable attemptId).unknown evidenceRef) ∨
      ((classifyAll attempts draws store).1 = .error .storageUnavailable ∧
        (classifyAll attempts draws store).2.classifiable attemptId =
          store.classifiable attemptId) := by
  induction attempts generalizing draws store with
  | nil => cases present
  | cons head rest inductionHypothesis =>
      simp only [List.nodup_cons] at distinct
      cases draws with
      | nil => exact .inr ⟨rfl, rfl⟩
      | cons evidenceRef draws =>
          rcases List.mem_cons.1 present with rfl | inRest
          · left
            refine ⟨evidenceRef, by simp, ?_⟩
            rw [classifyAll, classifyAll_other rest draws _ distinct.1,
              classifyUnknown_self]
          · have different : head ≠ attemptId := fun equal =>
              distinct.1 (equal ▸ inRest)
            have untouched := classifyUnknown_other store evidenceRef different
            rw [classifyAll]
            rcases inductionHypothesis draws
              (store.classifyUnknown head evidenceRef) distinct.2 inRest with
              ⟨drawn, listed, done⟩ | ⟨failed, left⟩
            · refine .inl ⟨drawn, by simp [listed], ?_⟩
              rw [done, untouched]
            · exact .inr ⟨failed, left.trans untouched⟩

/-- Listed attempts are the ones with an unconcluded reservation and no
evidence. -/
theorem mem_unresolvedAttempts (store : FakePersist) (attemptId : AttemptId) :
    attemptId ∈ store.unresolvedAttempts ↔
      ∃ reservation, store.reservations[attemptId]? = some reservation ∧
        reservation.concluded = false ∧ store.writeEvidence[attemptId]? = none := by
  simp only [unresolvedAttempts, List.mem_map, List.mem_filter, Prod.exists,
    Std.ExtTreeMap.mem_toList_iff_getElem?_eq_some, Bool.and_eq_true,
    Bool.not_eq_true', BTreeMap.contains_eq_false_iff]
  constructor
  · rintro ⟨_, reservation, ⟨stored, open', vacant⟩, rfl⟩
    exact ⟨reservation, stored, open', vacant⟩
  · rintro ⟨reservation, stored, open', vacant⟩
    exact ⟨attemptId, reservation, ⟨stored, open', vacant⟩, rfl⟩

/-- An attempt is listed once. -/
theorem unresolvedAttempts_nodup (store : FakePersist) :
    store.unresolvedAttempts.Nodup := by
  have sublist : store.unresolvedAttempts.Sublist store.reservations.keys := by
    rw [← Std.ExtTreeMap.map_fst_toList_eq_keys]
    exact List.filter_sublist.map _
  exact sublist.nodup Std.ExtTreeMap.nodup_keys

/-! ## Recovery as a whole -/

/-- Recovery always leaves the store the passes leave. -/
theorem recoverAuthorityState_store [Blake3] (draws : List VerifierRef)
    (store : FakePersist) :
    (store.recoverAuthorityState draws).2 = (store.classified draws).2 := by
  unfold recoverAuthorityState
  split
  · next passed => rw [passed]
  · next passed =>
    rw [passed]
    split
    · rfl
    · split <;> rfl

/-- A recovery that succeeds classified everything and dumps the store it
leaves. -/
theorem recoverAuthorityState_ok [Blake3] {draws : List VerifierRef}
    {store : FakePersist} {dump : RecoverySnapshot}
    (recovered : (store.recoverAuthorityState draws).1 = .ok dump) :
    (store.classified draws).1 = .ok () ∧
      dump = (store.classified draws).2.snapshot ∧
      (store.classified draws).2.helperRequestNonceCollision = false ∧
      (store.classified draws).2.validateRecoveredCoverage = .ok () := by
  unfold recoverAuthorityState at recovered
  split at recovered
  · cases recovered
  · next next passed =>
    rw [passed]
    split at recovered
    · cases recovered
    · next distinct =>
      split at recovered
      · cases recovered
      · next valid =>
        simp only [Except.ok.injEq] at recovered
        exact ⟨rfl, recovered.symm, by simpa using distinct, valid⟩

/-- The passes touch ownership, reservations, evidence and facts only. -/
theorem classified_frame (draws : List VerifierRef) (store : FakePersist) :
    (store.classified draws).2 =
      { store with
        ownership := store.ownership.map fun _ state => quarantineReserved state
        reservations := (store.classified draws).2.reservations
        writeEvidence := (store.classified draws).2.writeEvidence
        writeEvidenceRefs := (store.classified draws).2.writeEvidenceRefs
        turnFacts := store.resumed.turnFacts } := by
  unfold classified
  rw [classifyAll_frame, resumed_frame]

/-- Facts of an attempt after recovery. -/
theorem classified_turnFacts (draws : List VerifierRef) (store : FakePersist)
    (attemptId : AttemptId) :
    (store.classified draws).2.turnFacts[attemptId]? =
      resumedFacts store.turnFacts[attemptId]? store.writeEvidence[attemptId]? := by
  rw [classified_frame]
  exact (resumed_attempt store attemptId).2

/-- Rows of an attempt after recovery: completed evidence, or an unknown one for
an unconcluded reservation that had none. -/
theorem classified_attempt (draws : List VerifierRef) (store : FakePersist)
    (attemptId : AttemptId) :
    let rows : Classifiable :=
      ⟨store.reservations[attemptId]?,
        resumedEvidence store.turnFacts[attemptId]? store.writeEvidence[attemptId]?,
        store.writeEvidenceRefs[attemptId]?⟩
    let open' := ∃ reservation, store.reservations[attemptId]? = some reservation ∧
      reservation.concluded = false ∧ store.writeEvidence[attemptId]? = none
    (¬open' ∧ (store.classified draws).2.classifiable attemptId = rows) ∨
      (open' ∧ ((∃ evidenceRef ∈ draws,
          (store.classified draws).2.classifiable attemptId =
            rows.unknown evidenceRef) ∨
        ((store.classified draws).1 = .error .storageUnavailable ∧
          (store.classified draws).2.classifiable attemptId = rows))) := by
  intro rows open'
  have start : store.resumed.classifiable attemptId = rows := by
    simp only [classifiable, resumed_reservations, resumed_writeEvidenceRefs,
      (resumed_attempt store attemptId).1, rows]
  have listed : attemptId ∈ store.resumed.unresolvedAttempts ↔ open' := by
    rw [mem_unresolvedAttempts, resumed_reservations,
      (resumed_attempt store attemptId).1]
    have vacant : resumedEvidence store.turnFacts[attemptId]?
        store.writeEvidence[attemptId]? = none ↔
          store.writeEvidence[attemptId]? = none := by
      cases store.turnFacts[attemptId]? <;> cases store.writeEvidence[attemptId]? with
      | none => simp [resumedEvidence]
      | some evidence => cases evidence <;> simp [resumedEvidence]
    simp only [vacant, open']
  unfold classified
  by_cases present : attemptId ∈ store.resumed.unresolvedAttempts
  · refine .inr ⟨listed.1 present, ?_⟩
    rw [← start]
    exact classifyAll_mem _ draws _ (unresolvedAttempts_nodup _) present
  · refine .inl ⟨fun isOpen => present (listed.2 isOpen), ?_⟩
    rw [← start]
    exact classifyAll_other _ draws _ present

/-- A reservation after recovery is a stored one, possibly concluded. -/
theorem classified_reservation {draws : List VerifierRef} {store : FakePersist}
    {attemptId : AttemptId} {reservation : PersistedNativeReservation}
    (present : (store.classified draws).2.reservations[attemptId]? =
      some reservation) :
    ∃ original, store.reservations[attemptId]? = some original ∧
      (reservation = original ∨
        reservation = { original with concluded := true }) := by
  have rows := classified_attempt draws store attemptId
  simp only [classifiable, Classifiable.unknown] at rows
  rcases rows with ⟨_, same⟩ | ⟨⟨original, stored, _⟩, ⟨_, _, same⟩ | ⟨_, same⟩⟩
  all_goals
    simp only [Classifiable.mk.injEq] at same
    rw [present] at same
  · exact ⟨reservation, same.1.symm, .inl rfl⟩
  · rw [stored, Option.map_some, Option.some.injEq] at same
    exact ⟨original, stored, .inr same.1⟩
  · exact ⟨reservation, same.1.symm, .inl rfl⟩

end FakePersist
end Gearwit
