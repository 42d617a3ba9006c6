import Gearwit.Persist.Restore
import Gearwit.Persist.Synthetic

/-!
# Helper evidence of an accepted snapshot

Restore checks every helper row against the claims, but not the acknowledgements
against the handled coverage, nor origins and joins against the attachments and
births.  This module says which snapshots restore accepts with complete helper
evidence: those whose coverage is the furthest acknowledged cursor of every claim
and whose retrievals and joins name attachments and births of the snapshot.
-/

namespace Gearwit
namespace FakePersist

/-! ## Complete evidence -/

/-- A row of an attempt and birth names a claim, an attachment and a birth of the
store. -/
structure NamesAuthority (store : FakePersist) (attemptId : AttemptId)
    (birthId : ControllerBirthId) : Prop where
  claim : ∃ claim ∈ BTreeMap.rows store.claims, claim.attemptId = attemptId
  attachment : ∃ attachment, store.attachments[attemptId]? = some attachment
  birth : ∃ birth, store.births[birthId]? = some birth

/-- Nothing of the helper evidence is missing, gapped or rolled back. -/
structure EvidenceComplete (store : FakePersist) : Prop where
  covered : ∀ replay ∈ BTreeMap.rows store.ackReplays,
    ∃ coverage, store.handled[replay.result.attemptId]? = some coverage ∧
      ∀ claim ∈ BTreeMap.rows store.claims,
        claim.attemptId = replay.result.attemptId →
          claim.eventRefs.asSlice.idxOf replay.cursor ≤
            claim.eventRefs.asSlice.idxOf coverage.cursor
  acknowledged : ∀ coverage ∈ BTreeMap.rows store.handled,
    ∃ replay ∈ BTreeMap.rows store.ackReplays,
      replay.result.attemptId = coverage.attemptId ∧ replay.cursor = coverage.cursor
  retrievals : ∀ stored ∈ BTreeMap.rows store.retrievals,
    NamesAuthority store stored.origin.attemptId stored.origin.birthId
  retrieveReplays : ∀ replay ∈ BTreeMap.rows store.retrieveReplays,
    NamesAuthority store replay.origin.attemptId replay.origin.birthId
  ackReplays : ∀ replay ∈ BTreeMap.rows store.ackReplays,
    ∃ stored, store.retrievals[replay.retrievalId]? = some stored ∧
      NamesAuthority store replay.result.attemptId stored.origin.birthId
  joins : ∀ join ∈ store.rearmed.keys,
    ∃ attachment, store.attachments[join.attemptId]? = some attachment ∧
      NamesAuthority store join.attemptId attachment.birthId

/-! ## Audited snapshots -/

/-- Position of the handled cursor of a claim's attempt. -/
def coveredPosition (snapshot : RecoverySnapshot) (claim : PersistedClaimRecord) :
    Option Nat :=
  (snapshot.handledCoverage.find? fun coverage =>
    decide (coverage.attemptId = claim.attemptId)).map fun coverage =>
      claim.eventRefs.asSlice.idxOf coverage.cursor

/-- Positions acknowledged for a claim's attempt. -/
def acknowledgedPositions (snapshot : RecoverySnapshot)
    (claim : PersistedClaimRecord) : List Nat :=
  (snapshot.ackReplays.filter fun replay =>
    decide (replay.result.attemptId = claim.attemptId)).map fun replay =>
      claim.eventRefs.asSlice.idxOf replay.cursor

/-- Whether a snapshot has an attachment of an attempt. -/
def listsAttachment (snapshot : RecoverySnapshot) (attemptId : AttemptId) : Bool :=
  snapshot.attachments.any fun attachment =>
    decide (attachment.attemptId = attemptId)

/-- Whether a snapshot has a birth. -/
def listsBirth (snapshot : RecoverySnapshot) (birthId : ControllerBirthId) : Bool :=
  snapshot.controllerBirths.any fun birth => decide (birth.birthId = birthId)

/-- The rows of a snapshot agree across its helper tables. -/
structure Audited (snapshot : RecoverySnapshot) : Prop where
  furthest : ∀ claim ∈ snapshot.claims,
    coveredPosition snapshot claim = (acknowledgedPositions snapshot claim).max?
  origins : ∀ stored ∈ snapshot.retrievalBindings,
    listsAttachment snapshot stored.origin.attemptId = true ∧
      listsBirth snapshot stored.origin.birthId = true
  joins : ∀ join ∈ snapshot.rearmedJoins,
    (snapshot.attachments.any fun attachment =>
      decide (attachment.attemptId = join.attemptId) &&
        listsBirth snapshot attachment.birthId) = true

/-- The audit can be run on a snapshot. -/
instance (snapshot : RecoverySnapshot) : Decidable (Audited snapshot) :=
  decidable_of_iff
    ((∀ claim ∈ snapshot.claims, coveredPosition snapshot claim =
        (acknowledgedPositions snapshot claim).max?) ∧
      (∀ stored ∈ snapshot.retrievalBindings,
        listsAttachment snapshot stored.origin.attemptId = true ∧
          listsBirth snapshot stored.origin.birthId = true) ∧
      ∀ join ∈ snapshot.rearmedJoins,
        (snapshot.attachments.any fun attachment =>
          decide (attachment.attemptId = join.attemptId) &&
            listsBirth snapshot attachment.birthId) = true)
    ⟨fun held => ⟨held.1, held.2.1, held.2.2⟩,
      fun audited => ⟨audited.furthest, audited.origins, audited.joins⟩⟩

section Accepted

variable {activeMacKey : Bytes32} {snapshot : RecoverySnapshot}
  {payloads : BTreeMap ClaimPayloadRef BoundedClaimPayload} {store : FakePersist}

/-- Listed attachments are stored. -/
theorem Rebuilt.listsAttachment_iff
    (rebuilt : Rebuilt activeMacKey snapshot payloads store) (attemptId : AttemptId) :
    listsAttachment snapshot attemptId = true ↔
      ∃ attachment, store.attachments[attemptId]? = some attachment := by
  simp only [listsAttachment, List.any_eq_true, decide_eq_true_eq]
  constructor
  · rintro ⟨attachment, listed, rfl⟩
    exact ⟨attachment, (mem_rows_collect rebuilt.attachments _).2 listed⟩
  · rintro ⟨attachment, stored⟩
    have named := keyed_collect rebuilt.attachments _ _ stored
    subst named
    exact ⟨attachment, (mem_rows_collect rebuilt.attachments _).1 stored, rfl⟩

/-- Listed births are stored. -/
theorem Rebuilt.listsBirth_iff
    (rebuilt : Rebuilt activeMacKey snapshot payloads store)
    (birthId : ControllerBirthId) :
    listsBirth snapshot birthId = true ↔
      ∃ birth, store.births[birthId]? = some birth := by
  simp only [listsBirth, List.any_eq_true, decide_eq_true_eq]
  constructor
  · rintro ⟨birth, listed, rfl⟩
    exact ⟨birth, (mem_rows_collect rebuilt.births _).2 listed⟩
  · rintro ⟨birth, stored⟩
    have named := keyed_collect rebuilt.births _ _ stored
    subst named
    exact ⟨birth, (mem_rows_collect rebuilt.births _).1 stored, rfl⟩

/-- Collected rows are listed rows. -/
theorem mem_rows_of_collect {κ α : Type} [Ord κ] [Std.TransOrd κ]
    [Std.LawfulEqOrd κ] {key : α → κ} {list : List α} {map : BTreeMap κ α}
    (collected : collect key id list = .ok map) (row : α) :
    row ∈ BTreeMap.rows map ↔ row ∈ list := by
  rw [← mem_rows_collect collected]
  constructor
  · exact (keyed_collect collected).stored_of_mem
  · exact fun stored => (BTreeMap.mem_rows _ _).2 ⟨key row, stored⟩

/-- The listed coverage of an attempt is the stored one. -/
theorem Rebuilt.find?_handled
    (rebuilt : Rebuilt activeMacKey snapshot payloads store) (attemptId : AttemptId) :
    (snapshot.handledCoverage.find? fun coverage =>
      decide (coverage.attemptId = attemptId)) = store.handled[attemptId]? := by
  cases found : snapshot.handledCoverage.find? fun coverage =>
      decide (coverage.attemptId = attemptId) with
  | some coverage =>
      have named : coverage.attemptId = attemptId := by
        simpa using List.find?_some found
      subst named
      exact ((mem_rows_collect rebuilt.handled coverage).2
        (List.mem_of_find?_eq_some found)).symm
  | none =>
      cases stored : store.handled[attemptId]? with
      | none => rfl
      | some coverage =>
          have named := keyed_collect rebuilt.handled _ _ stored
          subst named
          have listed := (mem_rows_collect rebuilt.handled coverage).1 stored
          have untested := List.find?_eq_none.1 found coverage listed
          simp at untested

/-- Claims, coverage and acknowledgements of an accepted store agree exactly when
the coverage of every claim is its furthest acknowledged position. -/
theorem furthest_iff [Blake3] (rebuilt : Rebuilt activeMacKey snapshot payloads store)
    (invariants : HelperInvariants store) :
    (∀ claim ∈ snapshot.claims,
      coveredPosition snapshot claim = (acknowledgedPositions snapshot claim).max?) ↔
    (∀ replay ∈ BTreeMap.rows store.ackReplays,
      ∃ coverage, store.handled[replay.result.attemptId]? = some coverage ∧
        ∀ claim ∈ BTreeMap.rows store.claims,
          claim.attemptId = replay.result.attemptId →
            claim.eventRefs.asSlice.idxOf replay.cursor ≤
              claim.eventRefs.asSlice.idxOf coverage.cursor) ∧
    (∀ coverage ∈ BTreeMap.rows store.handled,
      ∃ replay ∈ BTreeMap.rows store.ackReplays,
        replay.result.attemptId = coverage.attemptId ∧
          replay.cursor = coverage.cursor) := by
  have claimRows : ∀ claim, claim ∈ BTreeMap.rows store.claims ↔
      claim ∈ snapshot.claims := mem_rows_of_collect rebuilt.claims
  have ackRows : ∀ replay, replay ∈ BTreeMap.rows store.ackReplays ↔
      replay ∈ snapshot.ackReplays := mem_rows_of_collect rebuilt.ackReplays
  have positions : ∀ claim position,
      position ∈ acknowledgedPositions snapshot claim ↔
        ∃ replay ∈ BTreeMap.rows store.ackReplays,
          replay.result.attemptId = claim.attemptId ∧
            claim.eventRefs.asSlice.idxOf replay.cursor = position := by
    intro claim position
    simp only [acknowledgedPositions, List.mem_map, List.mem_filter,
      decide_eq_true_eq, ackRows, and_assoc]
  constructor
  · intro furthest
    constructor
    · intro replay present
      -- an accepted acknowledgement belongs to a stored claim
      obtain ⟨stored, _, _, _, _, claim, origin, attempt, _⟩ :=
        invariants.ackReplays replay present
      have listed := (claimRows claim).1 origin.stored.1
      have acknowledged := (positions claim _).2 ⟨replay, present, attempt, rfl⟩
      have found := furthest claim listed
      rw [coveredPosition, rebuilt.find?_handled, ← attempt] at found
      cases covered : store.handled[replay.result.attemptId]? with
      | none =>
          rw [covered, Option.map_none, eq_comm, List.max?_eq_none_iff] at found
          rw [found] at acknowledged
          cases acknowledged
      | some coverage =>
          refine ⟨coverage, rfl, ?_⟩
          intro other otherStored sameAttempt
          have otherFound := furthest other ((claimRows other).1 otherStored)
          rw [coveredPosition, rebuilt.find?_handled, sameAttempt, covered,
            Option.map_some, eq_comm, List.max?_eq_some_iff] at otherFound
          exact otherFound.2 _ ((positions other _).2
            ⟨replay, present, sameAttempt.symm, rfl⟩)
    · intro coverage present
      obtain ⟨claim, claimed, _, ⟨proved, position, _, placed, _⟩, _⟩ :=
        invariants.handled coverage present
      obtain ⟨claimStored, attempt⟩ := claimForAttempt_some claimed
      have stored := (keyed_collect rebuilt.handled).stored_of_mem present
      have found := furthest claim ((claimRows claim).1 claimStored)
      rw [coveredPosition, rebuilt.find?_handled, attempt, stored, Option.map_some,
        eq_comm, List.max?_eq_some_iff] at found
      obtain ⟨replay, replayed, sameAttempt, samePosition⟩ :=
        (positions claim _).1 found.1
      refine ⟨replay, replayed, sameAttempt.trans attempt, ?_⟩
      -- equal positions of a listed cursor mean equal cursors
      have listed : coverage.cursor ∈ claim.eventRefs.asSlice :=
        List.isSome_idxOf?.1 (by rw [placed]; rfl)
      exact (List.idxOf_inj listed).1 samePosition.symm |>.symm
  · rintro ⟨covered, acknowledged⟩ claim listed
    have stored := (claimRows claim).2 listed
    rw [coveredPosition, rebuilt.find?_handled]
    cases found : store.handled[claim.attemptId]? with
    | none =>
        rw [Option.map_none, eq_comm, List.max?_eq_none_iff, List.eq_nil_iff_forall_not_mem]
        intro position present
        obtain ⟨replay, replayed, sameAttempt, _⟩ := (positions claim position).1 present
        obtain ⟨coverage, present', _⟩ := covered replay replayed
        rw [sameAttempt, found] at present'
        cases present'
    | some coverage =>
        have named := keyed_collect rebuilt.handled _ _ found
        rw [Option.map_some, eq_comm, List.max?_eq_some_iff]
        constructor
        · obtain ⟨replay, replayed, sameAttempt, sameCursor⟩ :=
            acknowledged coverage ((BTreeMap.mem_rows _ _).2 ⟨_, found⟩)
          exact (positions claim _).2
            ⟨replay, replayed, sameAttempt.trans named, by rw [sameCursor]⟩
        · intro position present
          obtain ⟨replay, replayed, sameAttempt, rfl⟩ := (positions claim position).1 present
          obtain ⟨other, otherStored, bounded⟩ := covered replay replayed
          rw [sameAttempt, found, Option.some.injEq] at otherStored
          subst otherStored
          exact bounded claim stored sameAttempt.symm

/-- An accepted snapshot yields complete helper evidence exactly when its rows
agree across its helper tables. -/
theorem evidenceComplete_iff_audited [Blake3]
    (accepted : restoreFromSnapshot activeMacKey snapshot payloads = .ok store) :
    EvidenceComplete store ↔ Audited snapshot := by
  obtain ⟨tables, _, _, invariants⟩ :=
    (restoreFromSnapshot_eq_ok_iff _ _ _ _).1 accepted
  have rebuilt := (restoreTables_eq_ok_iff _ _ _ _).1 tables
  have furthest := furthest_iff rebuilt invariants
  have retrievalRows : ∀ stored, stored ∈ BTreeMap.rows store.retrievals ↔
      stored ∈ snapshot.retrievalBindings := mem_rows_of_collect rebuilt.retrievals
  have joinRows : ∀ join, join ∈ store.rearmed.keys ↔
      join ∈ snapshot.rearmedJoins := mem_keys_of_collect rebuilt.rearmed
  constructor
  · intro complete
    refine ⟨furthest.2 ⟨complete.covered, complete.acknowledged⟩, ?_, ?_⟩
    · intro stored listed
      have names := complete.retrievals stored ((retrievalRows stored).2 listed)
      exact ⟨(rebuilt.listsAttachment_iff _).2 names.attachment,
        (rebuilt.listsBirth_iff _).2 names.birth⟩
    · intro join listed
      obtain ⟨attachment, attached, names⟩ :=
        complete.joins join ((joinRows join).2 listed)
      have named := keyed_collect rebuilt.attachments _ _ attached
      rw [List.any_eq_true]
      refine ⟨attachment, ?_, ?_⟩
      · rw [← mem_rows_collect rebuilt.attachments, named]
        exact attached
      · simp only [named, decide_true, Bool.true_and]
        exact (rebuilt.listsBirth_iff _).2 names.birth
  · intro audited
    obtain ⟨covered, acknowledged⟩ := furthest.1 audited.furthest
    have origins : ∀ stored ∈ BTreeMap.rows store.retrievals,
        NamesAuthority store stored.origin.attemptId stored.origin.birthId := by
      intro stored present
      obtain ⟨_, _, claim, origin, _⟩ := invariants.retrievals stored present
      have listed := audited.origins stored ((retrievalRows stored).1 present)
      exact ⟨⟨claim, origin.stored.1, origin.attempt⟩,
        (rebuilt.listsAttachment_iff _).1 listed.1,
        (rebuilt.listsBirth_iff _).1 listed.2⟩
    refine ⟨covered, acknowledged, origins, ?_, ?_, ?_⟩
    · intro replay present
      obtain ⟨⟨stored, found, _, sameOrigin, _⟩, _⟩ :=
        invariants.retrieveReplays replay present
      rw [← sameOrigin]
      exact origins stored ((BTreeMap.mem_rows _ _).2 ⟨_, found⟩)
    · intro replay present
      obtain ⟨stored, found, _, _, _, claim, origin, attempt, _⟩ :=
        invariants.ackReplays replay present
      refine ⟨stored, found, ?_⟩
      rw [attempt, origin.attempt]
      exact origins stored ((BTreeMap.mem_rows _ _).2 ⟨_, found⟩)
    · intro join present
      obtain ⟨claim, claimed, _⟩ := invariants.joins join present
      obtain ⟨claimStored, attempt⟩ := claimForAttempt_some claimed
      have listed := audited.joins join ((joinRows join).1 present)
      rw [List.any_eq_true] at listed
      obtain ⟨attachment, attached, fields⟩ := listed
      simp only [Bool.and_eq_true, decide_eq_true_eq] at fields
      obtain ⟨named, born⟩ := fields
      have stored := (mem_rows_collect rebuilt.attachments attachment).2 attached
      rw [named] at stored
      exact ⟨attachment, stored, ⟨claim, claimStored, attempt⟩,
        ⟨attachment, stored⟩, (rebuilt.listsBirth_iff _).1 born⟩

end Accepted

/-! ## A rolled-back coverage table -/

section Sample

open Sample

/-- Binding of the sample grant. -/
def sampleBinding : ValidatedHelperBinding where
  grantRef := PrivateId.fixture 7
  seatId := seat
  armId := firstArm
  generation := 1
  birthId := PrivateId.fixture 1
  attemptId := firstAttempt
  signalId := signal
  claimDigest := (admission firstRequest firstArm firstEvent secondEvent).claimDigest
  operations := .all
  leaseUntil := lease

/-- An attempt that retrieved its batch and acknowledged the first event. -/
def acknowledgedRun : List PortOp :=
  opens firstRequest firstArm firstAttempt 1 firstEvent secondEvent ++
    [.persistHelperGrant
        (grant firstRequest firstArm firstAttempt 1 7 firstEvent secondEvent),
      .recordRetrieveExchange
        ⟨sampleBinding, PrivateId.fixture 20, canonicalRetrieveBodyDigest
          (canonicalBindingDigest sampleBinding) (PrivateId.fixture 20)⟩
        (some (PrivateId.fixture 30)),
      .acknowledgeRetrievedBatch sampleBinding
        ⟨PrivateId.fixture 21, PrivateId.fixture 30, firstEvent,
          canonicalAckBodyDigest (canonicalBindingDigest sampleBinding)
            (PrivateId.fixture 21) (PrivateId.fixture 30) firstEvent⟩]

/-- The metadata of the acknowledged run. -/
def acknowledgedSnapshot : RecoverySnapshot :=
  (after (PrivateId.fixture 0) acknowledgedRun).snapshot

/-- The same metadata with the coverage table rolled back to nothing. -/
def rolledBackSnapshot : RecoverySnapshot :=
  { acknowledgedSnapshot with handledCoverage := [] }

/-- The payloads of the acknowledged run. -/
def acknowledgedPayloads : BTreeMap ClaimPayloadRef BoundedClaimPayload :=
  (after (PrivateId.fixture 0) acknowledgedRun).payloads

/-- The untampered snapshot is accepted and its evidence is complete. -/
theorem acknowledged_snapshot_complete :
    ∃ store, restoreFromSnapshot (PrivateId.fixture 0) acknowledgedSnapshot
        acknowledgedPayloads = .ok store ∧
      (EvidenceComplete store ↔ Audited acknowledgedSnapshot) ∧
      EvidenceComplete store := by
  obtain ⟨store, accepted⟩ := exists_of_isOk (show (restoreFromSnapshot
    (PrivateId.fixture 0) acknowledgedSnapshot acknowledgedPayloads).isOk = true by
      decide +kernel)
  have iff := evidenceComplete_iff_audited accepted
  exact ⟨store, accepted, iff, iff.2 (by decide +kernel)⟩

/-- A snapshot whose coverage was rolled back is accepted all the same. -/
theorem rolled_back_snapshot_accepted :
    ¬∀ (snapshot : RecoverySnapshot)
      (payloads : BTreeMap ClaimPayloadRef BoundedClaimPayload) (store : FakePersist),
      restoreFromSnapshot (PrivateId.fixture 0) snapshot payloads = .ok store →
        EvidenceComplete store := by
  intro refuses
  obtain ⟨store, accepted⟩ := exists_of_isOk (show (restoreFromSnapshot
    (PrivateId.fixture 0) rolledBackSnapshot acknowledgedPayloads).isOk = true by
      decide +kernel)
  have complete := refuses _ _ store accepted
  have rebuilt := (restoreTables_eq_ok_iff _ _ _ _).1
    ((restoreFromSnapshot_eq_ok_iff _ _ _ _).1 accepted).1
  have listed : ∃ replay, replay ∈ rolledBackSnapshot.ackReplays :=
    List.exists_mem_of_ne_nil _ (by decide +kernel)
  obtain ⟨replay, present⟩ := listed
  obtain ⟨coverage, covered, _⟩ := complete.covered replay
    ((mem_rows_of_collect rebuilt.ackReplays replay).2 present)
  rw [← rebuilt.find?_handled] at covered
  cases covered

end Sample

end FakePersist
end Gearwit
