import Gearwit.Persist.Rearm
import Gearwit.Persist.Synthetic
import Mathlib.Order.Bounds.Basic

/-!
# Handled coverage is the furthest acknowledgement

The coverage row of an attempt stands at the greatest position an accepted
acknowledgement of the run named, within what the claim proves.  Its newest flag is
read off that position, while the restore path reads it off the cursor; the two
agree as long as no acknowledgement stops at an earlier copy of the last event.
-/

namespace Gearwit
namespace FakePersist

section Acknowledgement

variable [Blake3]

/-- Everything the store asks of a fresh acknowledgement at a position. -/
structure AcknowledgeAccepted (store : FakePersist) (binding : ValidatedHelperBinding)
    (request : AcknowledgeRequest) (claim : PersistedClaimRecord) (position : Nat) :
    Prop where
  authenticated : ∃ grant, store.authenticateBinding binding .acknowledge = .ok grant
  unrevoked : store.enforceUnrevoked binding = .ok ()
  digested : canonicalAckBodyDigest (canonicalBindingDigest binding)
    request.requestId request.retrievalId request.cursor = request.canonicalBodyDigest
  unretrieved : store.retrieveReplays[request.requestId]? = none
  unacknowledged : store.ackReplays[request.requestId]? = none
  authorized : store.authorizeFreshUse binding = .ok ()
  retrieved : ∃ retrieval, store.retrievals[request.retrievalId]? = some retrieval ∧
    retrieval.bindingDigest = canonicalBindingDigest binding ∧
    retrieval.result.claimPayloadRef = claim.payloadRef
  claimed : store.claimForAttempt binding.attemptId = some claim
  placed : claim.eventRefs.asSlice.idxOf? request.cursor = some position
  proved : ∃ proved, provedAckIndex claim claim.eventRefs.asSlice
    store.payloads[claim.payloadRef]? = .ok proved ∧ position ≤ proved

omit [Blake3] in
/-- A fresh acknowledgement moves coverage to the furthest position. -/
theorem furthestPosition_eq {store : FakePersist} {attemptId : AttemptId}
    {refs : List EventRef} {position furthest : Nat}
    (advanced : store.furthestPosition attemptId refs position = some furthest) :
    (store.handled[attemptId]? = none ∧ furthest = position) ∨
      ∃ coverage old, store.handled[attemptId]? = some coverage ∧
        refs.idxOf? coverage.cursor = some old ∧ furthest = max position old := by
  unfold furthestPosition at advanced
  split at advanced
  · next vacant =>
    exact .inl ⟨vacant, (Option.some.inj advanced).symm⟩
  next coverage stored =>
  split at advanced
  · cases advanced
  next old placed =>
  exact .inr ⟨coverage, old, stored, placed, (Option.some.inj advanced).symm⟩

/-- An acknowledgement answers that it was recorded exactly when it is accepted, and
then the coverage row moves to the furthest position. -/
theorem acknowledge_recorded {store next : FakePersist}
    {binding : ValidatedHelperBinding} {request : AcknowledgeRequest}
    {result : AcknowledgeResult}
    (acknowledged : acknowledgeRetrievedBatch binding request store =
      .ok (.recorded result, next)) :
    ∃ claim position furthest cursor,
      AcknowledgeAccepted store binding request claim position ∧
      store.furthestPosition binding.attemptId claim.eventRefs.asSlice position =
        some furthest ∧
      claim.eventRefs.asSlice[furthest]? = some cursor ∧
      claim.eventRefs.asSlice.idxOf? cursor = some furthest ∧
      next = store.withAcknowledge binding request cursor
        (decide (furthest = claim.eventRefs.asSlice.length - 1)) := by
  obtain ⟨authenticated, unrevoked, digested, unretrieved,
    ⟨_, _, _, _, _, _, impossible, _⟩ | ⟨unacknowledged, authorized, retrieval, claim,
      position, proved, furthest, cursor, retrieved, sameBinding, claimed, samePayload,
      placed, provedThrough, within, advanced, covered, _, updated⟩⟩ :=
        acknowledgeRetrievedBatch_cases acknowledged
  · cases impossible
  refine ⟨claim, position, furthest, cursor, ⟨authenticated, unrevoked, digested,
    unretrieved, unacknowledged, authorized, ⟨retrieval, retrieved, sameBinding,
      samePayload⟩, claimed, placed, proved, provedThrough, within⟩, advanced, covered,
    ?_, updated⟩
  rcases furthestPosition_cases placed advanced covered with
    ⟨rfl, rfl⟩ | ⟨_, _, oldPlaced, rfl⟩
  · exact placed
  · exact oldPlaced

omit [Blake3] in
/-- Coverage of a sound store always has a position. -/
theorem HandledSound.furthestPosition_isSome {store : FakePersist}
    (sound : HandledSound store) {attemptId : AttemptId} {claim : PersistedClaimRecord}
    (claimed : store.claimForAttempt attemptId = some claim) (position : Nat) :
    ∃ furthest, store.furthestPosition attemptId claim.eventRefs.asSlice position =
      some furthest := by
  unfold furthestPosition
  cases stored : store.handled[attemptId]? with
  | none => exact ⟨position, rfl⟩
  | some coverage =>
      obtain ⟨found, old, _, foundClaimed, _, placed, _⟩ := sound attemptId coverage stored
      rw [claimed, Option.some.injEq] at foundClaimed
      subst foundClaimed
      exact ⟨max position old, by simp [placed]⟩

/-- An accepted acknowledgement is recorded. -/
theorem AcknowledgeAccepted.recorded {store : FakePersist}
    {binding : ValidatedHelperBinding} {request : AcknowledgeRequest}
    {claim : PersistedClaimRecord} {position : Nat} (sound : HandledSound store)
    (accepted : AcknowledgeAccepted store binding request claim position) :
    ∃ next, acknowledgeRetrievedBatch binding request store =
      .ok (.recorded (store.acknowledgeResult binding request), next) := by
  obtain ⟨⟨grant, authenticated⟩, unrevoked, digested, unretrieved, unacknowledged,
    authorized, ⟨retrieval, retrieved, sameBinding, samePayload⟩, claimed, placed,
    proved, provedThrough, within⟩ := accepted
  obtain ⟨furthest, advanced⟩ := sound.furthestPosition_isSome claimed position
  have bound : position < claim.eventRefs.asSlice.length :=
    (List.idxOf?_eq_some_iff.1 placed).1
  have inside : furthest < claim.eventRefs.asSlice.length := by
    rcases furthestPosition_eq advanced with ⟨_, rfl⟩ | ⟨_, old, _, oldPlaced, rfl⟩
    · exact bound
    · exact max_lt bound (List.idxOf?_eq_some_iff.1 oldPlaced).1
  have retrieves : store.retrieveReplays.contains request.requestId = false :=
    (BTreeMap.contains_eq_false_iff _ _).2 unretrieved
  refine ⟨store.withAcknowledge binding request claim.eventRefs.asSlice[furthest]
    (decide (furthest = claim.eventRefs.asSlice.length - 1)), ?_⟩
  unfold acknowledgeRetrievedBatch
  simp only [authenticated, unrevoked, digested, retrieves, unacknowledged, authorized,
    retrieved, sameBinding, claimed, samePayload, placed, provedThrough, advanced,
    List.getElem?_eq_getElem inside, ne_eq, not_true_eq_false, if_false,
    Bool.false_eq_true]
  rw [if_neg (by omega), if_neg (by omega)]

/-! ## Acknowledgements of a run -/

/-- The reply of an acknowledgement tells what it did. -/
theorem apply_acknowledge_recorded {store : FakePersist}
    {binding : ValidatedHelperBinding} {request : AcknowledgeRequest}
    {result : AcknowledgeResult}
    (answered : (store.apply (.acknowledgeRetrievedBatch binding request)).1 =
      .acknowledged (.recorded result)) :
    acknowledgeRetrievedBatch binding request store = .ok (.recorded result,
      store.step (.acknowledgeRetrievedBatch binding request)) := by
  change PortReply.ofExcept .acknowledged
    (commit (store.acknowledgeRetrievedBatch binding request) store).1 = _ at answered
  change _ = Except.ok (_,
    (commit (store.acknowledgeRetrievedBatch binding request) store).2)
  cases outcome : store.acknowledgeRetrievedBatch binding request with
  | error refusal =>
      rw [outcome] at answered
      cases answered
  | ok pair =>
      obtain ⟨answer, next⟩ := pair
      rw [outcome] at answered
      simp only [commit, PortReply.ofExcept, PortReply.acknowledged.injEq] at answered
      rw [answered]
      rfl

/-- Whether an operation is an acknowledgement that this very call records. -/
def AcknowledgeRecords (store : FakePersist) (operation : PortOp)
    (binding : ValidatedHelperBinding) (request : AcknowledgeRequest) : Prop :=
  operation = .acknowledgeRetrievedBatch binding request ∧
    ∃ result, (store.apply operation).1 = .acknowledged (.recorded result)

/-- Only an acknowledgement that is recorded rewrites coverage. -/
theorem step_handled_of_unrecorded (store : FakePersist) (operation : PortOp)
    (unrecorded : ∀ binding request,
      ¬store.AcknowledgeRecords operation binding request) :
    (store.step operation).handled = store.handled := by
  by_cases acknowledges : ∃ binding request,
    operation = .acknowledgeRetrievedBatch binding request
  · obtain ⟨binding, request, rfl⟩ := acknowledges
    change (commit (store.acknowledgeRetrievedBatch binding request)
      store).2.handled = _
    cases outcome : store.acknowledgeRetrievedBatch binding request with
    | error refusal => rfl
    | ok pair =>
        obtain ⟨answer, next⟩ := pair
        obtain ⟨_, _, _, _, ⟨_, _, _, _, _, _, _, rfl⟩ | ⟨_, _, _, _, _, _, _, _, _, _,
          _, _, _, _, _, _, _, rfl, _⟩⟩ := acknowledgeRetrievedBatch_cases outcome
        · rfl
        · refine absurd ⟨rfl, store.acknowledgeResult binding request, ?_⟩
            (unrecorded binding request)
          change PortReply.ofExcept .acknowledged
            (commit (store.acknowledgeRetrievedBatch binding request) store).1 = _
          rw [outcome]
          rfl
  · exact step_handled_of_not_acknowledge store operation
      fun binding request equal => acknowledges ⟨binding, request, equal⟩

/-- Positions that the accepted acknowledgements of a run named for an attempt. -/
def acknowledgedAt (activeMacKey : Bytes32) (operations : List PortOp)
    (attemptId : AttemptId) (refs : List EventRef) : Set Nat :=
  { position | ∃ before binding request result,
    Answers activeMacKey operations before
      (.acknowledgeRetrievedBatch binding request)
      (.acknowledged (.recorded result)) ∧
    binding.attemptId = attemptId ∧ refs.idxOf? request.cursor = some position }

/-- A longer run adds the positions its last operation named. -/
theorem mem_acknowledgedAt_concat (activeMacKey : Bytes32) (performed : List PortOp)
    (operation : PortOp) (attemptId : AttemptId) (refs : List EventRef)
    (position : Nat) :
    position ∈ acknowledgedAt activeMacKey (performed ++ [operation]) attemptId refs ↔
      position ∈ acknowledgedAt activeMacKey performed attemptId refs ∨
        ∃ binding request,
          (after activeMacKey performed).AcknowledgeRecords operation binding request ∧
          binding.attemptId = attemptId ∧
          refs.idxOf? request.cursor = some position := by
  constructor
  · rintro ⟨before, binding, request, result, ⟨shorter, answered⟩, rest⟩
    rcases List.prefix_concat_iff.1 shorter with equal | earlier
    · obtain ⟨rfl, last⟩ := List.append_inj' equal rfl
      rw [List.cons.injEq] at last
      obtain ⟨rfl, _⟩ := last
      exact .inr ⟨binding, request, ⟨rfl, result, answered⟩, rest⟩
    · exact .inl ⟨before, binding, request, result, ⟨earlier, answered⟩, rest⟩
  · rintro (⟨before, binding, request, result, ⟨shorter, answered⟩, rest⟩ |
      ⟨binding, request, ⟨rfl, result, answered⟩, rest⟩)
    · exact ⟨before, binding, request, result,
        ⟨shorter.trans (List.prefix_append _ _), answered⟩, rest⟩
    · exact ⟨performed, binding, request, result, ⟨List.prefix_rfl, answered⟩, rest⟩

/-- An attempt that was acknowledged has a claim. -/
theorem acknowledged_claimed {activeMacKey : Bytes32} {operations before : List PortOp}
    {binding : ValidatedHelperBinding} {request : AcknowledgeRequest}
    {result : AcknowledgeResult}
    (answers : Answers activeMacKey operations before
      (.acknowledgeRetrievedBatch binding request)
      (.acknowledged (.recorded result))) :
    ∃ claim, (after activeMacKey operations).claimForAttempt binding.attemptId =
      some claim := by
  obtain ⟨claim, _, _, _, accepted, _⟩ :=
    acknowledge_recorded (apply_acknowledge_recorded answers.2)
  have grown := after_grows_of_prefix activeMacKey
    ((List.prefix_append before _).trans answers.1)
  exact ⟨claim, grown.claimForAttempt (claimsIdentified_after activeMacKey operations)
    accepted.claimed⟩

/-! ## The greatest position -/

/-- Coverage of an attempt stands at the greatest of the positions, or there is
neither coverage nor position. -/
def StandsAtGreatest (store : FakePersist) (attemptId : AttemptId)
    (refs : List EventRef) (positions : Set Nat) : Prop :=
  (store.handled[attemptId]? = none ∧ positions = ∅) ∨
    ∃ coverage position, store.handled[attemptId]? = some coverage ∧
      refs.idxOf? coverage.cursor = some position ∧ IsGreatest positions position

/-- An accepted acknowledgement keeps coverage at the greatest position. -/
theorem acknowledge_standsAtGreatest {store next : FakePersist}
    {binding : ValidatedHelperBinding} {request : AcknowledgeRequest}
    {result : AcknowledgeResult} {claim : PersistedClaimRecord} {positions : Set Nat}
    (acknowledged : acknowledgeRetrievedBatch binding request store =
      .ok (.recorded result, next))
    (claimed : store.claimForAttempt binding.attemptId = some claim)
    (stands : StandsAtGreatest store binding.attemptId claim.eventRefs.asSlice
      positions) :
    StandsAtGreatest next binding.attemptId claim.eventRefs.asSlice
      (positions ∪ { position |
        claim.eventRefs.asSlice.idxOf? request.cursor = some position }) := by
  obtain ⟨found, position, furthest, cursor, accepted, advanced, _, cursorPlaced, rfl⟩ :=
    acknowledge_recorded acknowledged
  have same := Option.some.inj (claimed.symm.trans accepted.claimed)
  subst same
  have named : positions ∪ { other |
      claim.eventRefs.asSlice.idxOf? request.cursor = some other } =
        insert position positions := by
    ext other
    simp only [accepted.placed, Set.mem_union, Set.mem_ofPred_eq, Option.some.injEq,
      Set.mem_insert_iff]
    rw [or_comm, eq_comm]
  refine .inr ⟨_, furthest, BTreeMap.getElem?_insert_same _ _ _, cursorPlaced, ?_⟩
  rw [named]
  rcases furthestPosition_eq advanced with ⟨vacant, rfl⟩ |
    ⟨coverage, old, stored, placed, rfl⟩
  · rcases stands with ⟨_, empty⟩ | ⟨other, _, present, _⟩
    · rw [empty, insert_empty_eq]
      exact isGreatest_singleton
    · rw [vacant] at present
      cases present
  · rcases stands with ⟨missing, _⟩ | ⟨other, greatest, present, otherPlaced, bounds⟩
    · rw [stored] at missing
      cases missing
    · rw [stored, Option.some.injEq] at present
      subst present
      rw [placed, Option.some.injEq] at otherPlaced
      subst otherPlaced
      exact bounds.insert position

/-- Coverage of every claim stands at the greatest acknowledged position. -/
theorem standsAtGreatest_after (activeMacKey : Bytes32) (operations : List PortOp) :
    ∀ (attemptId : AttemptId) claim,
      (after activeMacKey operations).claimForAttempt attemptId = some claim →
        StandsAtGreatest (after activeMacKey operations) attemptId
          claim.eventRefs.asSlice
          (acknowledgedAt activeMacKey operations attemptId claim.eventRefs.asSlice) := by
  refine Transition.history_run (FakePersist.default activeMacKey)
    (fun performed store => ∀ (attemptId : AttemptId) claim,
      store.claimForAttempt attemptId = some claim →
        StandsAtGreatest store attemptId claim.eventRefs.asSlice
          (acknowledgedAt activeMacKey performed attemptId claim.eventRefs.asSlice))
    ?_ ?_ operations
  · intro attemptId claim claimed
    obtain ⟨stored, _⟩ := claimForAttempt_some claimed
    simp [FakePersist.default] at stored
  · intro performed operation earlier attemptId claim claimed
    change ∀ attemptId claim, (after activeMacKey performed).claimForAttempt attemptId =
      some claim → _ at earlier
    change ((after activeMacKey performed).step operation).claimForAttempt attemptId =
      some claim at claimed
    change StandsAtGreatest ((after activeMacKey performed).step operation) _ _ _
    have identified : ClaimsIdentified ((after activeMacKey performed).step operation) :=
      (step_effect _ operation).claimsIdentified
        (claimsIdentified_after activeMacKey performed)
    have sameClaim : ∀ found, (after activeMacKey performed).claimForAttempt attemptId =
        some found → found = claim := by
      intro found present
      have kept := (step_grows _ operation).claimForAttempt identified present
      exact Option.some.inj (kept.symm.trans claimed)
    by_cases records : ∃ binding request,
        (after activeMacKey performed).AcknowledgeRecords operation binding request ∧
          binding.attemptId = attemptId
    · obtain ⟨binding, request, ⟨rfl, result, answered⟩, rfl⟩ := records
      have acknowledged := apply_acknowledge_recorded answered
      obtain ⟨found, _, _, _, accepted, _⟩ := acknowledge_recorded acknowledged
      have same := sameClaim found accepted.claimed
      subst same
      have stands := acknowledge_standsAtGreatest acknowledged accepted.claimed
        (earlier _ _ accepted.claimed)
      convert stands using 1
      ext position
      rw [mem_acknowledgedAt_concat]
      refine or_congr Iff.rfl ⟨?_, fun placed =>
        ⟨binding, request, ⟨rfl, result, answered⟩, rfl, placed⟩⟩
      rintro ⟨other, named, ⟨equal, _⟩, _, placed⟩
      cases equal
      exact placed
    · have positions : acknowledgedAt activeMacKey (performed ++ [operation]) attemptId
          claim.eventRefs.asSlice =
            acknowledgedAt activeMacKey performed attemptId claim.eventRefs.asSlice := by
        ext position
        rw [mem_acknowledgedAt_concat]
        refine or_iff_left ?_
        rintro ⟨binding, request, recorded, sameAttempt, _⟩
        exact records ⟨binding, request, recorded, sameAttempt⟩
      have handled : ((after activeMacKey performed).step operation).handled[attemptId]? =
          (after activeMacKey performed).handled[attemptId]? := by
        by_cases others : ∃ binding request,
          (after activeMacKey performed).AcknowledgeRecords operation binding request
        · obtain ⟨binding, request, recorded⟩ := others
          have different : binding.attemptId ≠ attemptId := fun equal =>
            records ⟨binding, request, recorded, equal⟩
          obtain ⟨rfl, result, answered⟩ := recorded
          obtain ⟨_, _, _, _, _, _, _, _, updated⟩ :=
            acknowledge_recorded (apply_acknowledge_recorded answered)
          rw [updated]
          exact BTreeMap.getElem?_insert_ne _ _ different
        · rw [step_handled_of_unrecorded _ _ fun binding request recorded =>
            others ⟨binding, request, recorded⟩]
      rw [positions]
      unfold StandsAtGreatest
      rw [handled]
      cases known : (after activeMacKey performed).claimForAttempt attemptId with
      | some found =>
          have same := sameClaim found known
          subst same
          exact earlier attemptId found known
      | none =>
          left
          constructor
          · cases stored : (after activeMacKey performed).handled[attemptId]? with
            | none => rfl
            | some coverage =>
                obtain ⟨found, _, _, foundClaimed, _⟩ :=
                  handledSound_after activeMacKey performed attemptId coverage stored
                rw [known] at foundClaimed
                cases foundClaimed
          · refine Set.eq_empty_of_forall_notMem ?_
            rintro position ⟨_, binding, _, _, answers, rfl, _⟩
            obtain ⟨found, foundClaimed⟩ := acknowledged_claimed answers
            rw [known] at foundClaimed
            cases foundClaimed

/-! ## The newest flag -/

/-- The newest flag of every coverage row says whether its cursor is the last event
of the claim. -/
def NewestFlagged (store : FakePersist) : Prop :=
  ∀ (attemptId : AttemptId) coverage claim,
    store.handled[attemptId]? = some coverage →
    store.claimForAttempt attemptId = some claim →
      (coverage.coveredThroughNewest = true ↔
        claim.eventRefs.asSlice.getLast? = some coverage.cursor)

/-- The operation is an accepted acknowledgement of the last event of its claim, but
this event already occurs earlier in the claim, and coverage has not passed that
earlier occurrence. -/
def StopsAtEarlierCopy (store : FakePersist) (operation : PortOp) : Prop :=
  ∃ binding request claim position,
    operation = .acknowledgeRetrievedBatch binding request ∧
    AcknowledgeAccepted store binding request claim position ∧
    claim.eventRefs.asSlice.getLast? = some request.cursor ∧
    position + 1 < claim.eventRefs.asSlice.length ∧
    ∀ coverage old, store.handled[binding.attemptId]? = some coverage →
      claim.eventRefs.asSlice.idxOf? coverage.cursor = some old → old ≤ position

omit [Blake3] in
/-- A position that holds the last event of a list, found first there, is the last
position unless the event has an earlier copy. -/
private theorem last_position {refs : List EventRef} {cursor : EventRef}
    {position : Nat} (placed : refs.idxOf? cursor = some position)
    (single : ¬(refs.getLast? = some cursor ∧ position + 1 < refs.length)) :
    position = refs.length - 1 ↔ refs.getLast? = some cursor := by
  obtain ⟨bound, found, _⟩ := List.idxOf?_eq_some_iff.1 placed
  have there : refs[position]? = some cursor := by
    rw [List.getElem?_eq_getElem bound]
    exact congrArg some (by simpa using found)
  constructor
  · intro last
    rw [List.getLast?_eq_getElem?, ← last, there]
  · intro newest
    have beyond : ¬position + 1 < refs.length := fun inside => single ⟨newest, inside⟩
    omega

/-- A step that stops at no earlier copy keeps every flag right. -/
theorem step_newestFlagged {store : FakePersist} {operation : PortOp}
    (identified : ClaimsIdentified store) (sound : HandledSound store)
    (single : ¬store.StopsAtEarlierCopy operation) (flagged : NewestFlagged store) :
    NewestFlagged (store.step operation) := by
  intro attemptId coverage claim stored claimed
  have nextIdentified := (step_effect store operation).claimsIdentified identified
  have sameClaim : ∀ found, store.claimForAttempt attemptId = some found →
      found = claim := by
    intro found present
    have kept := (step_grows store operation).claimForAttempt nextIdentified present
    exact Option.some.inj (kept.symm.trans claimed)
  by_cases known : store.handled[attemptId]? = some coverage
  · obtain ⟨found, _, _, foundClaimed, _⟩ := sound attemptId coverage known
    have same := sameClaim found foundClaimed
    subst same
    exact flagged attemptId coverage found known foundClaimed
  by_cases records : ∃ binding request, store.AcknowledgeRecords operation binding request
  · obtain ⟨binding, request, rfl, result, answered⟩ := records
    obtain ⟨found, position, furthest, cursor, accepted, advanced, covered, placed,
      updated⟩ := acknowledge_recorded (apply_acknowledge_recorded answered)
    rw [updated] at stored
    simp only [withAcknowledge, BTreeMap.getElem?_insert_eq] at stored
    split at stored
    · next sameAttempt =>
      subst sameAttempt
      have same := sameClaim found accepted.claimed
      subst same
      rw [Option.some.injEq] at stored
      subst stored
      change decide _ = true ↔ _ = some cursor
      rw [decide_eq_true_eq]
      apply last_position placed
      rintro ⟨newest, inside⟩
      -- the old cursor was not the last event, so the new position is the requested one
      rcases furthestPosition_cases accepted.placed advanced covered with
        ⟨rfl, rfl⟩ | ⟨old, oldStored, _, rfl⟩
      · refine single ⟨binding, request, found, furthest, rfl, accepted, newest, inside,
          ?_⟩
        intro old oldPosition oldStored oldPlaced
        rcases furthestPosition_eq advanced with ⟨vacant, _⟩ |
          ⟨other, otherPosition, otherStored, otherPlaced, furthestIs⟩
        · rw [oldStored] at vacant
          cases vacant
        · rw [oldStored, Option.some.injEq] at otherStored
          subst otherStored
          rw [oldPlaced, Option.some.injEq] at otherPlaced
          omega
      · have complete : store.handledComplete binding.attemptId = true :=
          (handledComplete_iff _ _).2 ⟨old, oldStored,
            (flagged _ old found oldStored accepted.claimed).2 newest⟩
        rw [(authorizeFreshUse_ok accepted.authorized).2.2.2.1] at complete
        cases complete
    · exact absurd stored known
  · rw [step_handled_of_unrecorded _ _ fun binding request recorded =>
      records ⟨binding, request, recorded⟩] at stored
    exact absurd stored known

/-- A step that stops at an earlier copy leaves a wrong flag. -/
theorem step_not_newestFlagged {store : FakePersist} {operation : PortOp}
    (identified : ClaimsIdentified store) (sound : HandledSound store)
    (stops : store.StopsAtEarlierCopy operation) :
    ¬NewestFlagged (store.step operation) := by
  obtain ⟨binding, request, claim, position, rfl, accepted, newest, inside, reached⟩ :=
    stops
  obtain ⟨next, acknowledged⟩ := accepted.recorded sound
  have updated : store.step (.acknowledgeRetrievedBatch binding request) = next := by
    change (commit (store.acknowledgeRetrievedBatch binding request) store).2 = next
    rw [acknowledged]
    rfl
  obtain ⟨found, foundPosition, furthest, cursor, foundAccepted, advanced, covered,
    placed, withRow⟩ := acknowledge_recorded acknowledged
  have same := Option.some.inj (foundAccepted.claimed.symm.trans accepted.claimed)
  subst same
  have samePosition :=
    Option.some.inj (foundAccepted.placed.symm.trans accepted.placed)
  subst samePosition
  have stays : furthest = foundPosition := by
    rcases furthestPosition_eq advanced with ⟨_, rfl⟩ | ⟨coverage, old, stored, oldPlaced,
      rfl⟩
    · rfl
    · exact max_eq_left (reached coverage old stored oldPlaced)
  subst stays
  have sameCursor : cursor = request.cursor := by
    obtain ⟨_, here, _⟩ := List.idxOf?_eq_some_iff.1 placed
    obtain ⟨_, there, _⟩ := List.idxOf?_eq_some_iff.1 accepted.placed
    exact (by simpa using here : _ = cursor).symm.trans (by simpa using there)
  subst sameCursor
  intro flagged
  have kept := (step_grows store (.acknowledgeRetrievedBatch binding
    request)).claimForAttempt ((step_effect store _).claimsIdentified identified)
      accepted.claimed
  have flag := (flagged binding.attemptId (coverageRow binding request.cursor
    (decide (furthest = found.eventRefs.asSlice.length - 1))) found (by
      rw [updated, withRow]
      exact BTreeMap.getElem?_insert_same _ _ _) kept).2 newest
  simp only [coverageRow, decide_eq_true_eq] at flag
  omega

/-! ## Every state of a run -/

/-- Coverage after a run: every row names an event of the claim, at the greatest
acknowledged and at most the proved position, behind no earlier row of the run, with
a right newest flag; and no row was lost. -/
structure HandledFurthest (activeMacKey : Bytes32) (operations : List PortOp) : Prop where
  row : ∀ (attemptId : AttemptId) coverage,
    (after activeMacKey operations).handled[attemptId]? = some coverage →
      ∃ claim position reach,
        (after activeMacKey operations).claimForAttempt attemptId = some claim ∧
        claim.eventRefs.asSlice.idxOf? coverage.cursor = some position ∧
        IsGreatest (acknowledgedAt activeMacKey operations attemptId
          claim.eventRefs.asSlice) position ∧
        provedReach claim = some reach ∧ position ≤ reach ∧
        (coverage.coveredThroughNewest = true ↔
          claim.eventRefs.asSlice.getLast? = some coverage.cursor)
  advances : ∀ (attemptId : AttemptId) earlier old, earlier <+: operations →
    (after activeMacKey earlier).handled[attemptId]? = some old →
      ∃ claim coverage oldPosition position,
        (after activeMacKey operations).claimForAttempt attemptId = some claim ∧
        (after activeMacKey operations).handled[attemptId]? = some coverage ∧
        claim.eventRefs.asSlice.idxOf? old.cursor = some oldPosition ∧
        claim.eventRefs.asSlice.idxOf? coverage.cursor = some position ∧
        oldPosition ≤ position

/-- Coverage never moves back and never goes away. -/
theorem coverage_advances (activeMacKey : Bytes32) {earlier operations : List PortOp}
    (shorter : earlier <+: operations) {attemptId : AttemptId}
    {old : PersistedHandledCoverage}
    (stored : (after activeMacKey earlier).handled[attemptId]? = some old) :
    ∃ claim coverage oldPosition position,
      (after activeMacKey operations).claimForAttempt attemptId = some claim ∧
      (after activeMacKey operations).handled[attemptId]? = some coverage ∧
      claim.eventRefs.asSlice.idxOf? old.cursor = some oldPosition ∧
      claim.eventRefs.asSlice.idxOf? coverage.cursor = some position ∧
      oldPosition ≤ position := by
  obtain ⟨claim, oldPosition, _, claimed, _, placed, _⟩ :=
    handledSound_after activeMacKey earlier attemptId old stored
  have grown := after_grows_of_prefix activeMacKey shorter
  have kept := grown.claimForAttempt (claimsIdentified_after activeMacKey operations)
    claimed
  have named : oldPosition ∈ acknowledgedAt activeMacKey operations attemptId
      claim.eventRefs.asSlice := by
    rcases standsAtGreatest_after activeMacKey earlier attemptId claim claimed with
      ⟨missing, _⟩ | ⟨coverage, position, present, same, greatest, _⟩
    · rw [stored] at missing
      cases missing
    · rw [stored, Option.some.injEq] at present
      subst present
      rw [placed, Option.some.injEq] at same
      subst same
      obtain ⟨before, binding, request, result, ⟨inside, answered⟩, rest⟩ := greatest
      exact ⟨before, binding, request, result, ⟨inside.trans shorter, answered⟩, rest⟩
  rcases standsAtGreatest_after activeMacKey operations attemptId claim kept with
    ⟨_, empty⟩ | ⟨coverage, position, present, positioned, greatest⟩
  · rw [empty] at named
    exact named.elim
  · exact ⟨claim, coverage, oldPosition, position, kept, present, placed, positioned,
      greatest.2 named⟩

/-- Coverage after a run is as it should be exactly when its flags are. -/
theorem handledFurthest_iff_newestFlagged (activeMacKey : Bytes32)
    (operations : List PortOp) :
    HandledFurthest activeMacKey operations ↔
      NewestFlagged (after activeMacKey operations) := by
  constructor
  · intro furthest attemptId coverage claim stored claimed
    obtain ⟨found, _, _, foundClaimed, _, _, _, _, flag⟩ :=
      furthest.row attemptId coverage stored
    rw [claimed, Option.some.injEq] at foundClaimed
    subst foundClaimed
    exact flag
  · intro flagged
    refine ⟨fun attemptId coverage stored => ?_, fun attemptId earlier old shorter =>
      coverage_advances activeMacKey shorter⟩
    obtain ⟨claim, position, reach, claimed, _, placed, reaches, within, _⟩ :=
      handledSound_after activeMacKey operations attemptId coverage stored
    refine ⟨claim, position, reach, claimed, placed, ?_, reaches, within,
      flagged attemptId coverage claim stored claimed⟩
    rcases standsAtGreatest_after activeMacKey operations attemptId claim claimed with
      ⟨missing, _⟩ | ⟨other, greatest, present, otherPlaced, bounds⟩
    · rw [stored] at missing
      cases missing
    · rw [stored, Option.some.injEq] at present
      subst present
      rw [placed, Option.some.injEq] at otherPlaced
      subst otherPlaced
      exact bounds

/-- Every state of a run has its coverage at the furthest proved acknowledgement, with
a right flag, exactly when no step stops at an earlier copy of the last event. -/
theorem handledFurthest_iff_no_earlier_copy (activeMacKey : Bytes32)
    (operations : List PortOp) :
    (∀ performed, performed <+: operations →
        HandledFurthest activeMacKey performed) ↔
      Transition.Along step (fun store operation => ¬store.StopsAtEarlierCopy operation)
        (FakePersist.default activeMacKey) operations := by
  induction operations using List.reverseRecOn with
  | nil =>
      refine iff_of_true (fun performed shorter => ?_) trivial
      rw [List.prefix_nil.1 shorter, handledFurthest_iff_newestFlagged]
      intro attemptId coverage claim stored
      simp [after, FakePersist.default] at stored
  | append_singleton performed operation inductionHypothesis =>
      rw [Transition.along_append, ← inductionHypothesis]
      have identified := claimsIdentified_after activeMacKey performed
      have sound := handledSound_after activeMacKey performed
      have last : Transition.Along step
          (fun store operation => ¬store.StopsAtEarlierCopy operation)
          (Transition.run step (FakePersist.default activeMacKey) performed)
          [operation] ↔
            ¬(after activeMacKey performed).StopsAtEarlierCopy operation :=
        and_iff_left trivial
      rw [last]
      constructor
      · intro furthest
        refine ⟨fun earlier shorter =>
          furthest earlier (shorter.trans (List.prefix_append _ _)), fun stops => ?_⟩
        have flagged := (handledFurthest_iff_newestFlagged _ _).1
          (furthest _ List.prefix_rfl)
        rw [after_append_singleton] at flagged
        exact step_not_newestFlagged identified sound stops flagged
      · rintro ⟨furthest, single⟩ earlier shorter
        rcases List.prefix_concat_iff.1 shorter with rfl | inside
        · rw [handledFurthest_iff_newestFlagged, after_append_singleton]
          exact step_newestFlagged identified sound single
            ((handledFurthest_iff_newestFlagged _ _).1 (furthest _ List.prefix_rfl))
        · exact furthest earlier inside

end Acknowledgement

/-! ## A batch that repeats its event -/

section Sample

open Sample

/-- Binding of the sample grant over a batch that repeats one event. -/
def repeatedBinding : ValidatedHelperBinding where
  grantRef := PrivateId.fixture 7
  seatId := seat
  armId := firstArm
  generation := 1
  birthId := PrivateId.fixture 1
  attemptId := firstAttempt
  signalId := signal
  claimDigest := (admission firstRequest firstArm firstEvent firstEvent).claimDigest
  operations := .all
  leaseUntil := lease

/-- A claim of one event twice, retrieved and acknowledged at that event. -/
def repeatedRun : List PortOp :=
  opens firstRequest firstArm firstAttempt 1 firstEvent firstEvent ++
    [.persistHelperGrant
        (grant firstRequest firstArm firstAttempt 1 7 firstEvent firstEvent),
      .recordRetrieveExchange
        ⟨repeatedBinding, PrivateId.fixture 20, canonicalRetrieveBodyDigest
          (canonicalBindingDigest repeatedBinding) (PrivateId.fixture 20)⟩
        (some (PrivateId.fixture 30)),
      .acknowledgeRetrievedBatch repeatedBinding
        ⟨PrivateId.fixture 21, PrivateId.fixture 30, firstEvent,
          canonicalAckBodyDigest (canonicalBindingDigest repeatedBinding)
            (PrivateId.fixture 21) (PrivateId.fixture 30) firstEvent⟩]

/-- The acknowledgement of the last event leaves coverage short of the newest. -/
theorem repeated_event_not_furthest :
    ¬∀ activeMacKey operations, HandledFurthest activeMacKey operations := by
  intro furthest
  have flagged := (handledFurthest_iff_newestFlagged _ _).1
    (furthest (PrivateId.fixture 0) repeatedRun)
  obtain ⟨coverage, stored, cursor, flag⟩ : ∃ coverage,
      (after (PrivateId.fixture 0) repeatedRun).handled[firstAttempt]? = some coverage ∧
        coverage.cursor = firstEvent ∧ coverage.coveredThroughNewest = false :=
    ⟨⟨firstAttempt, signal, firstEvent, false⟩, by decide +kernel, rfl, rfl⟩
  obtain ⟨claim, claimed, last⟩ : ∃ claim,
      (after (PrivateId.fixture 0) repeatedRun).claimForAttempt firstAttempt =
        some claim ∧ claim.eventRefs.asSlice.getLast? = some firstEvent := by
    have found : ((after (PrivateId.fixture 0) repeatedRun).claimForAttempt
        firstAttempt).any (fun claim =>
          decide (claim.eventRefs.asSlice.getLast? = some firstEvent)) = true := by
      decide +kernel
    obtain ⟨claim, claimed, last⟩ := (Option.any_eq_true _ _).1 found
    exact ⟨claim, claimed, of_decide_eq_true last⟩
  have wrong := (flagged firstAttempt coverage claim stored claimed).2 (cursor ▸ last)
  rw [flag] at wrong
  cases wrong

end Sample

end FakePersist
end Gearwit
