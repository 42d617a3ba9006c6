import Gearwit.Persist.ClaimIdentity

/-!
# The re-arm join

A join needs a claim of exactly its scope, coverage through the newest event and a
recognized terminal.  All three only accumulate, so a join happens once and stays;
and coverage through the newest event was acknowledged while the attempt was
still open.
-/

namespace Gearwit
namespace FakePersist

/-! ## Monotone sides of the join -/

namespace Grows

variable {before after : FakePersist}

/-- A claim stays stored as a store grows. -/
theorem claim_mem (grown : Grows before after) {claim : PersistedClaimRecord}
    (stored : claim ∈ BTreeMap.rows before.claims) :
    claim ∈ BTreeMap.rows after.claims := by
  obtain ⟨requestId, present⟩ := (BTreeMap.mem_rows _ _).1 stored
  exact (BTreeMap.mem_rows _ _).2 ⟨requestId, grown.claims requestId claim present⟩

/-- The claim of an attempt stays the same as a store grows. -/
theorem claimForAttempt (grown : Grows before after)
    (identified : ClaimsIdentified after) {attemptId : AttemptId}
    {claim : PersistedClaimRecord}
    (found : before.claimForAttempt attemptId = some claim) :
    after.claimForAttempt attemptId = some claim := by
  obtain ⟨stored, named⟩ := claimForAttempt_some found
  exact (identified.claimForAttempt_eq_some_iff _ _).2
    ⟨grown.claim_mem stored, named⟩

/-- A join stays matched as a store grows. -/
theorem scopeMatchesClaim (grown : Grows before after) {join : PersistedRearmJoin}
    (matched : before.scopeMatchesClaim join = true) :
    after.scopeMatchesClaim join = true := by
  obtain ⟨claim, stored, fields⟩ := (scopeMatchesClaim_iff _ _).1 matched
  exact (scopeMatchesClaim_iff _ _).2 ⟨claim, grown.claim_mem stored, fields⟩

/-- A handled batch stays handled as a store grows. -/
theorem handledThroughNewest (grown : Grows before after) {join : PersistedRearmJoin}
    (handled : before.handledThroughNewest join = true) :
    after.handledThroughNewest join = true := by
  obtain ⟨coverage, stored, signal, newest⟩ := (handledThroughNewest_iff _ _).1 handled
  have complete : before.handledComplete join.attemptId = true :=
    (handledComplete_iff _ _).2 ⟨coverage, stored, newest⟩
  exact (handledThroughNewest_iff _ _).2
    ⟨coverage, (grown.handled _ complete).trans stored, signal, newest⟩

/-- A terminal attempt stays terminal as a store grows. -/
theorem attemptTerminal (grown : Grows before after) {attemptId : AttemptId}
    (terminal : before.attemptTerminal attemptId = true) :
    after.attemptTerminal attemptId = true := by
  obtain ⟨fact, known, isTerminal⟩ := (attemptTerminal_iff _ _).1 terminal
  exact (attemptTerminal_iff _ _).2 ⟨fact, grown.facts _ _ known, isTerminal⟩

end Grows

/-! ## Handled coverage -/

/-- A coverage row describes its attempt's claim: its cursor lies within the
claim's reach and its flag says whether the cursor is the last position. -/
def HandledSound (store : FakePersist) : Prop :=
  ∀ (attemptId : AttemptId) coverage, store.handled[attemptId]? = some coverage →
    ∃ claim position reach, store.claimForAttempt attemptId = some claim ∧
      coverage.signalId = claim.signalId ∧
      claim.eventRefs.asSlice.idxOf? coverage.cursor = some position ∧
      provedReach claim = some reach ∧ position ≤ reach ∧
      coverage.coveredThroughNewest =
        decide (position = claim.eventRefs.asSlice.length - 1)

/-- The element at the position of a value is the value. -/
private theorem getElem?_of_idxOf? {list : List EventRef} {value : EventRef}
    {position : Nat} (placed : list.idxOf? value = some position) :
    list[position]? = some value := by
  obtain ⟨bound, found, _⟩ := List.idxOf?_eq_some_iff.1 placed
  rw [List.getElem?_eq_getElem bound]
  exact congrArg some (by simpa using found)

/-- The furthest position is the new one or the covered one, and the cursor at it
is found there. -/
theorem furthestPosition_cases {store : FakePersist} {attemptId : AttemptId}
    {refs : List EventRef} {position furthest : Nat} {requested cursor : EventRef}
    (placed : refs.idxOf? requested = some position)
    (advanced : store.furthestPosition attemptId refs position = some furthest)
    (covered : refs[furthest]? = some cursor) :
    (furthest = position ∧ cursor = requested) ∨
      ∃ coverage, store.handled[attemptId]? = some coverage ∧
        refs.idxOf? coverage.cursor = some furthest ∧ cursor = coverage.cursor := by
  have atPosition := getElem?_of_idxOf? placed
  unfold furthestPosition at advanced
  split at advanced
  · simp only [Option.some.injEq] at advanced
    subst advanced
    exact .inl ⟨rfl, Option.some.inj (covered.symm.trans atPosition)⟩
  next coverage stored =>
  split at advanced
  · cases advanced
  next old oldPlaced =>
  simp only [Option.some.injEq] at advanced
  rcases Nat.le_total old position with later | earlier
  · left
    have same : furthest = position := by omega
    subst same
    exact ⟨rfl, Option.some.inj (covered.symm.trans atPosition)⟩
  · right
    have same : furthest = old := by omega
    subst same
    exact ⟨coverage, stored, oldPlaced,
      Option.some.inj (covered.symm.trans (getElem?_of_idxOf? oldPlaced))⟩

section Runs

variable [Blake3]

/-- Every operation keeps coverage sound. -/
theorem Effect.handledSound {store next : FakePersist} {operation : PortOp}
    (effect : Effect store operation next) (identified : ClaimsIdentified store)
    (sound : HandledSound store) : HandledSound next := by
  have nextIdentified := effect.claimsIdentified identified
  have kept : next.handled = store.handled → HandledSound next := by
    intro same attemptId coverage stored
    rw [same] at stored
    obtain ⟨claim, position, reach, claimed, rest⟩ := sound attemptId coverage stored
    exact ⟨claim, position, reach,
      effect.grows.claimForAttempt nextIdentified claimed, rest⟩
  cases effect with
  | acknowledged binding request grant retrieval claim position proved furthest cursor
      authenticated digest unretrieved unseen authorized stored sameBinding claimed
      placed provedThrough within advanced covered =>
      intro attemptId coverage present
      simp only [withAcknowledge, BTreeMap.getElem?_insert_eq] at present
      split at present
      · next sameAttempt =>
        simp only [Option.some.injEq] at present
        subst present
        subst sameAttempt
        obtain ⟨_, _, _, found, foundClaimed, _, _, _, signal⟩ :=
          authenticateBinding_ok authenticated
        rw [claimed, Option.some.injEq] at foundClaimed
        subst foundClaimed
        have reaches := ((provedAckIndex_eq_ok_iff _ _ _).1 provedThrough).2
        refine ⟨claim, furthest, proved, claimed, signal.symm, ?_, reaches, ?_, rfl⟩
        · rcases furthestPosition_cases placed advanced covered with
            ⟨rfl, rfl⟩ | ⟨_, _, oldPlaced, rfl⟩
          · exact placed
          · exact oldPlaced
        · rcases furthestPosition_cases placed advanced covered with
            ⟨rfl, _⟩ | ⟨old, oldStored, oldPlaced, _⟩
          · exact within
          · obtain ⟨other, oldPosition, reach, otherClaimed, _, otherPlaced,
              otherReaches, bounded, _⟩ := sound _ old oldStored
            rw [claimed, Option.some.injEq] at otherClaimed
            subst otherClaimed
            rw [oldPlaced, Option.some.injEq] at otherPlaced
            rw [reaches, Option.some.injEq] at otherReaches
            omega
      · obtain ⟨other, rest⟩ := sound attemptId coverage present
        exact ⟨other, rest⟩
  | recovered draws => exact kept (by rw [classified_frame])
  | _ => exact kept rfl

/-- Coverage is sound in every reachable store. -/
theorem handledSound_after (activeMacKey : Bytes32) (operations : List PortOp) :
    HandledSound (after activeMacKey operations) := by
  have both := Transition.invariant_run
    (fun store => ClaimsIdentified store ∧ HandledSound store)
    (fun store operation held =>
      have effect := step_effect store operation
      ⟨effect.claimsIdentified held.1, effect.handledSound held.1 held.2⟩)
    ⟨claimsIdentified_default activeMacKey,
      fun _ _ stored => by simp [FakePersist.default] at stored⟩ operations
  exact both.2

/-! ## Calls of a run -/

/-- The run performs an operation right after the given stretch, and it answers
with the given reply. -/
def Answers (activeMacKey : Bytes32) (operations before : List PortOp)
    (operation : PortOp) (reply : PortReply) : Prop :=
  before ++ [operation] <+: operations ∧
    ((after activeMacKey before).apply operation).1 = reply

/-- Store of a run that performed one more operation. -/
theorem after_append_singleton (activeMacKey : Bytes32) (before : List PortOp)
    (operation : PortOp) :
    after activeMacKey (before ++ [operation]) =
      (after activeMacKey before).step operation := by
  rw [after, Transition.run_append]
  rfl

/-- A longer run only grows the store. -/
theorem after_grows_of_prefix (activeMacKey : Bytes32) {before later : List PortOp}
    (shorter : before <+: later) :
    Grows (after activeMacKey before) (after activeMacKey later) := by
  obtain ⟨rest, rfl⟩ := shorter
  rw [after, after, Transition.run_append]
  exact run_grows _ rest

omit [Blake3] in
private theorem ofExcept_joined {outcome : Except PersistError RearmJoinResult}
    {result : RearmJoinResult}
    (answered : PortReply.ofExcept .joined outcome = .joined result) :
    outcome = .ok result := by
  cases outcome with
  | error refusal => simp [PortReply.ofExcept] at answered
  | ok value => simpa [PortReply.ofExcept] using answered

/-- A join that answers that it rearmed stored its row then and there. -/
theorem tryRearmJoin_rearmed {store : FakePersist} {scope : RearmJoinScope}
    (answered : (store.apply (.tryRearmJoin scope)).1 = .joined .rearmed) :
    store.rearmed[scope.join]? = none ∧
      store.scopeMatchesClaim scope.join = true ∧
      store.handledThroughNewest scope.join = true ∧
      store.attemptTerminal scope.attemptId = true ∧
      store.step (.tryRearmJoin scope) =
        { store with rearmed := store.rearmed.insert scope.join () } := by
  have outcome : (commit (store.tryRearmJoin scope) store).1 = .ok .rearmed :=
    ofExcept_joined answered
  cases joined : store.tryRearmJoin scope with
  | error refusal => simp [joined, commit] at outcome
  | ok pair =>
      obtain ⟨result, next⟩ := pair
      simp only [joined, commit, Except.ok.injEq] at outcome
      subst outcome
      rcases tryRearmJoin_cases joined with ⟨different, _⟩ |
        ⟨_, vacant, matched, handled, terminal, updated⟩
      · exact absurd rfl different
      · refine ⟨vacant, matched, handled, terminal, ?_⟩
        change (commit (store.tryRearmJoin scope) store).2 = _
        rw [joined]
        exact updated

/-- A join that answers anything else changes nothing. -/
theorem tryRearmJoin_unchanged {store : FakePersist} {scope : RearmJoinScope}
    (answered : (store.apply (.tryRearmJoin scope)).1 ≠ .joined .rearmed) :
    store.step (.tryRearmJoin scope) = store := by
  change (commit (store.tryRearmJoin scope) store).2 = store
  cases joined : store.tryRearmJoin scope with
  | error refusal => rfl
  | ok pair =>
      obtain ⟨result, next⟩ := pair
      rcases tryRearmJoin_cases joined with ⟨_, same⟩ | ⟨rearmed, _⟩
      · exact same
      · refine absurd ?_ answered
        change PortReply.ofExcept .joined
          (commit (store.tryRearmJoin scope) store).1 = .joined .rearmed
        rw [joined, rearmed]
        rfl

/-- After a join, every later call with its scope finds it there. -/
theorem tryRearmJoin_later {before later : FakePersist} {scope : RearmJoinScope}
    (answered : (before.apply (.tryRearmJoin scope)).1 = .joined .rearmed)
    (grown : Grows (before.step (.tryRearmJoin scope)) later) :
    later.tryRearmJoin scope = .ok (.alreadyRearmed, later) := by
  obtain ⟨_, matched, handled, terminal, updated⟩ := tryRearmJoin_rearmed answered
  rw [updated] at grown
  apply tryRearmJoin_alreadyRearmed
  · exact (BTreeMap.contains_iff _ _).2
      ⟨(), grown.rearmed scope.join (BTreeMap.getElem?_insert_same _ _ _)⟩
  · exact grown.scopeMatchesClaim matched
  · exact grown.handledThroughNewest handled
  · exact grown.attemptTerminal terminal

/-! ## The acknowledgement behind complete coverage -/

/-- Some earlier call of the run acknowledged the newest event of the claim while
its attempt had neither a terminal nor a loss. -/
def NewestAcknowledged (activeMacKey : Bytes32) (operations : List PortOp)
    (attemptId : AttemptId) (claim : PersistedClaimRecord) : Prop :=
  ∃ earlier binding request result,
    Answers activeMacKey operations earlier
      (.acknowledgeRetrievedBatch binding request)
      (.acknowledged (.recorded result)) ∧
    binding.attemptId = attemptId ∧
    claim.eventRefs.asSlice.getLast? = some request.cursor ∧
    ∀ fact ∈ (after activeMacKey earlier).factsOf attemptId,
      fact.isTerminal = false ∧ fact ≠ .controllerLost

/-- An acknowledgement of a longer run stays one. -/
theorem NewestAcknowledged.append {activeMacKey : Bytes32}
    {performed : List PortOp} {attemptId : AttemptId} {claim : PersistedClaimRecord}
    (acknowledged : NewestAcknowledged activeMacKey performed attemptId claim)
    (rest : List PortOp) :
    NewestAcknowledged activeMacKey (performed ++ rest) attemptId claim := by
  obtain ⟨earlier, binding, request, result, ⟨shorter, answered⟩, facts⟩ :=
    acknowledged
  exact ⟨earlier, binding, request, result,
    ⟨shorter.trans (List.prefix_append performed rest), answered⟩, facts⟩

/-- The acknowledgement that completes coverage is at the newest event and
answers that it was recorded. -/
theorem acknowledge_completes {store : FakePersist}
    {binding : ValidatedHelperBinding} {request : AcknowledgeRequest}
    (sound : HandledSound store)
    {coverage : PersistedHandledCoverage} {attemptId : AttemptId}
    (incomplete : store.handled[attemptId]? ≠ some coverage)
    (stored : (store.step (.acknowledgeRetrievedBatch binding request)).handled[
      attemptId]? = some coverage)
    (newest : coverage.coveredThroughNewest = true) :
    ∃ result claim,
      (store.apply (.acknowledgeRetrievedBatch binding request)).1 =
        .acknowledged (.recorded result) ∧
      binding.attemptId = attemptId ∧
      store.claimForAttempt attemptId = some claim ∧
      claim.eventRefs.asSlice.getLast? = some request.cursor ∧
      ∀ fact ∈ store.factsOf attemptId,
        fact.isTerminal = false ∧ fact ≠ .controllerLost := by
  change (commit (store.acknowledgeRetrievedBatch binding request)
    store).2.handled[attemptId]? = some coverage at stored
  cases acknowledged : store.acknowledgeRetrievedBatch binding request with
  | error refusal =>
      rw [acknowledged] at stored
      exact absurd stored incomplete
  | ok pair =>
      obtain ⟨answer, next⟩ := pair
      rw [acknowledged] at stored
      obtain ⟨_, _, _, _, ⟨_, _, _, _, _, _, _, unchanged⟩ |
        ⟨_, authorized, _, claim, position, proved, furthest, cursor, _, _, claimed,
          _, placed, _, _, advanced, covered, recorded, updated⟩⟩ :=
            acknowledgeRetrievedBatch_cases acknowledged
      · rw [unchanged] at stored
        exact absurd stored incomplete
      rw [updated] at stored
      simp only [commit, withAcknowledge, BTreeMap.getElem?_insert_eq] at stored
      split at stored
      · next sameAttempt =>
        subst sameAttempt
        simp only [Option.some.injEq] at stored
        subst stored
        obtain ⟨_, _, unlost, open', unterminated⟩ := authorizeFreshUse_ok authorized
        simp only [coverageRow, decide_eq_true_eq] at newest
        refine ⟨store.acknowledgeResult binding request, claim, ?_, rfl, claimed,
          ?_, ?_⟩
        · change PortReply.ofExcept .acknowledged
            (commit (store.acknowledgeRetrievedBatch binding request) store).1 = _
          rw [acknowledged, recorded]
          rfl
        · -- the covered row was not complete, so the new position is the last one
          rw [List.getLast?_eq_getElem?, ← newest]
          rcases furthestPosition_cases placed advanced covered with
            ⟨same, rfl⟩ | ⟨old, oldStored, oldPlaced, _⟩
          · exact covered
          · obtain ⟨other, oldPosition, _, otherClaimed, _, otherPlaced, _, _, flag⟩ :=
              sound _ old oldStored
            rw [claimed, Option.some.injEq] at otherClaimed
            subst otherClaimed
            rw [oldPlaced, Option.some.injEq] at otherPlaced
            subst otherPlaced
            have complete : store.handledComplete binding.attemptId = true :=
              (handledComplete_iff _ _).2 ⟨old, oldStored, by simp [flag, newest]⟩
            rw [open'] at complete
            cases complete
        · intro fact known
          constructor
          · by_contra terminal
            rw [Bool.not_eq_false] at terminal
            have closed := (attemptTerminal_iff _ _).2 ⟨fact, known, terminal⟩
            rw [unterminated] at closed
            cases closed
          · rintro rfl
            have lost := (attemptLost_iff _ _).2 known
            rw [unlost] at lost
            cases lost
      · exact absurd stored incomplete

/-- Only an acknowledgement rewrites coverage. -/
theorem step_handled_of_not_acknowledge (store : FakePersist) (operation : PortOp)
    (other : ∀ binding request,
      operation ≠ .acknowledgeRetrievedBatch binding request) :
    (store.step operation).handled = store.handled := by
  have effect := step_effect store operation
  generalize store.step operation = next at effect
  cases effect with
  | acknowledged binding request => exact absurd rfl (other binding request)
  | recovered draws => rw [classified_frame]
  | _ => rfl

/-- Coverage through the newest event was acknowledged while the attempt was
open. -/
theorem newestAcknowledged_after (activeMacKey : Bytes32) (operations : List PortOp) :
    ∀ (attemptId : AttemptId) coverage claim,
      (after activeMacKey operations).handled[attemptId]? = some coverage →
      coverage.coveredThroughNewest = true →
      (after activeMacKey operations).claimForAttempt attemptId = some claim →
        NewestAcknowledged activeMacKey operations attemptId claim := by
  refine Transition.history_run
    (FakePersist.default activeMacKey)
    (fun performed store =>
      ∀ (attemptId : AttemptId) coverage claim,
        store.handled[attemptId]? = some coverage →
        coverage.coveredThroughNewest = true →
        store.claimForAttempt attemptId = some claim →
          NewestAcknowledged activeMacKey performed attemptId claim) ?_ ?_ operations
  · intro attemptId coverage claim stored
    simp [FakePersist.default] at stored
  · intro performed operation earlier attemptId coverage claim stored newest claimed
    let store := after activeMacKey performed
    change (store.step operation).handled[attemptId]? = some coverage at stored
    change (store.step operation).claimForAttempt attemptId = some claim at claimed
    change ∀ (attemptId : AttemptId) coverage claim, store.handled[attemptId]? =
      some coverage → _ → store.claimForAttempt attemptId = some claim → _ at earlier
    have sound : HandledSound store := handledSound_after activeMacKey performed
    have nextIdentified : ClaimsIdentified (store.step operation) :=
      (step_effect store operation).claimsIdentified
        (claimsIdentified_after activeMacKey performed)
    have sameClaim : ∀ found, store.claimForAttempt attemptId = some found →
        found = claim := by
      intro found present
      have kept := (step_grows store operation).claimForAttempt nextIdentified present
      exact Option.some.inj (kept.symm.trans claimed)
    by_cases known : store.handled[attemptId]? = some coverage
    · obtain ⟨found, _, _, foundClaimed, _⟩ := sound attemptId coverage known
      have same := sameClaim found foundClaimed
      subst same
      exact (earlier attemptId coverage found known newest foundClaimed).append _
    · by_cases acknowledges : ∃ binding request,
        operation = .acknowledgeRetrievedBatch binding request
      · obtain ⟨binding, request, rfl⟩ := acknowledges
        obtain ⟨result, found, answered, sameAttempt, foundClaimed, last, facts⟩ :=
          acknowledge_completes sound known stored newest
        have same := sameClaim found foundClaimed
        subst same
        exact ⟨performed, binding, request, result, ⟨List.prefix_rfl, answered⟩,
          sameAttempt, last, facts⟩
      · have unchanged := step_handled_of_not_acknowledge store operation
          (fun binding request equal => acknowledges ⟨binding, request, equal⟩)
        rw [unchanged] at stored
        exact absurd stored known

/-! ## The join of a run -/

/-- A join of a run relies on its claim, on an acknowledgement of the newest event
made while the attempt was open, and on a recorded terminal. -/
theorem rearmed_of_claim_ack_terminal {activeMacKey : Bytes32}
    {operations before : List PortOp} {scope : RearmJoinScope}
    (joined : Answers activeMacKey operations before (.tryRearmJoin scope)
      (.joined .rearmed)) :
    ∃ claim ∈ BTreeMap.rows (after activeMacKey before).claims,
      (claim.armId = scope.armId ∧ claim.generation = scope.generation ∧
        claim.attemptId = scope.attemptId ∧ claim.signalId = scope.signalId) ∧
      NewestAcknowledged activeMacKey before scope.attemptId claim ∧
      ∃ fact ∈ (after activeMacKey before).factsOf scope.attemptId,
        fact.isTerminal = true := by
  obtain ⟨_, matched, handled, terminal, _⟩ := tryRearmJoin_rearmed joined.2
  obtain ⟨claim, stored, attempt, arm, generation, signal⟩ :=
    (scopeMatchesClaim_iff _ _).1 matched
  obtain ⟨coverage, covered, _, newest⟩ := (handledThroughNewest_iff _ _).1 handled
  refine ⟨claim, stored, ⟨arm, generation, attempt, signal⟩, ?_,
    (attemptTerminal_iff _ _).1 terminal⟩
  refine newestAcknowledged_after activeMacKey before _ coverage claim covered newest ?_
  exact ((claimsIdentified_after activeMacKey before).claimForAttempt_eq_some_iff
    _ _).2 ⟨stored, attempt⟩

/-- A join of a run is never followed by a join of the same arm and generation. -/
theorem rearmed_not_followed {activeMacKey : Bytes32}
    {operations first second : List PortOp} {scope other : RearmJoinScope}
    (joined : Answers activeMacKey operations first (.tryRearmJoin scope)
      (.joined .rearmed))
    (rejoined : Answers activeMacKey operations second (.tryRearmJoin other)
      (.joined .rearmed))
    (sameArm : scope.armId = other.armId)
    (sameGeneration : scope.generation = other.generation) :
    ¬first ++ [.tryRearmJoin scope] <+: second := by
  intro shorter
  have grown := after_grows_of_prefix activeMacKey shorter
  rw [after_append_singleton] at grown
  obtain ⟨_, matched, _, _, updated⟩ := tryRearmJoin_rearmed joined.2
  obtain ⟨vacant, otherMatched, _, _, _⟩ := tryRearmJoin_rearmed rejoined.2
  rw [updated] at grown
  obtain ⟨claim, stored, attempt, arm, generation, signal⟩ :=
    (scopeMatchesClaim_iff _ _).1 (grown.scopeMatchesClaim matched)
  obtain ⟨found, foundStored, foundAttempt, foundArm, foundGeneration, foundSignal⟩ :=
    (scopeMatchesClaim_iff _ _).1 otherMatched
  have same : claim = found :=
    (claimsIdentified_after activeMacKey second).claim_eq_of_generation stored
      foundStored
      (arm.trans (sameArm.trans foundArm.symm))
      (generation.trans (sameGeneration.trans foundGeneration.symm))
  subst same
  have sameScope : scope.join = other.join := by
    simp only [RearmJoinScope.join, PersistedRearmJoin.mk.injEq]
    exact ⟨sameArm, sameGeneration, attempt.symm.trans foundAttempt,
      signal.symm.trans foundSignal⟩
  have present := grown.rearmed scope.join (BTreeMap.getElem?_insert_same _ _ _)
  rw [sameScope, vacant] at present
  cases present

/-- The re-arm join is exact and one-shot, along every run. -/
theorem rearm_join_exact_and_one_shot (activeMacKey : Bytes32)
    (operations : List PortOp) :
    (∀ first second scope other,
      Answers activeMacKey operations first (.tryRearmJoin scope)
        (.joined .rearmed) →
      Answers activeMacKey operations second (.tryRearmJoin other)
        (.joined .rearmed) →
      scope.armId = other.armId → scope.generation = other.generation →
        first = second) ∧
    (∀ before scope,
      Answers activeMacKey operations before (.tryRearmJoin scope)
        (.joined .rearmed) →
      ∃ claim ∈ BTreeMap.rows (after activeMacKey before).claims,
        (claim.armId = scope.armId ∧ claim.generation = scope.generation ∧
          claim.attemptId = scope.attemptId ∧ claim.signalId = scope.signalId) ∧
        NewestAcknowledged activeMacKey before scope.attemptId claim ∧
        ∃ fact ∈ (after activeMacKey before).factsOf scope.attemptId,
          fact.isTerminal = true) ∧
    (∀ before later scope reply,
      Answers activeMacKey operations before (.tryRearmJoin scope)
        (.joined .rearmed) →
      before ++ [.tryRearmJoin scope] <+: later →
      Answers activeMacKey operations later (.tryRearmJoin scope) reply →
        reply = .joined .alreadyRearmed ∧
          after activeMacKey (later ++ [.tryRearmJoin scope]) =
            after activeMacKey later) ∧
    (∀ before scope reply,
      Answers activeMacKey operations before (.tryRearmJoin scope) reply →
      reply ≠ .joined .rearmed →
        after activeMacKey (before ++ [.tryRearmJoin scope]) =
          after activeMacKey before) := by
  refine ⟨?_, fun before scope => rearmed_of_claim_ack_terminal, ?_, ?_⟩
  · intro first second scope other joined rejoined sameArm sameGeneration
    -- two calls of one run are ordered by the prefixes they follow
    rcases Nat.lt_trichotomy first.length second.length with shorter | same | longer
    · exact absurd
        (List.prefix_of_prefix_length_le joined.1
          ((List.prefix_append second _).trans rejoined.1) (by simp; omega))
        (rearmed_not_followed joined rejoined sameArm sameGeneration)
    · exact (List.prefix_of_prefix_length_le
        ((List.prefix_append first _).trans joined.1)
        ((List.prefix_append second _).trans rejoined.1)
        (Nat.le_of_eq same)).eq_of_length same
    · exact absurd
        (List.prefix_of_prefix_length_le rejoined.1
          ((List.prefix_append first _).trans joined.1) (by simp; omega))
        (rearmed_not_followed rejoined joined sameArm.symm sameGeneration.symm)
  · intro before later scope reply joined shorter answered
    have grown := after_grows_of_prefix activeMacKey shorter
    rw [after_append_singleton] at grown
    have found := tryRearmJoin_later joined.2 grown
    constructor
    · rw [← answered.2]
      change PortReply.ofExcept .joined
        (commit ((after activeMacKey later).tryRearmJoin scope) _).1 = _
      rw [found]
      rfl
    · rw [after_append_singleton]
      change (commit ((after activeMacKey later).tryRearmJoin scope) _).2 = _
      rw [found]
      rfl
  · intro before scope reply answered different
    rw [after_append_singleton]
    exact tryRearmJoin_unchanged (answered.2 ▸ different)

end Runs

end FakePersist
end Gearwit
