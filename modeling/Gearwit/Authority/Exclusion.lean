import Gearwit.Authority.Runs

/-!
# Zero-write conclusions and native effects exclude each other

The store operations do not look at each other's tables, so the exclusion comes from
the lifecycle: a held attempt never crosses the write boundary, and an invalidated
one never concludes with evidence, whichever of two moments of a run is looked at
first.
-/

namespace Gearwit

open FakePersist

namespace Phase

/-- A phase that was not crossed has no reservation, evidence or fact. -/
theorem rows_of_not_crossed {phase : Phase} (outside : ¬phase.Crossed) :
    phase.rows.reservation = none ∧ phase.rows.evidence = none ∧
      phase.rows.facts = none := by
  cases phase with
  | absent => exact ⟨rfl, rfl, rfl⟩
  | admitted => exact ⟨rfl, rfl, rfl⟩
  | dispatched correlation => exact ⟨rfl, rfl, rfl⟩
  | held correlation conclusion => exact ⟨rfl, rfl, rfl⟩
  | _ => exact absurd trivial outside

/-- A phase that is not concluded has no evidence, fact or reconciliation. -/
theorem rows_of_not_concluded {phase : Phase} (pending : ¬phase.Concluded) :
    phase.rows.evidence = none ∧ phase.rows.facts = none ∧
      phase.rows.reconciliation = none := by
  cases phase with
  | concluded reservation outcome => exact absurd ⟨reservation, outcome, rfl⟩ pending
  | _ => exact ⟨rfl, rfl, rfl⟩

end Phase

namespace AuthorityWorld

/-- Conclusion before the write the store holds for an attempt. -/
def prewriteConclusion (world : AuthorityWorld) (attemptId : AttemptId) :
    Option PreWriteConclusion :=
  world.store.prewrite[attemptId]?.map PersistedPreWriteConclusion.conclusion

/-- The store holds no reservation, write evidence or turn fact of an attempt. -/
structure Unwritten (world : AuthorityWorld) (attemptId : AttemptId) : Prop where
  reservation : world.store.reservations[attemptId]? = none
  evidence : world.store.writeEvidence[attemptId]? = none
  facts : world.store.factsOf attemptId = []

/-- The store holds no write evidence, turn fact or reconciliation of an attempt, and
no scope to follow it up is at hand. -/
structure Unanswered (world : AuthorityWorld) (attemptId : AttemptId) : Prop where
  evidence : world.store.writeEvidence[attemptId]? = none
  facts : world.store.factsOf attemptId = []
  reconciliation : world.store.reconciliations[attemptId]? = none
  observing : ∀ scope ∈ world.observationScopes, scope.correlation.attemptId ≠ attemptId
  reconciling : ∀ scope ∈ world.reconciliationScopes,
    scope.correlation.attemptId ≠ attemptId

/-- What a conclusion held at one moment excludes at another. -/
structure Excludes (world moment : AuthorityWorld) (attemptId : AttemptId) : Prop where
  held : ∀ evidenceRef,
    world.prewriteConclusion attemptId = some (.heldBeforeNativeWrite evidenceRef) →
      Unwritten moment attemptId
  unproven : world.prewriteConclusion attemptId = some .idleStateUnproven →
    Unwritten moment attemptId
  invalidated : ∀ probeId expectedEpoch observedEpoch,
    world.prewriteConclusion attemptId =
        some (.idleEpochInvalidated probeId expectedEpoch observedEpoch) →
      Unanswered moment attemptId

namespace Tracks

variable {world moment : AuthorityWorld} {phases other : AttemptId → Phase}

private theorem factsOf_of_rows {store : FakePersist} {attemptId : AttemptId}
    (factless : (store.attemptRows attemptId).facts = none) :
    store.factsOf attemptId = [] := by
  have absent : store.turnFacts[attemptId]? = none := factless
  simp [factsOf, absent]

/-- An attempt that was not crossed is unwritten. -/
theorem unwritten (tracks : Tracks world phases) {attemptId : AttemptId}
    (outside : ¬(phases attemptId).Crossed) : Unwritten world attemptId := by
  have rows := tracks.rows attemptId
  obtain ⟨reservation, evidence, facts⟩ := Phase.rows_of_not_crossed outside
  exact ⟨(congrArg AttemptRows.reservation rows).trans reservation,
    (congrArg AttemptRows.evidence rows).trans evidence,
    factsOf_of_rows ((congrArg AttemptRows.facts rows).trans facts)⟩

/-- An attempt that is not concluded is unanswered. -/
theorem unanswered (tracks : Tracks world phases) {attemptId : AttemptId}
    (pending : ¬(phases attemptId).Concluded) : Unanswered world attemptId where
  evidence := (congrArg AttemptRows.evidence (tracks.rows attemptId)).trans
    (Phase.rows_of_not_concluded pending).1
  facts := factsOf_of_rows ((congrArg AttemptRows.facts (tracks.rows attemptId)).trans
    (Phase.rows_of_not_concluded pending).2.1)
  reconciliation := (congrArg AttemptRows.reconciliation (tracks.rows attemptId)).trans
    (Phase.rows_of_not_concluded pending).2.2
  observing := by
    rintro scope present rfl
    exact pending (tracks.observing scope present)
  reconciling := by
    rintro scope present rfl
    exact pending (tracks.reconciling scope present)

/-- A conclusion excludes what the phases of its attempt exclude at the other
moment. -/
private theorem excludes (tracks : Tracks world phases) (tracking : Tracks moment other)
    {attemptId : AttemptId}
    (held : ∀ correlation conclusion,
      phases attemptId = .held correlation conclusion → ¬(other attemptId).Crossed)
    (invalidated : ∀ reservation probeId expectedEpoch observedEpoch,
      phases attemptId =
          .invalidated reservation probeId expectedEpoch observedEpoch →
        ¬(other attemptId).Concluded) :
    Excludes world moment attemptId := by
  have concluded : ∀ {conclusion}, world.prewriteConclusion attemptId = some conclusion →
      (phases attemptId).rows.prewrite = some conclusion := fun stored =>
    (congrArg AttemptRows.prewrite (tracks.rows attemptId)).symm.trans stored
  constructor
  · intro evidenceRef stored
    rcases Phase.held_or_invalidated_of_prewrite (concluded stored) with
      ⟨correlation, isHeld⟩ | ⟨_, _, _, _, _, impossible⟩
    · exact tracking.unwritten (held _ _ isHeld)
    · cases impossible
  · intro stored
    rcases Phase.held_or_invalidated_of_prewrite (concluded stored) with
      ⟨correlation, isHeld⟩ | ⟨_, _, _, _, _, impossible⟩
    · exact tracking.unwritten (held _ _ isHeld)
    · cases impossible
  · intro probeId expectedEpoch observedEpoch stored
    rcases Phase.held_or_invalidated_of_prewrite (concluded stored) with
      ⟨correlation, isHeld⟩ | ⟨_, _, _, _, isInvalidated, _⟩
    · refine tracking.unanswered fun isConcluded => held _ _ isHeld ?_
      obtain ⟨_, _, isConcluded⟩ := isConcluded
      rw [isConcluded]
      trivial
    · exact tracking.unanswered (invalidated _ _ _ _ isInvalidated)

end Tracks

/-- Of two moments of a run, what the store concluded without a write at one excludes
the native effects of the same attempt at the other. -/
theorem zero_write_excludes_native_effects [Blake3] [Rfc3339] (activeMacKey : Bytes32)
    (now : OffsetDateTime) (early later : List AuthorityEvent) (attemptId : AttemptId) :
    Excludes (after activeMacKey now early) (after activeMacKey now (early ++ later))
        attemptId ∧
      Excludes (after activeMacKey now (early ++ later)) (after activeMacKey now early)
        attemptId := by
  obtain ⟨phases, tracks⟩ := tracked_after activeMacKey now early
  obtain ⟨last, tracking, leads⟩ :=
    run_follows (reached_after activeMacKey now early) tracks later
  have split : after activeMacKey now (early ++ later) =
      Transition.run step (after activeMacKey now early) later :=
    Transition.run_append _ _ _ _
  rw [← split] at tracking
  have leading := leads attemptId
  refine ⟨tracks.excludes tracking ?_ ?_, tracking.excludes tracks ?_ ?_⟩
  · intro correlation conclusion isHeld
    rw [isHeld] at leading
    rw [leading.held]
    exact id
  · rintro reservation probeId expectedEpoch observedEpoch isInvalidated
      ⟨_, _, isConcluded⟩
    rw [isInvalidated] at leading
    rw [leading.invalidated] at isConcluded
    cases isConcluded
  · intro correlation conclusion isHeld crossed
    have still := leading.crossed crossed
    rw [isHeld] at still
    exact still
  · intro reservation probeId expectedEpoch observedEpoch isInvalidated isConcluded
    obtain ⟨_, _, still⟩ := leading.concluded isConcluded
    rw [isInvalidated] at still
    cases still

end AuthorityWorld
end Gearwit
