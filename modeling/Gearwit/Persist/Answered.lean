import Gearwit.Persist.Growth

/-!
# Facts rest on evidence

An attempt is answered when its write has evidence and the fact of an exact response is
recorded.  Attempts with facts are answered in every store whose facts were recorded for
answered attempts, and recovery answers every attempt whose write has evidence.
-/

namespace Gearwit
namespace FakePersist

/-- The write of an attempt has evidence, and an exact response has its fact. -/
def Answered (store : FakePersist) (attemptId : AttemptId) : Prop :=
  ∃ evidence, store.writeEvidence[attemptId]? = some evidence ∧
    ∀ fact, evidence = .exactResponse fact → fact ∈ store.factsOf attemptId

/-- Only answered attempts have facts. -/
def Backed (store : FakePersist) : Prop :=
  ∀ attemptId : AttemptId, store.turnFacts[attemptId]? ≠ none → store.Answered attemptId

variable {store next : FakePersist} {attemptId : AttemptId}

/-- A write of unknown outcome answers its attempt. -/
theorem Answered.of_unknown (unknown : store.writeEvidence[attemptId]? = some .unknown) :
    store.Answered attemptId :=
  ⟨.unknown, unknown, fun _ impossible => by cases impossible⟩

/-- An answered attempt stays so while its facts stay and its evidence stays or becomes
unknown. -/
theorem Answered.of_evidence (answered : store.Answered attemptId)
    (evidence : next.writeEvidence[attemptId]? = store.writeEvidence[attemptId]? ∨
      next.writeEvidence[attemptId]? = some .unknown)
    (facts : ∀ fact ∈ store.factsOf attemptId, fact ∈ next.factsOf attemptId) :
    next.Answered attemptId := by
  rcases evidence with same | unknown
  · obtain ⟨evidence, stored, responded⟩ := answered
    exact ⟨evidence, same.trans stored, fun fact exact =>
      facts fact (responded fact exact)⟩
  · exact .of_unknown unknown

/-- Stores with the same evidence and facts of an attempt answer it alike. -/
theorem Answered.congr (answered : store.Answered attemptId)
    (evidence : next.writeEvidence[attemptId]? = store.writeEvidence[attemptId]?)
    (facts : next.turnFacts[attemptId]? = store.turnFacts[attemptId]?) :
    next.Answered attemptId :=
  answered.of_evidence (.inl evidence) fun fact known => by rwa [factsOf, facts]

/-- An attempt without evidence has no facts. -/
theorem Backed.factless (backed : store.Backed)
    (vacant : store.writeEvidence[attemptId]? = none) :
    store.turnFacts[attemptId]? = none := by
  by_contra present
  obtain ⟨evidence, stored, _⟩ := backed attemptId present
  rw [vacant] at stored
  cases stored

/-! ## Records -/

/-- A new fact keeps every answered attempt. -/
theorem Answered.withTurnFact (answered : store.Answered attemptId)
    (recorded : AttemptId) (fact : NativeTurnFact) :
    (store.withTurnFact recorded fact).Answered attemptId := by
  refine answered.of_evidence ?_ fun known listed => ?_
  · simp only [FakePersist.withTurnFact]
    split
    · rw [BTreeMap.getElem?_insert_eq]
      split
      · exact .inr rfl
      · exact .inl rfl
    · exact .inl rfl
  · rw [factsOf_withTurnFact]
    split
    · next same => exact List.mem_append_left _ (same ▸ listed)
    · exact listed

/-- The fact of an exact response answers its attempt. -/
theorem answered_withTurnFact {evidence : NativeWriteEvidence} {fact : NativeTurnFact}
    (stored : store.writeEvidence[attemptId]? = some evidence)
    (carried : ∀ response, evidence = .exactResponse response → response = fact) :
    (store.withTurnFact attemptId fact).Answered attemptId := by
  have recorded : fact ∈ (store.withTurnFact attemptId fact).factsOf attemptId := by
    rw [factsOf_withTurnFact, if_pos rfl]
    exact List.mem_append_right _ (List.mem_singleton_self fact)
  cases degraded : fact.isDegraded with
  | true =>
      refine .of_unknown ?_
      simp [FakePersist.withTurnFact, degraded]
  | false =>
      refine ⟨evidence, by simpa [FakePersist.withTurnFact, degraded] using stored,
        fun response exact => ?_⟩
      rwa [carried response exact]

/-! ## Recovery -/

/-- Evidence of an attempt after a recovery: what it was, or unknown. -/
theorem classified_evidence_cases (draws : List VerifierRef) (store : FakePersist)
    (attemptId : AttemptId) :
    (store.classified draws).2.writeEvidence[attemptId]? =
        store.writeEvidence[attemptId]? ∨
      (store.classified draws).2.writeEvidence[attemptId]? = some .unknown := by
  have rows := classified_attempt draws store attemptId
  simp only [classifiable, Classifiable.unknown, Classifiable.mk.injEq] at rows
  have resumed : resumedEvidence store.turnFacts[attemptId]?
      store.writeEvidence[attemptId]? = store.writeEvidence[attemptId]? ∨
        resumedEvidence store.turnFacts[attemptId]?
          store.writeEvidence[attemptId]? = some .unknown := by
    unfold resumedEvidence
    split
    · exact .inr rfl
    · exact .inl rfl
  rcases rows with ⟨_, _, same, _⟩ | ⟨_, ⟨_, _, _, unknown, _⟩ | ⟨_, _, same, _⟩⟩
  · rwa [same]
  · exact .inr unknown
  · rwa [same]

/-- Recovery keeps every answered attempt. -/
theorem Answered.classified (answered : store.Answered attemptId)
    (draws : List VerifierRef) : (store.classified draws).2.Answered attemptId :=
  answered.of_evidence (classified_evidence_cases draws store attemptId)
    fun _ known => mem_factsOf_classified draws known

/-- Recovery answers every attempt whose write has evidence. -/
theorem Backed.answered_classified (backed : store.Backed) {draws : List VerifierRef}
    {evidence : NativeWriteEvidence}
    (stored : (store.classified draws).2.writeEvidence[attemptId]? = some evidence) :
    (store.classified draws).2.Answered attemptId := by
  cases facts : store.turnFacts[attemptId]? with
  | some known => exact (backed attemptId (by simp [facts])).classified draws
  | none =>
      refine ⟨evidence, stored, ?_⟩
      rintro fact rfl
      rcases classified_evidence_cases draws store attemptId with same | unknown
      · rw [factsOf_classified, facts, ← same, stored]
        exact List.mem_singleton_self fact
      · rw [stored] at unknown
        cases unknown

/-- Recovery records facts only for answered attempts. -/
theorem Backed.classified (backed : store.Backed) (draws : List VerifierRef) :
    (store.classified draws).2.Backed := by
  intro attemptId present
  rw [classified_turnFacts] at present
  cases facts : store.turnFacts[attemptId]? with
  | some known => exact (backed attemptId (by simp [facts])).classified draws
  | none =>
      -- only an exact response is completed with a fact
      rw [facts] at present
      cases evidence : store.writeEvidence[attemptId]? with
      | none => simp [evidence, resumedFacts] at present
      | some stored =>
          rcases classified_evidence_cases draws store attemptId with same | unknown
          · exact backed.answered_classified (same.trans evidence)
          · exact .of_unknown unknown

/-! ## Operations -/

section Runs

variable [Blake3]

/-- Every operation keeps every answered attempt. -/
theorem Effect.answered {operation : PortOp} (effect : Effect store operation next)
    (answered : store.Answered attemptId) : next.Answered attemptId := by
  cases effect with
  | fact request => exact answered.withTurnFact _ request.fact
  | recovered draws => exact answered.classified draws
  | evidence request reservation stored sameCorrelation vacant =>
      refine answered.of_evidence (.inl ?_) fun _ known => known
      refine BTreeMap.getElem?_insert_ne _ _ ?_
      rintro rfl
      obtain ⟨evidence, stored, _⟩ := answered
      rw [vacant] at stored
      cases stored
  | _ => exact answered.of_evidence (.inl rfl) fun _ known => known

/-- An operation keeps the facts backed when the fact it records answers its attempt. -/
theorem Effect.backed {operation : PortOp} (effect : Effect store operation next)
    (backed : store.Backed)
    (recorded : ∀ commit, operation = .recordNativeTurnFact commit →
      next.Answered commit.correlation.attemptId) : next.Backed := by
  intro attemptId present
  have kept : store.turnFacts[attemptId]? ≠ none → next.Answered attemptId :=
    fun known => effect.answered (backed attemptId known)
  cases effect with
  | fact request prepared =>
      by_cases same : request.correlation.attemptId = attemptId
      · exact same ▸ recorded request rfl
      · refine kept ?_
        rwa [withTurnFact, BTreeMap.getElem?_insert_ne _ _ same] at present
  | recovered draws => exact backed.classified draws attemptId present
  | _ => exact kept present

end Runs

/-- A store without facts is backed. -/
theorem backed_default (activeMacKey : Bytes32) :
    (FakePersist.default activeMacKey).Backed := by
  intro attemptId present
  simp [FakePersist.default] at present

end FakePersist
end Gearwit
