import Gearwit.Authority.Standing
import Gearwit.Authority.StoreCalls
import Gearwit.Persist.Synthetic

/-!
# Crashes between two records

A conclusion commits write evidence and then the fact it carries; a reconciliation
commits its disposition and then the fact.  A crash between the two is an operation
over a store that answers one call.  Recovery completes an exact response and turns a
bare writer acceptance into an unknown outcome, but it never looks at dispositions.
-/

namespace Gearwit

open FakePersist

/-! ## Reconciled evidence -/

namespace FakePersist

/-- Only an unknown outcome is ever reconciled. -/
def ReconciledUnknown (store : FakePersist) : Prop :=
  ∀ attemptId : AttemptId, store.reconciliations[attemptId]? ≠ none →
    store.writeEvidence[attemptId]? = some .unknown

/-- Recovery keeps an unknown outcome. -/
theorem classified_unknown (draws : List VerifierRef) {store : FakePersist}
    {attemptId : AttemptId} (unknown : store.writeEvidence[attemptId]? = some .unknown) :
    (store.classified draws).2.writeEvidence[attemptId]? = some .unknown := by
  have rows := classified_attempt draws store attemptId
  simp only [classifiable, Classifiable.unknown, unknown, Classifiable.mk.injEq] at rows
  rcases rows with ⟨_, _, kept, _⟩ | ⟨⟨_, _, _, impossible⟩, _⟩
  · rw [kept]
    cases store.turnFacts[attemptId]? <;> rfl
  · cases impossible

/-- Every operation keeps reconciled outcomes unknown. -/
theorem Effect.reconciledUnknown [Blake3] {store next : FakePersist}
    {operation : PortOp} (effect : Effect store operation next)
    (unknown : ReconciledUnknown store) : ReconciledUnknown next := by
  intro attemptId listed
  cases effect with
  | reconciled scope disposition isUnknown =>
      by_cases same : scope.correlation.attemptId = attemptId
      · exact same ▸ isUnknown
      · simp only [BTreeMap.getElem?_insert_ne _ _ same] at listed
        exact unknown attemptId listed
  | evidence request reservation stored sameCorrelation vacant =>
      have different : request.correlation.attemptId ≠ attemptId := by
        rintro rfl
        rw [unknown _ listed] at vacant
        cases vacant
      simp only [BTreeMap.getElem?_insert_ne _ _ different]
      exact unknown attemptId listed
  | fact request prepared dispatched accepted fresh =>
      simp only [withTurnFact]
      split
      · rw [BTreeMap.getElem?_insert_eq]
        split
        · rfl
        · exact unknown attemptId listed
      · exact unknown attemptId listed
  | recovered draws =>
      refine classified_unknown draws (unknown attemptId ?_)
      rw [classified_frame] at listed
      exact listed
  | _ => exact unknown attemptId listed

/-- In every reachable store only unknown outcomes are reconciled. -/
theorem reconciledUnknown_after [Blake3] (activeMacKey : Bytes32)
    (operations : List PortOp) : ReconciledUnknown (after activeMacKey operations) :=
  Transition.invariant_run _ (fun store operation unknown =>
    (step_effect store operation).reconciledUnknown unknown)
    (fun attemptId listed => by simp [FakePersist.default] at listed) operations

end FakePersist

/-! ## The two records -/

/-- The authority over a store that answers so many more calls. -/
def DaemonAuthority.answering (authority : DaemonAuthority (Interrupted FakePersist))
    (store : FakePersist) (calls : Nat) : DaemonAuthority (Interrupted FakePersist) :=
  { authority with persist := ⟨store, some calls⟩ }

/-- An operation that commits two records, with the reference drawn for the first. -/
inductive TwoRecords
  | conclude (prepared : PreparedDispatch) (disposition : NativeWriteDisposition)
      (evidenceRef : VerifierRef)
  | reconcile (scope : ReconciliationScope) (disposition : ReconciliationDisposition)

namespace TwoRecords

/-- Correlation the records are made under. -/
def correlation : TwoRecords → PersistedTurnCorrelation
  | .conclude prepared _ _ => prepared.correlation
  | .reconcile scope _ => scope.correlation

/-- Fact of the second record, if there is one. -/
def second : TwoRecords → Option NativeTurnFact
  | .conclude _ disposition _ => DaemonAuthority.immediateFact disposition
  | .reconcile _ disposition => DaemonAuthority.reconciledFact disposition

/-- Store after the first record alone. -/
def first (commits : TwoRecords) (store : FakePersist) :
    Except PersistError FakePersist :=
  match commits with
  | .conclude prepared disposition evidenceRef =>
      match DaemonAuthority.writeEvidenceOf prepared.correlation disposition with
      | none => .error .invalidTransition
      | some evidence => (store.recordNativeWriteEvidence
          ⟨prepared.correlation, evidence, evidenceRef⟩).map Prod.snd
  | .reconcile scope disposition =>
      (store.recordReconciliationFact scope disposition).map Prod.snd

section Runs

variable [Blake3]

/-- The operation itself. -/
def perform (commits : TwoRecords) (factDraw : Option VerifierRef)
    (authority : DaemonAuthority (Interrupted FakePersist)) :
    DaemonAuthority (Interrupted FakePersist) :=
  match commits with
  | .conclude prepared disposition evidenceRef =>
      (authority.concludeNativeWrite prepared (.ok disposition) (some evidenceRef)
        factDraw).2
  | .reconcile scope disposition =>
      (authority.recordReconciliation scope (.ok disposition) factDraw).2

/-- Store a crash leaves that lets the operation complete one call. -/
def crashed (commits : TwoRecords) (factDraw : Option VerifierRef)
    (authority : DaemonAuthority (Interrupted FakePersist)) (store : FakePersist) :
    FakePersist :=
  (commits.perform factDraw (authority.answering store 1)).store

/-- A fact refused by a stopped store leaves the store alone. -/
private theorem recordImmediateFact_stopped {fact : Option NativeTurnFact}
    {correlation : PersistedTurnCorrelation} {factDraw : Option VerifierRef}
    {authority next : DaemonAuthority (Interrupted FakePersist)}
    {reply : Except AuthorityError Unit}
    (stopped : authority.persist.remaining = some 0)
    (done : authority.recordImmediateFact fact correlation factDraw = (reply, next)) :
    next.store = authority.store := by
  have refused : ∀ request, Persist.recordNativeTurnFact request authority.persist =
      (.error .storageUnavailable, authority.persist) := by
    intro request
    change Interrupted.guard _ authority.persist = _
    unfold Interrupted.guard
    rw [stopped]
  unfold DaemonAuthority.recordImmediateFact at done
  split at done
  · cases done
    rfl
  split at done
  · cases done
    rfl
  simp only [DaemonAuthority.call, refused] at done
  cases done
  rfl

omit [Blake3] in
/-- The one call a stopping store still answers. -/
private theorem call_last {α : Type}
    (perform : FakePersist → Except PersistError (α × FakePersist))
    (authority : DaemonAuthority (Interrupted FakePersist))
    {store middle : FakePersist} {value : α}
    (performed : perform store = .ok (value, middle)) :
    (authority.answering store 1).call
        (Interrupted.guard fun store => commit (perform store) store) =
      (.ok value, authority.answering middle 0) := by
  simp only [DaemonAuthority.call, DaemonAuthority.answering, Interrupted.guard, commit,
    performed]

private theorem concludeEvidence_crashed {prepared : PreparedDispatch}
    (disposition : NativeWriteDisposition) {evidence : NativeWriteEvidence}
    {evidenceRef : VerifierRef} {store middle : FakePersist} {written : IdempotentWrite}
    (recorded : store.recordNativeWriteEvidence
      ⟨prepared.correlation, evidence, evidenceRef⟩ = .ok (written, middle))
    (factDraw : Option VerifierRef)
    (authority : DaemonAuthority (Interrupted FakePersist)) :
    (DaemonAuthority.concludeEvidence prepared disposition evidence (some evidenceRef)
      factDraw (authority.answering store 1)).2.store = middle := by
  have called : (authority.answering store 1).call (Persist.recordNativeWriteEvidence
        ⟨prepared.correlation, evidence, evidenceRef⟩) =
      (.ok written, authority.answering middle 0) :=
    call_last (recordNativeWriteEvidence ⟨prepared.correlation, evidence, evidenceRef⟩)
      authority recorded
  simp only [DaemonAuthority.concludeEvidence, called]
  split <;> next carried => exact recordImmediateFact_stopped rfl carried

private theorem recordReconciliation_crashed {scope : ReconciliationScope}
    {disposition : ReconciliationDisposition} {store middle : FakePersist}
    {written : IdempotentWrite}
    (recorded : store.recordReconciliationFact scope disposition =
      .ok (written, middle))
    (factDraw : Option VerifierRef)
    (authority : DaemonAuthority (Interrupted FakePersist)) :
    (DaemonAuthority.recordReconciliation scope (.ok disposition) factDraw
      (authority.answering store 1)).2.store = middle := by
  have called : (authority.answering store 1).call
      (Persist.recordReconciliationFact scope disposition) =
      (.ok written, authority.answering middle 0) :=
    call_last (recordReconciliationFact scope disposition) authority recorded
  simp only [DaemonAuthority.recordReconciliation, called]
  split <;> next carried => exact recordImmediateFact_stopped rfl carried

omit [Blake3] in
/-- The pair behind a mapped answer. -/
private theorem exists_of_map_snd
    {outcome : Except PersistError (IdempotentWrite × FakePersist)}
    {middle : FakePersist} (committed : outcome.map Prod.snd = .ok middle) :
    ∃ written, outcome = .ok (written, middle) := by
  cases outcome with
  | error refusal => cases committed
  | ok pair =>
      cases committed
      exact ⟨pair.1, rfl⟩

/-- A crash after an accepted first record leaves the store of that record. -/
theorem crashed_eq {commits : TwoRecords} {store middle : FakePersist}
    (committed : commits.first store = .ok middle) (factDraw : Option VerifierRef)
    (authority : DaemonAuthority (Interrupted FakePersist)) :
    commits.crashed factDraw authority store = middle := by
  cases commits with
  | conclude prepared disposition evidenceRef =>
      simp only [first] at committed
      split at committed
      · cases committed
      · next evidence classified =>
        obtain ⟨written, recorded⟩ := exists_of_map_snd committed
        have crash := concludeEvidence_crashed disposition recorded factDraw authority
        cases disposition with
        | idleEpochInvalidated probeId expectedEpoch observedEpoch => cases classified
        | _ =>
            simp only [crashed, perform, DaemonAuthority.concludeNativeWrite, classified]
            exact crash
  | reconcile scope disposition =>
      obtain ⟨written, recorded⟩ := exists_of_map_snd committed
      exact recordReconciliation_crashed recorded factDraw authority

end Runs

/-! ## Standing after the first record -/

/-- Outcome a store knows once the first record is in. -/
def outcome (commits : TwoRecords) (store : FakePersist) : WriteOutcome :=
  match commits with
  | .conclude prepared disposition evidenceRef =>
      ⟨(DaemonAuthority.writeEvidenceOf prepared.correlation disposition).getD .unknown,
        evidenceRef, store.turnFacts[prepared.correlation.attemptId]?, none⟩
  | .reconcile scope disposition =>
      ⟨.unknown, scope.nativeWriteEvidenceRef,
        store.turnFacts[scope.correlation.attemptId]?, some disposition⟩

/-- After the first of two records the attempt stands at its outcome, and sealed
coordinates and prepared dispatches are as before. -/
theorem first_standing {commits : TwoRecords} {store middle : FakePersist}
    (unknown : ReconciledUnknown store) {fact : NativeTurnFact}
    (due : commits.second = some fact) (committed : commits.first store = .ok middle) :
    Standing middle commits.correlation (commits.outcome store) ∧
      middle.prepared = store.prepared ∧
      middle.privateRecovery = store.privateRecovery ∧
      ∃ row, store.reservations[commits.correlation.attemptId]? = some row ∧
        row.correlation = commits.correlation := by
  cases commits with
  | conclude prepared disposition evidenceRef =>
      simp only [first] at committed
      split at committed
      · cases committed
      next evidence classified =>
      have answered : evidence ≠ .unknown := by
        rintro rfl
        cases disposition with
        | unknown => simp [second, DaemonAuthority.immediateFact] at due
        | _ => cases classified
      obtain ⟨written, recorded⟩ := exists_of_map_snd committed
      obtain ⟨row, reserved, named, ⟨_, rfl, stored, referenced⟩ | ⟨_, vacant, rfl⟩⟩ :=
        recordNativeWriteEvidence_cases recorded
      · have unreconciled : middle.reconciliations[prepared.correlation.attemptId]? =
            none := by
          by_contra listed
          rw [unknown _ listed] at stored
          exact answered (Option.some.inj stored).symm
        refine ⟨⟨⟨row, reserved, named⟩, ?_, referenced, rfl, unreconciled⟩, rfl, rfl,
          row, reserved, named⟩
        simp only [outcome, correlation, classified, Option.getD_some]
        exact stored
      · have unreconciled : store.reconciliations[prepared.correlation.attemptId]? =
            none := by
          by_contra listed
          rw [unknown _ listed] at vacant
          cases vacant
        refine ⟨⟨⟨_, BTreeMap.getElem?_insert_same _ _ _, named⟩, ?_,
          BTreeMap.getElem?_insert_same _ _ _, rfl, unreconciled⟩, rfl, rfl, row,
          reserved, named⟩
        simp only [outcome, correlation, classified, Option.getD_some]
        exact BTreeMap.getElem?_insert_same _ _ _
  | reconcile scope disposition =>
      obtain ⟨written, recorded⟩ := exists_of_map_snd committed
      obtain ⟨row, reserved, named, isUnknown, referenced, _, rfl⟩ :=
        recordReconciliationFact_cases recorded
      exact ⟨⟨⟨row, reserved, named⟩, isUnknown, referenced, rfl,
        BTreeMap.getElem?_insert_same _ _ _⟩, rfl, rfl, row, reserved, named⟩

end TwoRecords

/-! ## Healing -/

namespace FakePersist

/-- The store holds a terminal or a proven-not-accepted record of an attempt. -/
def DurablyFinal (store : FakePersist) (attemptId : AttemptId) : Prop :=
  (∃ fact ∈ store.factsOf attemptId, fact.isTerminal = true) ∨
    store.writeEvidence[attemptId]? = some .provenNotAccepted ∨
    store.reconciliations[attemptId]? = some .provenNotAccepted ∨
    ∃ turnRef terminalClass, store.reconciliations[attemptId]? =
      some (.terminal turnRef terminalClass)

/-- Recovery left an attempt with the fact its crash kept out, or unknown with a scope
the store accepts records under; and with a final record or some scope. -/
structure Healed (recovered : FakePersist) (snapshot : RecoverySnapshot)
    (attemptId : AttemptId) (fact : NativeTurnFact) : Prop where
  settled : fact ∈ recovered.factsOf attemptId ∨
    (recovered.writeEvidence[attemptId]? = some .unknown ∧
      ∃ needed, snapshot.Derives needed ∧ needed.correlation.attemptId = attemptId ∧
        recovered.Accepts needed)
  kept : recovered.DurablyFinal attemptId ∨
    ∃ needed, snapshot.Derives needed ∧ needed.correlation.attemptId = attemptId

end FakePersist

/-- An outcome with a terminal or a proven-not-accepted record. -/
def WriteOutcome.Final (outcome : WriteOutcome) : Prop :=
  (∃ fact ∈ outcome.factList, fact.isTerminal = true) ∨
    outcome.evidence = .provenNotAccepted ∨
    outcome.reconciliation = some .provenNotAccepted ∨
    ∃ turnRef terminalClass, outcome.reconciliation =
      some (.terminal turnRef terminalClass)

/-- Healing of a dumped store is healing of the outcome. -/
theorem healed_iff_outcome {recovered : FakePersist}
    (keyed : BTreeMap.Keyed
      (fun row : PersistedNativeReservation => row.correlation.attemptId)
      recovered.reservations) {correlation : PersistedTurnCorrelation}
    {outcome : WriteOutcome} (standing : Standing recovered correlation outcome)
    (fact : NativeTurnFact) :
    Healed recovered recovered.snapshot correlation.attemptId fact ↔
      (fact ∈ outcome.factList ∨ (outcome.evidence = .unknown ∧
        ∃ needed, outcome.followup correlation = some needed ∧
          recovered.Accepts needed)) ∧
      (outcome.Final ∨ ∃ needed, outcome.followup correlation = some needed) := by
  have derived : ∀ needed, (recovered.snapshot.Derives needed ∧
      needed.correlation.attemptId = correlation.attemptId) ↔
        outcome.followup correlation = some needed := by
    intro needed
    rw [derives_snapshot_iff keyed, ← standing.followup_eq]
    constructor
    · rintro ⟨derived, same⟩
      exact same ▸ derived
    · intro derived
      have same := (followup_attempt keyed derived).2
      exact ⟨same ▸ derived, same⟩
  have final : recovered.DurablyFinal correlation.attemptId ↔ outcome.Final := by
    unfold FakePersist.DurablyFinal WriteOutcome.Final
    rw [standing.factsOf_eq, standing.evidence, standing.reconciliation]
    simp
  have unknown : recovered.writeEvidence[correlation.attemptId]? = some .unknown ↔
      outcome.evidence = .unknown := by
    rw [standing.evidence, Option.some.injEq]
  constructor
  · rintro ⟨settled, kept⟩
    rw [standing.factsOf_eq, unknown] at settled
    rw [final] at kept
    refine ⟨settled.imp_right ?_, kept.imp_right ?_⟩
    · rintro ⟨isUnknown, needed, derives, same, accepts⟩
      exact ⟨isUnknown, needed, (derived needed).1 ⟨derives, same⟩, accepts⟩
    · rintro ⟨needed, derives⟩
      exact ⟨needed, (derived needed).1 derives⟩
  · rintro ⟨settled, kept⟩
    constructor
    · rw [standing.factsOf_eq, unknown]
      refine settled.imp_right ?_
      rintro ⟨isUnknown, needed, follows, accepts⟩
      obtain ⟨derives, same⟩ := (derived needed).2 follows
      exact ⟨isUnknown, needed, derives, same, accepts⟩
    · rw [final]
      refine kept.imp_right ?_
      rintro ⟨needed, follows⟩
      exact ⟨needed, (derived needed).2 follows⟩

/-! ## Each disposition -/

namespace TwoRecords

/-- Exactly when recovery heals a crash between the two records. -/
def HealedWhen (store : FakePersist) : TwoRecords → Prop
  | .conclude prepared (.accepted turnRef) _ =>
      store.turnFacts[prepared.correlation.attemptId]? = none ∨
        .accepted turnRef ∈ store.factsOf prepared.correlation.attemptId
  | .conclude prepared (.exactResponse fact) _ =>
      (store.turnFacts[prepared.correlation.attemptId]? = none ∧
          fact.isDegraded = false) ∨
        (fact ∈ store.factsOf prepared.correlation.attemptId ∧
          ∃ known ∈ store.factsOf prepared.correlation.attemptId, known.turnRef ≠ none)
  | .reconcile scope (.accepted turnRef) =>
      .accepted turnRef ∈ store.factsOf scope.correlation.attemptId ∨
        ((∀ known ∈ store.factsOf scope.correlation.attemptId,
            known.isTerminal = false) ∧
          ∃ prepared, store.prepared[scope.correlation.attemptId]? = some prepared ∧
            store.turnFactRejected (scope.correlation.withTurnRef turnRef) prepared
              (.accepted turnRef) = false)
  | .reconcile scope (.terminal turnRef terminalClass) =>
      .terminal turnRef terminalClass ∈ store.factsOf scope.correlation.attemptId
  | _ => True

end TwoRecords

namespace WriteOutcome

/-- Facts that name a turn are the terminal ones and those of progress. -/
private theorem exists_named_iff (facts : List NativeTurnFact) :
    (∃ known ∈ facts, known.turnRef ≠ none) ↔
      (∃ known ∈ facts, known.isTerminal = true) ∨ firstProgressTurn facts ≠ none := by
  constructor
  · rintro ⟨known, listed, named⟩
    cases known with
    | terminal turnRef terminalClass => exact .inl ⟨_, listed, rfl⟩
    | accepted turnRef =>
        exact .inr fun missing => by
          simpa using List.findSome?_eq_none_iff.1 missing _ listed
    | started turnRef =>
        exact .inr fun missing => by
          simpa using List.findSome?_eq_none_iff.1 missing _ listed
    | _ => exact absurd rfl named
  · rintro (⟨known, listed, terminal⟩ | progress)
    · refine ⟨known, listed, ?_⟩
      cases known with
      | terminal turnRef terminalClass => exact Option.some_ne_none turnRef
      | _ => cases terminal
    · obtain ⟨turnRef, found⟩ := Option.ne_none_iff_exists'.1 progress
      rcases firstProgressTurn_mem found with listed | listed
      · exact ⟨_, listed, by simp [NativeTurnFact.turnRef]⟩
      · exact ⟨_, listed, by simp [NativeTurnFact.turnRef]⟩

variable (outcome : WriteOutcome) (correlation : PersistedTurnCorrelation)

/-- An answered write that was not reconciled is final or followed up exactly when a
fact names its turn. -/
private theorem answered_kept_iff (unreconciled : outcome.reconciliation = none)
    (answered : (∃ turnWriteId, outcome.evidence = .writerAccepted turnWriteId) ∨
      ∃ fact, outcome.evidence = .exactResponse fact) :
    (outcome.Final ∨ ∃ needed, outcome.followup correlation = some needed) ↔
      ∃ known ∈ outcome.factList, known.turnRef ≠ none := by
  have final : outcome.Final ↔ ∃ known ∈ outcome.factList, known.isTerminal = true := by
    unfold Final
    rw [unreconciled]
    rcases answered with ⟨_, isAnswered⟩ | ⟨_, isAnswered⟩ <;> rw [isAnswered] <;> simp
  have followed : outcome.followup correlation =
      if outcome.factList.any NativeTurnFact.isTerminal then none
      else (firstProgressTurn outcome.factList).map fun turnRef =>
        .observe ⟨correlation.withTurnRef turnRef, outcome.evidenceRef⟩ := by
    unfold followup followupOf
    rcases answered with ⟨_, isAnswered⟩ | ⟨_, isAnswered⟩ <;> rw [isAnswered] <;>
      cases firstProgressTurn outcome.factList <;> rfl
  rw [exists_named_iff, final, followed]
  by_cases terminal : ∃ known ∈ outcome.factList, known.isTerminal = true
  · exact ⟨fun _ => .inl terminal, fun _ => .inl terminal⟩
  · have unterminated : ¬outcome.factList.any NativeTurnFact.isTerminal = true := by
      rw [List.any_eq_true]
      exact terminal
    rw [if_neg unterminated]
    cases firstProgressTurn outcome.factList with
    | none => simp [terminal]
    | some turnRef => simp

end WriteOutcome

namespace TwoRecords

/-! ## Healing of each pair of records -/

section Cases

variable {recovered : FakePersist} {correlation : PersistedTurnCorrelation}
  {evidenceRef : VerifierRef}

/-- A bare acceptance heals to an unknown outcome unless facts are already there. -/
private theorem accepted_healed_iff {facts : Option (List NativeTurnFact)}
    {turnWriteId : RequestNonce} {turnRef : PrivateNativeRef}
    (standing : Standing recovered correlation
      (WriteOutcome.mk (.writerAccepted turnWriteId) evidenceRef facts none).resumed)
    (keyed : BTreeMap.Keyed
      (fun row : PersistedNativeReservation => row.correlation.attemptId)
      recovered.reservations) :
    Healed recovered recovered.snapshot correlation.attemptId (.accepted turnRef) ↔
      facts = none ∨ .accepted turnRef ∈ facts.getD [] := by
  rw [healed_iff_outcome keyed standing]
  cases facts with
  | none =>
      refine iff_of_true ⟨.inr ⟨rfl, _, rfl, ?_⟩, .inr ⟨_, rfl⟩⟩ (.inl rfl)
      exact standing.accepts_reconcile rfl (.inl rfl)
  | some known =>
      have kept := WriteOutcome.answered_kept_iff
        ⟨.writerAccepted turnWriteId, evidenceRef, some known, none⟩ correlation rfl
        (.inl ⟨turnWriteId, rfl⟩)
      constructor
      · rintro ⟨listed | ⟨impossible, _⟩, _⟩
        · exact .inr listed
        · cases impossible
      · rintro (impossible | listed)
        · cases impossible
        · exact ⟨.inl listed, kept.2 ⟨_, listed, Option.some_ne_none turnRef⟩⟩

/-- An exact response heals when its fact completes it and keeps the turn in sight. -/
private theorem exactResponse_healed_iff {facts : Option (List NativeTurnFact)}
    {fact : NativeTurnFact}
    (standing : Standing recovered correlation
      (WriteOutcome.mk (.exactResponse fact) evidenceRef facts none).resumed)
    (keyed : BTreeMap.Keyed
      (fun row : PersistedNativeReservation => row.correlation.attemptId)
      recovered.reservations) :
    Healed recovered recovered.snapshot correlation.attemptId fact ↔
      (facts = none ∧ fact.isDegraded = false) ∨
        (fact ∈ facts.getD [] ∧ ∃ known ∈ facts.getD [], known.turnRef ≠ none) := by
  rw [healed_iff_outcome keyed standing]
  have named : fact.isDegraded = false ↔ fact.turnRef ≠ none := by
    rw [← Bool.not_eq_true, NativeTurnFact.isDegraded_iff]
  cases facts with
  | none =>
      have kept := WriteOutcome.answered_kept_iff
        ⟨.exactResponse fact, evidenceRef, some [fact], none⟩ correlation rfl
        (.inr ⟨fact, rfl⟩)
      constructor
      · rintro ⟨_, settled⟩
        obtain ⟨known, listed, hasTurn⟩ := kept.1 settled
        rw [List.mem_singleton.1 listed] at hasTurn
        exact .inl ⟨rfl, named.2 hasTurn⟩
      · rintro (⟨_, visible⟩ | ⟨impossible, _⟩)
        · exact ⟨.inl (List.mem_singleton.2 rfl),
            kept.2 ⟨fact, List.mem_singleton.2 rfl, named.1 visible⟩⟩
        · cases impossible
  | some known =>
      have kept := WriteOutcome.answered_kept_iff
        ⟨.exactResponse fact, evidenceRef, some known, none⟩ correlation rfl
        (.inr ⟨fact, rfl⟩)
      constructor
      · rintro ⟨listed | ⟨impossible, _⟩, settled⟩
        · exact .inr ⟨listed, kept.1 settled⟩
        · cases impossible
      · rintro (⟨impossible, _⟩ | ⟨listed, hasTurn⟩)
        · cases impossible
        · exact ⟨.inl listed, kept.2 hasTurn⟩

/-- A reconciled acceptance heals when its fact is there already, or when the turn can
still be observed. -/
private theorem reconciled_accepted_healed_iff {facts : Option (List NativeTurnFact)}
    {turnRef : PrivateNativeRef}
    (standing : Standing recovered correlation
      (WriteOutcome.mk .unknown evidenceRef facts (some (.accepted turnRef))).resumed)
    (keyed : BTreeMap.Keyed
      (fun row : PersistedNativeReservation => row.correlation.attemptId)
      recovered.reservations) :
    Healed recovered recovered.snapshot correlation.attemptId (.accepted turnRef) ↔
      .accepted turnRef ∈ facts.getD [] ∨
        ((∀ known ∈ facts.getD [], known.isTerminal = false) ∧
          recovered.Accepts
            (.observe ⟨correlation.withTurnRef turnRef, evidenceRef⟩)) := by
  have same : (WriteOutcome.mk .unknown evidenceRef facts
      (some (.accepted turnRef))).resumed =
        ⟨.unknown, evidenceRef, facts, some (.accepted turnRef)⟩ := by
    cases facts <;> rfl
  rw [same] at standing
  rw [healed_iff_outcome keyed standing]
  have followed : (WriteOutcome.mk .unknown evidenceRef facts
      (some (.accepted turnRef))).followup correlation =
        if (facts.getD []).any NativeTurnFact.isTerminal then none
        else some (.observe ⟨correlation.withTurnRef turnRef, evidenceRef⟩) := rfl
  rw [followed]
  by_cases terminal : (facts.getD []).any NativeTurnFact.isTerminal = true
  · rw [if_pos terminal]
    rw [List.any_eq_true] at terminal
    constructor
    · rintro ⟨listed | ⟨_, _, impossible, _⟩, _⟩
      · exact .inl listed
      · cases impossible
    · rintro (listed | ⟨unterminated, _⟩)
      · exact ⟨.inl listed, .inl (.inl terminal)⟩
      · obtain ⟨known, listed, isTerminal⟩ := terminal
        rw [unterminated known listed] at isTerminal
        cases isTerminal
  · rw [if_neg terminal]
    have unterminated : ∀ known ∈ facts.getD [], known.isTerminal = false := by
      simpa [List.any_eq_true] using terminal
    constructor
    · rintro ⟨listed | ⟨_, _, equal, accepts⟩, _⟩
      · exact .inl listed
      · cases equal
        exact .inr ⟨unterminated, accepts⟩
    · rintro (listed | ⟨_, accepts⟩)
      · exact ⟨.inl listed, .inr ⟨_, rfl⟩⟩
      · exact ⟨.inr ⟨rfl, _, rfl, accepts⟩, .inr ⟨_, rfl⟩⟩

/-- A reconciled terminal turn heals only when its fact is there already. -/
private theorem reconciled_terminal_healed_iff {facts : Option (List NativeTurnFact)}
    {turnRef : PrivateNativeRef} {terminalClass : TerminalClass}
    (standing : Standing recovered correlation
      (WriteOutcome.mk .unknown evidenceRef facts
        (some (.terminal turnRef terminalClass))).resumed)
    (keyed : BTreeMap.Keyed
      (fun row : PersistedNativeReservation => row.correlation.attemptId)
      recovered.reservations) :
    Healed recovered recovered.snapshot correlation.attemptId
        (.terminal turnRef terminalClass) ↔
      .terminal turnRef terminalClass ∈ facts.getD [] := by
  have same : (WriteOutcome.mk .unknown evidenceRef facts
      (some (.terminal turnRef terminalClass))).resumed =
        ⟨.unknown, evidenceRef, facts, some (.terminal turnRef terminalClass)⟩ := by
    cases facts <;> rfl
  rw [same] at standing
  rw [healed_iff_outcome keyed standing]
  have followed : (WriteOutcome.mk .unknown evidenceRef facts
      (some (.terminal turnRef terminalClass))).followup correlation = none := by
    unfold WriteOutcome.followup followupOf
    split <;> rfl
  rw [followed]
  constructor
  · rintro ⟨listed | ⟨_, _, impossible, _⟩, _⟩
    · exact listed
    · cases impossible
  · exact fun listed => ⟨.inl listed, .inl (.inr (.inr (.inr ⟨_, _, rfl⟩)))⟩

end Cases

/-! ## The whole claim -/

section Runs

variable [Blake3]

omit [Blake3] in
/-- Recovery over the store of the first record heals exactly under the condition. -/
private theorem first_healed_iff {commits : TwoRecords} {store middle : FakePersist}
    (unknown : ReconciledUnknown store) (keyed : TablesKeyed middle)
    {fact : NativeTurnFact} (due : commits.second = some fact)
    (committed : commits.first store = .ok middle) (draws : List VerifierRef) :
    Healed (middle.classified draws).2 (middle.classified draws).2.snapshot
        commits.correlation.attemptId fact ↔
      commits.HealedWhen store := by
  obtain ⟨standing, prepared, coordinates, row, reserved, named⟩ :=
    first_standing unknown due committed
  have recovered := standing.classified draws
  have reservations := classified_reservations_keyed keyed draws
  cases commits with
  | conclude dispatch disposition evidenceRef =>
      cases disposition with
      | accepted turnRef =>
          cases due
          exact accepted_healed_iff recovered reservations
      | exactResponse response =>
          cases due
          exact exactResponse_healed_iff recovered reservations
      | _ => cases due
  | reconcile scope disposition =>
      cases disposition with
      | accepted turnRef =>
          cases due
          refine (reconciled_accepted_healed_iff recovered reservations).trans ?_
          have rejected : ∀ other, (middle.classified draws).2.turnFactRejected
              (scope.correlation.withTurnRef turnRef) other (.accepted turnRef) =
                store.turnFactRejected (scope.correlation.withTurnRef turnRef) other
                  (.accepted turnRef) := by
            intro other
            apply turnFactRejected_congr
            · rw [classified_frame]
              exact coordinates
            · obtain ⟨kept, present, naming⟩ := recovered.reserved
              rw [PersistedTurnCorrelation.withTurnRef_attemptId]
              rw [show (middle.classified draws).2.reservations[
                scope.correlation.attemptId]? = some kept from present,
                show store.reservations[scope.correlation.attemptId]? = some row
                  from reserved, Option.map_some, Option.map_some, naming, named]
          have dispatches : (middle.classified draws).2.prepared = store.prepared := by
            rw [classified_frame]
            exact prepared
          refine or_congr Iff.rfl (and_congr Iff.rfl ?_)
          have accepts := accepts_observe_iff (middle.classified draws).2
            scope.correlation turnRef scope.nativeWriteEvidenceRef
          simp only [dispatches, rejected] at accepts
          exact accepts
      | terminal turnRef terminalClass =>
          cases due
          exact reconciled_terminal_healed_iff recovered reservations
      | _ => cases due

/-- The property that every crash is healed: whatever port operations ran before,
whichever two records the crash falls between. -/
def CrashesHealed : Prop :=
  ∀ (activeMacKey : Bytes32) (operations : List PortOp) (commits : TwoRecords)
    (fact : NativeTurnFact) (middle : FakePersist) (factDraw : Option VerifierRef)
    (authority : DaemonAuthority (Interrupted FakePersist)) (draws : List VerifierRef)
    (snapshot : RecoverySnapshot),
    commits.second = some fact →
    commits.first (after activeMacKey operations) = .ok middle →
    ((commits.crashed factDraw authority
      (after activeMacKey operations)).recoverAuthorityState draws).1 = .ok snapshot →
    Healed ((commits.crashed factDraw authority
        (after activeMacKey operations)).recoverAuthorityState draws).2 snapshot
      commits.correlation.attemptId fact

/-- Keys of the tables survive the first record. -/
private theorem first_keyed {commits : TwoRecords} {store middle : FakePersist}
    (keyed : TablesKeyed store) (committed : commits.first store = .ok middle) :
    TablesKeyed middle := by
  have stepped : ∃ operation, middle = store.step operation := by
    cases commits with
    | conclude prepared disposition evidenceRef =>
        simp only [first] at committed
        split at committed
        · cases committed
        · next evidence _ =>
          obtain ⟨written, recorded⟩ := exists_of_map_snd committed
          refine ⟨.recordNativeWriteEvidence
            ⟨prepared.correlation, evidence, evidenceRef⟩, ?_⟩
          exact (congrArg Prod.snd (congrArg (commit · store) recorded)).symm
    | reconcile scope disposition =>
        obtain ⟨written, recorded⟩ := exists_of_map_snd committed
        refine ⟨.recordReconciliationFact scope disposition, ?_⟩
        exact (congrArg Prod.snd (congrArg (commit · store) recorded)).symm
  obtain ⟨operation, rfl⟩ := stepped
  exact (step_effect store operation).keyed keyed

/-- In every reachable store and for every two records, recovery heals a crash between
them exactly under the condition. -/
theorem crash_healed_iff (activeMacKey : Bytes32) (operations : List PortOp)
    (commits : TwoRecords) (fact : NativeTurnFact) (middle : FakePersist)
    (factDraw : Option VerifierRef)
    (authority : DaemonAuthority (Interrupted FakePersist)) (draws : List VerifierRef)
    (snapshot : RecoverySnapshot) (due : commits.second = some fact)
    (committed : commits.first (after activeMacKey operations) = .ok middle)
    (recovered : ((commits.crashed factDraw authority
      (after activeMacKey operations)).recoverAuthorityState draws).1 = .ok snapshot) :
    Healed ((commits.crashed factDraw authority
          (after activeMacKey operations)).recoverAuthorityState draws).2 snapshot
        commits.correlation.attemptId fact ↔
      commits.HealedWhen (after activeMacKey operations) := by
  rw [crashed_eq committed] at recovered ⊢
  obtain ⟨_, rfl, _, _⟩ := recoverAuthorityState_ok recovered
  rw [recoverAuthorityState_store]
  exact first_healed_iff (reconciledUnknown_after activeMacKey operations)
    (first_keyed (tablesKeyed_after activeMacKey operations) committed) due committed
    draws

end Runs

/-! ## Sample crashes -/

namespace Sample

open Gearwit.Sample

/-- Correlation of the sample dispatch. -/
def dispatched : PersistedTurnCorrelation :=
  ⟨firstAttempt, signal, PrivateId.fixture 1, PrivateId.fixture 2, PrivateId.fixture 3,
    none⟩

/-- Permit for the write of the sample dispatch. -/
def permit : ValidatedIdlePermit where
  attemptId := firstAttempt
  signalId := signal
  birthId := PrivateId.fixture 1
  threadRef := PrivateId.fixture 2
  armId := firstArm
  generation := 1
  capability := .handleClaimedSignal
  verifierRef := PrivateId.fixture 1
  mutationEpoch := ⟨PrivateId.fixture 1, 0⟩
  probeId := PrivateId.fixture 4
  observedAt := OffsetDateTime.unixEpoch
  validUntil := lease

/-- One attempt up to its reservation. -/
def reservedRun : List PortOp :=
  opens firstRequest firstArm firstAttempt 1 firstEvent secondEvent ++
    [.resolveThreadCreate ⟨PrivateId.fixture 1, PrivateId.fixture 1,
        .owned (PrivateId.fixture 2), PrivateId.fixture 5⟩,
      .recordDispatchPrepared ⟨dispatched⟩,
      .reserveNativeTurnWrite permit dispatched]

/-- The same attempt after its write was answered by nobody. -/
def unknownRun : List PortOp :=
  reservedRun ++
    [.recordNativeWriteEvidence ⟨dispatched, .unknown, PrivateId.fixture 6⟩]

/-- An acceptance of the write. -/
def acceptance : TwoRecords :=
  .conclude ⟨attachment firstAttempt firstArm 1, dispatched, PrivateId.fixture 4⟩
    (.accepted (PrivateId.fixture 7)) (PrivateId.fixture 6)

/-- A reconciliation with the terminal turn. -/
def terminalReconciliation : TwoRecords :=
  .reconcile ⟨dispatched, PrivateId.fixture 6⟩
    (.terminal (PrivateId.fixture 7) .succeeded)

/-- An authority with an empty image. -/
def authority : DaemonAuthority (Interrupted FakePersist) :=
  .new ⟨FakePersist.default (PrivateId.fixture 0), none⟩ OffsetDateTime.unixEpoch

/-- A crash after the evidence of an acceptance is healed. -/
theorem acceptance_crash_healed :
    ∃ snapshot, Healed ((acceptance.crashed none authority
        (after (PrivateId.fixture 0) reservedRun)).recoverAuthorityState []).2 snapshot
      firstAttempt (.accepted (PrivateId.fixture 7)) := by
  obtain ⟨middle, committed⟩ := exists_of_isOk (show (acceptance.first
    (after (PrivateId.fixture 0) reservedRun)).isOk = true by decide +kernel)
  obtain ⟨snapshot, recovered⟩ := exists_of_isOk (show ((acceptance.crashed none
    authority (after (PrivateId.fixture 0) reservedRun)).recoverAuthorityState
      []).1.isOk = true by decide +kernel)
  exact ⟨snapshot, (crash_healed_iff (PrivateId.fixture 0) reservedRun acceptance _ middle
    none authority [] snapshot rfl committed recovered).2
      (.inl (by decide +kernel))⟩

/-- A crash after the disposition of a terminal reconciliation is not healed. -/
theorem terminal_reconciliation_crash_not_healed : ¬CrashesHealed := by
  intro healed
  obtain ⟨middle, committed⟩ := exists_of_isOk (show (terminalReconciliation.first
    (after (PrivateId.fixture 0) unknownRun)).isOk = true by decide +kernel)
  obtain ⟨snapshot, recovered⟩ := exists_of_isOk (show ((terminalReconciliation.crashed
    none authority (after (PrivateId.fixture 0) unknownRun)).recoverAuthorityState
      []).1.isOk = true by decide +kernel)
  have settled := healed (PrivateId.fixture 0) unknownRun terminalReconciliation _ middle
    none authority [] snapshot rfl committed recovered
  rw [crashed_eq committed] at recovered settled
  obtain ⟨_, rfl, _, _⟩ := recoverAuthorityState_ok recovered
  rw [recoverAuthorityState_store] at settled
  have listed : NativeTurnFact.terminal (PrivateId.fixture 7) .succeeded ∈
      (after (PrivateId.fixture 0) unknownRun).factsOf firstAttempt :=
    (first_healed_iff (reconciledUnknown_after _ _)
      (first_keyed (tablesKeyed_after _ _) committed) rfl committed []).1 settled
  exact absurd listed (by decide +kernel)

end Sample

end TwoRecords

end Gearwit
