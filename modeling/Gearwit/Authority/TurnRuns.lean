import Gearwit.Authority.Answers
import Gearwit.Persist.Synthetic
import Gearwit.Persist.TurnIdentity

/-!
# Turns and outcomes along runs of a daemon

Conclusions never split a turn, because the fact of a conclusion is the first of its
attempt or one it has already.  A later observation or reconciliation can record a second
terminal, and a recovery, of a restart or of a running daemon, can complete an exact
response whose turn no correlation carries; every run without these keeps one turn and
one outcome for each attempt.
-/

namespace Gearwit

open FakePersist

/-- A store whose attempts have the same rows has the same turns. -/
theorem FakePersist.OneTurn.of_rows {store next : FakePersist} {attemptId : AttemptId}
    (held : store.OneTurn attemptId)
    (rows : next.attemptRows attemptId = store.attemptRows attemptId) :
    next.OneTurn attemptId := by
  simp only [attemptRows, AttemptRows.mk.injEq] at rows
  obtain ⟨_, prepared, reservations, _, _, _, facts, _⟩ := rows
  refine held.of_names (by rw [factsOf, factsOf, facts]) fun turnRef named => ?_
  unfold NamesTurn at named ⊢
  rwa [prepared, reservations]

section Calls

variable [Blake3]

/-- An operation that is neither a fact nor a recovery keeps the turns. -/
theorem FakePersist.oneTurn_performed {store next : FakePersist} {α : Type} {value : α}
    (operation : PortOp) (perform : FakePersist → Except PersistError (α × FakePersist))
    (performs : store.step operation = (commit (perform store) store).2)
    (otherFact : ∀ request, operation ≠ .recordNativeTurnFact request)
    (otherRecovery : ∀ draws, operation ≠ .recoverAuthorityState draws)
    (done : perform store = .ok (value, next))
    (held : ∀ attemptId, store.OneTurn attemptId) (attemptId : AttemptId) :
    next.OneTurn attemptId := by
  have reached : store.step operation = next := by
    rw [performs, done]
    rfl
  exact reached ▸ (step_effect store operation).oneTurn otherFact otherRecovery
    (held attemptId)

namespace DaemonAuthority

variable {authority next : DaemonAuthority (Interrupted FakePersist)}

omit [Blake3] in
/-- A call over a store that still answers performs its operation. -/
theorem call_answered {α : Type}
    (perform : FakePersist → Except PersistError (α × FakePersist))
    (answers : authority.persist.remaining ≠ some 0) :
    ∃ persist, authority.call (Interrupted.guard fun store =>
        commit (perform store) store) =
          ((perform authority.store).map Prod.fst |>.mapError .fromPersist,
            { authority with persist := persist }) ∧
      persist.store = (commit (perform authority.store) authority.store).2 ∧
      (persist.remaining = some 0 ↔ authority.persist.remaining = some 1) := by
  obtain ⟨remaining, guarded, left⟩ : ∃ remaining, Interrupted.guard (fun store =>
      commit (perform store) store) authority.persist =
        ((commit (perform authority.store) authority.store).1,
          ⟨(commit (perform authority.store) authority.store).2, remaining⟩) ∧
      (remaining = some 0 ↔ authority.persist.remaining = some 1) := by
    unfold Interrupted.guard
    split
    · next stopped => exact absurd stopped answers
    · next left still => exact ⟨some left, rfl, by rw [still]; simp⟩
    · next endless => exact ⟨none, rfl, by rw [endless]; simp⟩
  refine ⟨⟨_, remaining⟩, ?_, rfl, left⟩
  unfold call
  rw [guarded]
  cases perform authority.store <;> rfl

omit [Blake3] in
/-- A call over a store that stopped answering changes nothing. -/
theorem call_stopped {α : Type}
    (perform : FakePersist → Except PersistError (α × FakePersist))
    (stopped : authority.persist.remaining = some 0) :
    authority.call (Interrupted.guard fun store => commit (perform store) store) =
      (.error .storage, authority) := by
  unfold call Interrupted.guard
  rw [stopped]
  rfl

/-- A carried fact reaches the store as one record, unless there is none or the
entropy source or the store fails first. -/
theorem recordImmediateFact_step (authority : DaemonAuthority (Interrupted FakePersist))
    (fact : Option NativeTurnFact) (correlation : PersistedTurnCorrelation)
    (factDraw : Option VerifierRef) :
    (∃ carried factRef, fact = some carried ∧ factDraw = some factRef ∧
        authority.persist.remaining ≠ some 0 ∧
        (authority.recordImmediateFact fact correlation factDraw).2.store =
          authority.store.step (.recordNativeTurnFact ⟨correlation, carried, factRef⟩)) ∨
      ((fact = none ∨ factDraw = none ∨ authority.persist.remaining = some 0) ∧
        (authority.recordImmediateFact fact correlation factDraw).2.store =
          authority.store) := by
  unfold recordImmediateFact
  cases fact with
  | none => exact .inr ⟨.inl rfl, rfl⟩
  | some carried =>
  cases factDraw with
  | none => exact .inr ⟨.inr (.inl rfl), rfl⟩
  | some factRef =>
  simp only [Persist.recordNativeTurnFact]
  by_cases stopped : authority.persist.remaining = some 0
  · refine .inr ⟨.inr (.inr stopped), ?_⟩
    rw [call_stopped _ stopped]
  · obtain ⟨persist, called, stored, _⟩ := call_answered (recordNativeTurnFact
      ⟨correlation, carried, factRef⟩) stopped
    refine .inl ⟨carried, factRef, rfl, rfl, stopped, Eq.trans ?_ stored⟩
    rw [called]
    cases recordNativeTurnFact ⟨correlation, carried, factRef⟩ authority.store <;> rfl

/-- An observation reaches the store as one fact record, unless the entropy source or
the store fails first. -/
theorem recordExactObservation_step (authority : DaemonAuthority (Interrupted FakePersist))
    (scope : ObservationScope) (fact : NativeTurnFact)
    (evidenceDraw : Option VerifierRef) :
    (∃ evidenceRef, evidenceDraw = some evidenceRef ∧
        authority.persist.remaining ≠ some 0 ∧
        (authority.recordExactObservation scope fact evidenceDraw).2.store =
          authority.store.step
            (.recordNativeTurnFact ⟨scope.correlation, fact, evidenceRef⟩)) ∨
      ((evidenceDraw = none ∨ authority.persist.remaining = some 0) ∧
        (authority.recordExactObservation scope fact evidenceDraw).2.store =
          authority.store) := by
  unfold recordExactObservation
  cases evidenceDraw with
  | none => exact .inr ⟨.inl rfl, rfl⟩
  | some evidenceRef =>
  simp only [Persist.recordNativeTurnFact]
  by_cases stopped : authority.persist.remaining = some 0
  · refine .inr ⟨.inr stopped, ?_⟩
    rw [call_stopped _ stopped]
  · obtain ⟨persist, called, stored, _⟩ := call_answered (recordNativeTurnFact
      ⟨scope.correlation, fact, evidenceRef⟩) stopped
    refine .inl ⟨evidenceRef, rfl, stopped, Eq.trans ?_ stored⟩
    rw [called]
    cases recordNativeTurnFact ⟨scope.correlation, fact, evidenceRef⟩
      authority.store <;> rfl

/-- A reconciliation that is refused changes nothing; an accepted one is recorded, and
then the fact it carries unless the entropy source or the store fails first. -/
theorem recordReconciliation_step (authority : DaemonAuthority (Interrupted FakePersist))
    (scope : ReconciliationScope) (disposition : ReconciliationDisposition)
    (factDraw : Option VerifierRef) :
    ((authority.persist.remaining = some 0 ∨
          (recordReconciliationFact scope disposition authority.store).isOk = false) ∧
        (authority.recordReconciliation scope (.ok disposition) factDraw).2.store =
          authority.store) ∨
      ∃ outcome middle, authority.persist.remaining ≠ some 0 ∧
        recordReconciliationFact scope disposition authority.store =
          .ok (outcome, middle) ∧
        ((∃ carried factRef, reconciledFact disposition = some carried ∧
            factDraw = some factRef ∧ authority.persist.remaining ≠ some 1 ∧
            (authority.recordReconciliation scope (.ok disposition) factDraw).2.store =
              middle.step (.recordNativeTurnFact
                ⟨nameTurnOf scope.correlation (some carried), carried, factRef⟩)) ∨
          ((reconciledFact disposition = none ∨ factDraw = none ∨
              authority.persist.remaining = some 1) ∧
            (authority.recordReconciliation scope (.ok disposition) factDraw).2.store =
              middle)) := by
  unfold recordReconciliation
  simp only [Persist.recordReconciliationFact]
  by_cases stopped : authority.persist.remaining = some 0
  · refine .inl ⟨.inl stopped, ?_⟩
    rw [call_stopped _ stopped]
  obtain ⟨persist, called, stored, left⟩ := call_answered
    (recordReconciliationFact scope disposition) stopped
  rw [called]
  cases outcome : recordReconciliationFact scope disposition authority.store with
  | error refusal =>
      rw [outcome] at stored
      exact .inl ⟨.inr rfl, stored⟩
  | ok pair =>
      obtain ⟨answer, middle⟩ := pair
      rw [outcome] at stored
      refine .inr ⟨answer, middle, stopped, rfl, ?_⟩
      have reached : ({ authority with persist := persist } :
          DaemonAuthority (Interrupted FakePersist)).store = middle := stored
      have immediate := recordImmediateFact_step { authority with persist := persist }
        (reconciledFact disposition)
        (nameTurnOf scope.correlation (reconciledFact disposition)) factDraw
      rw [reached] at immediate
      simp only [Except.map, Except.mapError]
      generalize recordImmediateFact (reconciledFact disposition)
        (nameTurnOf scope.correlation (reconciledFact disposition)) factDraw
        { authority with persist := persist } = replied at immediate ⊢
      obtain ⟨reply, after⟩ := replied
      rcases immediate with ⟨carried, factRef, named, drawn, still, recorded⟩ |
        ⟨unrecorded, unchanged⟩
      · refine .inl ⟨carried, factRef, named, drawn, mt left.2 still, ?_⟩
        rw [← named, ← recorded]
        cases reply <;> rfl
      · refine .inr ⟨unrecorded.imp_right (Or.imp_right left.1), ?_⟩
        rw [← unchanged]
        cases reply <;> rfl

/-- A recovery reaches the store, unless the store stopped answering. -/
theorem recover_step (authority : DaemonAuthority (Interrupted FakePersist))
    (draws : List VerifierRef) :
    (authority.persist.remaining ≠ some 0 ∧ (authority.recover draws).2.store =
        authority.store.step (.recoverAuthorityState draws)) ∨
      (authority.persist.remaining = some 0 ∧
        (authority.recover draws).2.store = authority.store) := by
  have kept : (authority.recover draws).2.store =
      (authority.call (Persist.recoverAuthorityState draws)).2.store := by
    unfold recover
    split
    · next called => rw [called]
    · next called =>
      rw [called]
      repeat' split
      all_goals rfl
  rw [kept]
  simp only [Persist.recoverAuthorityState]
  unfold call Interrupted.guard
  by_cases stopped : authority.persist.remaining = some 0
  · refine .inr ⟨stopped, ?_⟩
    rw [stopped]
  · refine .inl ⟨stopped, ?_⟩
    split
    · next refusal persist guarded =>
      split at guarded
      · next still => exact absurd still stopped
      all_goals
        simp only [Prod.mk.injEq] at guarded
        obtain ⟨_, rfl⟩ := guarded
        rfl
    · next value persist guarded =>
      split at guarded
      · next still => exact absurd still stopped
      all_goals
        simp only [Prod.mk.injEq] at guarded
        obtain ⟨_, rfl⟩ := guarded
        rfl

end DaemonAuthority

end Calls

namespace AuthorityWorld

/-- The call would leave an attempt with two turns, with a turn its correlation does not
carry, or with two outcomes: an accepted observation or reconciliation records a second
terminal, or recovery completes an exact response whose turn no row carries. -/
def SplitsTurn (world : AuthorityWorld) : AuthorityCall → Prop
  | .recordExactObservation scope fact evidenceDraw =>
      scope ∈ world.observationScopes ∧ evidenceDraw ≠ none ∧
        world.authority.persist.remaining ≠ some 0 ∧
        world.store.SecondTerminal scope.correlation fact
  | .recordReconciliation scope (.ok disposition) factDraw =>
      scope ∈ world.reconciliationScopes ∧ factDraw ≠ none ∧
        world.authority.persist.remaining ≠ some 0 ∧
        world.authority.persist.remaining ≠ some 1 ∧
        (recordReconciliationFact scope disposition world.store).isOk = true ∧
        ∃ fact, DaemonAuthority.reconciledFact disposition = some fact ∧
          world.store.SecondTerminal
            (DaemonAuthority.nameTurnOf scope.correlation (some fact)) fact
  | .restart _ _ =>
      world.authority.persist.remaining ≠ some 0 ∧ world.store.InterruptedTurn
  | _ => False

section Steps

variable [Blake3] {world : AuthorityWorld}

omit [Blake3] in
/-- Only an exact response carries a terminal. -/
theorem evidence_of_terminal {correlation : PersistedTurnCorrelation}
    {disposition : NativeWriteDisposition} {evidence : NativeWriteEvidence}
    {turnRef : PrivateNativeRef} {terminalClass : TerminalClass}
    (classified : DaemonAuthority.writeEvidenceOf correlation disposition = some evidence)
    (carried : DaemonAuthority.immediateFact disposition =
      some (.terminal turnRef terminalClass)) :
    evidence = .exactResponse (.terminal turnRef terminalClass) := by
  cases disposition <;>
    simp only [DaemonAuthority.writeEvidenceOf, DaemonAuthority.immediateFact,
      Option.some.injEq, reduceCtorEq] at classified carried
  rw [← classified, carried]

/-- Concluding a write keeps every attempt at one turn and one outcome. -/
theorem conclude_oneTurn (answers : world.Answers) (prepared : PreparedDispatch)
    (disposition : Except ControllerWriteError NativeWriteDisposition)
    (evidenceDraw factDraw : Option VerifierRef)
    (held : ∀ attemptId, world.store.OneTurn attemptId) :
    ∀ attemptId, (world.conclude prepared disposition evidenceDraw
      factDraw).store.OneTurn attemptId := by
  have concluded : ∀ {reply next},
      world.authority.concludeNativeWrite prepared disposition evidenceDraw factDraw =
        (reply, next) → ∀ attemptId, next.store.OneTurn attemptId := by
    intro reply next done
    rcases DaemonAuthority.concludeNativeWrite_store done with
      ⟨quiet, _⟩ | ⟨_, _, _, _, _, recorded, _, _⟩ |
        ⟨_, _, _, _, middle, _, classified, recorded, _, noted⟩
    · exact fun attemptId => (held attemptId).of_rows (quiet.rows attemptId)
    · exact oneTurn_performed (.recordPrewriteConclusion _) _ rfl
        (fun _ equal => by cases equal) (fun _ equal => by cases equal) recorded held
    · have middleHeld := oneTurn_performed (.recordNativeWriteEvidence _) _ rfl
        (fun _ equal => by cases equal) (fun _ equal => by cases equal) recorded held
      rcases noted with ⟨same, _⟩ | ⟨fact, factRef, _, carried, factRecorded, _, _⟩
      · exact same ▸ middleHeld
      -- a terminal comes with an exact response, whose fact is there as soon as any is
      have single : ¬middle.SplitsTurn (.recordNativeTurnFact
          ⟨DaemonAuthority.nameTurnOf prepared.correlation (some fact), fact,
            factRef⟩) := by
        rintro ⟨_, turnRef, terminalClass, known, knownClass, rfl, _, _, listed,
          different⟩
        rw [nameTurnOf_attemptId] at listed
        have evident := recordNativeWriteEvidence_evidence recorded
        have middleBacked := answers.backed.answering_performed
          (.recordNativeWriteEvidence _) _ rfl recorded fun _ equal => by cases equal
        obtain ⟨evidence, stored, responded⟩ := middleBacked.backed
          prepared.correlation.attemptId fun factless => by
            rw [factsOf, factless] at listed
            cases listed
        rw [evidence_of_terminal classified carried] at evident
        have same := Option.some.inj (stored.symm.trans evident)
        exact different ((middleHeld _).outcome _ _ _ _ listed (responded _ same))
      have reached : middle.step (.recordNativeTurnFact
          ⟨DaemonAuthority.nameTurnOf prepared.correlation (some fact), fact,
            factRef⟩) = next.store := by
        change (commit (recordNativeTurnFact _ middle) middle).2 = _
        rw [factRecorded]
        rfl
      exact reached ▸ (step_oneTurn_iff middleHeld _).2 single
  unfold conclude
  split <;> next done => exact concluded done

/-- An observation keeps one turn and one outcome exactly when it splits none. -/
theorem recordExactObservation_oneTurn_iff [Rfc3339]
    (held : ∀ attemptId, world.store.OneTurn attemptId) (scope : ObservationScope)
    (fact : NativeTurnFact) (evidenceDraw : Option VerifierRef) :
    (∀ attemptId, (world.perform
        (.recordExactObservation scope fact evidenceDraw)).store.OneTurn attemptId) ↔
      ¬world.SplitsTurn (.recordExactObservation scope fact evidenceDraw) := by
  by_cases present : scope ∈ world.observationScopes
  · have performed : (world.perform
        (.recordExactObservation scope fact evidenceDraw)).store =
        (world.authority.recordExactObservation scope fact evidenceDraw).2.store := by
      simp only [perform, if_pos present]
      split <;> next done => rw [done]; rfl
    rw [performed]
    rcases world.authority.recordExactObservation_step scope fact evidenceDraw with
      ⟨evidenceRef, drawn, answers, stored⟩ | ⟨missing, stored⟩
    · rw [stored, step_oneTurn_iff held]
      refine not_congr ⟨fun second => ⟨present, by simp [drawn], answers, second⟩,
        fun splits => splits.2.2.2⟩
    · rw [stored]
      refine iff_of_true held ?_
      rintro ⟨_, drawn, answers, _⟩
      rcases missing with undrawn | stopped
      · exact drawn undrawn
      · exact answers stopped
  · have unchanged : (world.perform
        (.recordExactObservation scope fact evidenceDraw)).store = world.store := by
      simp only [perform, if_neg present]
    rw [unchanged]
    exact iff_of_true held fun splits => present splits.1

/-- A reconciliation keeps one turn and one outcome exactly when it splits none. -/
theorem recordReconciliation_oneTurn_iff [Rfc3339]
    (held : ∀ attemptId, world.store.OneTurn attemptId) (scope : ReconciliationScope)
    (disposition : Except ControllerReconcileError ReconciliationDisposition)
    (factDraw : Option VerifierRef) :
    (∀ attemptId, (world.perform
        (.recordReconciliation scope disposition factDraw)).store.OneTurn attemptId) ↔
      ¬world.SplitsTurn (.recordReconciliation scope disposition factDraw) := by
  by_cases present : scope ∈ world.reconciliationScopes
  · have performed : (world.perform
        (.recordReconciliation scope disposition factDraw)).store =
        (world.authority.recordReconciliation scope disposition factDraw).2.store := by
      simp only [perform, if_pos present]
      split <;> next done => rw [done]; rfl
    rw [performed]
    cases disposition with
    | error refusal => exact iff_of_true held not_false
    | ok disposition =>
    rcases world.authority.recordReconciliation_step scope disposition factDraw with
      ⟨refused, stored⟩ | ⟨outcome, middle, answers, recorded, noted⟩
    · rw [stored]
      refine iff_of_true held ?_
      rintro ⟨_, _, still, _, accepted, _⟩
      rcases refused with stopped | rejected
      · exact still stopped
      · rw [accepted] at rejected
        cases rejected
    have middleHeld := oneTurn_performed (.recordReconciliationFact scope disposition) _
      rfl (fun _ equal => by cases equal) (fun _ equal => by cases equal) recorded held
    rcases noted with ⟨fact, factRef, carried, drawn, still, stored⟩ | ⟨missing, stored⟩
    · rw [stored, step_oneTurn_iff middleHeld]
      obtain ⟨_, _, _, _, _, _, rfl⟩ := recordReconciliationFact_cases recorded
      refine not_congr ⟨fun second => ⟨present, by simp [drawn], answers, still,
        by rw [recorded]; rfl, fact, carried, second⟩, ?_⟩
      rintro ⟨_, _, _, _, _, other, same, second⟩
      rw [carried, Option.some.injEq] at same
      subst same
      exact second
    · rw [stored]
      refine iff_of_true middleHeld ?_
      rintro ⟨_, drawn, _, still, _, fact, carried, _⟩
      rcases missing with factless | undrawn | stopped
      · rw [carried] at factless
        cases factless
      · exact drawn undrawn
      · exact still stopped
  · have unchanged : (world.perform
        (.recordReconciliation scope disposition factDraw)).store = world.store := by
      simp only [perform, if_neg present]
    rw [unchanged]
    refine iff_of_true held fun splits => present ?_
    cases disposition with
    | error refusal => exact splits.elim
    | ok disposition => exact splits.1

/-- A recovery keeps one turn and one outcome exactly when it completes no unnamed
turn. -/
theorem recover_oneTurn_iff (authority : DaemonAuthority (Interrupted FakePersist))
    (held : ∀ attemptId, authority.store.OneTurn attemptId) (draws : List VerifierRef) :
    (∀ attemptId, (authority.recover draws).2.store.OneTurn attemptId) ↔
      ¬(authority.persist.remaining ≠ some 0 ∧ authority.store.InterruptedTurn) := by
  rcases authority.recover_step draws with ⟨answers, stored⟩ | ⟨stopped, stored⟩
  · rw [stored]
    refine (step_oneTurn_iff held (.recoverAuthorityState draws)).trans ?_
    exact not_congr ⟨fun interrupted => ⟨answers, interrupted⟩, fun splits => splits.2⟩
  · rw [stored]
    exact iff_of_true held fun splits => splits.1 stopped

/-- A call keeps one turn and one outcome exactly when it splits none. -/
theorem perform_oneTurn_iff [Rfc3339] (answers : world.Answers)
    (held : ∀ attemptId, world.store.OneTurn attemptId) (call : AuthorityCall) :
    (∀ attemptId, (world.perform call).store.OneTurn attemptId) ↔
      ¬world.SplitsTurn call := by
  have quiet : ∀ {next : FakePersist}, Quiet world.store next →
      ∀ attemptId, next.OneTurn attemptId :=
    fun quiet attemptId => (held attemptId).of_rows (quiet.rows attemptId)
  cases call with
  | setNow now => exact iff_of_true held not_false
  | registerManagedArm arm =>
      exact iff_of_true (quiet (DaemonAuthority.registerManagedArm_quiet rfl)) not_false
  | reserveControllerBirth armText birthDraw createDraw verifierDraw =>
      refine iff_of_true ?_ not_false
      simp only [perform]
      split <;> next done => exact quiet (DaemonAuthority.reserveControllerBirth_quiet done)
  | resolveThreadCreate reservation resolution evidenceDraw =>
      refine iff_of_true ?_ not_false
      simp only [perform]
      split
      · split <;> next done =>
          exact quiet (DaemonAuthority.resolveThreadCreate_quiet done)
      · exact held
  | resolveQuarantinedThreadCreate reservation resolution evidenceDraw =>
      refine iff_of_true ?_ not_false
      simp only [perform]
      split
      · exact quiet (DaemonAuthority.resolveQuarantinedThreadCreate_quiet rfl)
      · exact held
  | admitClaim request verifierDraw payloadDraw =>
      refine iff_of_true ?_ not_false
      have admitted : ∀ {reply next},
          world.authority.admitClaim request verifierDraw payloadDraw = (reply, next) →
          ∀ attemptId, next.store.OneTurn attemptId := by
        intro reply next done
        rcases DaemonAuthority.admitClaim_store done with
          ⟨settled, _⟩ | ⟨_, _, _, admits⟩
        · exact quiet settled
        · rw [admits.stored]
          exact fun attemptId => (held attemptId).of_names rfl fun _ named => named
      simp only [perform]
      split <;> next done => exact admitted done
  | prepareHandleClaimedSignal receipt writeDraw probeDraw =>
      refine iff_of_true ?_ not_false
      have dispatched : ∀ {reply next},
          world.authority.prepareHandleClaimedSignal receipt writeDraw probeDraw =
            (reply, next) → ∀ attemptId, next.store.OneTurn attemptId := by
        intro reply next done
        rcases DaemonAuthority.prepareHandleClaimedSignal_store done with
          ⟨settled, _⟩ | ⟨_, _, _, _, recorded, _⟩
        · exact quiet settled
        · exact oneTurn_performed (.recordDispatchPrepared _) _ rfl
            (fun _ equal => by cases equal) (fun _ equal => by cases equal) recorded held
      simp only [perform]
      split
      · split <;> next done => exact dispatched done
      · exact held
  | authorizeProbe prepared result =>
      refine iff_of_true ?_ not_false
      have probed : ∀ {reply next}, world.authority.authorizeProbe prepared result =
          (reply, next) → ∀ attemptId, next.store.OneTurn attemptId := by
        intro reply next done
        rcases DaemonAuthority.authorizeProbe_store done with
          ⟨settled, _⟩ | ⟨_, ⟨_, _, _, recorded, _⟩ | ⟨_, _, recorded, _⟩ |
            ⟨_, _, _, _, _, recorded, _⟩⟩
        · exact quiet settled
        · exact oneTurn_performed (.recordActiveHold _) _ rfl
            (fun _ equal => by cases equal) (fun _ equal => by cases equal) recorded held
        · exact oneTurn_performed (.recordPrewriteConclusion _) _ rfl
            (fun _ equal => by cases equal) (fun _ equal => by cases equal) recorded held
        · exact oneTurn_performed (.reserveNativeTurnWrite _ _) _ rfl
            (fun _ equal => by cases equal) (fun _ equal => by cases equal) recorded held
      simp only [perform]
      split
      · split <;> next done => exact probed done
      · exact held
  | concludePrepared prepared disposition evidenceDraw factDraw =>
      refine iff_of_true ?_ not_false
      simp only [perform]
      split
      · have taken : Answers { world with
            prepared := world.prepared.erase prepared } := answers.of_parts rfl rfl rfl
        exact conclude_oneTurn taken _ _ _ _ held
      · exact held
  | concludeAuthorized authorized disposition evidenceDraw factDraw =>
      refine iff_of_true ?_ not_false
      simp only [perform]
      split
      · have taken : Answers { world with
            authorized := world.authorized.erase authorized } := answers.of_parts rfl rfl rfl
        exact conclude_oneTurn taken _ _ _ _ held
      · exact held
  | recordExactObservation scope fact evidenceDraw =>
      exact recordExactObservation_oneTurn_iff held scope fact evidenceDraw
  | recordReconciliation scope disposition factDraw =>
      exact recordReconciliation_oneTurn_iff held scope disposition factDraw
  | revokeAttachment attemptText =>
      exact iff_of_true (quiet (DaemonAuthority.revokeAttachment_quiet rfl)) not_false
  | sealNativeCoordinate scope coordinate draws =>
      exact iff_of_true (quiet (DaemonAuthority.sealNativeCoordinate_quiet rfl)) not_false
  | restart now draws =>
      have performed : (world.perform (.restart now draws)).store =
          ((DaemonAuthority.new world.authority.persist now).recover draws).2.store := by
        simp only [perform, restart]
        split <;> next done => rw [done]; rfl
      rw [performed]
      exact recover_oneTurn_iff (.new world.authority.persist now) held draws

end Steps

end AuthorityWorld

/-! ## Runs -/

namespace DaemonRun

/-- The move would leave an attempt with two turns, with a turn its correlation does not
carry, or with two outcomes. -/
def SplitsTurn (run : DaemonRun) : DaemonMove → Prop
  | .event event => (run.world.allow event.completes).SplitsTurn event.call
  | .recover _ => run.world.store.InterruptedTurn

section Runs

variable [Blake3] [Rfc3339]

/-- A move keeps one turn and one outcome exactly when it splits none. -/
theorem step_oneTurn_iff {run : DaemonRun} (answers : run.world.Answers)
    (held : ∀ attemptId, run.world.store.OneTurn attemptId) (move : DaemonMove) :
    (∀ attemptId, (run.step move).world.store.OneTurn attemptId) ↔
      ¬run.SplitsTurn move := by
  cases move with
  | event event =>
      have allowed : (run.world.allow event.completes).Answers :=
        answers.of_parts rfl rfl rfl
      exact AuthorityWorld.perform_oneTurn_iff allowed held event.call
  | recover draws =>
      have recovered : (run.step (.recover draws)).world.authority =
          ((run.world.allow none).authority.recover draws).2 :=
        (run.world.allow none).recoverAgain_authority draws
      unfold AuthorityWorld.store
      rw [recovered]
      refine (AuthorityWorld.recover_oneTurn_iff (run.world.allow none).authority held
        draws).trans (not_congr (and_iff_right ?_))
      simp [AuthorityWorld.allow, AuthorityWorld.withAuthority]

/-- Every attempt has one turn and one outcome in every state of a run exactly when no
move of the run splits one. -/
theorem oneTurn_iff_unsplit (activeMacKey : Bytes32) (now : OffsetDateTime)
    (moves : List DaemonMove) :
    (∀ performed, performed <+: moves → ∀ attemptId,
        (after activeMacKey now performed).world.store.OneTurn attemptId) ↔
      Transition.Along step (fun run move => ¬run.SplitsTurn move)
        (initial activeMacKey now) moves := by
  induction moves using List.reverseRecOn with
  | nil =>
      refine iff_of_true (fun performed shorter attemptId => ?_) trivial
      rw [List.prefix_nil.1 shorter]
      refine .of_factless ?_
      simp [after, initial, AuthorityWorld.initial, AuthorityWorld.store,
        DaemonAuthority.new, FakePersist.default, factsOf]
  | append_singleton performed move inductionHypothesis =>
      rw [Transition.along_append, ← inductionHypothesis]
      have answers := answers_after activeMacKey now performed
      have last : after activeMacKey now (performed ++ [move]) =
          (after activeMacKey now performed).step move :=
        Transition.run_append step _ _ _
      have single : Transition.Along step (fun run move => ¬run.SplitsTurn move)
          (Transition.run step (initial activeMacKey now) performed) [move] ↔
            ¬(after activeMacKey now performed).SplitsTurn move := and_iff_left trivial
      rw [single]
      constructor
      · intro oneTurn
        refine ⟨fun earlier shorter =>
          oneTurn earlier (shorter.trans (List.prefix_append _ _)), ?_⟩
        have reached := oneTurn _ List.prefix_rfl
        rw [last] at reached
        exact (step_oneTurn_iff answers (oneTurn _ (List.prefix_append _ _)) move).1
          reached
      · rintro ⟨oneTurn, unsplit⟩ earlier shorter
        rcases List.prefix_concat_iff.1 shorter with rfl | inside
        · rw [last]
          exact (step_oneTurn_iff answers (oneTurn _ List.prefix_rfl) move).2 unsplit
        · exact oneTurn earlier inside

end Runs

/-! ## A crash inside an exact response -/

namespace Sample

open Gearwit.Sample

/-- A calendar in which every text is the epoch. -/
scoped instance epochs : Rfc3339 where
  parse _ := some OffsetDateTime.unixEpoch

/-- An event as it arrives, without a body. -/
def wireEvent (eventRef : String) : ProviderEvent where
  provider := "provider-a"
  eventRef := eventRef
  actor := none
  observedAt := "2026-01-01T00:00:00Z"
  body := ""

/-- Dispatch of the first attempt. -/
def firstDispatch : PreparedDispatch where
  attachment := attachment firstAttempt firstArm 1
  correlation := ⟨firstAttempt, signal, PrivateId.fixture 1, PrivateId.fixture 2,
    PrivateId.fixture 3, none⟩
  expectedProbeId := PrivateId.fixture 4

/-- Epoch its probe reads. -/
def firstEpoch : NativeMutationEpoch := ⟨PrivateId.fixture 1, 0⟩

/-- Idle answer to its probe. -/
def idleAnswer : IdleProbeResult :=
  .idle
    (.idle ⟨firstDispatch.attachment.controller, signal, PrivateId.fixture 2,
        PrivateId.fixture 4⟩ (PrivateId.fixture 4) firstEpoch OffsetDateTime.unixEpoch)
    ⟨PrivateId.fixture 4, firstEpoch⟩

/-- One attempt up to its authorized write. -/
def authorizedRun : List DaemonMove :=
  [.registerManagedArm ⟨"arm-a", 1, "seat-a", lease⟩,
    .reserveControllerBirth "arm-a" (some (PrivateId.fixture 1))
      (some (PrivateId.fixture 1)) (some (PrivateId.fixture 1)),
    .resolveThreadCreate
      ⟨DaemonAuthority.birthBinding (birth firstArm 1), PrivateId.fixture 1⟩
      (.owned (PrivateId.fixture 2)) (some (PrivateId.fixture 5)),
    .admitClaim ⟨"arm-a", "request-a", "signal-a", [wireEvent "event-1"]⟩
      (some (PrivateId.fixture 1)) (some (PrivateId.fixture 40)),
    .prepareHandleClaimedSignal ⟨firstAttempt⟩ (some (PrivateId.fixture 3))
      (some (PrivateId.fixture 4)),
    .authorizeProbe firstDispatch (.ok idleAnswer)].map fun call => .event ⟨call, none⟩

/-- The same attempt: a crash leaves only the evidence of an exact response, and the
daemon recovers. -/
def interruptedRun : List DaemonMove :=
  authorizedRun ++
    (after (PrivateId.fixture 0) OffsetDateTime.unixEpoch
        authorizedRun).world.authorized.map
      (fun authorized => .event ⟨.concludeAuthorized authorized
        (.ok (.exactResponse (.started (PrivateId.fixture 6))))
        (some (PrivateId.fixture 7)) (some (PrivateId.fixture 8)), some 1⟩) ++
    [.event ⟨.restart OffsetDateTime.unixEpoch [], none⟩]

/-- After the recovery the attempt has a turn that its correlation does not name. -/
theorem interrupted_turn_unnamed :
    ¬∀ (activeMacKey : Bytes32) (now : OffsetDateTime) (moves : List DaemonMove)
      (attemptId : AttemptId),
        (after activeMacKey now moves).world.store.OneTurn attemptId := by
  intro oneTurn
  have listed : NativeTurnFact.started (PrivateId.fixture 6) ∈
      (after (PrivateId.fixture 0) OffsetDateTime.unixEpoch
        interruptedRun).world.store.factsOf firstAttempt := by
    decide +kernel
  have unnamed : ((after (PrivateId.fixture 0) OffsetDateTime.unixEpoch
      interruptedRun).world.store.prepared[firstAttempt]?.bind
        PersistedTurnCorrelation.turnRef) = none := by
    decide +kernel
  obtain ⟨⟨prepared, present, named⟩, _⟩ :=
    (oneTurn _ _ interruptedRun firstAttempt).named _ listed (PrivateId.fixture 6) rfl
  rw [present] at unnamed
  exact absurd (unnamed.symm.trans named) (by simp)

end Sample

end DaemonRun

end Gearwit
