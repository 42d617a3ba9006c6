import Gearwit.Persist.Growth

/-!
# One turn and one outcome per attempt

The facts of an attempt that name a turn name the one its prepared correlation and
its reservation carry, and its terminals agree.  Two operations can break this: a
fact record, which refuses another turn but only an equal terminal, and recovery,
which completes an exact response without naming its turn anywhere else.
-/

namespace Gearwit
namespace FakePersist

/-- The prepared correlation and the reservation of an attempt both name a turn. -/
def NamesTurn (store : FakePersist) (attemptId : AttemptId)
    (turnRef : PrivateNativeRef) : Prop :=
  (∃ prepared, store.prepared[attemptId]? = some prepared ∧
      prepared.turnRef = some turnRef) ∧
    ∃ reservation, store.reservations[attemptId]? = some reservation ∧
      reservation.correlation.turnRef = some turnRef

/-- Every fact that names a turn names the one turn of the attempt, and all terminals
of the attempt have one class. -/
structure OneTurn (store : FakePersist) (attemptId : AttemptId) : Prop where
  named : ∀ fact ∈ store.factsOf attemptId, ∀ turnRef, fact.turnRef = some turnRef →
    store.NamesTurn attemptId turnRef
  outcome : ∀ turnRef terminalClass other otherClass,
    .terminal turnRef terminalClass ∈ store.factsOf attemptId →
    .terminal other otherClass ∈ store.factsOf attemptId → terminalClass = otherClass

/-- The store accepts a terminal for an attempt that has one of another class. -/
def SecondTerminal (store : FakePersist) (correlation : PersistedTurnCorrelation)
    (fact : NativeTurnFact) : Prop :=
  ∃ prepared turnRef terminalClass known knownClass,
    fact = .terminal turnRef terminalClass ∧
    store.prepared[correlation.attemptId]? = some prepared ∧
    store.turnFactRejected correlation prepared fact = false ∧
    .terminal known knownClass ∈ store.factsOf correlation.attemptId ∧
    knownClass ≠ terminalClass

/-- Some attempt concluded with an exact response that names a turn, but has no fact
yet and does not carry that turn. -/
def InterruptedTurn (store : FakePersist) : Prop :=
  ∃ (attemptId : AttemptId) (fact : NativeTurnFact) (turnRef : PrivateNativeRef),
    store.writeEvidence[attemptId]? = some (.exactResponse fact) ∧
    store.turnFacts[attemptId]? = none ∧ fact.turnRef = some turnRef ∧
    ¬store.NamesTurn attemptId turnRef

/-- The operation would leave an attempt with two turns, with a turn its correlation
does not carry, or with two outcomes. -/
def SplitsTurn (store : FakePersist) : PortOp → Prop
  | .recordNativeTurnFact commit => store.SecondTerminal commit.correlation commit.fact
  | .recoverAuthorityState _ => store.InterruptedTurn
  | _ => False

variable {store next : FakePersist} {attemptId : AttemptId}

/-- An attempt keeps its one turn while its facts stay and its rows keep naming it. -/
theorem OneTurn.of_names (held : store.OneTurn attemptId)
    (facts : next.factsOf attemptId = store.factsOf attemptId)
    (names : ∀ turnRef, store.NamesTurn attemptId turnRef →
      next.NamesTurn attemptId turnRef) : next.OneTurn attemptId := by
  refine ⟨fun fact listed turnRef named => ?_, ?_⟩
  · rw [facts] at listed
    exact names turnRef (held.named fact listed turnRef named)
  · rw [facts]
    exact held.outcome

/-- An attempt without facts has no two turns. -/
theorem OneTurn.of_factless (factless : store.factsOf attemptId = []) :
    store.OneTurn attemptId := by
  refine ⟨fun fact listed => ?_, fun _ _ _ _ listed => ?_⟩ <;>
    rw [factless] at listed <;> cases listed

/-- An accepted fact that names a turn finds a reservation and conflicts with no turn
named before. -/
theorem turnFactRejected_named {correlation prepared : PersistedTurnCorrelation}
    {fact : NativeTurnFact} {turnRef : PrivateNativeRef}
    (accepted : store.turnFactRejected correlation prepared fact = false)
    (named : fact.turnRef = some turnRef) :
    ∃ reservation, store.reservations[correlation.attemptId]? = some reservation ∧
      namesOtherTurn reservation.correlation.turnRef turnRef = false ∧
      namesOtherTurn prepared.turnRef turnRef = false := by
  unfold turnFactRejected at accepted
  rw [named] at accepted
  simp only [Bool.or_eq_false_iff] at accepted
  obtain ⟨_, _, bound⟩ := accepted
  unfold turnRejected at bound
  split at bound
  · cases bound
  simp only [Bool.or_eq_false_iff] at bound
  obtain ⟨_, reserved⟩ := bound
  split at reserved
  · cases reserved
  next reservation present =>
  simp only [Bool.or_eq_false_iff] at reserved
  exact ⟨reservation, present, reserved.1.2, reserved.2⟩

/-- A turn that is not another one is the named one. -/
theorem eq_of_namesOtherTurn {stored : Option PrivateNativeRef}
    {turnRef known : PrivateNativeRef} (same : namesOtherTurn stored turnRef = false)
    (named : stored = some known) : known = turnRef := by
  subst named
  simpa [namesOtherTurn] using same

/-- A recorded fact that names a turn names it in both rows. -/
theorem withTurnFact_names {prepared : PersistedTurnCorrelation}
    {reservation : PersistedNativeReservation} {fact : NativeTurnFact}
    {turnRef : PrivateNativeRef} (dispatched : store.prepared[attemptId]? = some prepared)
    (reserved : store.reservations[attemptId]? = some reservation)
    (named : fact.turnRef = some turnRef) :
    (store.withTurnFact attemptId fact).NamesTurn attemptId turnRef := by
  constructor
  · refine ⟨prepared.withTurnRef turnRef, ?_, rfl⟩
    simp [withTurnFact, nameTurn, named, dispatched]
  · refine ⟨{ reservation with
      correlation := reservation.correlation.withTurnRef turnRef }, ?_, rfl⟩
    simp [withTurnFact, nameReservedTurn, named, reserved]

/-- A recorded fact leaves the rows of other attempts alone. -/
theorem withTurnFact_names_other {other : AttemptId} (different : attemptId ≠ other)
    (fact : NativeTurnFact) (turnRef : PrivateNativeRef)
    (named : store.NamesTurn other turnRef) :
    (store.withTurnFact attemptId fact).NamesTurn other turnRef := by
  obtain ⟨⟨prepared, dispatched, carried⟩, reservation, reserved, bound⟩ := named
  constructor
  · refine ⟨prepared, ?_, carried⟩
    change (nameTurn store.prepared attemptId fact.turnRef)[other]? = _
    unfold nameTurn
    split
    · rwa [BTreeMap.getElem?_insert_ne _ _ different]
    · exact dispatched
  · refine ⟨reservation, ?_, bound⟩
    change (nameReservedTurn store.reservations attemptId fact.turnRef)[other]? = _
    unfold nameReservedTurn
    split
    · rwa [BTreeMap.getElem?_insert_ne _ _ different]
    · exact reserved

/-- An accepted new fact keeps every attempt at one turn, and breaks the one outcome
exactly when it is a second terminal. -/
theorem withTurnFact_oneTurn_iff {correlation prepared : PersistedTurnCorrelation}
    {fact : NativeTurnFact} (held : ∀ attemptId, store.OneTurn attemptId)
    (dispatched : store.prepared[correlation.attemptId]? = some prepared)
    (accepted : store.turnFactRejected correlation prepared fact = false) :
    (∀ attemptId, (store.withTurnFact correlation.attemptId fact).OneTurn attemptId) ↔
      ¬store.SecondTerminal correlation fact := by
  have here : (store.withTurnFact correlation.attemptId fact).factsOf
      correlation.attemptId = store.factsOf correlation.attemptId ++ [fact] := by
    rw [factsOf_withTurnFact, if_pos rfl]
  constructor
  · rintro oneTurn ⟨_, turnRef, terminalClass, known, knownClass, rfl, _, _, listed,
      different⟩
    refine different ((oneTurn correlation.attemptId).outcome known knownClass turnRef
      terminalClass ?_ ?_) <;> rw [here]
    · exact List.mem_append_left _ listed
    · exact List.mem_append_right _ (List.mem_singleton_self _)
  intro single attemptId
  by_cases same : correlation.attemptId = attemptId
  · subst same
    refine ⟨fun recorded listed turnRef named => ?_,
      fun turnRef terminalClass other otherClass listed present => ?_⟩
    · rw [here] at listed
      cases carried : fact.turnRef with
      | none =>
          -- a fact that names no turn leaves the rows as they are
          rcases List.mem_append.1 listed with known | new
          · obtain ⟨⟨row, stored, rowNamed⟩, reservation, reserved, bound⟩ :=
              (held _).named recorded known turnRef named
            refine ⟨⟨row, ?_, rowNamed⟩, reservation, ?_, bound⟩
            · simpa [withTurnFact, nameTurn, carried] using stored
            · simpa [withTurnFact, nameReservedTurn, carried] using reserved
          · rw [List.mem_singleton.1 new, carried] at named
            cases named
      | some bound =>
          obtain ⟨reservation, reserved, sameReserved, _⟩ :=
            turnFactRejected_named accepted carried
          rcases List.mem_append.1 listed with known | new
          · obtain ⟨_, row, stored, rowNamed⟩ :=
              (held _).named recorded known turnRef named
            rw [reserved, Option.some.injEq] at stored
            subst stored
            rw [eq_of_namesOtherTurn sameReserved rowNamed]
            exact withTurnFact_names dispatched reserved carried
          · rw [List.mem_singleton.1 new] at named
            exact withTurnFact_names dispatched reserved named
    · rw [here] at listed present
      rcases List.mem_append.1 listed with first | first <;>
        rcases List.mem_append.1 present with second | second
      · exact (held _).outcome _ _ _ _ first second
      · by_contra different
        exact single ⟨prepared, other, otherClass, turnRef, terminalClass,
          (List.mem_singleton.1 second).symm, dispatched, accepted, first, different⟩
      · by_contra different
        exact single ⟨prepared, turnRef, terminalClass, other, otherClass,
          (List.mem_singleton.1 first).symm, dispatched, accepted, second,
          fun equal => different equal.symm⟩
      · have equal := (List.mem_singleton.1 first).trans (List.mem_singleton.1 second).symm
        rw [NativeTurnFact.terminal.injEq] at equal
        exact equal.2
  · refine (held attemptId).of_names ?_ fun turnRef =>
      withTurnFact_names_other same fact turnRef
    rw [factsOf_withTurnFact, if_neg same]

/-- Recovery keeps naming the turns that rows name. -/
theorem classified_names (draws : List VerifierRef) {turnRef : PrivateNativeRef} :
    (store.classified draws).2.NamesTurn attemptId turnRef ↔
      store.NamesTurn attemptId turnRef := by
  have dispatches : (store.classified draws).2.prepared = store.prepared := by
    rw [classified_frame]
  have reservations := classified_attempt draws store attemptId
  simp only [classifiable, Classifiable.unknown, Classifiable.mk.injEq] at reservations
  unfold NamesTurn
  rw [dispatches]
  refine and_congr Iff.rfl ?_
  rcases reservations with ⟨_, same, _⟩ | ⟨⟨_, _, _⟩, ⟨_, _, same, _⟩ | ⟨_, same, _⟩⟩ <;>
    rw [same]
  constructor
  · rintro ⟨reservation, reserved, named⟩
    obtain ⟨stored, present, rfl⟩ := Option.map_eq_some_iff.1 reserved
    exact ⟨stored, present, named⟩
  · rintro ⟨reservation, reserved, named⟩
    exact ⟨{ reservation with concluded := true }, by rw [reserved, Option.map_some],
      named⟩

/-- Recovery keeps every attempt at one turn exactly when no named exact response
waits for its fact. -/
theorem classified_oneTurn_iff (draws : List VerifierRef)
    (held : ∀ attemptId, store.OneTurn attemptId) :
    (∀ attemptId, (store.classified draws).2.OneTurn attemptId) ↔
      ¬store.InterruptedTurn := by
  constructor
  · rintro oneTurn ⟨attemptId, fact, turnRef, evidence, factless, named, unnamed⟩
    refine unnamed ((classified_names draws).1
      ((oneTurn attemptId).named fact ?_ turnRef named))
    rw [factsOf_classified, factless, evidence]
    exact List.mem_singleton_self fact
  · intro uninterrupted attemptId
    cases facts : store.turnFacts[attemptId]? with
    | some known =>
        refine (held attemptId).of_names ?_ fun turnRef => (classified_names draws).2
        rw [factsOf_classified, factsOf, facts]
        rfl
    | none =>
        cases evidence : store.writeEvidence[attemptId]? with
        | none =>
            refine .of_factless ?_
            rw [factsOf_classified, facts, evidence]
            rfl
        | some stored =>
            cases stored with
            | exactResponse fact =>
                have completed : (store.classified draws).2.factsOf attemptId =
                    [fact] := by
                  rw [factsOf_classified, facts, evidence]
                  rfl
                refine ⟨fun recorded listed turnRef named => ?_,
                  fun _ _ _ _ listed present => ?_⟩
                · rw [completed, List.mem_singleton] at listed
                  subst listed
                  by_contra unnamed
                  exact uninterrupted ⟨attemptId, recorded, turnRef, evidence, facts,
                    named, fun known => unnamed ((classified_names draws).2 known)⟩
                · rw [completed, List.mem_singleton] at listed present
                  have equal := listed.trans present.symm
                  rw [NativeTurnFact.terminal.injEq] at equal
                  exact equal.2
            | _ =>
                refine .of_factless ?_
                rw [factsOf_classified, facts, evidence]
                rfl

/-- A concluded reservation names the same turn. -/
private theorem names_of_concluded {reservations : BTreeMap AttemptId
      PersistedNativeReservation} {prepared : BTreeMap AttemptId PersistedTurnCorrelation}
    {rewritten : AttemptId} {reservation : PersistedNativeReservation}
    (stored : reservations[rewritten]? = some reservation) {turnRef : PrivateNativeRef}
    (named : (∃ row, prepared[attemptId]? = some row ∧ row.turnRef = some turnRef) ∧
      ∃ row, reservations[attemptId]? = some row ∧
        row.correlation.turnRef = some turnRef) :
    (∃ row, prepared[attemptId]? = some row ∧ row.turnRef = some turnRef) ∧
      ∃ row, (reservations.insert rewritten
          { reservation with concluded := true })[attemptId]? = some row ∧
        row.correlation.turnRef = some turnRef := by
  obtain ⟨dispatched, row, present, bound⟩ := named
  refine ⟨dispatched, ?_⟩
  by_cases equal : rewritten = attemptId
  · subst equal
    rw [stored, Option.some.injEq] at present
    subst present
    exact ⟨_, BTreeMap.getElem?_insert_same _ _ _, bound⟩
  · exact ⟨row, by rwa [BTreeMap.getElem?_insert_ne _ _ equal], bound⟩

section Runs

variable [Blake3]

/-- Every other operation keeps every attempt at one turn. -/
theorem Effect.oneTurn {operation : PortOp} (effect : Effect store operation next)
    (otherFact : ∀ commit, operation ≠ .recordNativeTurnFact commit)
    (otherRecovery : ∀ draws, operation ≠ .recoverAuthorityState draws)
    (held : store.OneTurn attemptId) : next.OneTurn attemptId := by
  cases effect with
  | fact request => exact absurd rfl (otherFact request)
  | recovered draws => exact absurd rfl (otherRecovery draws)
  | prepared request vacant =>
      refine held.of_names rfl ?_
      rintro turnRef ⟨⟨row, dispatched, named⟩, reserved⟩
      have different : request.correlation.attemptId ≠ attemptId := by
        rintro rfl
        rw [vacant] at dispatched
        cases dispatched
      exact ⟨⟨row, (BTreeMap.getElem?_insert_ne _ _ different).trans dispatched, named⟩,
        reserved⟩
  | reserved idle correlation sameAttempt vacant =>
      refine held.of_names rfl ?_
      rintro turnRef ⟨dispatched, row, reserved, named⟩
      have different : idle.attemptId ≠ attemptId := by
        rintro rfl
        rw [vacant] at reserved
        cases reserved
      exact ⟨dispatched, row, (BTreeMap.getElem?_insert_ne _ _ different).trans reserved,
        named⟩
  | prewrite request vacant =>
      refine held.of_names rfl fun turnRef named => ?_
      change (_ ∧ ∃ row, (store.concludeReservation request.attemptId)[attemptId]? =
        some row ∧ _)
      unfold concludeReservation
      split
      · exact named
      · next reservation stored => exact names_of_concluded stored named
  | evidence request reservation stored =>
      refine held.of_names rfl fun turnRef named => ?_
      exact names_of_concluded stored named
  | _ => exact held.of_names rfl fun _ named => named

/-- One operation keeps every attempt at one turn and one outcome exactly when it does
not split one. -/
theorem step_oneTurn_iff (held : ∀ attemptId, store.OneTurn attemptId)
    (operation : PortOp) :
    (∀ attemptId, (store.step operation).OneTurn attemptId) ↔
      ¬store.SplitsTurn operation := by
  cases operation with
  | recordNativeTurnFact commit =>
      change (∀ attemptId, (Gearwit.commit (store.recordNativeTurnFact commit)
        store).2.OneTurn attemptId) ↔ ¬store.SecondTerminal _ _
      unfold recordNativeTurnFact
      split
      · next missing =>
        refine iff_of_true held ?_
        rintro ⟨_, _, _, _, _, _, dispatched, _⟩
        rw [missing] at dispatched
        cases dispatched
      next prepared dispatched =>
      split
      · next rejected =>
        refine iff_of_true held ?_
        rintro ⟨_, _, _, _, _, _, stored, accepted, _⟩
        rw [dispatched, Option.some.injEq] at stored
        rw [← stored, rejected] at accepted
        cases accepted
      next accepted =>
      split
      · next known =>
        refine iff_of_true held ?_
        rintro ⟨_, _, _, _, _, same, _, _, listed, different⟩
        rw [same] at known
        exact different ((held _).outcome _ _ _ _ listed known)
      · exact withTurnFact_oneTurn_iff held dispatched (eq_false_of_ne_true accepted)
  | recoverAuthorityState draws =>
      change (∀ attemptId, (store.recoverAuthorityState draws).2.OneTurn attemptId) ↔ _
      rw [recoverAuthorityState_store]
      exact classified_oneTurn_iff draws held
  | _ =>
      refine iff_of_true (fun attemptId => (step_effect store _).oneTurn ?_ ?_
        (held attemptId)) not_false
      · intro _ equal
        cases equal
      · intro _ equal
        cases equal

end Runs

end FakePersist
end Gearwit
