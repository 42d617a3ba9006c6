import Gearwit.Codex.Reports

/-!
# Responses whose identifier could not be sealed

The exact response to a thread's or a turn's start is taken off the wire before its
identifier is sealed.  A quarantined creation keeps the identifier of a thread whose seal
failed, so that a later attempt can seal it.  Nothing keeps the identifier of a turn.
-/

namespace Gearwit
namespace Codex

open Transport
open Transition (Along run)

/-! ## Exact responses -/

/-- What an exact response names: a thread, or the turn of an attempt. -/
inductive Named
  | thread (thread : NativeRef)
  | turn (correlation : PersistedTurnCorrelation) (turn : NativeRef)

section Retention

variable {P : Type} [Persist P] [SerdeJson] [Blake3]

/-- What a creation receives after it has asked for its thread. -/
def threadAnswer (surroundings : Surroundings) :
    Option (Except Error Received × CodexTransport) :=
  match CodexTransport.start surroundings.child with
  | (.error _, _) => none
  | (.ok transport, _) =>
      let (received, transport) := transport.receive
      if received ≠ .ok .initialized then none
      else
        match transport.startAttachedThread surroundings.helper with
        | (.error _, _) => none
        | (.ok (), transport) => some transport.receive

/-- What a write receives after it has sent its turn. -/
def turnAnswer (controller : CodexController P) (lane : ControllerIdleGuard)
    (command : ControllerCommand) (finalNow : OffsetDateTime) :
    Option (Except Error Received) :=
  if controller.laneProbe ≠ some command.expectedProbeId ∨
      lane.probeId ≠ command.expectedProbeId ∨ lane.epoch ≠ command.expectedEpoch then none
  else
    match controller.openedThread with
    | .error _ => none
    | .ok thread =>
        match controller.transport.prepareTurnFrame thread command.fixedTurn with
        | (.error _, _) => none
        | (.ok id, transport) =>
            match (controller.withTransport transport).drainBeforeMutation with
            | (.error _, _) => none
            | (.ok (), controller) =>
                if controller.mutationEpoch ≠ command.expectedEpoch ∨
                    !command.validateImmutableBinding controller.birth controller.threadRef ∨
                    !command.leaseIsCurrent controller.birth finalNow then none
                else
                  match controller.transport.dispatchPreparedTurn id with
                  | (.error _, _) => none
                  | (.ok _, transport) => some (transport.receiveUntil ioDeadline).1

/-- A late reservation is the one a quarantine awaits, and the store still holds its outcome
as unknown. -/
def Awaits (quarantine : QuarantinedCreate P) (reservation : QuarantinedBirthReservation) :
    Prop :=
  reservation.birthId = quarantine.birth.birthId ∧
    reservation.createAttemptId = quarantine.createAttemptId ∧
    (Persist.threadOwnershipState quarantine.birth.birthId quarantine.persist).toOption =
      some (.unknown quarantine.createAttemptId)

namespace CodexDesk

/-- An operation reads the exact response to a thread's or a turn's start. -/
inductive Reads (desk : CodexDesk P) : CodexOp P → Named → Prop
  | created {persist : P} {log : List WireEvent} {surroundings : Surroundings}
      {reservation : ControllerBirthReservation} {draws : List PrivateNativeRef}
      {thread : NativeRef} {transport : CodexTransport}
      (vacant : desk.party = .vacant persist log)
      (reserved : (Persist.threadOwnershipState reservation.binding.birthId persist).toOption =
        some (.reserved reservation.createAttemptId))
      (attachable : surroundings.attachable = true)
      (answered : threadAnswer surroundings = some (.ok (.threadStarted thread), transport)) :
      Reads desk (.create surroundings reservation draws) (.thread thread)
  | late {quarantine : QuarantinedCreate P} {reservation : QuarantinedBirthReservation}
      {draws : List PrivateNativeRef} {thread : NativeRef} {transport : CodexTransport}
      (quarantined : desk.party = .quarantined quarantine)
      (awaited : Awaits quarantine reservation)
      (pending : quarantine.state = .pending)
      (answered : quarantine.transport.receive = (.ok (.threadStarted thread), transport)) :
      Reads desk (.late reservation draws) (.thread thread)
  | wrote {controller : CodexController P} {lane : ControllerIdleGuard}
      {command : ControllerCommand} {finalNow : OffsetDateTime}
      {draws : List PrivateNativeRef} {turn : NativeRef}
      (owned : desk.party = .owned controller)
      (handed : lane.epoch.birthId = controller.birth.birthId → lane ∈ desk.lanes)
      (answered : turnAnswer controller lane command finalNow = some (.ok (.turnStarted turn))) :
      Reads desk (.write lane command finalNow draws) (.turn command.correlation turn)
  | reconciled {controller : CodexController P} {scope : ReconciliationScope}
      {verifiers : List VerifierRef} {draws : List PrivateNativeRef} {turn : NativeRef}
      (owned : desk.party = .owned controller)
      (reconciles : Reconciles controller scope verifiers)
      (answered : (controller.transport.receiveUntil 0).1 = .ok (.turnStarted turn)) :
      Reads desk (.reconcile scope verifiers draws) (.turn scope.correlation turn)

/-- An operation leaves the outcome of its creation or turn unknown. -/
def Unsettled (desk : CodexDesk P) (op : CodexOp P) : Prop :=
  desk.reply op = .created .unknown ∨ desk.reply op = .wrote (.ok .unknown) ∨
    desk.reply op = .reconciled (.ok .unknown)

/-- An operation asks again for what a response named, passes its checks, and the store
would seal the name. -/
inductive Retries (reference : PrivateNativeRef) (desk : CodexDesk P) :
    Named → CodexOp P → Prop
  | late {quarantine : QuarantinedCreate P} {reservation : QuarantinedBirthReservation}
      {draws : List PrivateNativeRef} {thread : NativeRef}
      (quarantined : desk.party = .quarantined quarantine)
      (awaited : Awaits quarantine reservation)
      (stored : SealedThread quarantine.persist quarantine.birth.birthId
        quarantine.createAttemptId thread draws reference) :
      Retries reference desk (.thread thread) (.late reservation draws)
  | reconcile {controller : CodexController P} {scope : ReconciliationScope}
      {verifiers : List VerifierRef} {draws : List PrivateNativeRef} {turn : NativeRef}
      (owned : desk.party = .owned controller)
      (reconciles : Reconciles controller scope verifiers)
      (stored : CodexController.SealedTurn (Persist.recoverAuthorityState verifiers controller.persist).2
        scope.turnScope turn draws reference) :
      Retries reference desk (.turn scope.correlation turn) (.reconcile scope verifiers draws)

/-- What a retry reports if it seals the name. -/
def recovered (reference : PrivateNativeRef) : Named → CodexReply
  | .thread _ => .created (.owned reference)
  | .turn _ _ => .reconciled (.ok (.accepted reference))

/-- A retry itself reads an exact response to a turn's start, whose name the store seals
under the same reference. -/
def ReadsAgain (reference : PrivateNativeRef) (desk : CodexDesk P) (named : Named)
    (op : CodexOp P) : Prop :=
  ∃ correlation turn other, named = .turn correlation turn ∧
    Reads desk op (.turn correlation other) ∧
    Retries reference desk (.turn correlation other) op

/-! ## A quarantined thread -/

/-- A quarantine keeps a thread. -/
def Holds (thread : NativeRef) (desk : CodexDesk P) : Prop :=
  ∃ quarantine, desk.party = .quarantined quarantine ∧
    quarantine.state = .exactThread thread

omit [SerdeJson] [Blake3] in
private theorem sealThread_some {persist : P} {birth : ControllerBirthBinding}
    {createAttemptId : RequestNonce} {thread : NativeRef} {draws : List PrivateNativeRef}
    {threadRef : PrivateNativeRef}
    (stored : SealedThread persist birth.birthId createAttemptId thread draws threadRef) :
    ∃ after, sealThread persist birth createAttemptId thread draws =
      (some threadRef, after) := by
  obtain ⟨secret, valid, answered⟩ := stored
  unfold sealThread
  rw [valid]
  rcases sealed : Persist.sealNativeCoordinate
    (.thread birth.birthId createAttemptId) secret draws persist with ⟨error | reference, after⟩
  · rw [sealed] at answered
    cases answered
  · rw [sealed] at answered
    cases answered
    exact ⟨after, by simp only [sealed]⟩

/-- A creation that received the name of its thread owns it or keeps it. -/
private theorem create_reads {persist : P} {surroundings : Surroundings}
    {reservation : ControllerBirthReservation} {draws : List PrivateNativeRef}
    {thread : NativeRef} {transport : CodexTransport}
    (reserved : (Persist.threadOwnershipState reservation.binding.birthId persist).toOption =
      some (.reserved reservation.createAttemptId))
    (attachable : surroundings.attachable = true)
    (answered : threadAnswer surroundings = some (.ok (.threadStarted thread), transport)) :
    (∃ quarantine : QuarantinedCreate P, quarantine.state = .exactThread thread ∧
        (CodexController.createOwned persist surroundings reservation draws).1 =
          .unknown reservation quarantine) ∨
      ∃ controller, (CodexController.createOwned persist surroundings reservation draws).1 =
        .owned reservation controller := by
  unfold threadAnswer at answered
  unfold CodexController.createOwned
  dsimp only
  rw [if_neg (not_not.2 reserved), attachable]
  rcases started : CodexTransport.start surroundings.child with ⟨error | child, log⟩
  · rw [started] at answered
    cases answered
  rw [started] at answered
  dsimp only at answered ⊢
  rcases shaken : child.receive with ⟨received, ready⟩
  rw [shaken] at answered
  dsimp only at answered ⊢
  split_ifs at answered with unready
  rw [if_neg unready]
  rcases asked : ready.startAttachedThread surroundings.helper with ⟨error | _, asking⟩
  · rw [asked] at answered
    cases answered
  rw [asked] at answered
  have last : asking.receive = (.ok (.threadStarted thread), transport) :=
    Option.some.inj answered
  simp only [last, Bool.not_true, Bool.false_eq_true, if_false]
  split
  · exact .inl ⟨_, rfl, rfl⟩
  · exact .inr ⟨_, rfl⟩

/-- What a late attempt does with the name of the thread. -/
private theorem late_named {quarantine : QuarantinedCreate P}
    {reservation : QuarantinedBirthReservation} {draws : List PrivateNativeRef}
    {thread : NativeRef} (awaited : Awaits quarantine reservation)
    (named : quarantine.state = .exactThread thread ∨
      quarantine.state = .pending ∧
        (quarantine.transport.receive).1 = .ok (.threadStarted thread)) :
    (∃ after : QuarantinedCreate P, after.state = .exactThread thread ∧
        (quarantine.receiveLate reservation draws).1 = .stillUnknown reservation after) ∨
      ∃ controller, (quarantine.receiveLate reservation draws).1 =
        .owned reservation controller := by
  unfold QuarantinedCreate.receiveLate
  rw [if_neg (by simp [awaited.1, awaited.2.1, awaited.2.2])]
  rcases named with kept | ⟨pending, answered⟩
  · rw [kept]
    dsimp only [QuarantinedCreate.own]
    split
    · exact .inl ⟨_, rfl, rfl⟩
    · exact .inr ⟨_, rfl⟩
  · rw [pending]
    dsimp only [QuarantinedCreate.own]
    rw [answered]
    dsimp only
    split
    · exact .inl ⟨_, rfl, rfl⟩
    · exact .inr ⟨_, rfl⟩

/-- A retry whose name the store does not seal keeps it. -/
private theorem late_unsealed {quarantine : QuarantinedCreate P}
    {reservation : QuarantinedBirthReservation} {draws : List PrivateNativeRef}
    {thread : NativeRef} {persist : P} (awaited : Awaits quarantine reservation)
    (kept : quarantine.state = .exactThread thread)
    (done : sealThread quarantine.persist quarantine.birth quarantine.createAttemptId thread
      draws = (none, persist)) :
    (quarantine.receiveLate reservation draws).1 =
      .stillUnknown reservation { quarantine with persist, state := .exactThread thread } := by
  unfold QuarantinedCreate.receiveLate
  rw [if_neg (by simp [awaited.1, awaited.2.1, awaited.2.2]), kept]
  dsimp only [QuarantinedCreate.own]
  rw [done]

/-- A retry whose name the store seals owns the thread. -/
private theorem late_sealed {quarantine : QuarantinedCreate P}
    {reservation : QuarantinedBirthReservation} {draws : List PrivateNativeRef}
    {thread : NativeRef} {threadRef : PrivateNativeRef} (awaited : Awaits quarantine reservation)
    (kept : quarantine.state = .exactThread thread)
    (stored : SealedThread quarantine.persist quarantine.birth.birthId
      quarantine.createAttemptId thread draws threadRef) :
    ∃ controller : CodexController P, controller.threadRef = threadRef ∧
      (quarantine.receiveLate reservation draws).1 = .owned reservation controller := by
  obtain ⟨after, sealed⟩ := sealThread_some stored
  unfold QuarantinedCreate.receiveLate
  rw [if_neg (by simp [awaited.1, awaited.2.1, awaited.2.2]), kept]
  dsimp only [QuarantinedCreate.own]
  rw [sealed]
  exact ⟨_, rfl, rfl⟩

private theorem late_unawaited {quarantine : QuarantinedCreate P}
    {reservation : QuarantinedBirthReservation} {draws : List PrivateNativeRef}
    (unawaited : ¬ Awaits quarantine reservation) :
    (quarantine.receiveLate reservation draws).1 = .stillUnknown reservation quarantine := by
  unfold QuarantinedCreate.receiveLate
  rw [if_pos]
  by_contra passed
  rw [not_or, not_or, not_not, not_not, not_not] at passed
  exact unawaited passed

private theorem perform_late_unknown {desk : CodexDesk P}
    {quarantine after : QuarantinedCreate P} {reservation : QuarantinedBirthReservation}
    {draws : List PrivateNativeRef} (quarantined : desk.party = .quarantined quarantine)
    (unknown : (quarantine.receiveLate reservation draws).1 = .stillUnknown reservation after) :
    desk.perform (.late reservation draws) = (.created .unknown, seat (.quarantined after)) := by
  unfold perform
  dsimp only
  rw [quarantined]
  dsimp only
  rcases outcome : quarantine.receiveLate reservation draws with ⟨found, log⟩
  rw [outcome] at unknown
  cases unknown
  rfl

private theorem perform_late_owned {desk : CodexDesk P} {quarantine : QuarantinedCreate P}
    {controller : CodexController P} {reservation : QuarantinedBirthReservation}
    {draws : List PrivateNativeRef} (quarantined : desk.party = .quarantined quarantine)
    (owned : (quarantine.receiveLate reservation draws).1 = .owned reservation controller) :
    desk.perform (.late reservation draws) =
      (.created (.owned controller.threadRef), seat (.owned controller)) := by
  unfold perform
  dsimp only
  rw [quarantined]
  dsimp only
  rcases outcome : quarantine.receiveLate reservation draws with ⟨found, log⟩
  rw [outcome] at owned
  cases owned
  rfl

private theorem perform_create_unknown {desk : CodexDesk P} {persist : P}
    {log : List WireEvent} {surroundings : Surroundings}
    {reservation : ControllerBirthReservation} {draws : List PrivateNativeRef}
    {quarantine : QuarantinedCreate P} (vacant : desk.party = .vacant persist log)
    (unknown : (CodexController.createOwned persist surroundings reservation draws).1 =
      .unknown reservation quarantine) :
    desk.perform (.create surroundings reservation draws) =
      (.created .unknown, seat (.quarantined quarantine)) := by
  unfold perform
  dsimp only
  rw [vacant]
  dsimp only
  rcases outcome : CodexController.createOwned persist surroundings reservation draws with
    ⟨found, last⟩
  rw [outcome] at unknown
  cases unknown
  rfl

private theorem perform_create_owned {desk : CodexDesk P} {persist : P}
    {log : List WireEvent} {surroundings : Surroundings}
    {reservation : ControllerBirthReservation} {draws : List PrivateNativeRef}
    {controller : CodexController P} (vacant : desk.party = .vacant persist log)
    (owned : (CodexController.createOwned persist surroundings reservation draws).1 =
      .owned reservation controller) :
    desk.perform (.create surroundings reservation draws) =
      (.created (.owned controller.threadRef), seat (.owned controller)) := by
  unfold perform
  dsimp only
  rw [vacant]
  dsimp only
  rcases outcome : CodexController.createOwned persist surroundings reservation draws with
    ⟨found, last⟩
  rw [outcome] at owned
  cases owned
  rfl

/-- A creation whose outcome stays unknown after the name was read keeps the name. -/
private theorem holds_of_reads {desk : CodexDesk P} {op : CodexOp P} {thread : NativeRef}
    (reads : Reads desk op (.thread thread)) (unsettled : Unsettled desk op) :
    Holds thread (desk.step op) := by
  cases reads with
  | @created persist log surroundings reservation draws _ transport vacant reserved attachable
      answered =>
      rcases create_reads reserved attachable answered with
        ⟨quarantine, kept, unknown⟩ | ⟨controller, owned⟩
      · exact ⟨quarantine, by rw [step, perform_create_unknown vacant unknown]; rfl, kept⟩
      · rw [Unsettled, reply, perform_create_owned vacant owned] at unsettled
        simp at unsettled
  | @late quarantine reservation draws _ transport quarantined awaited pending answered =>
      rcases late_named awaited (.inr ⟨pending, congrArg Prod.fst answered⟩) with
        ⟨after, kept, unknown⟩ | ⟨controller, owned⟩
      · exact ⟨after, by rw [step, perform_late_unknown quarantined unknown]; rfl, kept⟩
      · rw [Unsettled, reply, perform_late_owned quarantined owned] at unsettled
        simp at unsettled

/-- An operation that does not seal the name keeps it. -/
private theorem holds_step {desk : CodexDesk P} {op : CodexOp P} {thread : NativeRef}
    (holds : Holds thread desk)
    (unretried : ∀ reference, ¬ Retries reference desk (.thread thread) op) :
    Holds thread (desk.step op) := by
  obtain ⟨quarantine, quarantined, kept⟩ := holds
  cases op with
  | late reservation draws =>
      by_cases awaited : Awaits quarantine reservation
      · rcases done : sealThread quarantine.persist quarantine.birth quarantine.createAttemptId
          thread draws with ⟨_ | threadRef, persist⟩
        · refine ⟨{ quarantine with persist, state := .exactThread thread }, ?_, rfl⟩
          rw [step, perform_late_unknown quarantined (late_unsealed awaited kept done)]
          rfl
        · exact absurd (.late quarantined awaited (sealThread_sealed done)) (unretried threadRef)
      · refine ⟨quarantine, ?_, kept⟩
        rw [step, perform_late_unknown quarantined (late_unawaited awaited)]
        rfl
  | elsewhere persist =>
      refine ⟨{ quarantine with persist }, ?_, kept⟩
      unfold step perform
      dsimp only
      rw [quarantined]
  | _ =>
      refine ⟨quarantine, ?_, kept⟩
      unfold step perform
      dsimp only
      rw [quarantined]
      exact quarantined

private theorem holds_run {desk : CodexDesk P} {thread : NativeRef} {rest : List (CodexOp P)}
    (holds : Holds thread desk)
    (unretried : Along step
      (fun desk op => ∀ reference, ¬ Retries reference desk (.thread thread) op) desk rest) :
    Holds thread (run step desk rest) := by
  induction rest generalizing desk with
  | nil => exact holds
  | cons op rest hypothesis =>
      rw [Transition.run_cons]
      exact hypothesis (holds_step holds unretried.1) unretried.2

/-! ## A turn that nothing keeps -/

omit [SerdeJson] [Blake3] in
/-- A turn is sealed exactly if the store seals it under one of the draws. -/
theorem sealTurn_ok_iff {controller : CodexController P} {scope : NativeCoordinateScope}
    {turn : NativeRef} {draws : List PrivateNativeRef} {turnRef : PrivateNativeRef} :
    (controller.sealTurn scope turn draws).1 = .ok turnRef ↔
      CodexController.SealedTurn controller.persist scope turn draws turnRef := by
  unfold CodexController.sealTurn CodexController.SealedTurn
  split
  · rename_i error invalid
    simp [invalid]
  · rename_i secret valid
    split
    · rename_i error persist refused
      simp [valid, refused]
    · rename_i reference persist stored
      simp [valid, stored]

omit [SerdeJson] [Blake3] in
private theorem concludeReconciliation_accepts_iff {controller : CodexController P}
    {scope : ReconciliationScope} {received : Except Error Received}
    {draws : List PrivateNativeRef} {turnRef : PrivateNativeRef} :
    (controller.concludeReconciliation scope received draws).1 = .accepted turnRef ↔
      ∃ other, received = .ok (.turnStarted other) ∧
        CodexController.SealedTurn controller.persist scope.turnScope other draws turnRef := by
  unfold CodexController.concludeReconciliation
  split
  · rename_i turn
    rcases done : controller.sealTurn scope.turnScope turn draws with ⟨error | reference, after⟩
    · have unsealed := congrArg Prod.fst done
      simp only [reduceCtorEq, false_iff]
      rintro ⟨other, same, stored⟩
      cases same
      rw [sealTurn_ok_iff.2 stored] at unsealed
      cases unsealed
    · have sealed := sealTurn_ok_iff.1 (congrArg Prod.fst done)
      constructor
      · intro same
        cases same
        exact ⟨turn, rfl, sealed⟩
      · rintro ⟨other, same, stored⟩
        cases same
        have twice := sealTurn_ok_iff.2 stored
        rw [done] at twice
        cases twice
        rfl
  · simp
  · rename_i other _
    simp only [reduceCtorEq, false_iff]
    rintro ⟨turn, same, _⟩
    exact other turn same

/-- A reconciliation accepts a turn exactly if it reads the turn itself and the store seals
it. -/
private theorem reconcile_accepts_iff {desk : CodexDesk P} {controller : CodexController P}
    {scope : ReconciliationScope} {verifiers : List VerifierRef}
    {draws : List PrivateNativeRef} {turnRef : PrivateNativeRef}
    (owned : desk.party = .owned controller) (reconciles : Reconciles controller scope verifiers) :
    desk.reply (.reconcile scope verifiers draws) = .reconciled (.ok (.accepted turnRef)) ↔
      ∃ other, (controller.transport.receiveUntil 0).1 = .ok (.turnStarted other) ∧
        CodexController.SealedTurn (Persist.recoverAuthorityState verifiers controller.persist).2
          scope.turnScope other draws turnRef := by
  have replied : desk.reply (.reconcile scope verifiers draws) =
      .reconciled (controller.reconcileExact scope verifiers draws).1 := by
    unfold reply perform
    dsimp only
    rw [owned]
  have judged : (controller.reconcileExact scope verifiers draws).1 =
      .ok ((CodexController.withTransport
        { controller with
          persist := (Persist.recoverAuthorityState verifiers controller.persist).2 }
        (controller.transport.receiveUntil 0).2).concludeReconciliation scope
          (controller.transport.receiveUntil 0).1 draws).1 := by
    unfold CodexController.reconcileExact
    dsimp only
    rw [if_neg reconciles]
    rfl
  rw [replied, judged, CodexReply.reconciled.injEq, Except.ok.injEq,
    concludeReconciliation_accepts_iff]
  rfl

private theorem reads_reconcile {desk : CodexDesk P} {controller : CodexController P}
    {scope : ReconciliationScope} {verifiers : List VerifierRef}
    {draws : List PrivateNativeRef} {named : Named} (owned : desk.party = .owned controller)
    (reads : Reads desk (.reconcile scope verifiers draws) named) :
    ∃ turn, named = .turn scope.correlation turn ∧
      (controller.transport.receiveUntil 0).1 = .ok (.turnStarted turn) := by
  cases reads with
  | @reconciled party _ _ _ turn same _ answered =>
      rw [owned] at same
      cases same
      exact ⟨turn, rfl, answered⟩

omit [SerdeJson] [Blake3] in
private theorem retries_reconcile {desk : CodexDesk P} {controller : CodexController P}
    {scope : ReconciliationScope} {verifiers : List VerifierRef}
    {draws : List PrivateNativeRef} {correlation : PersistedTurnCorrelation} {turn : NativeRef}
    {turnRef : PrivateNativeRef} (owned : desk.party = .owned controller)
    (retries : Retries turnRef desk (.turn correlation turn)
      (.reconcile scope verifiers draws)) :
    CodexController.SealedTurn (Persist.recoverAuthorityState verifiers controller.persist).2
      scope.turnScope turn draws turnRef := by
  generalize asked : Named.turn correlation turn = named at retries
  cases retries with
  | @reconcile party _ _ _ other same _ stored =>
      rw [owned] at same
      cases same
      cases asked
      exact stored

/-! ## The response survives, or does not -/

/-- After an exact response whose name could not be sealed, the first retry the store would
seal it for owns the thread.  For a turn it accepts the turn exactly if it reads another
response that is sealed under the same reference. -/
theorem unsealed_recovered_iff {desk : CodexDesk P} {op retry : CodexOp P} {named : Named}
    {rest : List (CodexOp P)} {reference : PrivateNativeRef} (reads : Reads desk op named)
    (unsettled : Unsettled desk op)
    (unretried : Along step (fun desk op => ∀ reference, ¬ Retries reference desk named op)
      (desk.step op) rest)
    (retries : Retries reference (run step (desk.step op) rest) named retry) :
    (run step (desk.step op) rest).reply retry = recovered reference named ↔
      (∃ thread, named = .thread thread) ∨
        ReadsAgain reference (run step (desk.step op) rest) named retry := by
  generalize reached : run step (desk.step op) rest = last at retries
  cases retries with
  | @late quarantine reservation draws thread quarantined awaited stored =>
      obtain ⟨holding, same, kept⟩ := holds_run (holds_of_reads reads unsettled) unretried
      rw [reached, quarantined] at same
      cases same
      obtain ⟨controller, rfl, owned⟩ := late_sealed awaited kept stored
      rw [reply, perform_late_owned quarantined owned]
      exact iff_of_true rfl (.inl ⟨thread, rfl⟩)
  | @reconcile controller scope verifiers draws turn owned reconciles stored =>
      refine (reconcile_accepts_iff owned reconciles).trans ⟨?_, ?_⟩
      · rintro ⟨other, answered, sealed⟩
        exact .inr ⟨scope.correlation, turn, other, rfl, .reconciled owned reconciles answered,
          .reconcile owned reconciles sealed⟩
      · rintro (⟨thread, other⟩ | ⟨correlation, turn, other, same, again, sealed⟩)
        · cases other
        · cases same
          obtain ⟨other, named, answered⟩ := reads_reconcile owned again
          cases named
          exact ⟨other, answered, retries_reconcile owned sealed⟩

end CodexDesk

end Retention

namespace Sample

open Gearwit.Sample
open Transport.Sample (compact sent)

/-- The creation of the thread while the store seals nothing. -/
def unsealedCreate : CodexOp FakePersist :=
  .create ⟨true, some child, some "/opt/helper"⟩ ⟨owner, PrivateId.fixture 1⟩ []

/-- The store after the creation was recorded as unknown. -/
def quarantinedStore : FakePersist :=
  stored (opens firstRequest firstArm firstAttempt 1 firstEvent secondEvent ++
    [.resolveThreadCreate ⟨PrivateId.fixture 1, PrivateId.fixture 1, .unknown,
      PrivateId.fixture 5⟩])

/-- The creation is asked for again. -/
def lateCreate : CodexOp FakePersist :=
  .late ⟨PrivateId.fixture 1, PrivateId.fixture 1⟩ [PrivateId.fixture 2]

/-- The turn is written while the store seals nothing. -/
def unsealedTurn : CodexOp FakePersist := .write lane command OffsetDateTime.unixEpoch []

/-- The turn is reconciled while the store seals again. -/
def sealingReconciliation : CodexOp FakePersist :=
  .reconcile ⟨correlation, PrivateId.fixture 7⟩ [] [PrivateId.fixture 3]

/-- The store holds the turn as unknown. -/
def unknownStore : FakePersist :=
  stored (reserved ++ [.recordNativeWriteEvidence ⟨correlation, .unknown, PrivateId.fixture 7⟩])

/-- The quarantined creation of a desk. -/
def quarantineOf (desk : CodexDesk FakePersist) : Option (QuarantinedCreate FakePersist) :=
  match desk.party with
  | .quarantined quarantine => some quarantine
  | _ => none

/-- The controller of a desk. -/
def controllerOf (desk : CodexDesk FakePersist) : Option (CodexController FakePersist) :=
  match desk.party with
  | .owned controller => some controller
  | _ => none

private theorem party_of_quarantineOf {desk : CodexDesk FakePersist}
    {quarantine : QuarantinedCreate FakePersist} (found : quarantineOf desk = some quarantine) :
    desk.party = .quarantined quarantine := by
  unfold quarantineOf at found
  split at found
  · rename_i same
    rw [same, Option.some.inj found]
  · cases found

private theorem party_of_controllerOf {desk : CodexDesk FakePersist}
    {controller : CodexController FakePersist} (found : controllerOf desk = some controller) :
    desk.party = .owned controller := by
  unfold controllerOf at found
  split at found
  · rename_i same
    rw [same, Option.some.inj found]
  · cases found

/-- The desk whose store holds the creation as unknown. -/
def quarantinedDesk : CodexDesk FakePersist :=
  run CodexDesk.step (vacant.step unsealedCreate) [.elsewhere quarantinedStore]

private theorem create_checks :
    (threadAnswer ⟨true, some child, some "/opt/helper"⟩).map Prod.fst =
        some (.ok (.threadStarted ⟨"t"⟩)) ∧
      vacant.reply unsealedCreate = .created .unknown ∧
      (quarantineOf quarantinedDesk).any (fun quarantine => decide
        ((PrivateId.fixture 1 = quarantine.birth.birthId ∧
          PrivateId.fixture 1 = quarantine.createAttemptId ∧
          (Persist.threadOwnershipState quarantine.birth.birthId quarantine.persist).toOption =
            some (.unknown quarantine.createAttemptId)) ∧
        (sealThread quarantine.persist quarantine.birth quarantine.createAttemptId ⟨"t"⟩
          [PrivateId.fixture 2]).1 = some (PrivateId.fixture 2))) = true := by
  decide +kernel

private theorem unsealedCreate_reads :
    CodexDesk.Reads vacant unsealedCreate (.thread ⟨"t"⟩) := by
  obtain ⟨⟨received, transport⟩, named, rfl⟩ := Option.map_eq_some_iff.1 create_checks.1
  exact .created rfl (by decide +kernel) rfl named

private theorem lateCreate_retries :
    CodexDesk.Retries (PrivateId.fixture 2) quarantinedDesk (.thread ⟨"t"⟩) lateCreate := by
  obtain ⟨quarantine, found, checked⟩ := (Option.any_eq_true _ _).1 create_checks.2.2
  obtain ⟨awaited, sealed⟩ := of_decide_eq_true checked
  exact .late (party_of_quarantineOf found) awaited (sealThread_sealed (Prod.ext sealed rfl))

/-- A thread whose seal failed is owned by the next attempt that seals it. -/
theorem unsealed_thread_owned :
    quarantinedDesk.reply lateCreate = .created (.owned (PrivateId.fixture 2)) := by
  have unretried : Along CodexDesk.step
      (fun desk op => ∀ reference, ¬ CodexDesk.Retries reference desk (.thread ⟨"t"⟩) op)
      (vacant.step unsealedCreate) [.elsewhere quarantinedStore] := by
    refine (Transition.along_cons _ _ _ _ _).2 ⟨?_, trivial⟩
    intro reference retries
    cases retries
  exact (CodexDesk.unsealed_recovered_iff unsealedCreate_reads (.inl create_checks.2.1) unretried
    lateCreate_retries).2 (.inl ⟨_, rfl⟩)

/-- The desk before the turn is written. -/
def probed : CodexDesk FakePersist := run CodexDesk.step vacant (unknownTurn.take 3)

/-- The desk whose store holds the turn as unknown. -/
def unknownDesk : CodexDesk FakePersist :=
  run CodexDesk.step (probed.step unsealedTurn) [.elsewhere unknownStore]

private theorem turn_checks :
    (controllerOf probed).any (fun controller => decide
      ((lane.epoch.birthId = controller.birth.birthId → lane ∈ probed.lanes) ∧
        turnAnswer controller lane command OffsetDateTime.unixEpoch =
          some (.ok (.turnStarted ⟨"u"⟩)))) = true ∧
      probed.reply unsealedTurn = .wrote (.ok .unknown) ∧
      (controllerOf unknownDesk).any (fun controller => decide
        (((controller.reconciling.any fun expected => decide (expected ≠ correlation)) = false ∧
          (Persist.recoverAuthorityState [] controller.persist).1.toOption.any
            (CodexController.durableUnknown ⟨correlation, PrivateId.fixture 7⟩) = true ∧
          correlation.birthId = controller.birth.birthId ∧
          correlation.threadRef = controller.threadRef) ∧
        (CodexController.sealTurn
          { controller with persist := (Persist.recoverAuthorityState [] controller.persist).2 }
          correlation.turnScope ⟨"u"⟩ [PrivateId.fixture 3]).1 =
            .ok (PrivateId.fixture 3))) = true ∧
      unknownDesk.reply sealingReconciliation = .reconciled (.ok .unknown) := by
  decide +kernel

private theorem unsealedTurn_reads :
    CodexDesk.Reads probed unsealedTurn (.turn correlation ⟨"u"⟩) := by
  obtain ⟨controller, found, checked⟩ := (Option.any_eq_true _ _).1 turn_checks.1
  obtain ⟨handed, answered⟩ := of_decide_eq_true checked
  exact @CodexDesk.Reads.wrote _ _ _ _ probed controller lane command _ [] _
    (party_of_controllerOf found) handed answered

private theorem reconciliation_retries :
    CodexDesk.Retries (PrivateId.fixture 3) unknownDesk (.turn correlation ⟨"u"⟩)
      sealingReconciliation := by
  obtain ⟨controller, found, checked⟩ := (Option.any_eq_true _ _).1 turn_checks.2.2.1
  obtain ⟨⟨expected, unknown, birth, thread⟩, sealed⟩ := of_decide_eq_true checked
  have reconciles : CodexDesk.Reconciles controller ⟨correlation, PrivateId.fixture 7⟩ [] := by
    rintro (mismatched | undurable | foreign | foreign)
    · rw [expected] at mismatched
      cases mismatched
    · rw [unknown] at undurable
      cases undurable
    · exact foreign birth
    · exact foreign thread
  have stored := CodexDesk.sealTurn_ok_iff.1 sealed
  exact @CodexDesk.Retries.reconcile _ _ _ unknownDesk controller
    ⟨correlation, PrivateId.fixture 7⟩ [] [PrivateId.fixture 3] _ (party_of_controllerOf found)
    reconciles stored

/-- A turn whose seal failed stays unknown, though its reference could be sealed now. -/
theorem unsealed_turn_lost :
    CodexDesk.Reads probed unsealedTurn (.turn correlation ⟨"u"⟩) ∧
      probed.reply unsealedTurn = .wrote (.ok .unknown) ∧
      CodexDesk.Retries (PrivateId.fixture 3) unknownDesk (.turn correlation ⟨"u"⟩)
        sealingReconciliation ∧
      unknownDesk.reply sealingReconciliation = .reconciled (.ok .unknown) :=
  ⟨unsealedTurn_reads, turn_checks.2.1, reconciliation_retries, turn_checks.2.2.2⟩

end Sample
end Codex
end Gearwit
