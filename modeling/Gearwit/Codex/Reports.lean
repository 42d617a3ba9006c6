import Gearwit.Codex.Creation
import Gearwit.Persist.Synthetic
import Gearwit.Transport.Torn

/-!
# Outcomes the controller reports

A write reports that nothing was accepted only where no byte of its frame was, or where
the server's error object for exactly that request was read; it reports a reference only
where the result of exactly that request named it.  A reconciliation receives whatever
the outstanding request is answered with.  Where that request is an observation, its
error object is reported as the refusal of a turn.
-/

namespace Gearwit
namespace Codex

open Transport
open CodexController (SealedTurn DispatchStep durableUnknown)
open Transition (Along)

variable {P : Type}

/-! ## What a desk reports -/

/-- The last turn asked for under a correlation. -/
def lastAsked (asked : List (PersistedTurnCorrelation × Nat))
    (correlation : PersistedTurnCorrelation) : Option Nat :=
  (asked.find? fun turn => decide (turn.1 = correlation)).map Prod.snd

/-- The store of a party. -/
def Party.store : Party P → P
  | .vacant persist _ => persist
  | .quarantined quarantine => quarantine.persist
  | .owned controller => controller.persist

/-- Turns an operation may ask for: one for the command it consumes. -/
def CodexOp.commands : CodexOp P → Nat
  | .write _ _ _ _ => 1
  | _ => 0

section Reports

variable [Persist P] [SerdeJson] [Blake3]

namespace CodexDesk

/-- Order on the wire: no identifier is taken twice, one request is outstanding at most,
and each command asks for one turn at most. -/
structure Orderly (desk : CodexDesk P) (op : CodexOp P) : Prop where
  distinct : ((requests (desk.step op).log).map Prod.fst).Nodup
  single : (desk.step op).pending.length ≤ 1
  once : (turnsSince desk.log (desk.step op).log).length ≤ op.commands

/-- Whatever a write over a store reports about its turn is proven by the wire. -/
structure WriteSound (store : P) (command : ControllerCommand) (draws : List PrivateNativeRef)
    (older log : List WireEvent) (reply : CodexReply) : Prop where
  refused : reply = .wrote (.ok .provenNotAccepted) →
    ∃ newer, log = newer ++ older ∧ Unaccepted .turnStart newer
  accepted : ∀ turnRef, reply = .wrote (.ok (.accepted turnRef)) →
    ∃ newer id turn, log = newer ++ older ∧ id ∈ idsOf .turnStart newer ∧
      ResultRead newer id .turnStart (.turnStarted turn) ∧
      SealedTurn store command.turnScope turn draws turnRef

/-- Whatever a reconciliation over a store reports about a turn is proven by the wire. -/
structure ReconcileSound (store : P) (scope : ReconciliationScope)
    (draws : List PrivateNativeRef) (asked : List (PersistedTurnCorrelation × Nat)) (older log : List WireEvent)
    (reply : CodexReply) : Prop where
  refused : reply = .reconciled (.ok .provenNotAccepted) →
    ∃ id, lastAsked asked scope.correlation = some id ∧
      ((∀ frame accepted, .offered (.request id .turnStart) frame accepted ∈ older →
          accepted = 0) ∨
        ErrorRead log id)
  accepted : ∀ turnRef, reply = .reconciled (.ok (.accepted turnRef)) →
    ∃ id turn, lastAsked asked scope.correlation = some id ∧
      ResultRead log id .turnStart (.turnStarted turn) ∧
      SealedTurn store scope.turnScope turn draws turnRef

/-- Whatever an operation reports about a creation or a turn is proven by the wire, over
the store the operation found: a reconciliation reads it by way of a recovery. -/
def Sound (desk : CodexDesk P) : CodexOp P → Prop
  | .create surroundings reservation draws => ∀ persist log report,
      desk.party = .vacant persist log →
      desk.reply (.create surroundings reservation draws) = .created report →
        Created persist reservation.binding.birthId reservation.createAttemptId draws
          (desk.step (.create surroundings reservation draws)).log report
  | .late reservation draws => ∀ quarantine report,
      desk.party = .quarantined quarantine →
      desk.reply (.late reservation draws) = .created report →
        Created quarantine.persist quarantine.birth.birthId quarantine.createAttemptId draws
          (desk.step (.late reservation draws)).log report
  | .write lane command finalNow draws =>
      WriteSound desk.party.store command draws desk.log
        (desk.step (.write lane command finalNow draws)).log
        (desk.reply (.write lane command finalNow draws))
  | .reconcile scope verifiers draws =>
      ReconcileSound (Persist.recoverAuthorityState verifiers desk.party.store).2 scope draws
        desk.asked desk.log
        (desk.step (.reconcile scope verifiers draws)).log
        (desk.reply (.reconcile scope verifiers draws))
  | _ => True

/-- A scope passes every check of a reconciliation. -/
def Reconciles (controller : CodexController P) (scope : ReconciliationScope)
    (verifiers : List VerifierRef) : Prop :=
  ¬ ((controller.reconciling.any fun expected => decide (expected ≠ scope.correlation)) ∨
      !(Persist.recoverAuthorityState verifiers controller.persist).1.toOption.any
        (durableUnknown scope) ∨
      scope.correlation.birthId ≠ controller.birth.birthId ∨
      scope.correlation.threadRef ≠ controller.threadRef)

/-- A reconciliation that is made while an observation is outstanding and the server's
error object for it is what is received next. -/
def Misreads (desk : CodexDesk P) (op : CodexOp P) : Prop :=
  ∃ controller scope verifiers draws pending,
    op = .reconcile scope verifiers draws ∧ desk.party = .owned controller ∧
      Reconciles controller scope verifiers ∧ pending ∈ controller.wire.state.pending ∧
      pending.kind ≠ .turnStart ∧ (controller.transport.receiveUntil 0).1 = .error .native

end CodexDesk

/-! ## What a controller keeps -/

/-- The turns asked for are the turns on the wire, and an outstanding turn is the last of
them and awaits its reconciliation. -/
structure Owned (controller : CodexController P)
    (asked : List (PersistedTurnCorrelation × Nat)) : Prop where
  numbered : controller.wire.Numbered
  turns : asked.map Prod.snd = idsOf .turnStart controller.wire.pipes.log
  outstanding : ∀ pending ∈ controller.wire.state.pending, pending.kind = .turnStart →
    ∃ correlation, controller.reconciling = some correlation ∧
      asked.head? = some (correlation, pending.id)

omit [Persist P] [SerdeJson] [Blake3] in
/-- A change that asks for no turn. -/
theorem Owned.keeps {controller after : CodexController P}
    {asked : List (PersistedTurnCorrelation × Nat)} (owned : Owned controller asked)
    (numbered : after.wire.Numbered)
    (turns : idsOf .turnStart after.wire.pipes.log =
      idsOf .turnStart controller.wire.pipes.log)
    (fewer : ∀ pending ∈ after.wire.state.pending, pending.kind = .turnStart →
      pending ∈ controller.wire.state.pending)
    (reconciling : after.reconciling = controller.reconciling) : Owned after asked where
  numbered := numbered
  turns := owned.turns.trans turns.symm
  outstanding pending member kind := by
    rw [reconciling]
    exact owned.outstanding pending (fewer pending member kind) kind

omit [Persist P] [SerdeJson] [Blake3] in
/-- Passing events keeps what a controller asked. -/
theorem Owned.passes {controller after : CodexController P} {newer : List WireEvent}
    {asked : List (PersistedTurnCorrelation × Nat)} (owned : Owned controller asked)
    (passes : CodexController.Passes controller after newer) : Owned after asked :=
  owned.keeps (passes.moves.numbered owned.numbered)
    (by rw [passes.moves.log, idsOf_unrequested passes.moves.unrequested])
    (fun _ member _ => passes.moves.settled.subset member) passes.same.reconciling

/-- What a dispatched turn leaves, and what its disposition says. -/
theorem dispatch_owned {controller after : CodexController P}
    {command : ControllerCommand} {id : Nat} {draws : List PrivateNativeRef}
    {disposition : NativeWriteDisposition}
    (step : DispatchStep controller command id draws disposition after)
    (numbered : controller.wire.Numbered) (idle : controller.wire.state.pending = [])
    (minted : id < controller.wire.state.nextId)
    (unused : id ∉ (requests controller.wire.pipes.log).map Prod.fst) :
    ∃ newer accepted, after.wire.pipes.log =
        newer ++ .offered (.request id .turnStart) controller.wire.state.frame accepted ::
          controller.wire.pipes.log ∧
      requests newer = [] ∧ after.wire.Numbered ∧
      (∀ pending ∈ after.wire.state.pending,
        pending.id = id ∧ after.reconciling = some command.correlation) ∧
      (disposition = .provenNotAccepted → accepted = 0 ∨ ErrorRead newer id) ∧
      ∀ turnRef, disposition = .accepted turnRef →
        ∃ turn, ResultRead newer id .turnStart (.turnStarted turn) ∧
          SealedTurn controller.persist command.turnScope turn draws turnRef := by
  have awaited {transport : CodexTransport} {mid : CodexController P}
      {result : Except Error Received} {accepted : Nat}
      {receipt : WriteReceipt}
      (dispatched : Wire.Dispatched controller.wire id (.ok receipt) transport.wire accepted)
      (taken : (controller.withTransport transport).receiveUntil ioDeadline = (result, mid)) :
      ∃ newer, mid.wire.pipes.log =
          newer ++ .offered (.request id .turnStart) controller.wire.state.frame accepted ::
            controller.wire.pipes.log ∧
        requests newer = [] ∧ mid.wire.Numbered ∧
        (∀ pending ∈ mid.wire.state.pending, pending.id = id) ∧
        (result = .error .native → ErrorRead newer id ∧ mid.wire.state.pending = []) ∧
        ∀ turn, result = .ok (.turnStarted turn) →
          ResultRead newer id .turnStart (.turnStarted turn) ∧
            mid.wire.state.pending = [] := by
    obtain ⟨newer, receipt'⟩ := CodexController.receiveUntil_receipt taken
    have receives : Wire.Receives transport.wire result mid.wire newer := receipt'.receives
    have one : transport.wire.state.pending = [⟨id, .turnStart, none⟩] := by
      rw [dispatched.written receipt rfl, idle]
      rfl
    refine ⟨newer, ?_, receives.moves.unrequested, ?_, ?_, ?_, ?_⟩
    · rw [receives.moves.log, dispatched.log]
    · exact receives.moves.numbered (dispatched.numbered numbered idle minted unused)
    · intro pending member
      have known := receives.moves.settled.subset member
      rw [one] at known
      rw [List.mem_singleton.1 known]
    · intro native
      obtain ⟨⟨pending, line, first, heard, read⟩, settled⟩ := receives.native native
      rw [one] at first settled
      cases first
      exact ⟨⟨line, heard, read⟩, settled⟩
    · intro turn answered
      rcases receives.answered _ answered with
        ⟨_, ⟨_, other⟩ | other⟩ | ⟨⟨pending, line, first, heard, read, parsed, _⟩, settled⟩
      · cases other
      · cases other
      · rw [one] at first settled
        cases first
        exact ⟨⟨line, none, heard, read, parsed⟩, settled⟩
  cases step with
  | @failed failure transport sent =>
      obtain ⟨accepted, dispatched⟩ := CodexTransport.dispatchPreparedTurn_dispatched sent
      refine ⟨[], accepted, dispatched.log, rfl,
        dispatched.numbered numbered idle minted unused, ?_, ?_, ?_⟩
      · intro pending member
        by_cases proven : failure.receipt = .provenNotWritten
        · have none := (dispatched.refused failure rfl proven).2.trans idle
          change pending ∈ transport.wire.state.pending at member
          rw [none] at member
          cases member
        · have one := dispatched.possible failure rfl proven
          change pending ∈ transport.wire.state.pending at member
          rw [one] at member
          change pending ∈ controller.wire.state.pending ++ _ at member
          rw [idle, List.nil_append, List.mem_singleton] at member
          refine ⟨by rw [member], if_pos ?_⟩
          simp [failedWriteDisposition, proven]
      · intro refused
        refine Or.inl (dispatched.refused failure rfl ?_).1
        by_contra possible
        simp [failedWriteDisposition, possible] at refused
      · intro turnRef same
        unfold failedWriteDisposition at same
        split_ifs at same
  | @accepted receipt transport mid turn turnRef persist sent taken stored =>
      obtain ⟨accepted, dispatched⟩ := CodexTransport.dispatchPreparedTurn_dispatched sent
      obtain ⟨newer, log, unrequested, still, _, _, answered⟩ := awaited dispatched taken
      obtain ⟨read, none⟩ := answered turn rfl
      refine ⟨newer, accepted, log, unrequested, still, ?_, nofun, ?_⟩
      · intro pending member
        change pending ∈ mid.wire.state.pending at member
        rw [none] at member
        cases member
      · rintro _ same
        cases same
        exact ⟨turn, read, stored⟩
  | @refused receipt transport mid sent taken =>
      obtain ⟨accepted, dispatched⟩ := CodexTransport.dispatchPreparedTurn_dispatched sent
      obtain ⟨newer, log, unrequested, still, _, refused, _⟩ := awaited dispatched taken
      obtain ⟨read, none⟩ := refused rfl
      refine ⟨newer, accepted, log, unrequested, still, ?_, fun _ => Or.inr read, nofun⟩
      intro pending member
      change pending ∈ mid.wire.state.pending at member
      rw [none] at member
      cases member
  | @unknown receipt transport mid outcome persist sent taken =>
      obtain ⟨accepted, dispatched⟩ := CodexTransport.dispatchPreparedTurn_dispatched sent
      obtain ⟨newer, log, unrequested, still, same, _, _⟩ := awaited dispatched taken
      exact ⟨newer, accepted, log, unrequested, still,
        fun pending member => ⟨same pending member, rfl⟩, nofun, nofun⟩

/-- What a write keeps and proves. -/
structure Wrote (controller after : CodexController P) (command : ControllerCommand)
    (draws : List PrivateNativeRef)
    (outcome : Except ControllerWriteError NativeWriteDisposition)
    (asked : List (PersistedTurnCorrelation × Nat)) (newer : List WireEvent) : Prop where
  log : after.wire.pipes.log = newer ++ controller.wire.pipes.log
  once : (idsOf .turnStart newer).length ≤ 1
  owned : Owned after
    ((idsOf .turnStart newer).map (fun id => (command.correlation, id)) ++ asked)
  refused : outcome = .ok .provenNotAccepted → Unaccepted .turnStart newer
  accepted : ∀ turnRef, outcome = .ok (.accepted turnRef) →
    ∃ id turn, id ∈ idsOf .turnStart newer ∧
      ResultRead newer id .turnStart (.turnStarted turn) ∧
      SealedTurn controller.persist command.turnScope turn draws turnRef

/-- A write asks for its own turn and for nothing else. -/
theorem write_owned {controller after : CodexController P} {lane : ControllerIdleGuard}
    {command : ControllerCommand} {finalNow : OffsetDateTime} {draws : List PrivateNativeRef}
    {outcome : Except ControllerWriteError NativeWriteDisposition}
    {asked : List (PersistedTurnCorrelation × Nat)} (owned : Owned controller asked)
    (step : CodexController.WriteStep controller lane command finalNow draws outcome after) :
    ∃ newer, Wrote controller after command draws outcome asked newer := by
  have unasked {newer : List WireEvent} (unrequested : requests newer = []) :
      idsOf .turnStart newer = [] ∧ Unaccepted .turnStart newer := by
    refine ⟨by rw [idsOf, unrequested]; rfl, fun id frame accepted member => ?_⟩
    have known := mem_requests.2 ⟨frame, accepted, member⟩
    rw [unrequested] at known
    cases known
  have quiet {newer : List WireEvent}
      (log : after.wire.pipes.log = newer ++ controller.wire.pipes.log)
      (unrequested : requests newer = []) (still : Owned after asked)
      (unaccepted : ∀ turnRef, outcome ≠ .ok (.accepted turnRef)) :
      Wrote controller after command draws outcome asked newer := by
    obtain ⟨none, nothing⟩ := unasked unrequested
    refine ⟨log, ?_, ?_, fun _ => nothing, fun turnRef same => ?_⟩
    · rw [none]
      exact Nat.zero_le 1
    · rw [none]
      exact still
    · exact absurd same (unaccepted turnRef)
  have same : Owned controller.clearLane asked :=
    owned.keeps owned.numbered rfl (fun _ member _ => member) rfl
  have prepares {thread : NativeRef} {transport : CodexTransport} {result : Except Error Nat}
      (prepared : controller.transport.prepareTurnFrame thread command.fixedTurn =
        (result, transport)) : Owned (controller.withTransport transport) asked ∧
          transport.wire.pipes.log = controller.wire.pipes.log := by
    have effect := CodexTransport.prepareTurnFrame_prepared prepared
    have log : transport.wire.pipes.log = controller.wire.pipes.log :=
      congrArg Pipes.log effect.pipes
    exact ⟨owned.keeps (effect.numbered owned.numbered) (congrArg (idsOf .turnStart) log)
      (fun _ member _ => effect.pending ▸ member) rfl, log⟩
  cases step with
  | rejected => exact ⟨[], quiet rfl rfl same (by intro _ same; cases same)⟩
  | unopened => exact ⟨[], quiet rfl rfl same (by intro _ same; cases same)⟩
  | unprepared prepared =>
      obtain ⟨still, log⟩ := prepares prepared
      exact ⟨[], quiet log rfl
        (still.keeps still.numbered rfl (fun _ member _ => member) rfl) (by intro _ same; cases same)⟩
  | @withheld thread id transport drained mid _ prepared drain unwritten =>
      obtain ⟨still, log⟩ := prepares prepared
      obtain ⟨newer, passes⟩ := CodexController.drainBeforeMutation_passes drain
      have later := still.passes passes
      refine ⟨newer, quiet (passes.moves.log.trans (congrArg (newer ++ ·) log))
        passes.moves.unrequested ?_ ?_⟩
      · refine later.keeps ⟨later.numbered.taken, later.numbered.distinct,
          later.numbered.single, later.numbered.offered⟩ rfl (fun _ member _ => member) rfl
      · rintro turnRef accepted
        rcases unwritten with rfl | rfl | rfl <;> cases accepted
  | @dispatched thread id transport mid _ disposition held issued opened prepared drain current
      bound leased step =>
      obtain ⟨still, log⟩ := prepares prepared
      have effect := CodexTransport.prepareTurnFrame_prepared prepared
      obtain ⟨idle, minted, next, _⟩ := effect.frame id rfl
      obtain ⟨early, passes⟩ := CodexController.drainBeforeMutation_passes drain
      have later := still.passes passes
      have ids : mid.wire.state.nextId = id + 1 := passes.moves.ids.trans next
      have calm : mid.wire.state.pending = [] := by
        have settled : mid.wire.state.pending <:+ transport.wire.state.pending :=
          passes.moves.settled
        rw [effect.pending, idle] at settled
        exact List.suffix_nil.1 settled
      have requested : requests mid.wire.pipes.log = requests controller.wire.pipes.log := by
        rw [passes.moves.log, requests_append, passes.moves.unrequested]
        exact congrArg requests log
      have unused : id ∉ (requests mid.wire.pipes.log).map Prod.fst := by
        rw [requested]
        exact owned.numbered.next id (Nat.le_of_eq minted.symm)
      obtain ⟨late, accepted, dispatchLog, unrequested, numbered, pending, refused, answered⟩ :=
        dispatch_owned step later.numbered calm (by omega) unused
      have whole : after.wire.pipes.log =
          (late ++ .offered (.request id .turnStart) mid.wire.state.frame accepted :: early) ++
            controller.wire.pipes.log := by
        rw [dispatchLog, passes.moves.log]
        change late ++ _ :: (early ++ transport.wire.pipes.log) = _
        rw [log]
        simp
      have turn : idsOf .turnStart
          (late ++ .offered (.request id .turnStart) mid.wire.state.frame accepted :: early) =
            [id] := by
        rw [idsOf_unrequested unrequested, idsOf_same, (unasked passes.moves.unrequested).1]
      refine ⟨_, whole, by rw [turn]; exact Nat.le_refl 1, ?_, ?_, ?_⟩
      · rw [turn]
        refine ⟨numbered, ?_, ?_⟩
        · rw [whole, idsOf_append, turn]
          exact congrArg (id :: ·) owned.turns
        · intro waiting member _
          obtain ⟨rfl, reconciling⟩ := pending waiting member
          exact ⟨_, reconciling, rfl⟩
      · intro proven
        cases proven
        have silent {events : List WireEvent} (unrequested : requests events = [])
            {id count : Nat} {frame : List UInt8} :
            .offered (.request id .turnStart) frame count ∉ events := by
          intro member
          have known := mem_requests.2 ⟨frame, count, member⟩
          rw [unrequested] at known
          cases known
        intro other frame count member
        rcases List.mem_append.1 member with absent | present
        · exact absurd absent (silent unrequested)
        · rcases List.mem_cons.1 present with same | absent
          · cases same
            refine (refused rfl).imp_right ?_
            rintro ⟨line, heard, read⟩
            exact ⟨line, List.mem_append_left _ heard, read⟩
          · exact absurd absent (silent passes.moves.unrequested)
      · rintro turnRef proven
        cases proven
        obtain ⟨started, read, stored⟩ := answered turnRef rfl
        obtain ⟨line, awaiting, heard, understood, parsed⟩ := read
        have kept : mid.persist = controller.persist := passes.same.persist
        exact ⟨id, started, by rw [turn]; exact List.mem_cons_self,
          ⟨line, awaiting, List.mem_append_left _ heard, understood, parsed⟩, kept ▸ stored⟩

omit [Persist P] in
/-- A probe asks for no turn. -/
theorem probe_owned {controller after : CodexController P} {scope : IdleProbeScope}
    {observedAt : OffsetDateTime} {result : Except ControllerProbeError IdleProbeResult}
    {asked : List (PersistedTurnCorrelation × Nat)} (owned : Owned controller asked)
    (step : CodexController.ProbeStep controller scope observedAt result after) :
    Owned after asked ∧ ∃ newer, after.wire.pipes.log = newer ++ controller.wire.pipes.log ∧
      idsOf .turnStart newer = [] := by
  have drains {outcome : Except Error Unit} {mid : CodexController P}
      (drain : controller.drainBeforeMutation = (outcome, mid)) :
      Owned mid asked ∧ ∃ newer, mid.wire.pipes.log = newer ++ controller.wire.pipes.log ∧
        idsOf .turnStart newer = [] := by
    obtain ⟨newer, passes⟩ := CodexController.drainBeforeMutation_passes drain
    refine ⟨owned.passes passes, newer, passes.moves.log, ?_⟩
    rw [idsOf, passes.moves.unrequested]
    rfl
  have asks {outcome : Except Error Unit} {mid last : CodexController P} {thread : NativeRef}
      {drained : Except Error Unit} {transport : CodexTransport} {newer : List WireEvent}
      (drain : controller.drainBeforeMutation = (drained, mid))
      (read : mid.transport.readThread thread = (outcome, transport))
      (passes : CodexController.Passes (mid.withTransport transport) last newer) :
      Owned last asked ∧ ∃ newer, last.wire.pipes.log = newer ++ controller.wire.pipes.log ∧
        idsOf .turnStart newer = [] := by
    obtain ⟨still, early, log, none⟩ := drains drain
    have requested : Wire.Requested mid.wire .threadRead (some thread) outcome transport.wire :=
      CodexTransport.readThread_requested read
    have sent : ∃ request, transport.wire.pipes.log = request ++ mid.wire.pipes.log ∧
        idsOf .turnStart request = [] := by
      rcases requested.log with same | ⟨id, frame, accepted, same, _⟩
      · exact ⟨[], same, rfl⟩
      · exact ⟨[_], same, idsOf_other (by intro same; cases same) id frame accepted []⟩
    obtain ⟨request, requestLog, unasked⟩ := sent
    have reads : Owned (mid.withTransport transport) asked := by
      refine still.keeps (requested.numbered still.numbered) ?_ ?_ rfl
      · change idsOf .turnStart transport.wire.pipes.log = _
        rw [requestLog, idsOf_append, unasked]
        rfl
      · intro pending member kind
        change pending ∈ transport.wire.state.pending at member
        cases outcome with
        | error error =>
            rw [requested.failed error rfl] at member
            exact member
        | ok done =>
            obtain ⟨_, _, id, frame, one, _⟩ := requested.sent rfl
            rw [one, List.mem_singleton] at member
            subst member
            cases kind
    refine ⟨reads.passes passes, newer ++ (request ++ early), ?_, ?_⟩
    · rw [passes.moves.log]
      change newer ++ transport.wire.pipes.log = _
      rw [requestLog, log]
      simp
    · rw [idsOf_unrequested passes.moves.unrequested, idsOf_append, unasked, none]
      rfl
  cases step with
  | rejected => exact ⟨owned, [], rfl, rfl⟩
  | stopped drain unproven => exact drains drain
  | asked drain read passes unproven => exact asks drain read passes
  | @idle drained mid shown after thread transport responseEpoch bound free drain read response
      quiet current =>
      obtain ⟨early, first⟩ := CodexController.responseLoop_passes response
      obtain ⟨late, second⟩ := CodexController.drainBeforeMutation_passes quiet
      obtain ⟨still, log⟩ := asks drain read (first.trans second)
      exact ⟨still.keeps still.numbered rfl (fun _ member _ => member) rfl, log⟩

/-- What a reconciliation keeps and proves. -/
structure Reconciled (controller after : CodexController P) (store : P)
    (scope : ReconciliationScope) (draws : List PrivateNativeRef)
    (outcome : Except ControllerReconcileError ReconciliationDisposition)
    (asked : List (PersistedTurnCorrelation × Nat)) (newer : List WireEvent) : Prop where
  log : after.wire.pipes.log = newer ++ controller.wire.pipes.log
  unrequested : requests newer = []
  owned : Owned after asked
  refused : outcome = .ok .provenNotAccepted →
    ∃ pending ∈ controller.wire.state.pending, ErrorRead newer pending.id ∧
      (controller.transport.receiveUntil 0).1 = .error .native ∧
      (pending.kind = .turnStart → lastAsked asked scope.correlation = some pending.id)
  accepted : ∀ turnRef, outcome = .ok (.accepted turnRef) →
    ∃ id turn, lastAsked asked scope.correlation = some id ∧
      ResultRead newer id .turnStart (.turnStarted turn) ∧
      SealedTurn store scope.turnScope turn draws turnRef

omit [Persist P] [SerdeJson] [Blake3] in
/-- The outstanding turn is the last one asked for under the correlation to reconcile. -/
private theorem Owned.last {controller : CodexController P}
    {asked : List (PersistedTurnCorrelation × Nat)} (owned : Owned controller asked)
    {correlation : PersistedTurnCorrelation}
    (matched : ∀ expected, controller.reconciling = some expected → expected = correlation)
    {pending : Pending} (member : pending ∈ controller.wire.state.pending)
    (kind : pending.kind = .turnStart) : lastAsked asked correlation = some pending.id := by
  obtain ⟨expected, known, first⟩ := owned.outstanding pending member kind
  obtain rfl := matched expected known
  obtain ⟨rest, rfl⟩ := List.head?_eq_some_iff.1 first
  simp [lastAsked]

omit [Persist P] in
/-- A result that starts a turn answers a request for a turn. -/
private theorem parse_turnStarted {line : List UInt8} {pending : Pending} {turn : NativeRef}
    (parsed : parseResponse line pending = .ok (.turnStarted turn)) :
    pending.kind = .turnStart := by
  have other {α : Type} {outcome : Except Error α} {f : α → Received}
      (mapped : outcome.map f = .ok (.turnStarted turn)) : ∃ value, f value = .turnStarted turn := by
    cases outcome with
    | error error => cases mapped
    | ok value => exact ⟨value, Except.ok.inj mapped⟩
  unfold parseResponse at parsed
  split at parsed
  · cases parsed
  split at parsed
  · cases parsed
  · split at parsed
    · cases parsed
    · obtain ⟨_, same⟩ := other parsed
      cases same
  · split at parsed
    · cases parsed
    · obtain ⟨_, same⟩ := other parsed
      cases same
  · split at parsed
    · cases parsed
    · obtain ⟨_, same⟩ := other parsed
      cases same
  · assumption

/-- A reconciliation asks for nothing. -/
theorem reconcile_owned {controller after : CodexController P} {scope : ReconciliationScope}
    {draws : List PrivateNativeRef} {store : P}
    {outcome : Except ControllerReconcileError ReconciliationDisposition}
    {asked : List (PersistedTurnCorrelation × Nat)} (owned : Owned controller asked)
    (step : CodexController.ReconcileStep controller scope draws store outcome after) :
    ∃ newer, Reconciled controller after store scope draws outcome asked newer := by
  have stored : Owned { controller with persist := store } asked :=
    owned.keeps owned.numbered rfl (fun _ member _ => member) rfl
  have moved {persist : P} {mid : CodexController P} (still : Owned mid asked) :
      Owned { mid with persist } asked :=
    still.keeps still.numbered rfl (fun _ member _ => member) rfl
  cases step with
  | rejected => exact ⟨[], rfl, rfl, stored, nofun, nofun⟩
  | @accepted persist mid turn turnRef matched taken sealed =>
      obtain ⟨newer, receipt⟩ := CodexController.receiveUntil_receipt taken
      refine ⟨newer, receipt.passes.moves.log, receipt.passes.moves.unrequested,
        moved (stored.passes receipt.passes), nofun, ?_⟩
      rintro _ same
      cases same
      rcases receipt.receives.answered _ rfl with
        ⟨_, ⟨_, other⟩ | other⟩ | ⟨⟨pending, line, first, heard, read, parsed, _⟩, _⟩
      · cases other
      · cases other
      · have member : pending ∈ controller.wire.state.pending :=
          List.mem_of_mem_head? (Option.mem_def.2 first)
        have kind := parse_turnStarted parsed
        refine ⟨pending.id, turn, owned.last matched member kind, ?_, sealed⟩
        refine ⟨line, pending.thread, heard, read, ?_⟩
        rw [← kind]
        exact parsed
  | @refused mid matched taken =>
      obtain ⟨newer, receipt⟩ := CodexController.receiveUntil_receipt taken
      refine ⟨newer, receipt.passes.moves.log, receipt.passes.moves.unrequested,
        stored.passes receipt.passes, fun _ => ?_, nofun⟩
      obtain ⟨⟨pending, line, first, heard, read⟩, settled⟩ := receipt.receives.native rfl
      have member : pending ∈ controller.wire.state.pending :=
        List.mem_of_mem_head? (Option.mem_def.2 first)
      refine ⟨pending, member, ⟨line, heard, read⟩, ?_, owned.last matched member⟩
      exact congrArg Prod.fst taken
  | @unknown persist mid outcome taken =>
      obtain ⟨newer, receipt⟩ := CodexController.receiveUntil_receipt taken
      exact ⟨newer, receipt.passes.moves.log, receipt.passes.moves.unrequested,
        moved (stored.passes receipt.passes), nofun, nofun⟩

/-! ## Runs -/

omit [Persist P] in
/-- What every party keeps. -/
def Kept (desk : CodexDesk P) : Prop :=
  match desk.party with
  | .vacant _ log => ((requests log).map Prod.fst).Nodup
  | .quarantined quarantine => Quarantine quarantine
  | .owned controller => Owned controller desk.asked

omit [Persist P] [SerdeJson] [Blake3] in
/-- A fresh controller was asked for no turn. -/
private theorem Fresh.owned {controller : CodexController P} (fresh : Fresh controller) :
    Owned controller [] where
  numbered := fresh.born.numbered
  turns := fresh.born.turnless.symm
  outstanding pending member := by
    rw [fresh.idle] at member
    cases member

namespace CodexDesk

/-- What one operation does. -/
private structure Stepped (desk : CodexDesk P) (op : CodexOp P) : Prop where
  kept : Kept (desk.step op)
  once : (turnsSince desk.log (desk.step op).log).length ≤ op.commands
  sound : ¬ desk.Misreads op → desk.Sound op

omit [Persist P] [SerdeJson] [Blake3] in
/-- Nothing is new where the log stays. -/
private theorem turnsSince_self (log : List WireEvent) : turnsSince log log = [] :=
  turnsSince_append [] log

/-- An operation the party does not have. -/
private theorem Stepped.nothing {desk : CodexDesk P} {op : CodexOp P} (kept : Kept desk)
    (none : desk.perform op = (.nothing, desk)) : desk.Stepped op := by
  have same : desk.step op = desk := congrArg Prod.snd none
  have silent : desk.reply op = .nothing := congrArg Prod.fst none
  refine ⟨same.symm ▸ kept, ?_, fun _ => ?_⟩
  · rw [same, turnsSince_self]
    exact Nat.zero_le _
  cases op with
  | create surroundings reservation draws =>
      intro persist log report party replied
      cases silent.symm.trans replied
  | late reservation draws =>
      intro quarantine report party replied
      cases silent.symm.trans replied
  | write lane command finalNow draws =>
      exact ⟨fun replied => (nofun : _ → _) (silent.symm.trans replied),
        fun turnRef replied => (nofun : _ → _) (silent.symm.trans replied)⟩
  | reconcile scope verifiers draws =>
      exact ⟨fun replied => (nofun : _ → _) (silent.symm.trans replied),
        fun turnRef replied => (nofun : _ → _) (silent.symm.trans replied)⟩
  | resume | probe | poll | elsewhere => trivial

/-- A party that was just seated was asked for no turn. -/
private theorem Stepped.seated {desk : CodexDesk P} {op : CodexOp P} {party : Party P}
    {reply : CodexReply} (performed : desk.perform op = (reply, seat party))
    (kept : Kept (seat party)) (turnless : Turnless (seat party).log)
    (sound : desk.Sound op) : desk.Stepped op := by
  have after : desk.step op = seat party := congrArg Prod.snd performed
  refine ⟨after.symm ▸ kept, ?_, fun _ => sound⟩
  rw [turnsSince, after, turnless.none, List.take_nil]
  exact Nat.zero_le _

private theorem create_stepped {desk : CodexDesk P} (kept : Kept desk)
    (surroundings : Surroundings) (reservation : ControllerBirthReservation)
    (draws : List PrivateNativeRef) :
    desk.Stepped (.create surroundings reservation draws) := by
  cases party : desk.party with
  | quarantined quarantine => exact .nothing kept (by simp only [perform, party])
  | owned controller => exact .nothing kept (by simp only [perform, party])
  | vacant persist log =>
      obtain ⟨turnless, leaves⟩ := createOwned_leaves persist surroundings reservation draws
      rcases made : CodexController.createOwned persist surroundings reservation draws with
        ⟨outcome, childLog⟩
      rw [made] at turnless leaves
      have sound {report : CreateReport} {seated : Party P}
          (performed : desk.perform (.create surroundings reservation draws) =
            (.created report, seat seated))
          (created : Created persist reservation.binding.birthId reservation.createAttemptId
            draws (seat seated).log report) :
          desk.Sound (.create surroundings reservation draws) := by
        intro _ _ _ vacant replied
        rw [party] at vacant
        cases vacant
        rw [reply, performed] at replied
        cases replied
        rw [step, performed]
        exact created
      cases outcome with
      | owned binding controller =>
          obtain ⟨rfl, fresh, created⟩ := leaves
          have performed : desk.perform (.create surroundings reservation draws) =
              (.created (.owned controller.threadRef), seat (.owned controller)) := by
            simp only [perform, party, made]
          exact .seated performed fresh.owned turnless (sound performed created)
      | provenNotAccepted binding persist =>
          have performed : desk.perform (.create surroundings reservation draws) =
              (.created .provenNotAccepted, seat (.vacant persist childLog)) := by
            simp only [perform, party, made]
          exact .seated performed turnless.distinct turnless (sound performed leaves)
      | unknown binding quarantine =>
          obtain ⟨rfl, kept⟩ := leaves
          have performed : desk.perform (.create surroundings reservation draws) =
              (.created .unknown, seat (.quarantined quarantine)) := by
            simp only [perform, party, made]
          exact .seated performed kept turnless (sound performed trivial)
      | notReserved binding persist =>
          have performed : desk.perform (.create surroundings reservation draws) =
              (.created .notReserved, seat (.vacant persist childLog)) := by
            simp only [perform, party, made]
          exact .seated performed turnless.distinct turnless (sound performed trivial)

private theorem late_stepped {desk : CodexDesk P} (kept : Kept desk)
    (reservation : QuarantinedBirthReservation) (draws : List PrivateNativeRef) :
    desk.Stepped (.late reservation draws) := by
  cases party : desk.party with
  | vacant persist log => exact .nothing kept (by simp only [perform, party])
  | owned controller => exact .nothing kept (by simp only [perform, party])
  | quarantined quarantine =>
      have held : Quarantine quarantine := by
        rw [Kept, party] at kept
        exact kept
      obtain ⟨turnless, leaves⟩ := receiveLate_leaves held reservation draws
      rcases made : quarantine.receiveLate reservation draws with ⟨outcome, childLog⟩
      rw [made] at turnless leaves
      have sound {report : CreateReport} {seated : Party P}
          (performed : desk.perform (.late reservation draws) =
            (.created report, seat seated))
          (created : Created quarantine.persist quarantine.birth.birthId
            quarantine.createAttemptId draws (seat seated).log report) :
          desk.Sound (.late reservation draws) := by
        intro _ _ quarantined replied
        rw [party] at quarantined
        cases quarantined
        rw [reply, performed] at replied
        cases replied
        rw [step, performed]
        exact created
      cases outcome with
      | owned binding controller =>
          obtain ⟨rfl, fresh, created⟩ := leaves
          have performed : desk.perform (.late reservation draws) =
              (.created (.owned controller.threadRef), seat (.owned controller)) := by
            simp only [perform, party, made]
          exact .seated performed fresh.owned turnless (sound performed created)
      | provenNotAccepted binding persist =>
          have performed : desk.perform (.late reservation draws) =
              (.created .provenNotAccepted, seat (.vacant persist childLog)) := by
            simp only [perform, party, made]
          exact .seated performed turnless.distinct turnless (sound performed leaves)
      | stillUnknown binding after =>
          obtain ⟨rfl, kept⟩ := leaves
          have performed : desk.perform (.late reservation draws) =
              (.created .unknown, seat (.quarantined after)) := by
            simp only [perform, party, made]
          exact .seated performed kept turnless (sound performed trivial)

private theorem resume_stepped {desk : CodexDesk P} (kept : Kept desk)
    (surroundings : Surroundings) (birth : ControllerBirthBinding)
    (createAttemptId : RequestNonce) (threadRef : PrivateNativeRef) :
    desk.Stepped (.resume surroundings birth createAttemptId threadRef) := by
  cases party : desk.party with
  | quarantined quarantine => exact .nothing kept (by simp only [perform, party])
  | owned controller => exact .nothing kept (by simp only [perform, party])
  | vacant persist log =>
      cases made : CodexController.resumeOwned persist surroundings birth createAttemptId
        threadRef with
      | error error =>
          have performed : desk.perform (.resume surroundings birth createAttemptId threadRef) =
              (.resumed false, seat (.vacant persist [])) := by
            simp only [perform, party, made]
          exact .seated performed List.nodup_nil .nil trivial
      | ok controller =>
          have performed : desk.perform (.resume surroundings birth createAttemptId threadRef) =
              (.resumed true, seat (.owned controller)) := by
            simp only [perform, party, made]
          have fresh := resumeOwned_fresh made
          exact .seated performed fresh.owned fresh.born.log trivial

omit [Persist P] [SerdeJson] [Blake3] in
/-- The log of a controller that has the desk. -/
private theorem log_owned {desk : CodexDesk P} {controller : CodexController P}
    (party : desk.party = .owned controller) : desk.log = controller.wire.pipes.log := by
  rw [CodexDesk.log, party]

omit [Persist P] [SerdeJson] [Blake3] in
/-- What awaits a response at a controller that has the desk. -/
private theorem pending_owned {desk : CodexDesk P} {controller : CodexController P}
    (party : desk.party = .owned controller) : desk.pending = controller.wire.state.pending := by
  rw [CodexDesk.pending, party]

omit [Persist P] in
private theorem kept_owned {desk : CodexDesk P} {controller : CodexController P}
    (kept : Kept desk) (party : desk.party = .owned controller) :
    Owned controller desk.asked := by
  rw [Kept, party] at kept
  exact kept

/-- A change of a controller that asks for no turn. -/
private theorem Stepped.handed {desk : CodexDesk P} {op : CodexOp P}
    {controller after : CodexController P} {newer : List WireEvent}
    (party : desk.party = .owned controller)
    (handed : (desk.step op).party = .owned after ∧ (desk.step op).asked = desk.asked)
    (owned : Owned after desk.asked)
    (log : after.wire.pipes.log = newer ++ controller.wire.pipes.log)
    (unasked : idsOf .turnStart newer = []) (sound : ¬ desk.Misreads op → desk.Sound op) :
    desk.Stepped op := by
  refine ⟨?_, ?_, sound⟩
  · rw [Kept, handed.1, handed.2]
    exact owned
  · rw [log_owned handed.1, log_owned party, log, turnsSince_append, unasked]
    exact Nat.zero_le _

private theorem probe_stepped {desk : CodexDesk P} (kept : Kept desk) (scope : IdleProbeScope)
    (observedAt : OffsetDateTime) : desk.Stepped (.probe scope observedAt) := by
  cases party : desk.party with
  | vacant persist log => exact .nothing kept (by simp only [perform, party])
  | quarantined quarantine => exact .nothing kept (by simp only [perform, party])
  | owned controller =>
      obtain ⟨still, newer, log, unasked⟩ := probe_owned (kept_owned kept party)
        (controller.probeIdle_step scope observedAt)
      refine .handed party ?_ still log unasked fun _ => trivial
      simp only [step, perform, party]
      split <;> exact ⟨rfl, rfl⟩

private theorem poll_stepped {desk : CodexDesk P} (kept : Kept desk) (scope : ObservationScope) :
    desk.Stepped (.poll scope) := by
  cases party : desk.party with
  | vacant persist log => exact .nothing kept (by simp only [perform, party])
  | quarantined quarantine => exact .nothing kept (by simp only [perform, party])
  | owned controller =>
      obtain ⟨newer, passes⟩ := (controller.pollExactObservation_step scope).passes
      refine .handed party ?_ ((kept_owned kept party).passes passes) passes.moves.log ?_
        fun _ => trivial
      · simp only [step, perform, party]
        exact ⟨rfl, rfl⟩
      · rw [idsOf, passes.moves.unrequested]
        rfl

private theorem elsewhere_stepped {desk : CodexDesk P} (kept : Kept desk) (persist : P) :
    desk.Stepped (.elsewhere persist) := by
  have moved : (desk.step (.elsewhere persist)).log = desk.log ∧
      Kept (desk.step (.elsewhere persist)) := by
    cases party : desk.party with
    | vacant store log =>
        simp only [Kept, CodexDesk.log, step, perform, party] at kept ⊢
        exact ⟨trivial, kept⟩
    | quarantined quarantine =>
        simp only [Kept, CodexDesk.log, step, perform, party] at kept ⊢
        exact ⟨trivial, ⟨kept.born, kept.starts, kept.awaited, kept.ready, kept.named⟩⟩
    | owned controller =>
        simp only [Kept, CodexDesk.log, step, perform, party, hand] at kept ⊢
        exact ⟨rfl, kept.keeps kept.numbered rfl (fun _ member _ => member) rfl⟩
  refine ⟨moved.2, ?_, fun _ => trivial⟩
  rw [moved.1, turnsSince_self]
  exact Nat.zero_le _

private theorem write_stepped {desk : CodexDesk P} (kept : Kept desk)
    (lane : ControllerIdleGuard) (command : ControllerCommand) (finalNow : OffsetDateTime)
    (draws : List PrivateNativeRef) :
    desk.Stepped (.write lane command finalNow draws) := by
  cases party : desk.party with
  | vacant persist log => exact .nothing kept (by simp only [perform, party])
  | quarantined quarantine => exact .nothing kept (by simp only [perform, party])
  | owned controller =>
      by_cases absent : lane.epoch.birthId = controller.birth.birthId ∧ lane ∉ desk.lanes
      · exact .nothing kept (by simp only [perform, party, if_pos absent])
      obtain ⟨newer, wrote⟩ := write_owned (kept_owned kept party)
        (controller.writeReservedTurn_step lane command finalNow draws)
      have older := log_owned party
      have performed : desk.perform (.write lane command finalNow draws) =
          (.wrote (controller.writeReservedTurn lane command finalNow draws).1,
            { party := .owned (controller.writeReservedTurn lane command finalNow draws).2
              asked := (idsOf .turnStart newer).map (fun id => (command.correlation, id)) ++
                desk.asked
              record := none
              lanes := desk.lanes.erase lane }) := by
        simp only [perform, party, if_neg absent, wrote.log, turnsSince_append]
      have log : (desk.step (.write lane command finalNow draws)).log = newer ++ desk.log := by
        rw [step, performed, older]
        exact wrote.log
      refine ⟨?_, ?_, fun _ => ⟨fun replied => ?_, fun turnRef replied => ?_⟩⟩
      · rw [step, performed]
        exact wrote.owned
      · rw [log, turnsSince_append]
        exact wrote.once
      · rw [reply, performed] at replied
        exact ⟨newer, log, wrote.refused (CodexReply.wrote.inj replied)⟩
      · rw [reply, performed] at replied
        obtain ⟨id, turn, known, read, stored⟩ :=
          wrote.accepted turnRef (CodexReply.wrote.inj replied)
        exact ⟨newer, id, turn, log, known, read, by rw [party]; exact stored⟩

private theorem reconcile_stepped {desk : CodexDesk P} (kept : Kept desk)
    (scope : ReconciliationScope) (verifiers : List VerifierRef)
    (draws : List PrivateNativeRef) :
    desk.Stepped (.reconcile scope verifiers draws) := by
  cases party : desk.party with
  | vacant persist log => exact .nothing kept (by simp only [perform, party])
  | quarantined quarantine => exact .nothing kept (by simp only [perform, party])
  | owned controller =>
      obtain ⟨newer, done⟩ := reconcile_owned (kept_owned kept party)
        (controller.reconcileExact_step scope verifiers draws)
      have performed : desk.perform (.reconcile scope verifiers draws) =
          (.reconciled (controller.reconcileExact scope verifiers draws).1,
            desk.hand (controller.reconcileExact scope verifiers draws).2) := by
        simp only [perform, party]
      have log : (desk.step (.reconcile scope verifiers draws)).log = newer ++ desk.log := by
        rw [step, performed, log_owned party]
        exact done.log
      refine .handed party ?_ done.owned done.log ?_
        fun clear => ⟨fun replied => ?_, fun turnRef replied => ?_⟩
      · rw [step, performed]
        exact ⟨rfl, rfl⟩
      · rw [idsOf, done.unrequested]
        rfl
      · rw [reply, performed] at replied
        have refused := CodexReply.reconciled.inj replied
        obtain ⟨pending, member, read, native, last⟩ := done.refused refused
        by_cases kind : pending.kind = .turnStart
        · obtain ⟨line, heard, known⟩ := read
          exact ⟨pending.id, last kind, Or.inr ⟨line, log ▸ List.mem_append_left _ heard, known⟩⟩
        · refine absurd ⟨controller, scope, verifiers, draws, pending, rfl, party, ?_, member, kind,
            native⟩ clear
          intro mismatch
          have turned : (controller.reconcileExact scope verifiers draws).1 =
              .error .bindingRejected := congrArg Prod.fst (if_pos mismatch)
          rw [turned] at refused
          cases refused
      · rw [reply, performed] at replied
        obtain ⟨id, turn, last, ⟨line, thread, heard, known, parsed⟩, stored⟩ :=
          done.accepted turnRef (CodexReply.reconciled.inj replied)
        exact ⟨id, turn, last,
          ⟨line, thread, log ▸ List.mem_append_left _ heard, known, parsed⟩,
          by rw [party]; exact stored⟩

/-- What one operation does, whichever it is. -/
private theorem stepped {desk : CodexDesk P} (kept : Kept desk) (op : CodexOp P) :
    desk.Stepped op := by
  cases op with
  | create surroundings reservation draws => exact create_stepped kept surroundings reservation draws
  | resume surroundings birth createAttemptId threadRef =>
      exact resume_stepped kept surroundings birth createAttemptId threadRef
  | late reservation draws => exact late_stepped kept reservation draws
  | probe scope observedAt => exact probe_stepped kept scope observedAt
  | write lane command finalNow draws => exact write_stepped kept lane command finalNow draws
  | poll scope => exact poll_stepped kept scope
  | reconcile scope verifiers draws => exact reconcile_stepped kept scope verifiers draws
  | elsewhere persist => exact elsewhere_stepped kept persist

/-- Whoever has the desk keeps what it keeps. -/
theorem kept_step {desk : CodexDesk P} (kept : Kept desk) (op : CodexOp P) :
    Kept (desk.step op) :=
  (stepped kept op).kept

omit [Persist P] in
/-- Whoever has the desk took no identifier twice and awaits one response at most. -/
private theorem Kept.orderly {desk : CodexDesk P} (kept : Kept desk) :
    ((requests desk.log).map Prod.fst).Nodup ∧ desk.pending.length ≤ 1 := by
  obtain ⟨party, asked, record, lanes⟩ := desk
  cases party with
  | vacant persist log => exact ⟨kept, Nat.zero_le 1⟩
  | quarantined quarantine => exact ⟨kept.born.numbered.distinct, kept.born.numbered.single⟩
  | owned controller => exact ⟨kept.numbered.distinct, kept.numbered.single⟩

/-- The order on the wire is kept, and whatever an operation reports is proven by the wire
as long as no reconciliation reads the refusal of an observation. -/
theorem reports_proven (persist : P) (ops : List (CodexOp P)) :
    Along step Orderly (start persist) ops ∧
      (Along step (fun desk op => ¬ desk.Misreads op) (start persist) ops →
        Along step Sound (start persist) ops) := by
  have everywhere (desk : CodexDesk P) (kept : Kept desk) :
      Along step Orderly desk ops ∧
        (Along step (fun desk op => ¬ desk.Misreads op) desk ops →
          Along step Sound desk ops) := by
    induction ops generalizing desk with
    | nil => exact ⟨trivial, fun _ => trivial⟩
    | cons op rest hypothesis =>
        have step := stepped kept op
        obtain ⟨orderly, sound⟩ := hypothesis _ step.kept
        obtain ⟨distinct, single⟩ := Kept.orderly step.kept
        exact ⟨⟨⟨distinct, single, step.once⟩, orderly⟩,
          fun clear => ⟨step.sound clear.1, sound clear.2⟩⟩
  exact everywhere (start persist) List.nodup_nil

end CodexDesk
end Reports

/-! ## An observation refused late -/

namespace Sample

open Gearwit.Sample
open Transport.Sample (compact sent)

/-- Text of an empty object. -/
def empty : String := "\x7b\x7d"

/-- Result that names the thread. -/
def started : String := "\x7b\"thread\":\x7b\"id\":\"t\"\x7d\x7d"

/-- Result that shows the thread idle. -/
def idle : String := "\x7b\"thread\":\x7b\"id\":\"t\",\"status\":\"idle\",\"turns\":[]\x7d\x7d"

/-- Result that names the turn. -/
def turned : String := "\x7b\"turn\":\x7b\"id\":\"u\"\x7d\x7d"

/-- Line of a result. -/
def result (id text : String) : String := "\x7b\"id\":" ++ id ++ ",\"result\":" ++ text ++ "\x7d"

/-- Line of an error object. -/
def refusal (id : String) : String := "\x7b\"id\":" ++ id ++ ",\"error\":\x7b\x7d\x7d"

/-- Top-level members of the lines the samples' server sends. -/
def envelopes : List (String × BorrowedEnvelope) :=
  ([("1", empty), ("2", started), ("3", idle), ("4", turned)].map fun answer =>
    (result answer.1 answer.2, ⟨some ⟨answer.1⟩, none, some ⟨answer.2⟩, none⟩)) ++
  [(refusal "5", ⟨some ⟨"5"⟩, none, none, some ⟨empty⟩⟩)]

/-- The reader on the samples' lines, and the compact writer. -/
scoped instance serde : SerdeJson where
  envelope line := (envelopes.find? fun entry => textBytes entry.1 == line).map Prod.snd
  value raw := some (.number raw.text)
  natural raw := ([("1", 1), ("2", 2), ("3", 3), ("4", 4), ("5", 5)].find? fun entry =>
    entry.1 == raw.text).map Prod.snd
  threadRef raw := if raw.text = started then some "t" else none
  turnRef raw := if raw.text = turned then some "u" else none
  threadResult raw :=
    if raw.text = idle then some ⟨"t", some ⟨"idle", none⟩, some []⟩ else none
  notification _ := none
  pieces value := [(compact value).flatMap String.utf8EncodeChar]

/-- A read that finds nothing, after a while. -/
def silence (elapsed : Nat) : List (Timed ReadAnswer) := [⟨elapsed, .wouldBlock⟩]

/-- The server answers the turn with a result that names none, is silent on the next
observation and refuses it late. -/
def child : Child where
  pipes := {
    clock := 0
    reads := sent (result "1" empty) ++ sent (result "2" started) ++ silence 0 ++
      sent (result "3" idle) ++ silence 0 ++ silence 0 ++ sent (result "4" turned) ++
      silence 0 ++ silence ioDeadline ++ sent (refusal "5")
    writes := List.replicate 6 ⟨0, .accepted 4096⟩
    flushes := List.replicate 6 ⟨0, .done⟩
    log := [] }
  alive := []
  overflow := []

/-- The birth that owns the thread. -/
def owner : ControllerBirthBinding :=
  ⟨PrivateId.fixture 1, seat, firstArm, 1, .handleClaimedSignal, lease, PrivateId.fixture 1⟩

/-- The attachment of the attempt. -/
def bound : ControllerAttachment := (attachment firstAttempt firstArm 1).controller

/-- The turn of the attempt. -/
def correlation : PersistedTurnCorrelation :=
  ⟨firstAttempt, signal, PrivateId.fixture 1, PrivateId.fixture 2, PrivateId.fixture 3, none⟩

/-- The lane of the first probe. -/
def lane : ControllerIdleGuard := ⟨PrivateId.fixture 4, ⟨PrivateId.fixture 1, 0⟩⟩

/-- The command that is written. -/
def command : ControllerCommand := ⟨bound, ⟨signal⟩, correlation, lane.probeId, lane.epoch⟩

/-- A probe of the thread. -/
def probe (challenge : UInt8) : IdleProbeScope :=
  ⟨⟨bound, signal, PrivateId.fixture 2, PrivateId.fixture challenge⟩⟩

/-- What the store was asked up to the reservation of the turn. -/
def reserved : List PortOp :=
  opens firstRequest firstArm firstAttempt 1 firstEvent secondEvent ++
    [.sealNativeCoordinate (.thread (PrivateId.fixture 1) (PrivateId.fixture 1))
        ⟨.thread, textBytes "t", by decide⟩ [PrivateId.fixture 2],
      .resolveThreadCreate ⟨PrivateId.fixture 1, PrivateId.fixture 1,
        .owned (PrivateId.fixture 2), PrivateId.fixture 5⟩,
      .recordDispatchPrepared ⟨correlation⟩,
      .reserveNativeTurnWrite ⟨firstAttempt, signal, PrivateId.fixture 1,
        PrivateId.fixture 2, firstArm, 1, .handleClaimedSignal, PrivateId.fixture 1,
        lane.epoch, lane.probeId, OffsetDateTime.unixEpoch, lease⟩ correlation]

/-- The store after a list of operations. -/
def stored (operations : List PortOp) : FakePersist :=
  FakePersist.after (PrivateId.fixture 0) operations

/-- A thread is created and probed, and a turn is written whose outcome stays unknown. -/
def unknownTurn : List (CodexOp FakePersist) :=
  [.create ⟨true, some child, some "/opt/helper"⟩
      ⟨owner, PrivateId.fixture 1⟩
      [PrivateId.fixture 2],
    .elsewhere (stored reserved), .probe (probe 4) OffsetDateTime.unixEpoch,
    .write lane command OffsetDateTime.unixEpoch [],
    .elsewhere (stored (reserved ++
      [.recordNativeWriteEvidence ⟨correlation, .unknown, PrivateId.fixture 7⟩]))]

/-- The reconciliation of the turn. -/
def reconciliation : CodexOp FakePersist :=
  .reconcile ⟨correlation, PrivateId.fixture 7⟩ [] []

/-- A desk whose store holds the reserved birth. -/
def vacant : CodexDesk FakePersist :=
  .start (stored (opens firstRequest firstArm firstAttempt 1 firstEvent secondEvent))

/-- The turn is observed again, and the observation stays unanswered. -/
def unanswered : List (CodexOp FakePersist) :=
  unknownTurn ++ [.probe (probe 8) OffsetDateTime.unixEpoch]

/-- Some bytes of a turn were accepted. -/
def written (id : Nat) (log : List WireEvent) : Bool :=
  log.any fun event =>
    match event with
    | .offered (.request other .turnStart) _ accepted => other == id && accepted != 0
    | _ => false

/-- The error object for a request was read. -/
def refused (id : Nat) (log : List WireEvent) : Bool :=
  log.any fun event =>
    match event with
    | .heard line =>
        match classify line with
        | .ok (.nativeError other) => other == id
        | _ => false
    | _ => false

private theorem refused_of_errorRead {log : List WireEvent} {id : Nat}
    (read : ErrorRead log id) : refused id log = true := by
  obtain ⟨line, heard, known⟩ := read
  refine List.any_eq_true.2 ⟨_, heard, ?_⟩
  simp [known]

private theorem not_proven {asked : List (PersistedTurnCorrelation × Nat)} {id : Nat}
    {older log : List WireEvent} {scope : ReconciliationScope} {store : FakePersist}
    (last : lastAsked asked scope.correlation = some id) (accepts : written id older = true)
    (unrefused : refused id log = false) :
    ¬ CodexDesk.ReconcileSound store scope [] asked older log
      (.reconciled (.ok .provenNotAccepted)) := by
  intro sound
  obtain ⟨other, same, proven⟩ := sound.refused rfl
  obtain rfl := Option.some.inj (last.symm.trans same)
  rcases proven with none | read
  · obtain ⟨event, member, accepts⟩ := List.any_eq_true.1 accepts
    split at accepts
    · rename_i purpose frame accepted
      obtain ⟨sameId, some⟩ := Bool.and_eq_true_iff.1 accepts
      obtain rfl := beq_iff_eq.1 sameId
      have zero := none frame accepted member
      simp [zero] at some
    · cases accepts
  · rw [refused_of_errorRead read] at unrefused
    cases unrefused

private theorem reconciliation_replies :
    let desk := Transition.run CodexDesk.step vacant unanswered
    desk.reply reconciliation = .reconciled (.ok .provenNotAccepted) ∧
      lastAsked desk.asked correlation = some 4 ∧ written 4 desk.log = true ∧
      refused 4 (desk.step reconciliation).log = false := by
  decide +kernel

/-- The reconciliation of a turn whose result was read reports that it was not accepted,
for the observation after it was refused. -/
theorem late_refusal_misread :
    ¬ Along CodexDesk.step CodexDesk.Sound vacant (unanswered ++ [reconciliation]) := by
  intro sound
  obtain ⟨replied, last, accepts, unrefused⟩ := reconciliation_replies
  obtain ⟨_, final, _⟩ := (Transition.along_append _ _ _ _ _).1 sound
  change CodexDesk.ReconcileSound _ ⟨correlation, PrivateId.fixture 7⟩ _ _ _ _
    (CodexDesk.reply _ reconciliation) at final
  rw [replied] at final
  exact @not_proven _ _ _ _ ⟨correlation, PrivateId.fixture 7⟩ _ last accepts unrefused final

private theorem unknownTurn_idle :
    (Transition.run CodexDesk.step vacant unknownTurn).pending = [] := by
  decide +kernel

/-- Reconciled before any further observation, the turn stays unknown. -/
theorem unknown_turn_reconciled :
    Along CodexDesk.step CodexDesk.Sound vacant (unknownTurn ++ [reconciliation]) := by
  refine (CodexDesk.reports_proven _ _).2 ?_
  refine (Transition.along_append _ _ _ _ _).2 ⟨?_, ?_, trivial⟩
  · refine ⟨?_, ?_, ?_, ?_, ?_, trivial⟩ <;>
      (rintro ⟨_, _, _, _, _, other, _⟩; cases other)
  · rintro ⟨controller, _, _, _, pending, _, party, _, member, _⟩
    have idle : controller.wire.state.pending = [] := by
      rw [← CodexDesk.pending_owned party]
      exact unknownTurn_idle
    rw [idle] at member
    cases member

end Sample
end Codex
end Gearwit
