import Gearwit.Codex.Probes
import Gearwit.Codex.Retained

/-!
# Idle lanes

A turn frame is offered only under the lane of the last probe, for its thread, and only
while the epoch of that probe is current.  A poll or a reconciliation may receive a line
without counting it; where none does, no line was heard since the response that showed the
thread idle.
-/

namespace Gearwit
namespace Codex

open Transport Transition

section Lanes

variable {P : Type} [SerdeJson] [Blake3] [Persist P]

/-! ## What a write is judged by -/

namespace CodexDesk

/-- An operation that writes nothing. -/
def Unwritten (desk : CodexDesk P) (op : CodexOp P) : Prop :=
  ∀ result, desk.reply op ≠ .wrote result

/-- The last probe of a run that issued a lane, and no write since. -/
def LastProbe (persist : P) (performed : List (CodexOp P)) (record : ProbeRecord)
    (before : List (CodexOp P)) : Prop :=
  ∃ scope observedAt observation between,
    performed = before ++ .probe scope observedAt :: between ∧ scope.binding = record.binding ∧
      (run step (start persist) before).reply (.probe scope observedAt) =
        .probed (.ok (.idle observation record.lane)) ∧
      Along step Unwritten (run step (start persist) (before ++ [.probe scope observedAt])) between

/-- An operation receives a line without counting it: a poll or a reconciliation does while
a lane is held, or a probe does when the pipe blocks a rejection. -/
def Careless (desk : CodexDesk P) : CodexOp P → Prop
  | .poll scope => ∃ controller, desk.party = .owned controller ∧ controller.laneProbe ≠ none ∧
      controller.polled scope ≠ [] ∧ controller.swallows = true
  | .reconcile scope verifiers _ => ∃ controller, desk.party = .owned controller ∧
      controller.laneProbe ≠ none ∧ Reconciles controller scope verifiers ∧
      controller.hearsNext = true
  | .probe scope _ => ∃ controller, desk.party = .owned controller ∧
      controller.laneProbe = none ∧
      scope.binding.attachment.birthId = controller.birth.birthId ∧
      scope.binding.threadRef = controller.threadRef ∧ controller.probesBlocked = true
  | _ => False

/-- No operation of a run is careless. -/
def Careful (persist : P) (performed : List (CodexOp P)) : Prop :=
  Along step (fun desk op => ¬ desk.Careless op) (start persist) performed

/-- A turn frame was earned: its lane is that of the last probe, which was for this thread
and is the one the command expects; nothing was counted since and nothing is readable now;
the lease is current, and the frame is that of the command.  In a careful run no line at all
was heard since the response that showed the thread idle. -/
structure Earned (persist : P) (performed : List (CodexOp P)) (controller : CodexController P)
    (lane : ControllerIdleGuard) (command : ControllerCommand) (finalNow : OffsetDateTime)
    (id : Nat) (frame : List UInt8) : Prop where
  probed : ∃ binding before, LastProbe persist performed ⟨binding, lane⟩ before ∧
    binding.attachment.birthId = controller.birth.birthId ∧
    binding.threadRef = controller.threadRef ∧
    (Careful persist performed → CodexController.IdleShown
      (run step (start persist) before).log controller.wire.pipes.log)
  held : controller.laneProbe = some lane.probeId
  current : lane.epoch = controller.mutationEpoch
  expected : command.expectedProbe = (lane.probeId, lane.epoch)
  bound : command.validateImmutableBinding controller.birth controller.threadRef = true
  leased : command.leaseIsCurrent controller.birth finalNow = true
  prepared : ∃ thread, controller.openedThread = .ok thread ∧
    frame = frameOf (Wire.turnRequest id thread command.fixedTurn)
  silent : (readLineUntil 0 controller.wire.pipes).1 = .error .deadline

end CodexDesk

/-! ## What runs keep -/

namespace CodexDesk

/-- A desk without a controller gets a fresh one, or none. -/
theorem arrives {desk : CodexDesk P} (kept : Kept desk) (op : CodexOp P)
    (unowned : ∀ controller, desk.party ≠ .owned controller) :
    (∃ controller, Fresh controller ∧ desk.step op = seat (.owned controller)) ∨
      ∀ controller, (desk.step op).party ≠ .owned controller := by
  have idle (same : desk.step op = desk) :
      ∀ controller, (desk.step op).party ≠ .owned controller := by
    rw [same]
    exact unowned
  have other {party : Party P} (same : desk.step op = seat party)
      (absent : ∀ controller, party ≠ .owned controller) :
      ∀ controller, (desk.step op).party ≠ .owned controller := by
    rw [same]
    exact absent
  have vacates (persist : P) (log : List WireEvent) (controller : CodexController P) :
      Party.vacant persist log ≠ .owned controller := by
    intro same
    cases same
  have holds (quarantine : QuarantinedCreate P) (controller : CodexController P) :
      Party.quarantined quarantine ≠ .owned controller := by
    intro same
    cases same
  cases party : desk.party with
  | owned controller => exact absurd party (unowned controller)
  | vacant persist log =>
      cases op with
      | create surroundings reservation draws =>
          have leaves := (createOwned_leaves persist surroundings reservation draws).2
          rcases made : CodexController.createOwned persist surroundings reservation draws with
            ⟨outcome, childLog⟩
          rw [made] at leaves
          cases outcome with
          | owned reserved controller =>
              exact .inl ⟨controller, leaves.2.1, by simp only [step, perform, party, made]⟩
          | provenNotAccepted reserved store =>
              exact .inr (other (by simp only [step, perform, party, made]; rfl) (vacates _ _))
          | unknown reserved quarantine =>
              exact .inr (other (by simp only [step, perform, party, made]; rfl) (holds _))
          | notReserved reserved store =>
              exact .inr (other (by simp only [step, perform, party, made]; rfl) (vacates _ _))
      | resume surroundings birth createAttemptId threadRef =>
          cases made : CodexController.resumeOwned persist surroundings birth createAttemptId
              threadRef with
          | ok controller =>
              exact .inl ⟨controller, resumeOwned_fresh made,
                by simp only [step, perform, party, made]⟩
          | error error =>
              exact .inr (other (by simp only [step, perform, party, made]; rfl) (vacates _ _))
      | elsewhere store =>
          refine .inr fun controller same => ?_
          simp only [step, perform, party] at same
          cases same
      | late | probe | write | poll | reconcile =>
          exact .inr (idle (by simp only [step, perform, party]))
  | quarantined quarantine =>
      cases op with
      | late reservation draws =>
          have still : Quarantine quarantine := by
            rw [Kept, party] at kept
            exact kept
          have leaves := (receiveLate_leaves still reservation draws).2
          rcases made : quarantine.receiveLate reservation draws with ⟨outcome, childLog⟩
          rw [made] at leaves
          cases outcome with
          | owned reserved controller =>
              exact .inl ⟨controller, leaves.2.1, by simp only [step, perform, party, made]⟩
          | provenNotAccepted reserved store =>
              exact .inr (other (by simp only [step, perform, party, made]; rfl) (vacates _ _))
          | stillUnknown reserved after =>
              exact .inr (other (by simp only [step, perform, party, made]; rfl) (holds _))
      | elsewhere store =>
          refine .inr fun controller same => ?_
          simp only [step, perform, party] at same
          cases same
      | create | resume | probe | write | poll | reconcile =>
          exact .inr (idle (by simp only [step, perform, party]))

end CodexDesk

namespace CodexDesk

/-- An operation that writes nothing leaves the last probe the last one. -/
theorem LastProbe.later {persist : P} {performed before : List (CodexOp P)}
    {record : ProbeRecord} {op : CodexOp P} (last : LastProbe persist performed record before)
    (unwritten : Unwritten (run step (start persist) performed) op) :
    LastProbe persist (performed ++ [op]) record before := by
  obtain ⟨scope, observedAt, observation, between, same, bound, replied, along⟩ := last
  refine ⟨scope, observedAt, observation, between ++ [op], ?_, bound, replied, ?_⟩
  · rw [same, List.append_assoc, List.cons_append]
  · rw [along_append]
    refine ⟨along, ?_, trivial⟩
    rw [← run_append, List.append_assoc, List.singleton_append, ← same]
    exact unwritten

/-- A held lane is that of the last probe, it is the newest, and the thread was shown idle
if nothing was counted since. -/
structure Held (persist : P) (performed : List (CodexOp P)) (desk : CodexDesk P)
    (controller : CodexController P) (record : ProbeRecord) : Prop where
  probe : controller.laneProbe = some record.lane.probeId
  birth : record.lane.epoch.birthId = controller.birth.birthId
  attached : record.binding.attachment.birthId = controller.birth.birthId
  bound : record.binding.threadRef = controller.threadRef
  newest : ∀ lane ∈ desk.lanes,
    lane.epoch.sequence.toNat ≤ record.lane.epoch.sequence.toNat
  past : record.lane.epoch.sequence.toNat ≤ controller.epoch.toNat
  shown : ∃ before, LastProbe persist performed record before ∧
    (Careful persist performed → record.lane.epoch.sequence = controller.epoch →
      CodexController.IdleShown (run step (start persist) before).log controller.wire.pipes.log)

/-- What a controller at the desk keeps of its lanes. -/
structure Laned (persist : P) (performed : List (CodexOp P)) (desk : CodexDesk P)
    (controller : CodexController P) : Prop where
  counted : controller.Counted
  past : ∀ lane ∈ desk.lanes, lane.epoch.sequence.toNat ≤ controller.epoch.toNat
  free : desk.record = none → controller.laneProbe = none
  held : ∀ record, desk.record = some record → Held persist performed desk controller record

/-- A fresh controller holds no lane. -/
private theorem Laned.fresh {persist : P} {performed : List (CodexOp P)}
    {controller : CodexController P} (fresh : Fresh controller) :
    Laned persist performed (seat (.owned controller)) controller where
  counted := by
    refine ⟨?_, fresh.born.within⟩
    rw [fresh.epoch]
    simpa using fresh.born.queue
  past lane member := by cases member
  free _ := fresh.laneProbe
  held record same := by cases same

/-- Lanes are kept by an operation that writes nothing and leaves the lane alone; if it is
careful it leaves the epoch alone only where no line was heard. -/
private theorem Laned.hands {persist : P} {performed : List (CodexOp P)}
    {controller after : CodexController P} {desk : CodexDesk P} {op : CodexOp P}
    (laned : Laned persist performed desk controller)
    (reached : run step (start persist) performed = desk) (unwritten : Unwritten desk op)
    (grows : CodexController.Grows controller after)
    (lane : after.laneProbe = controller.laneProbe)
    (calm : ¬ desk.Careless op → controller.laneProbe ≠ none → after.epoch = controller.epoch →
      ∃ newer, Unheard newer ∧ after.wire.pipes.log = newer ++ controller.wire.pipes.log) :
    Laned persist (performed ++ [op]) (desk.hand after) after where
  counted := grows.counted
  past other member := Nat.le_trans (laned.past other member) grows.grown
  free none := lane.trans (laned.free none)
  held record same := by
    have held := laned.held record same
    obtain ⟨before, last, shown⟩ := held.shown
    have epochs (current : record.lane.epoch.sequence = after.epoch) :
        after.epoch = controller.epoch := by
      refine UInt64.toNat_inj.1 (Nat.le_antisymm ?_ grows.grown)
      rw [← current]
      exact held.past
    refine ⟨lane.trans held.probe, held.birth.trans (by rw [grows.birth]),
      held.attached.trans (by rw [grows.birth]), held.bound.trans grows.threadRef.symm,
      held.newest, Nat.le_trans held.past grows.grown, before,
      last.later (by rw [reached]; exact unwritten), fun careful current => ?_⟩
    rw [Careful, along_append, reached] at careful
    obtain ⟨newer, unheard, log⟩ := calm careful.2.1
      (by rw [held.probe]; exact Option.some_ne_none _) (epochs current)
    rw [log]
    exact (shown careful.1 (current.trans (epochs current))).later unheard

/-- A probe keeps the lanes, or it hands out the newest one. -/
private theorem Laned.probes {persist : P} {performed : List (CodexOp P)}
    {controller : CodexController P} {desk : CodexDesk P}
    (laned : Laned persist performed desk controller) (party : desk.party = .owned controller)
    (reached : run step (start persist) performed = desk) (scope : IdleProbeScope)
    (observedAt : OffsetDateTime) :
    Laned persist (performed ++ [.probe scope observedAt]) (desk.step (.probe scope observedAt))
      (controller.probeIdle scope observedAt).2 := by
  have unwritten : Unwritten desk (.probe scope observedAt) := by
    intro result same
    simp only [reply, perform, party] at same
    cases same
  obtain ⟨grows, unissued⟩ := controller.probeIdle_grows scope observedAt laned.counted
  have hands (none : ∀ observation lane, (controller.probeIdle scope observedAt).1 ≠
        .ok (.idle observation lane)) :
      desk.step (.probe scope observedAt) =
        desk.hand (controller.probeIdle scope observedAt).2 := by
    simp only [step, perform, party]
  rcases controller.probeIdle_issues scope observedAt with
    turned | ⟨free, none | ⟨observation, lane, issued, issues⟩⟩
  · have none (observation : IdleProbeObservation) (lane : ControllerIdleGuard) :
        (controller.probeIdle scope observedAt).1 ≠ .ok (.idle observation lane) := by
      rw [turned]
      intro same
      cases same
    rw [hands none]
    refine laned.hands reached unwritten grows (unissued none) fun _ _ _ => ?_
    exact ⟨[], .nil, by rw [turned]; rfl⟩
  · rw [hands none]
    exact laned.hands reached unwritten grows (unissued none) fun _ held => absurd free held
  · obtain ⟨birth, threadRef, probe, given, shown⟩ := issues.shows laned.counted
    obtain ⟨_, _, counted, grown⟩ := grows
    have performs : desk.step (.probe scope observedAt) =
        { desk.hand (controller.probeIdle scope observedAt).2 with
          record := some ⟨scope.binding, lane⟩, lanes := lane :: desk.lanes } := by
      simp only [step, perform, party, issued]
    have replied : desk.reply (.probe scope observedAt) =
        .probed (.ok (.idle observation lane)) := by
      simp only [reply, perform, party, issued]
    have older : desk.log = controller.wire.pipes.log := by rw [CodexDesk.log, party]
    rw [performs]
    refine ⟨counted, ?_, (by intro same; cases same), fun record same => ?_⟩
    · intro other member
      rcases List.mem_cons.1 member with rfl | before
      · rw [given]
      · exact Nat.le_trans (laned.past other before) grown
    · cases same
      refine ⟨?_, ?_, ?_, ?_, ?_, ?_, performed, ?_, fun careful _ => ?_⟩
      · rw [probe, given]
      · rw [given, birth]
      · rw [birth]
        exact issues.bound.1
      · rw [threadRef]
        exact issues.bound.2
      · intro other member
        rcases List.mem_cons.1 member with rfl | before
        · exact Nat.le_refl _
        · rw [given]
          exact Nat.le_trans (laned.past other before) grown
      · rw [given]
      · exact ⟨scope, observedAt, observation, [], rfl, rfl, by rw [reached, replied], trivial⟩
      · rw [Careful, along_append, reached] at careful
        rw [reached, older]
        refine shown ?_
        by_contra blocked
        exact careful.2.1 ⟨controller, party, free, issues.bound.1, issues.bound.2,
          by simpa using blocked⟩

/-- A poll keeps the lanes. -/
private theorem Laned.polls {persist : P} {performed : List (CodexOp P)}
    {controller : CodexController P} {desk : CodexDesk P}
    (laned : Laned persist performed desk controller) (party : desk.party = .owned controller)
    (reached : run step (start persist) performed = desk) (scope : ObservationScope) :
    Laned persist (performed ++ [.poll scope]) (desk.step (.poll scope))
      (controller.pollExactObservation scope).2 := by
  have unwritten : Unwritten desk (.poll scope) := by
    intro result same
    simp only [reply, perform, party] at same
    cases same
  have performs : desk.step (.poll scope) =
      desk.hand (controller.pollExactObservation scope).2 := by
    simp only [step, perform, party]
  obtain ⟨all, whole⟩ := (controller.pollExactObservation_step scope).passes
  rw [performs]
  refine laned.hands reached unwritten (whole.grows laned.counted) whole.same.laneProbe
    fun careful held untouched => ?_
  rcases controller.pollExactObservation_heard scope with ⟨hears, step⟩ | passes
  · cases step with
    | noticed taken passes =>
        obtain ⟨early, receipt⟩ := CodexController.receiveUntil_receipt taken
        obtain ⟨first, strict⟩ := receipt.bump
        have later := (passes.counted (first.counted laned.counted).1).2
        have more := strict laned.counted
        rw [untouched] at later
        omega
    | @ended outcome mid taken other passes =>
        obtain ⟨newer, receipt⟩ := CodexController.receiveUntil_receipt taken
        refine ⟨newer, ?_, passes.moves.log.trans receipt.passes.moves.log⟩
        refine CodexController.swallows_eq_false taken other receipt.passes.moves.log ?_
        by_contra swallows
        exact careful ⟨controller, party, held, hears, by simpa using swallows⟩
  · exact ⟨[], .nil, passes.moves.log⟩

/-- A reconciliation keeps the lanes. -/
private theorem Laned.reconciles {persist : P} {performed : List (CodexOp P)}
    {controller : CodexController P} {desk : CodexDesk P}
    (laned : Laned persist performed desk controller) (party : desk.party = .owned controller)
    (reached : run step (start persist) performed = desk) (scope : ReconciliationScope)
    (verifiers : List VerifierRef) (draws : List PrivateNativeRef) :
    Laned persist (performed ++ [.reconcile scope verifiers draws])
      (desk.step (.reconcile scope verifiers draws))
      (controller.reconcileExact scope verifiers draws).2 := by
  have unwritten : Unwritten desk (.reconcile scope verifiers draws) := by
    intro result same
    simp only [reply, perform, party] at same
    cases same
  have performs : desk.step (.reconcile scope verifiers draws) =
      desk.hand (controller.reconcileExact scope verifiers draws).2 := by
    simp only [step, perform, party]
  rw [performs]
  by_cases matched : Reconciles controller scope verifiers
  · have one {store : P} {mid : CodexController P} {outcome : Except Error Received}
        (taken : CodexController.receiveUntil { controller with persist := store } 0 =
          (outcome, mid)) (after : CodexController P)
        (same : after.transport = mid.transport ∧ after.epoch = mid.epoch ∧
          after.birth = mid.birth ∧ after.threadRef = mid.threadRef ∧
          after.laneProbe = mid.laneProbe) :
        Laned persist (performed ++ [.reconcile scope verifiers draws]) (desk.hand after)
          after := by
      obtain ⟨newer, receipt⟩ := CodexController.receiveUntil_receipt taken
      obtain ⟨transport, epoch, birth, threadRef, lane⟩ := same
      have grows : CodexController.Grows controller after := by
        have first : CodexController.Grows controller { controller with persist := store } :=
          laned.counted.still rfl rfl rfl rfl
        have second := first.trans (receipt.passes.grows first.counted)
        exact second.trans (second.counted.still transport epoch birth threadRef)
      refine laned.hands reached unwritten grows (lane.trans receipt.passes.same.laneProbe)
        fun careful held _ => ⟨newer, ?_, ?_⟩
      · refine CodexController.hearsNext_eq_false
          (CodexController.receiveUntil_elsewhere taken) receipt.passes.moves.log ?_
        by_contra hears
        exact careful ⟨controller, party, held, matched, by simpa using hears⟩
      · rw [show after.wire = mid.wire from congrArg CodexTransport.wire transport]
        exact receipt.passes.moves.log
    have step := controller.reconcileExact_step scope verifiers draws
    generalize (controller.reconcileExact scope verifiers draws).1 = outcome at step
    generalize (controller.reconcileExact scope verifiers draws).2 = after at step ⊢
    cases step with
    | rejected =>
        exact laned.hands reached unwritten (laned.counted.still rfl rfl rfl rfl) rfl
          fun _ _ _ => ⟨[], .nil, rfl⟩
    | accepted agreed taken stored => exact one taken _ ⟨rfl, rfl, rfl, rfl, rfl⟩
    | refused agreed taken => exact one taken _ ⟨rfl, rfl, rfl, rfl, rfl⟩
    | unknown taken => exact one taken _ ⟨rfl, rfl, rfl, rfl, rfl⟩
  · have turned : ∃ store, (controller.reconcileExact scope verifiers draws).2 =
        { controller with persist := store } :=
      ⟨_, congrArg Prod.snd (if_pos (not_not.1 matched))⟩
    obtain ⟨store, same⟩ := turned
    rw [same]
    exact laned.hands reached unwritten (laned.counted.still rfl rfl rfl rfl) rfl
      fun _ _ _ => ⟨[], .nil, rfl⟩

end CodexDesk

namespace CodexController

/-- A dispatch offers the prepared frame and nothing else. -/
private theorem DispatchStep.offers {controller after : CodexController P}
    {command : ControllerCommand} {id : Nat} {draws : List PrivateNativeRef}
    {disposition : NativeWriteDisposition}
    (step : DispatchStep controller command id draws disposition after) :
    ∃ newer accepted, after.wire.pipes.log = newer ++
        .offered (.request id .turnStart) controller.wire.state.frame accepted ::
          controller.wire.pipes.log ∧
      requests newer = [] := by
  have takes {receipt : WriteReceipt} {transport : CodexTransport} {mid : CodexController P}
      {received : Except Error Received}
      (sent : controller.transport.dispatchPreparedTurn id = (.ok receipt, transport))
      (taken : (controller.withTransport transport).receiveUntil ioDeadline = (received, mid)) :
      ∃ newer accepted, mid.wire.pipes.log = newer ++
          .offered (.request id .turnStart) controller.wire.state.frame accepted ::
            controller.wire.pipes.log ∧
        requests newer = [] := by
    obtain ⟨accepted, dispatched⟩ := CodexTransport.dispatchPreparedTurn_dispatched sent
    obtain ⟨newer, receipt'⟩ := receiveUntil_receipt taken
    refine ⟨newer, accepted, ?_, receipt'.passes.moves.unrequested⟩
    rw [receipt'.passes.moves.log]
    exact congrArg (newer ++ ·) dispatched.log
  cases step with
  | failed sent =>
      obtain ⟨accepted, dispatched⟩ := CodexTransport.dispatchPreparedTurn_dispatched sent
      exact ⟨[], accepted, dispatched.log, rfl⟩
  | accepted sent taken stored =>
      obtain ⟨newer, accepted, log, unrequested⟩ := takes sent taken
      exact ⟨newer, accepted, log, unrequested⟩
  | refused sent taken =>
      obtain ⟨newer, accepted, log, unrequested⟩ := takes sent taken
      exact ⟨newer, accepted, log, unrequested⟩
  | unknown sent taken =>
      obtain ⟨newer, accepted, log, unrequested⟩ := takes sent taken
      exact ⟨newer, accepted, log, unrequested⟩

/-- What a dispatched turn frame passed. -/
structure Offers (controller : CodexController P) (lane : ControllerIdleGuard)
    (command : ControllerCommand) (finalNow : OffsetDateTime) (id : Nat) (frame : List UInt8)
    (thread : NativeRef) (transport : CodexTransport) (mid : CodexController P) : Prop where
  held : controller.laneProbe = some command.expectedProbeId
  issued : lane = ⟨command.expectedProbeId, command.expectedEpoch⟩
  opened : controller.openedThread = .ok thread
  prepared : controller.transport.prepareTurnFrame thread command.fixedTurn = (.ok id, transport)
  drain : (controller.withTransport transport).drainBeforeMutation = (.ok (), mid)
  current : mid.mutationEpoch = command.expectedEpoch
  bound : command.validateImmutableBinding mid.birth mid.threadRef = true
  leased : command.leaseIsCurrent mid.birth finalNow = true
  frame : frame = mid.wire.state.frame

/-- A write adds to the log, and a turn frame only if it was dispatched. -/
private theorem WriteStep.adds {controller after : CodexController P}
    {lane : ControllerIdleGuard} {command : ControllerCommand} {finalNow : OffsetDateTime}
    {draws : List PrivateNativeRef} {outcome : Except ControllerWriteError NativeWriteDisposition}
    (step : WriteStep controller lane command finalNow draws outcome after) :
    ∃ newer, after.wire.pipes.log = newer ++ controller.wire.pipes.log ∧
      ∀ {id frame accepted}, .offered (.request id .turnStart) frame accepted ∈ newer →
        ∃ thread transport mid,
          Offers controller lane command finalNow id frame thread transport mid := by
  have silent {events : List WireEvent} (unrequested : requests events = []) {id accepted : Nat}
      {frame : List UInt8} : .offered (.request id .turnStart) frame accepted ∉ events := by
    intro member
    have known := mem_requests.2 ⟨frame, accepted, member⟩
    rw [unrequested] at known
    cases known
  have prepares {thread : NativeRef} {transport : CodexTransport} {result : Except Error Nat}
      (prepared : controller.transport.prepareTurnFrame thread command.fixedTurn =
        (result, transport)) :
      (controller.withTransport transport).wire.pipes.log = controller.wire.pipes.log :=
    congrArg Pipes.log (CodexTransport.prepareTurnFrame_prepared prepared).pipes
  cases step with
  | rejected => exact ⟨[], rfl, fun offered => absurd offered (silent rfl)⟩
  | unopened => exact ⟨[], rfl, fun offered => absurd offered (silent rfl)⟩
  | unprepared prepared =>
      exact ⟨[], prepares prepared, fun offered => absurd offered (silent rfl)⟩
  | withheld prepared drain unwritten =>
      obtain ⟨early, passes⟩ := drainBeforeMutation_passes drain
      exact ⟨early, passes.moves.log.trans (congrArg (early ++ ·) (prepares prepared)),
        fun offered => absurd offered (silent passes.moves.unrequested)⟩
  | @dispatched thread id transport mid _ disposition held issued opened prepared drain
      current bound leased step =>
      obtain ⟨early, passes⟩ := drainBeforeMutation_passes drain
      obtain ⟨late, count, dispatches, unrequested⟩ := step.offers
      refine ⟨late ++ .offered (.request id .turnStart) mid.wire.state.frame count :: early,
        ?_, fun offered => ?_⟩
      · rw [dispatches, passes.moves.log, prepares prepared]
        simp
      · rcases List.mem_append.1 offered with absent | present
        · exact absurd absent (silent unrequested)
        · rcases List.mem_cons.1 present with same | absent
          · cases same
            exact ⟨thread, transport, mid, held, issued, opened, prepared, drain, current, bound,
              leased, rfl⟩
          · exact absurd absent (silent passes.moves.unrequested)

end CodexController

namespace CodexDesk

/-- A write gives the lane up, whatever it reports. -/
private theorem Laned.writes {persist : P} {performed : List (CodexOp P)}
    {controller : CodexController P} {desk : CodexDesk P}
    (laned : Laned persist performed desk controller) (party : desk.party = .owned controller)
    (lane : ControllerIdleGuard) (command : ControllerCommand) (finalNow : OffsetDateTime)
    (draws : List PrivateNativeRef)
    (given : ¬ (lane.epoch.birthId = controller.birth.birthId ∧ lane ∉ desk.lanes)) :
    (desk.step (.write lane command finalNow draws)).party =
        .owned (controller.writeReservedTurn lane command finalNow draws).2 ∧
      Laned persist (performed ++ [.write lane command finalNow draws])
        (desk.step (.write lane command finalNow draws))
        (controller.writeReservedTurn lane command finalNow draws).2 := by
  obtain ⟨grows, free⟩ := CodexController.WriteStep.grows
    (controller.writeReservedTurn_step lane command finalNow draws) laned.counted
  simp only [step, perform, party, if_neg given]
  refine ⟨trivial, grows.counted, fun other member => ?_, fun _ => free, fun record same => ?_⟩
  · exact Nat.le_trans (laned.past other (List.mem_of_mem_erase member)) grows.grown
  · cases same

/-- A desk that is left alone keeps its lanes. -/
private theorem Laned.nothing {persist : P} {performed : List (CodexOp P)}
    {controller : CodexController P} {desk : CodexDesk P} {op : CodexOp P}
    (laned : Laned persist performed desk controller) (party : desk.party = .owned controller)
    (reached : run step (start persist) performed = desk)
    (none : desk.perform op = (.nothing, desk)) :
    Laned persist (performed ++ [op]) (desk.step op) controller := by
  have unwritten : Unwritten desk op := by
    intro result same
    rw [reply, none] at same
    cases same
  have same : desk.step op = desk.hand controller := by
    rw [step, none, hand, ← party]
  rw [same]
  exact laned.hands reached unwritten (laned.counted.still rfl rfl rfl rfl) rfl
    fun _ _ _ => ⟨[], .nil, rfl⟩

/-- One operation of a desk with a controller. -/
private theorem Laned.steps {persist : P} {performed : List (CodexOp P)}
    {controller : CodexController P} {desk : CodexDesk P}
    (laned : Laned persist performed desk controller) (party : desk.party = .owned controller)
    (reached : run step (start persist) performed = desk) (op : CodexOp P) :
    ∃ after, (desk.step op).party = .owned after ∧
      Laned persist (performed ++ [op]) (desk.step op) after := by
  have unmoved (none : desk.perform op = (.nothing, desk)) :
      ∃ after, (desk.step op).party = .owned after ∧
        Laned persist (performed ++ [op]) (desk.step op) after :=
    ⟨controller, by rw [step, none, party], laned.nothing party reached none⟩
  cases op with
  | create | resume | late => exact unmoved (by simp only [perform, party])
  | probe scope observedAt =>
      refine ⟨_, ?_, laned.probes party reached scope observedAt⟩
      simp only [step, perform, party]
      split <;> rfl
  | write lane command finalNow draws =>
      by_cases absent : lane.epoch.birthId = controller.birth.birthId ∧ lane ∉ desk.lanes
      · exact unmoved (by simp only [perform, party, if_pos absent])
      · exact ⟨_, laned.writes party lane command finalNow draws absent⟩
  | poll scope =>
      exact ⟨_, by simp only [step, perform, party, hand],
        laned.polls party reached scope⟩
  | reconcile scope verifiers draws =>
      exact ⟨_, by simp only [step, perform, party, hand],
        laned.reconciles party reached scope verifiers draws⟩
  | elsewhere store =>
      have same : desk.step (.elsewhere store) =
          desk.hand { controller with persist := store } := by
        simp only [step, perform, party]
      rw [same]
      refine ⟨_, rfl, laned.hands reached ?_ (laned.counted.still rfl rfl rfl rfl) rfl
        fun _ _ _ => ⟨[], .nil, rfl⟩⟩
      intro result replied
      simp only [reply, perform, party] at replied
      cases replied

/-- Every controller of a run keeps its lanes. -/
theorem laned_run (persist : P) (ops : List (CodexOp P)) {controller : CodexController P}
    (party : (run step (start persist) ops).party = .owned controller) :
    Laned persist ops (run step (start persist) ops) controller := by
  let keeps (performed : List (CodexOp P)) (desk : CodexDesk P) : Prop :=
    Kept desk ∧ ∀ controller, desk.party = .owned controller →
      Laned persist performed desk controller
  refine (history_run (start persist) keeps ?_ ?_ ops).2 controller party
  · refine ⟨List.nodup_nil, fun controller same => ?_⟩
    cases same
  · rintro performed op ⟨kept, laned⟩
    refine ⟨kept_step kept op, fun after same => ?_⟩
    by_cases owned : ∃ controller, (run step (start persist) performed).party = .owned controller
    · obtain ⟨controller, before⟩ := owned
      obtain ⟨next, taken, later⟩ := (laned controller before).steps before rfl op
      rw [taken] at same
      cases same
      exact later
    · rcases arrives kept op (fun controller before => owned ⟨controller, before⟩) with
        ⟨next, fresh, seated⟩ | unowned
      · rw [seated] at same ⊢
        cases same
        exact .fresh fresh
      · exact absurd same (unowned after)

/-- Every turn frame with at least one byte was earned. -/
theorem turn_earned (persist : P) {performed : List (CodexOp P)} {controller : CodexController P}
    (party : (run step (start persist) performed).party = .owned controller)
    {lane : ControllerIdleGuard} {command : ControllerCommand} {finalNow : OffsetDateTime}
    {draws : List PrivateNativeRef} {newer : List WireEvent} {id accepted : Nat}
    {frame : List UInt8}
    (log : (run step (start persist) (performed ++ [.write lane command finalNow draws])).log =
      newer ++ controller.wire.pipes.log)
    (offered : .offered (.request id .turnStart) frame accepted ∈ newer) (some : frame ≠ []) :
    Earned persist performed controller lane command finalNow id frame := by
  have laned := laned_run persist performed party
  generalize reached : run step (start persist) performed = desk at laned party
  rw [run_append, reached, run_cons, run_nil] at log
  have given : ¬ (lane.epoch.birthId = controller.birth.birthId ∧ lane ∉ desk.lanes) := by
    intro absent
    have still : (desk.step (.write lane command finalNow draws)).log =
        [] ++ controller.wire.pipes.log := by
      simp only [step, perform, party, if_pos absent]
      rw [CodexDesk.log, party]
      rfl
    rw [← List.append_cancel_right (still.symm.trans log)] at offered
    cases offered
  obtain ⟨events, adds, offers⟩ := CodexController.WriteStep.adds
    (controller.writeReservedTurn_step lane command finalNow draws)
  have whole : (controller.writeReservedTurn lane command finalNow draws).2.wire.pipes.log =
      newer ++ controller.wire.pipes.log := by
    rw [← log, CodexDesk.log, (laned.writes party lane command finalNow draws given).1]
  obtain rfl := List.append_cancel_right (adds.symm.trans whole)
  obtain ⟨thread, transport, mid, held, issued, opened, prepared, drain, current, bound, leased,
    rfl⟩ := offers offered
  have prepares := laned.counted.prepares prepared
  obtain ⟨early, passes⟩ := CodexController.drainBeforeMutation_passes drain
  have grows := prepares.trans (passes.grows prepares.counted)
  have epoch : lane.epoch = ⟨controller.birth.birthId, mid.epoch⟩ := by
    rw [issued]
    change command.expectedEpoch = _
    rw [← current, CodexController.mutationEpoch, grows.birth]
  cases known : desk.record with
  | none =>
      rw [laned.free known] at held
      cases held
  | some record =>
      have kept := laned.held record known
      obtain ⟨before, last, shown⟩ := kept.shown
      have member : lane ∈ desk.lanes := by
        by_contra absent
        exact given ⟨by rw [epoch], absent⟩
      have sequence : lane.epoch.sequence = mid.epoch := by rw [epoch]
      have newest := kept.newest lane member
      rw [sequence] at newest
      have untouched : mid.epoch = controller.epoch :=
        UInt64.toNat_inj.1 (Nat.le_antisymm (Nat.le_trans newest kept.past) grows.grown)
      have recorded : record.lane.epoch.sequence = controller.epoch := by
        refine UInt64.toNat_inj.1 (Nat.le_antisymm kept.past ?_)
        rw [← untouched]
        exact newest
      have same : lane = record.lane := by
        have probes : record.lane.probeId = lane.probeId := by
          rw [issued]
          exact Option.some.inj (kept.probe.symm.trans held)
        obtain ⟨binding, probeId, birthId, sequence'⟩ := record
        obtain ⟨laneProbeId, laneBirthId, laneSequence⟩ := lane
        cases epoch
        simp only at probes recorded kept
        rw [probes, recorded, ← untouched, show birthId = controller.birth.birthId from kept.birth]
      have effect := CodexTransport.prepareTurnFrame_prepared prepared
      obtain ⟨idle, _, _, filled⟩ := effect.frame id rfl
      rcases CodexController.drainBeforeMutation_quiet prepares.counted
        (effect.pending.trans idle) drain untouched with ⟨silent, _, kept'⟩ | empty
      · refine ⟨⟨record.binding, before, ?_, kept.attached, kept.bound,
          fun careful => shown careful recorded⟩, ?_, ?_, ?_, ?_, ?_,
          ⟨thread, opened, kept'.trans filled⟩, ?_⟩
        · rw [same]
          exact last
        · rw [held, issued]
        · rw [epoch, untouched]
          rfl
        · rw [issued]
          rfl
        · rw [← grows.birth, ← grows.threadRef]
          exact bound
        · rw [← grows.birth]
          exact leased
        · rw [show controller.wire.pipes = transport.wire.pipes from effect.pipes.symm]
          exact silent
      · exact absurd empty some

end CodexDesk

namespace CodexDesk

/-- The epoch of a controller is bounded by the bytes its server sent, so it never saturates:
every further change is counted. -/
theorem epoch_counts (persist : P) {ops : List (CodexOp P)} {controller : CodexController P}
    (party : (run step (start persist) ops).party = .owned controller) :
    controller.epoch.toNat + controller.wire.state.notifications.length ≤
        controller.wire.state.stdout ∧
      controller.wire.state.stdout ≤ maxStdout ∧
      controller.bumpEpoch.epoch.toNat = controller.epoch.toNat + 1 := by
  obtain ⟨covered, within⟩ := (laned_run persist ops party).counted
  refine ⟨covered, within, ?_⟩
  have small : controller.epoch.toNat + 1 < 2 ^ 64 := by
    have room : maxStdout + 1 < 2 ^ 64 := by decide
    omega
  simp only [CodexController.bumpEpoch, small, if_true, UInt64.toNat_add, UInt64.toNat_one]
  exact Nat.mod_eq_of_lt small

/-- A write adds to the log. -/
theorem write_log {desk : CodexDesk P} {controller : CodexController P}
    (party : desk.party = .owned controller) (lane : ControllerIdleGuard)
    (command : ControllerCommand) (finalNow : OffsetDateTime) (draws : List PrivateNativeRef) :
    ∃ newer, (desk.step (.write lane command finalNow draws)).log =
      newer ++ controller.wire.pipes.log := by
  by_cases absent : lane.epoch.birthId = controller.birth.birthId ∧ lane ∉ desk.lanes
  · refine ⟨[], ?_⟩
    simp only [step, perform, party, if_pos absent]
    rw [CodexDesk.log, party]
    rfl
  · obtain ⟨newer, log, _⟩ := CodexController.WriteStep.adds
      (controller.writeReservedTurn_step lane command finalNow draws)
    refine ⟨newer, ?_⟩
    simp only [step, perform, party, if_neg absent]
    rw [CodexDesk.log]
    exact log

end CodexDesk

end Lanes

namespace Sample

open Gearwit.Sample

/-- A thread is created and probed. -/
def idleThread : List (CodexOp FakePersist) := unknownTurn.take 3

/-- The first turn frame with a byte among events. -/
def turnFrame (events : List WireEvent) : Option (Nat × List UInt8 × Nat) :=
  events.findSome? fun event =>
    match event with
    | .offered (.request id .turnStart) frame accepted =>
        if frame = [] then none else some (id, frame, accepted)
    | _ => none

/-- Events since an older log. -/
def eventsSince (older log : List WireEvent) : List WireEvent :=
  log.take (log.length - older.length)

private theorem eventsSince_append (newer older : List WireEvent) :
    eventsSince older (newer ++ older) = newer := by
  simp [eventsSince]

private theorem turnFrame_offered {events : List WireEvent} {id accepted : Nat}
    {frame : List UInt8} (found : turnFrame events = some (id, frame, accepted)) :
    .offered (.request id .turnStart) frame accepted ∈ events ∧ frame ≠ [] := by
  obtain ⟨event, member, same⟩ := List.exists_of_findSome?_eq_some found
  split at same
  · split_ifs at same with bytes
    cases same
    exact ⟨member, bytes⟩
  · cases same

private theorem owned_of_controllerOf {desk : CodexDesk FakePersist}
    (owned : (controllerOf desk).isSome = true) : ∃ controller, desk.party = .owned controller := by
  unfold controllerOf at owned
  split at owned
  · rename_i controller party
    exact ⟨controller, party⟩
  · cases owned

private theorem idleThread_checks :
    (controllerOf (run CodexDesk.step vacant idleThread)).isSome = true ∧
      (turnFrame (eventsSince (run CodexDesk.step vacant idleThread).log
        (run CodexDesk.step vacant (idleThread ++
          [.write lane command OffsetDateTime.unixEpoch []])).log)).isSome = true := by
  decide +kernel

/-- The turn of the sample is earned. -/
theorem idle_turn_earned : ∃ controller id frame,
    (run CodexDesk.step vacant idleThread).party = .owned controller ∧ frame ≠ [] ∧
      CodexDesk.Earned
        (stored (opens firstRequest firstArm firstAttempt 1 firstEvent secondEvent)) idleThread
        controller lane command OffsetDateTime.unixEpoch id frame := by
  obtain ⟨owned, found⟩ := idleThread_checks
  obtain ⟨controller, party⟩ := owned_of_controllerOf owned
  obtain ⟨newer, log⟩ := CodexDesk.write_log party lane command OffsetDateTime.unixEpoch []
  have older : controller.wire.pipes.log = (run CodexDesk.step vacant idleThread).log := by
    rw [CodexDesk.log, party]
  have whole : (run CodexDesk.step vacant (idleThread ++
      [.write lane command OffsetDateTime.unixEpoch []])).log =
        newer ++ (run CodexDesk.step vacant idleThread).log := by
    rw [run_append, ← older]
    exact log
  rw [whole, eventsSince_append] at found
  obtain ⟨⟨id, frame, accepted⟩, first⟩ := Option.isSome_iff_exists.1 found
  obtain ⟨offered, bytes⟩ := turnFrame_offered first
  exact ⟨controller, id, frame, party, bytes,
    CodexDesk.turn_earned _ party (whole.trans (congrArg (newer ++ ·) older.symm)) offered bytes⟩

/-- The epoch after the sample's probe. -/
theorem idle_epoch_counts : ∃ controller,
    (run CodexDesk.step vacant idleThread).party = .owned controller ∧
      controller.bumpEpoch.epoch.toNat = controller.epoch.toNat + 1 := by
  obtain ⟨controller, party⟩ := owned_of_controllerOf idleThread_checks.1
  exact ⟨controller, party, (CodexDesk.epoch_counts _ party).2.2⟩

end Sample

end Codex
end Gearwit
