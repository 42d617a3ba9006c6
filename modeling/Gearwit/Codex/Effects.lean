import Gearwit.Codex.Operations
import Gearwit.Transport.Requests

/-!
# What the loops of a controller do

Whatever a controller receives, its binding, its lane and its store stay, nothing is
requested, and the epoch grows with every value received.  The bytes the server may send
bound the epoch, so the counter never saturates.
-/

namespace Gearwit
namespace Codex

open Transport

namespace CodexTransport

/-- An operation of the wire is performed on a running child only. -/
theorem whenLive_cases {α : Type} {operation : Wire → Except Error α × Wire}
    {transport after : CodexTransport} {outcome : Except Error α}
    (done : whenLive operation transport = (outcome, after)) :
    (outcome = .error .closed ∧ after.wire = transport.wire) ∨
      (operation transport.wire).1 = outcome ∧ (operation transport.wire).2 = after.wire := by
  simp only [whenLive, ensureChildLive] at done
  cases alive : transport.alive.headD true with
  | true =>
      rw [alive] at done
      cases done
      exact Or.inr ⟨rfl, rfl⟩
  | false =>
      rw [alive] at done
      cases done
      exact Or.inl ⟨rfl, rfl⟩

/-- A request to a running child. -/
private theorem whenLive_requested {kind : RequestKind} {thread : Option NativeRef}
    {operation : Wire → Except Error Unit × Wire} {transport after : CodexTransport}
    {outcome : Except Error Unit}
    (requested : ∀ wire, Wire.Requested wire kind thread (operation wire).1 (operation wire).2)
    (done : whenLive operation transport = (outcome, after)) :
    Wire.Requested transport.wire kind thread outcome after.wire := by
  rcases whenLive_cases done with ⟨rfl, same⟩ | ⟨rfl, same⟩
  · rw [same]
    exact .unasked _ _ _ _
  · rw [← same]
    exact requested transport.wire

/-- Starting a thread with the helper is one request. -/
theorem startAttachedThread_requested [SerdeJson] {helper : Option String}
    {transport after : CodexTransport} {outcome : Except Error Unit}
    (done : transport.startAttachedThread helper = (outcome, after)) :
    Wire.Requested transport.wire .threadStart none outcome after.wire := by
  refine whenLive_requested (fun wire => ?_) done
  cases helper with
  | none => exact .unasked _ _ _ _
  | some path => exact Wire.sendRequest_requested _ _ _ _

/-- Resuming a thread is one request. -/
theorem resumeThread_requested [SerdeJson] {thread : NativeRef} {helper : Option String}
    {transport after : CodexTransport} {outcome : Except Error Unit}
    (done : transport.resumeThread thread helper = (outcome, after)) :
    Wire.Requested transport.wire .threadResume (some thread) outcome after.wire := by
  refine whenLive_requested (fun wire => ?_) done
  cases helper with
  | none => exact .unasked _ _ _ _
  | some path => exact Wire.sendRequest_requested _ _ _ _

/-- Observing a thread is one request. -/
theorem readThread_requested [SerdeJson] {thread : NativeRef}
    {transport after : CodexTransport} {outcome : Except Error Unit}
    (done : transport.readThread thread = (outcome, after)) :
    Wire.Requested transport.wire .threadRead (some thread) outcome after.wire :=
  whenLive_requested (fun wire => Wire.sendRequest_requested wire _ _ _) done

/-- Receiving takes what one line says. -/
theorem receiveUntil_receives [SerdeJson] [Blake3] {transport after : CodexTransport}
    {deadline : Nat} {outcome : Except Error Received}
    (taken : transport.receiveUntil deadline = (outcome, after)) :
    ∃ newer, Wire.Receives transport.wire outcome after.wire newer := by
  unfold receiveUntil at taken
  split_ifs at taken with overflowed
  · cases taken
    exact ⟨[], .refl _, nofun, nofun, nofun, nofun⟩
  · rcases read : transport.wire.nextUntil deadline with ⟨result, wire⟩
    simp only [read] at taken
    cases taken
    exact Wire.nextUntil_receives read

/-- Dispatching writes the frame that was prepared. -/
theorem dispatchPreparedTurn_dispatched {transport after : CodexTransport} {id : Nat}
    {outcome : Except WriteFailure WriteReceipt}
    (sent : transport.dispatchPreparedTurn id = (outcome, after)) :
    ∃ accepted, Wire.Dispatched transport.wire id outcome after.wire accepted := by
  obtain ⟨accepted, dispatched⟩ := Wire.dispatchPreparedTurn_dispatched transport.wire id
  cases sent
  exact ⟨accepted, dispatched⟩

/-- Preparing a turn keeps its frame in the buffer. -/
theorem prepareTurnFrame_prepared [SerdeJson] {transport after : CodexTransport}
    {thread : NativeRef} {managedInput : String} {outcome : Except Error Nat}
    (done : transport.prepareTurnFrame thread managedInput = (outcome, after)) :
    Wire.Prepared transport.wire thread managedInput outcome after.wire := by
  rcases whenLive_cases done with ⟨rfl, same⟩ | ⟨rfl, same⟩
  · rw [same]
    exact ⟨id, rfl, rfl, rfl, rfl, rfl, nofun, fun _ _ => Or.inr rfl⟩
  · rw [← same]
    exact Wire.prepareTurn_prepared _ _ _

end CodexTransport

namespace CodexController

variable {P : Type}

/-- The wire of the controller's child. -/
def wire (controller : CodexController P) : Wire := controller.transport.wire

/-- Every change that was counted, and every notification kept back, took a byte of what
the server may send. -/
structure Counted (controller : CodexController P) : Prop where
  epoch : controller.epoch.toNat + controller.wire.state.notifications.length ≤
    controller.wire.state.stdout
  within : controller.wire.state.stdout ≤ maxStdout

/-- What receiving leaves alone. -/
structure Same (controller after : CodexController P) : Prop where
  persist : after.persist = controller.persist
  birth : after.birth = controller.birth
  createAttemptId : after.createAttemptId = controller.createAttemptId
  threadRef : after.threadRef = controller.threadRef
  laneProbe : after.laneProbe = controller.laneProbe
  reconciling : after.reconciling = controller.reconciling

/-- A controller is the same as itself. -/
theorem Same.refl (controller : CodexController P) : Same controller controller :=
  ⟨rfl, rfl, rfl, rfl, rfl, rfl⟩

/-- Being the same controller composes. -/
theorem Same.trans {controller mid after : CodexController P} (first : Same controller mid)
    (second : Same mid after) : Same controller after :=
  ⟨second.persist.trans first.persist, second.birth.trans first.birth,
    second.createAttemptId.trans first.createAttemptId,
    second.threadRef.trans first.threadRef, second.laneProbe.trans first.laneProbe,
    second.reconciling.trans first.reconciling⟩

/-- Another transport makes no other controller. -/
theorem Same.withTransport (controller : CodexController P) (transport : CodexTransport) :
    Same controller (controller.withTransport transport) :=
  ⟨rfl, rfl, rfl, rfl, rfl, rfl⟩

/-- Another epoch makes no other controller. -/
theorem Same.bumpEpoch (controller : CodexController P) : Same controller controller.bumpEpoch :=
  ⟨rfl, rfl, rfl, rfl, rfl, rfl⟩

/-- What a stretch of receiving does. -/
structure Passes (controller after : CodexController P) (newer : List WireEvent) : Prop where
  same : Same controller after
  moves : Wire.Moves controller.wire after.wire newer
  counted : controller.Counted →
    after.Counted ∧ controller.epoch.toNat ≤ after.epoch.toNat

/-- Passing composes, with the later events in front. -/
theorem Passes.trans {controller mid after : CodexController P}
    {early late : List WireEvent} (first : Passes controller mid early)
    (second : Passes mid after late) : Passes controller after (late ++ early) where
  same := first.same.trans second.same
  moves := first.moves.trans second.moves
  counted counted := by
    obtain ⟨midway, grown⟩ := first.counted counted
    obtain ⟨last, later⟩ := second.counted midway
    exact ⟨last, Nat.le_trans grown later⟩

/-- A change outside the transport and the epoch. -/
theorem Passes.still {controller after : CodexController P} (same : Same controller after)
    (transport : after.transport = controller.transport)
    (epoch : after.epoch = controller.epoch) : Passes controller after [] where
  same := same
  moves := by
    have wires : after.wire = controller.wire := congrArg CodexTransport.wire transport
    rw [wires]
    exact .refl _
  counted counted := by
    have wires : after.wire = controller.wire := congrArg CodexTransport.wire transport
    refine ⟨⟨?_, ?_⟩, Nat.le_of_eq (congrArg UInt64.toNat epoch.symm)⟩
    · rw [wires, epoch]
      exact counted.epoch
    · rw [wires]
      exact counted.within

/-- The counter is far from saturation. -/
theorem bumpEpoch_toNat {controller : CodexController P}
    (room : controller.epoch.toNat < maxStdout) :
    controller.bumpEpoch.epoch.toNat = controller.epoch.toNat + 1 := by
  have small : controller.epoch.toNat + 1 < 2 ^ 64 :=
    Nat.lt_of_le_of_lt room (by decide)
  simp only [bumpEpoch, small, if_true, UInt64.toNat_add, UInt64.toNat_one]
  exact Nat.mod_eq_of_lt small

variable [SerdeJson] [Blake3]

/-- What one receive does. -/
structure Receipt (controller after : CodexController P) (outcome : Except Error Received)
    (newer : List WireEvent) : Prop where
  passes : Passes controller after newer
  receives : Wire.Receives controller.wire outcome after.wire newer
  epoch : after.epoch = controller.epoch

/-- Whatever a controller receives is a receipt. -/
theorem receiveUntil_receipt {controller after : CodexController P} {deadline : Nat}
    {outcome : Except Error Received}
    (taken : controller.receiveUntil deadline = (outcome, after)) :
    ∃ newer, Receipt controller after outcome newer := by
  rcases read : controller.transport.receiveUntil deadline with ⟨result, transport⟩
  simp only [receiveUntil, read] at taken
  cases taken
  obtain ⟨newer, receives⟩ := CodexTransport.receiveUntil_receives read
  refine ⟨newer, ⟨.withTransport controller transport, receives.moves, fun counted => ?_⟩,
    receives, rfl⟩
  refine ⟨⟨?_, receives.moves.within counted.within⟩, Nat.le_refl _⟩
  have budget := receives.moves.budget
  have epoch := counted.epoch
  change controller.epoch.toNat + transport.wire.state.notifications.length ≤
    transport.wire.state.stdout
  change controller.wire.state.stdout + _ ≤ _ + controller.wire.state.notifications.length
    at budget
  omega

/-- A value that was received counts as a change. -/
theorem Receipt.bump {controller after : CodexController P} {received : Received}
    {newer : List WireEvent} (receipt : Receipt controller after (.ok received) newer) :
    Passes controller after.bumpEpoch newer ∧
      (controller.Counted → controller.epoch.toNat < after.bumpEpoch.epoch.toNat) := by
  have counts (counted : controller.Counted) :
      after.bumpEpoch.epoch.toNat = controller.epoch.toNat + 1 ∧ after.bumpEpoch.Counted := by
    have strict := receipt.receives.counted received rfl
    have within := receipt.receives.moves.within counted.within
    have epoch := counted.epoch
    have grown : after.bumpEpoch.epoch.toNat = controller.epoch.toNat + 1 := by
      rw [bumpEpoch_toNat (by rw [receipt.epoch]; omega), receipt.epoch]
    refine ⟨grown, ?_, within⟩
    rw [grown]
    change _ + after.wire.state.notifications.length ≤ after.wire.state.stdout
    omega
  refine ⟨⟨receipt.passes.same.trans (.bumpEpoch after), receipt.passes.moves,
    fun counted => ?_⟩, fun counted => ?_⟩
  · obtain ⟨grown, still⟩ := counts counted
    exact ⟨still, by omega⟩
  · obtain ⟨grown, _⟩ := counts counted
    omega

/-! ## Drains -/

private theorem drainLoop_passes {fuel : Nat} {controller after : CodexController P}
    {outcome : Except Error Unit} (drained : drainLoop fuel controller = (outcome, after)) :
    ∃ newer, Passes controller after newer := by
  induction fuel generalizing controller with
  | zero =>
      unfold drainLoop at drained
      rcases taken : controller.receiveUntil 0 with ⟨error | received, mid⟩
      · obtain ⟨newer, receipt⟩ := receiveUntil_receipt taken
        rw [taken] at drained
        have same : mid = after := by cases error <;> exact congrArg Prod.snd drained
        exact ⟨newer, same ▸ receipt.passes⟩
      · obtain ⟨newer, receipt⟩ := receiveUntil_receipt taken
        rw [taken] at drained
        cases drained
        exact ⟨newer, receipt.bump.1⟩
  | succ fuel inductionHypothesis =>
      unfold drainLoop at drained
      rcases taken : controller.receiveUntil 0 with ⟨error | received, mid⟩
      · obtain ⟨newer, receipt⟩ := receiveUntil_receipt taken
        rw [taken] at drained
        have same : mid = after := by cases error <;> exact congrArg Prod.snd drained
        exact ⟨newer, same ▸ receipt.passes⟩
      · obtain ⟨early, receipt⟩ := receiveUntil_receipt taken
        rw [taken] at drained
        obtain ⟨late, passes⟩ := inductionHypothesis drained
        exact ⟨late ++ early, receipt.bump.1.trans passes⟩

/-- Draining before a mutation only passes events. -/
theorem drainBeforeMutation_passes {controller after : CodexController P}
    {outcome : Except Error Unit}
    (drained : controller.drainBeforeMutation = (outcome, after)) :
    ∃ newer, Passes controller after newer :=
  drainLoop_passes drained

/-- A drain that leaves the epoch received nothing: its first receive ended it. -/
theorem drainBeforeMutation_first {controller after : CodexController P}
    {outcome : Except Error Unit} (counted : controller.Counted)
    (drained : controller.drainBeforeMutation = (outcome, after))
    (untouched : after.epoch = controller.epoch) :
    ∃ error, controller.receiveUntil 0 = (.error error, after) ∧
      outcome = if error = .deadline then .ok () else .error error := by
  unfold drainBeforeMutation drainLoop at drained
  rcases taken : controller.receiveUntil 0 with ⟨error | received, mid⟩
  · rw [taken] at drained
    have same : mid = after ∧
        outcome = if error = .deadline then .ok () else .error error := by
      cases error <;> (cases drained; exact ⟨rfl, rfl⟩)
    exact ⟨error, by rw [same.1], same.2⟩
  · exfalso
    obtain ⟨early, receipt⟩ := receiveUntil_receipt taken
    obtain ⟨passes, grown⟩ := receipt.bump
    have bumped := grown counted
    have later : mid.bumpEpoch.epoch.toNat ≤ after.epoch.toNat := by
      rw [taken] at drained
      cases fuel : controller.transport.fuel with
      | zero =>
          rw [fuel] at drained
          cases drained
          exact Nat.le_refl _
      | succ fuel' =>
          rw [fuel] at drained
          obtain ⟨late, rest⟩ := drainLoop_passes drained
          exact (rest.counted (passes.counted counted).1).2
    rw [untouched] at later
    omega

/-! ## Probes -/

/-- Waiting for a response only passes events. -/
theorem responseLoop_passes {fuel : Nat} {controller after : CodexController P}
    {outcome : Except Error (ThreadState × UInt64)}
    (looped : responseLoop fuel controller = (outcome, after)) :
    ∃ newer, Passes controller after newer := by
  induction fuel generalizing controller with
  | zero =>
      unfold responseLoop at looped
      rcases taken : controller.receiveUntil ioDeadline with ⟨error | received, mid⟩
      · obtain ⟨newer, receipt⟩ := receiveUntil_receipt taken
        rw [taken] at looped
        cases looped
        exact ⟨newer, receipt.passes⟩
      · obtain ⟨newer, receipt⟩ := receiveUntil_receipt taken
        rw [taken] at looped
        cases received <;> cases looped
        all_goals first
          | exact ⟨newer, receipt.passes⟩
          | exact ⟨newer, receipt.bump.1⟩
  | succ fuel inductionHypothesis =>
      unfold responseLoop at looped
      rcases taken : controller.receiveUntil ioDeadline with ⟨error | received, mid⟩
      · obtain ⟨newer, receipt⟩ := receiveUntil_receipt taken
        rw [taken] at looped
        cases looped
        exact ⟨newer, receipt.passes⟩
      · obtain ⟨early, receipt⟩ := receiveUntil_receipt taken
        rw [taken] at looped
        cases received with
        | notification notification =>
            obtain ⟨late, passes⟩ := inductionHypothesis looped
            exact ⟨late ++ early, receipt.bump.1.trans passes⟩
        | serverRequestRejected =>
            obtain ⟨late, passes⟩ := inductionHypothesis looped
            exact ⟨late ++ early, receipt.bump.1.trans passes⟩
        | _ =>
            cases looped
            exact ⟨early, receipt.passes⟩

/-- The response to an observation is the last event, it answers the outstanding request,
and it shows the state of the thread. -/
structure Responds (controller after : CodexController P) (state : ThreadState)
    (epoch : UInt64) : Prop where
  epoch : epoch = after.epoch
  response : ∃ pending line rest, pending ∈ controller.wire.state.pending ∧
    after.wire.pipes.log = .heard line :: rest ∧
    classify line = .ok (.response pending.id) ∧
    parseResponse line pending = .ok (.threadRead state)
  settled : after.wire.state.pending.length + 1 ≤ controller.wire.state.pending.length

/-- The state a wait returns was heard last, under the epoch it returns. -/
theorem responseLoop_responds {fuel : Nat} {controller after : CodexController P}
    {state : ThreadState} {epoch : UInt64}
    (looped : responseLoop fuel controller = (.ok (state, epoch), after)) :
    Responds controller after state epoch := by
  have ends {controller mid : CodexController P} {received : Received}
      (taken : controller.receiveUntil ioDeadline = (.ok received, mid))
      (read : received = .threadRead state) :
      Responds controller mid state mid.epoch := by
    subst read
    obtain ⟨newer, receipt⟩ := receiveUntil_receipt taken
    rcases receipt.receives.answered _ rfl with
      ⟨_, ⟨_, other⟩ | other⟩ | ⟨⟨pending, line, awaited, _, read, parsed, newest⟩, settled⟩
    · cases other
    · cases other
    · have member : pending ∈ controller.wire.state.pending :=
        List.mem_of_mem_head? (Option.mem_def.2 awaited)
      have some : 0 < controller.wire.state.pending.length := List.length_pos_of_mem member
      refine ⟨rfl, ⟨pending, line, newer.tail ++ controller.wire.pipes.log, member, ?_, read,
        parsed⟩, ?_⟩
      · rw [receipt.receives.moves.log]
        obtain ⟨rest, rfl⟩ := List.head?_eq_some_iff.1 (newest nofun)
        rfl
      · rw [settled, List.length_tail]
        omega
  induction fuel generalizing controller with
  | zero =>
      unfold responseLoop at looped
      rcases taken : controller.receiveUntil ioDeadline with ⟨error | received, mid⟩
      · rw [taken] at looped
        cases looped
      · rw [taken] at looped
        cases received <;> cases looped
        exact ends taken rfl
  | succ fuel inductionHypothesis =>
      unfold responseLoop at looped
      rcases taken : controller.receiveUntil ioDeadline with ⟨error | received, mid⟩
      · rw [taken] at looped
        cases looped
      · obtain ⟨early, receipt⟩ := receiveUntil_receipt taken
        have fewer := receipt.receives.moves.settled
        rw [taken] at looped
        have later (rest : responseLoop fuel mid.bumpEpoch = (.ok (state, epoch), after)) :
            Responds controller after state epoch := by
          obtain ⟨same, ⟨pending, line, older, member, log, read, parsed⟩, settled⟩ :=
            inductionHypothesis rest
          exact ⟨same, ⟨pending, line, older, fewer.subset member, log, read, parsed⟩,
            Nat.le_trans settled fewer.length_le⟩
        cases received with
        | notification notification => exact later looped
        | serverRequestRejected => exact later looped
        | threadRead read =>
            cases looped
            exact ends taken rfl
        | _ => cases looped

/-! ## Observations -/

/-- The controller an observation goes on or returns with. -/
def Observed.after : Observed P → CodexController P
  | .continues controller => controller
  | .reports outcome => outcome.2

omit [SerdeJson] [Blake3] in
/-- A report of a degraded observation receives nothing. -/
theorem degradedOnce_still (controller : CodexController P) :
    Passes controller controller.degradedOnce.2 [] := by
  unfold degradedOnce
  split_ifs <;> exact .still ⟨rfl, rfl, rfl, rfl, rfl, rfl⟩ rfl rfl

omit [SerdeJson] [Blake3] in
private theorem unknownOnce_still (controller : CodexController P) :
    Passes controller controller.unknownOnce.2 [] := by
  unfold unknownOnce
  split_ifs <;> exact .still ⟨rfl, rfl, rfl, rfl, rfl, rfl⟩ rfl rfl

omit [SerdeJson] [Blake3] in
private theorem observe_still (controller : CodexController P) (turnRef : PrivateNativeRef)
    (expectedThread expectedTurn : String) (notification : Notification) :
    Passes controller
      (Observed.after (controller.observe turnRef expectedThread expectedTurn notification)) [] := by
  cases notification with
  | signal => exact .still (.refl _) rfl rfl
  | turnStarted thread turn =>
      simp only [observe]
      split_ifs
      · exact .still ⟨rfl, rfl, rfl, rfl, rfl, rfl⟩ rfl rfl
      · exact .still (.refl _) rfl rfl
  | terminal thread turn nativeClass =>
      simp only [observe]
      split_ifs
      · exact .still ⟨rfl, rfl, rfl, rfl, rfl, rfl⟩ rfl rfl
      · exact degradedOnce_still controller
      · exact .still ⟨rfl, rfl, rfl, rfl, rfl, rfl⟩ rfl rfl
      · exact .still (.refl _) rfl rfl
  | degradedTerminal thread turn =>
      simp only [observe]
      split_ifs <;> exact .still (.refl _) rfl rfl

omit [SerdeJson] [Blake3] in
private theorem observeOther_still (controller : CodexController P)
    (outcome : Except Error Received) :
    Passes controller (controller.observeOther outcome).2 [] := by
  rcases outcome with error | received
  · cases error <;> simp only [observeOther]
    all_goals first
      | exact degradedOnce_still controller
      | exact unknownOnce_still controller
      | exact .still (.refl _) rfl rfl
      | skip
    all_goals
      split_ifs
      · exact unknownOnce_still controller
      · exact .still ⟨rfl, rfl, rfl, rfl, rfl, rfl⟩ rfl rfl
  · exact degradedOnce_still controller

/-- What follows the first receive of an observation: a notification is counted, and
anything else ends the observation where it was received. -/
inductive ObserveStep (controller after : CodexController P) : Prop
  | noticed {notification : Notification} {mid : CodexController P} {newer : List WireEvent}
      (taken : controller.receiveUntil 0 = (.ok (.notification notification), mid))
      (passes : Passes mid.bumpEpoch after newer)
  | ended {outcome : Except Error Received} {mid : CodexController P}
      (taken : controller.receiveUntil 0 = (outcome, mid))
      (other : ∀ notification, outcome ≠ .ok (.notification notification))
      (passes : Passes mid after [])

/-- A step of an observation only passes events. -/
theorem ObserveStep.passes {controller after : CodexController P}
    (step : ObserveStep controller after) : ∃ newer, Passes controller after newer := by
  cases step with
  | noticed taken passes =>
      obtain ⟨early, receipt⟩ := receiveUntil_receipt taken
      exact ⟨_, receipt.bump.1.trans passes⟩
  | ended taken other passes =>
      obtain ⟨early, receipt⟩ := receiveUntil_receipt taken
      exact ⟨_, receipt.passes.trans passes⟩

/-- One round of the loop, whatever the next rounds do. -/
private theorem observeLoop_round {turnRef : PrivateNativeRef}
    {expectedThread expectedTurn : String} {fuel : Nat}
    (rest : ∀ next : CodexController P, ∃ newer, Passes next
      (match fuel with
        | 0 => ((none : Option NativeTurnFact), next)
        | fuel + 1 => observeLoop turnRef expectedThread expectedTurn fuel next).2 newer)
    (controller : CodexController P) :
    ObserveStep controller
      (observeLoop turnRef expectedThread expectedTurn fuel controller).2 := by
  rcases taken : controller.receiveUntil 0 with ⟨outcome, mid⟩
  unfold observeLoop
  rw [taken]
  split
  · rename_i notification next same
    cases same
    have still := observe_still mid.bumpEpoch turnRef expectedThread expectedTurn notification
    generalize mid.bumpEpoch.observe turnRef expectedThread expectedTurn notification = seen
      at still
    cases seen with
    | continues next =>
        obtain ⟨newer, later⟩ := rest next
        exact .noticed taken (still.trans later)
    | reports result => exact .noticed taken still
  · rename_i other same
    cases same
    refine .ended taken (fun notification same => ?_) (observeOther_still _ _)
    exact other notification same

/-- An observation takes one step. -/
theorem observeLoop_step (turnRef : PrivateNativeRef) (expectedThread expectedTurn : String)
    (fuel : Nat) (controller : CodexController P) :
    ObserveStep controller
      (observeLoop turnRef expectedThread expectedTurn fuel controller).2 := by
  induction fuel generalizing controller with
  | zero => exact observeLoop_round (fun next => ⟨[], .still (.refl _) rfl rfl⟩) controller
  | succ fuel inductionHypothesis =>
      exact @observeLoop_round P _ _ turnRef expectedThread expectedTurn (fuel + 1)
        (fun next => (inductionHypothesis next).passes) controller

variable [Persist P]

/-- A poll receives nothing, or it observes. -/
inductive PollStep (controller after : CodexController P) : Prop
  | still (passes : Passes controller after [])
  | observed (step : ObserveStep controller after)

/-- A poll takes one step. -/
theorem pollExactObservation_step (controller : CodexController P) (scope : ObservationScope) :
    PollStep controller (controller.pollExactObservation scope).2 := by
  simp only [pollExactObservation]
  split_ifs
  · exact .still (.still (.refl _) rfl rfl)
  · exact .still (.still (.refl _) rfl rfl)
  unfold exactNotification
  split
  · exact .still (.still (.refl _) rfl rfl)
  split
  · simp only
    split_ifs
    · exact .still (.still ⟨rfl, rfl, rfl, rfl, rfl, rfl⟩ rfl rfl)
    · have cleared : Passes controller { controller with pendingTerminal := none } [] :=
        .still ⟨rfl, rfl, rfl, rfl, rfl, rfl⟩ rfl rfl
      exact .still (cleared.trans (degradedOnce_still _))
  · split
    · exact .still (degradedOnce_still _)
    · split
      · exact .still (degradedOnce_still _)
      · exact .observed (observeLoop_step _ _ _ _ _)

omit [Persist P] in
/-- A step of a poll only passes events. -/
theorem PollStep.passes {controller after : CodexController P}
    (step : PollStep controller after) : ∃ newer, Passes controller after newer := by
  cases step with
  | still passes => exact ⟨[], passes⟩
  | observed step => exact step.passes

/-! ## A whole probe -/

/-- What a probe does: it is turned away, it stops before the observation or after it, or
the observation shows an idle thread and nothing is received after it. -/
inductive ProbeStep (controller : CodexController P) (scope : IdleProbeScope)
    (observedAt : OffsetDateTime) :
    Except ControllerProbeError IdleProbeResult → CodexController P → Prop
  | rejected :
      ProbeStep controller scope observedAt (.error .bindingRejected) controller
  | stopped {result : Except ControllerProbeError IdleProbeResult}
      {drained : Except Error Unit} {after : CodexController P}
      (drain : controller.drainBeforeMutation = (drained, after))
      (unproven : ∀ observation lane, result ≠ .ok (.idle observation lane)) :
      ProbeStep controller scope observedAt result after
  | asked {result : Except ControllerProbeError IdleProbeResult}
      {drained : Except Error Unit} {mid after : CodexController P} {thread : NativeRef}
      {outcome : Except Error Unit} {transport : CodexTransport} {newer : List WireEvent}
      (drain : controller.drainBeforeMutation = (drained, mid))
      (read : mid.transport.readThread thread = (outcome, transport))
      (passes : Passes (mid.withTransport transport) after newer)
      (unproven : ∀ observation lane, result ≠ .ok (.idle observation lane)) :
      ProbeStep controller scope observedAt result after
  | idle {drained : Except Error Unit} {mid shown after : CodexController P}
      {thread : NativeRef} {transport : CodexTransport} {responseEpoch : UInt64}
      (bound : scope.binding.attachment.birthId = controller.birth.birthId ∧
        scope.binding.threadRef = controller.threadRef)
      (free : controller.laneProbe = none)
      (drain : controller.drainBeforeMutation = (drained, mid))
      (read : mid.transport.readThread thread = (.ok (), transport))
      (response : responseLoop transport.fuel (mid.withTransport transport) =
        (.ok (.idle, responseEpoch), shown))
      (quiet : shown.drainBeforeMutation = (.ok (), after))
      (current : after.epoch = responseEpoch) :
      ProbeStep controller scope observedAt
        (.ok (.idle (.idle scope.binding scope.binding.challengeId
          ⟨after.birth.birthId, responseEpoch⟩ observedAt)
          ⟨scope.binding.challengeId, ⟨after.birth.birthId, responseEpoch⟩⟩))
        { after with laneProbe := some scope.binding.challengeId }

/-- A probe takes one step. -/
theorem probeIdle_step (controller : CodexController P) (scope : IdleProbeScope)
    (observedAt : OffsetDateTime) :
    ProbeStep controller scope observedAt (controller.probeIdle scope observedAt).1
      (controller.probeIdle scope observedAt).2 := by
  by_cases mismatch : scope.binding.attachment.birthId ≠ controller.birth.birthId ∨
    scope.binding.threadRef ≠ controller.threadRef ∨ controller.laneProbe ≠ none
  · have turned : controller.probeIdle scope observedAt =
        (.error .bindingRejected, controller) := if_pos mismatch
    rw [turned]
    exact .rejected
  unfold probeIdle
  dsimp only
  rw [if_neg mismatch]
  simp only [not_or, not_not] at mismatch
  obtain ⟨birth, threadRef, free⟩ := mismatch
  rcases drain : controller.drainBeforeMutation with ⟨error | done, mid⟩
  · exact .stopped drain (by simp)
  simp only [observeThread]
  cases opened : mid.openedThread with
  | error error => exact .stopped drain (by simp)
  | ok thread =>
      rcases read : mid.transport.readThread thread with ⟨error | asked, transport⟩
      · simp only [read]
        exact .asked drain read (.still (.refl _) rfl rfl) (by simp)
      simp only [read]
      rcases response : responseLoop (mid.withTransport transport).transport.fuel
        (mid.withTransport transport) with ⟨error | ⟨state, responseEpoch⟩, shown⟩
      · obtain ⟨newer, passes⟩ := responseLoop_passes response
        exact .asked drain read passes (by simp)
      obtain ⟨early, first⟩ := responseLoop_passes response
      simp only [concludeProbe]
      rcases quiet : shown.drainBeforeMutation with ⟨drained, after⟩
      obtain ⟨late, second⟩ := drainBeforeMutation_passes quiet
      have passes := first.trans second
      simp only
      split_ifs with moved failed
      · exact .asked drain read passes (by simp)
      · exact .asked drain read passes (by simp)
      · obtain rfl := not_not.1 failed
        cases state with
        | idle => exact .idle ⟨birth, threadRef⟩ free drain read response quiet (not_not.1 moved)
        | activeTurn prehash => exact .asked drain read passes (by simp)
        | unproven => exact .asked drain read passes (by simp)

/-! ## Sealing -/

/-- A turn's reference is sealed as the store sealed it. -/
def SealedTurn (persist : P) (scope : NativeCoordinateScope) (turn : NativeRef)
    (draws : List PrivateNativeRef) (turnRef : PrivateNativeRef) : Prop :=
  ∃ secret, SecretNativeCoordinate.new .turn turn.text = .ok secret ∧
    (Persist.sealNativeCoordinate scope secret draws persist).1 = .ok turnRef

omit [SerdeJson] [Blake3] in
/-- Sealing a turn changes the store alone, and says what it sealed. -/
theorem sealTurn_sealed {controller after : CodexController P} {scope : NativeCoordinateScope}
    {turn : NativeRef} {draws : List PrivateNativeRef} {outcome : Except Error PrivateNativeRef}
    (done : controller.sealTurn scope turn draws = (outcome, after)) :
    (∃ persist, after = { controller with persist }) ∧
      ∀ turnRef, outcome = .ok turnRef →
        SealedTurn controller.persist scope turn draws turnRef := by
  unfold sealTurn at done
  split at done
  · cases done
    exact ⟨⟨_, rfl⟩, nofun⟩
  · rename_i secret valid
    split at done
    · cases done
      exact ⟨⟨_, rfl⟩, nofun⟩
    · rename_i turnRef persist stored
      cases done
      refine ⟨⟨_, rfl⟩, fun same equal => ⟨secret, valid, ?_⟩⟩
      cases equal
      rw [stored]

/-! ## Writing -/

/-- What a dispatch does, by what the pipe and the server answer. -/
inductive DispatchStep (controller : CodexController P) (command : ControllerCommand)
    (id : Nat) (draws : List PrivateNativeRef) :
    NativeWriteDisposition → CodexController P → Prop
  | failed {failure : WriteFailure} {transport : CodexTransport}
      (sent : controller.transport.dispatchPreparedTurn id = (.error failure, transport)) :
      DispatchStep controller command id draws (failedWriteDisposition failure)
        { (controller.withTransport transport).clearLane with
          reconciling := if failedWriteDisposition failure = .unknown then
            some command.correlation else controller.reconciling }
  | accepted {receipt : WriteReceipt} {transport : CodexTransport}
      {mid : CodexController P} {turn : NativeRef} {turnRef : PrivateNativeRef} {persist : P}
      (sent : controller.transport.dispatchPreparedTurn id = (.ok receipt, transport))
      (taken : (controller.withTransport transport).receiveUntil ioDeadline =
        (.ok (.turnStarted turn), mid))
      (stored : SealedTurn controller.persist command.turnScope turn draws turnRef) :
      DispatchStep controller command id draws (.accepted turnRef)
        (clearLane { mid with persist, reconciling := none })
  | refused {receipt : WriteReceipt} {transport : CodexTransport} {mid : CodexController P}
      (sent : controller.transport.dispatchPreparedTurn id = (.ok receipt, transport))
      (taken : (controller.withTransport transport).receiveUntil ioDeadline =
        (.error .native, mid)) :
      DispatchStep controller command id draws .provenNotAccepted
        (clearLane { mid with reconciling := none })
  | unknown {receipt : WriteReceipt} {transport : CodexTransport} {mid : CodexController P}
      {outcome : Except Error Received} {persist : P}
      (sent : controller.transport.dispatchPreparedTurn id = (.ok receipt, transport))
      (taken : (controller.withTransport transport).receiveUntil ioDeadline =
        (outcome, mid)) :
      DispatchStep controller command id draws .unknown
        (clearLane { mid with persist, reconciling := some command.correlation })

omit [SerdeJson] [Blake3] in
private theorem failedWriteDisposition_cases (failure : WriteFailure) :
    failedWriteDisposition failure = .unknown ∨
      failedWriteDisposition failure = .provenNotAccepted := by
  unfold failedWriteDisposition
  split_ifs
  · exact Or.inr rfl
  · exact Or.inl rfl

omit [SerdeJson] [Blake3] in
/-- A write is concluded as accepted only by a response whose turn was sealed. -/
theorem concludeWrite_cases (controller : CodexController P) (command : ControllerCommand)
    (received : Except Error Received) (draws : List PrivateNativeRef) :
    (∃ turn turnRef persist, received = .ok (.turnStarted turn) ∧
        SealedTurn controller.persist command.turnScope turn draws turnRef ∧
        controller.concludeWrite command received draws =
          (.accepted turnRef, { controller with persist })) ∨
      (received = .error .native ∧
        controller.concludeWrite command received draws = (.provenNotAccepted, controller)) ∨
      ∃ persist, controller.concludeWrite command received draws =
        (.unknown, { controller with persist }) := by
  unfold concludeWrite
  split
  · rename_i turn
    rcases done : controller.sealTurn command.turnScope turn draws with ⟨error | turnRef, last⟩
    · obtain ⟨⟨persist, rfl⟩, _⟩ := sealTurn_sealed done
      exact Or.inr (Or.inr ⟨persist, rfl⟩)
    · obtain ⟨⟨persist, rfl⟩, stored⟩ := sealTurn_sealed done
      exact Or.inl ⟨turn, turnRef, persist, rfl, stored turnRef rfl, rfl⟩
  · exact Or.inr (Or.inl ⟨rfl, rfl⟩)
  · exact Or.inr (Or.inr ⟨controller.persist, rfl⟩)

/-- Dispatching a turn takes one step. -/
theorem dispatchTurn_step (controller : CodexController P) (command : ControllerCommand)
    (id : Nat) (draws : List PrivateNativeRef) :
    DispatchStep controller command id draws
      (controller.dispatchTurn command id draws).1
      (controller.dispatchTurn command id draws).2 := by
  unfold dispatchTurn
  rcases sent : controller.transport.dispatchPreparedTurn id with
    ⟨failure | receipt, transport⟩
  · have step := @DispatchStep.failed P _ _ _ controller command id draws failure transport sent
    rcases failedWriteDisposition_cases failure with same | same
    · rw [if_pos same, same] at step
      simp only [same, if_true]
      exact step
    · rw [if_neg (by rw [same]; nofun), same] at step
      simp only [same, reduceCtorEq, if_false]
      exact step
  · rcases taken : (controller.withTransport transport).receiveUntil ioDeadline with
      ⟨outcome, mid⟩
    obtain ⟨newer, receipt'⟩ := receiveUntil_receipt taken
    have kept : mid.persist = controller.persist := receipt'.passes.same.persist
    simp only [taken]
    rcases mid.concludeWrite_cases command outcome draws with
      ⟨turn, turnRef, persist, rfl, stored, same⟩ | ⟨rfl, same⟩ | ⟨persist, same⟩
    · rw [same]
      exact @DispatchStep.accepted P _ _ _ controller command id draws receipt transport mid
        turn turnRef persist sent taken (kept ▸ stored)
    · rw [same]
      exact .refused sent taken
    · rw [same]
      exact @DispatchStep.unknown P _ _ _ controller command id draws receipt transport mid
        outcome persist sent taken

/-- What a write does: it is turned away before the turn is prepared, it is withheld after
that, or the prepared turn is dispatched. -/
inductive WriteStep (controller : CodexController P) (lane : ControllerIdleGuard)
    (command : ControllerCommand) (finalNow : OffsetDateTime)
    (draws : List PrivateNativeRef) :
    Except ControllerWriteError NativeWriteDisposition → CodexController P → Prop
  | rejected :
      WriteStep controller lane command finalNow draws (.error .bindingRejected)
        controller.clearLane
  | unopened :
      WriteStep controller lane command finalNow draws (.ok .provenNotAccepted)
        controller.clearLane
  | unprepared {thread : NativeRef} {error : Error} {transport : CodexTransport}
      (prepared : controller.transport.prepareTurnFrame thread command.fixedTurn =
        (.error error, transport)) :
      WriteStep controller lane command finalNow draws (.ok .provenNotAccepted)
        (controller.withTransport transport).clearLane
  | withheld {thread : NativeRef} {id : Nat} {transport : CodexTransport}
      {drained : Except Error Unit} {mid : CodexController P}
      {outcome : Except ControllerWriteError NativeWriteDisposition}
      (prepared : controller.transport.prepareTurnFrame thread command.fixedTurn =
        (.ok id, transport))
      (drain : (controller.withTransport transport).drainBeforeMutation = (drained, mid))
      (unwritten : outcome = .error .bindingRejected ∨ outcome = .ok .provenNotAccepted ∨
        outcome = .ok (.idleEpochInvalidated command.expectedProbeId command.expectedEpoch
          mid.mutationEpoch)) :
      WriteStep controller lane command finalNow draws outcome mid.discardPreparedTurn.clearLane
  | dispatched {thread : NativeRef} {id : Nat} {transport : CodexTransport}
      {mid after : CodexController P} {disposition : NativeWriteDisposition}
      (held : controller.laneProbe = some command.expectedProbeId)
      (issued : lane = ⟨command.expectedProbeId, command.expectedEpoch⟩)
      (opened : controller.openedThread = .ok thread)
      (prepared : controller.transport.prepareTurnFrame thread command.fixedTurn =
        (.ok id, transport))
      (drain : (controller.withTransport transport).drainBeforeMutation = (.ok (), mid))
      (current : mid.mutationEpoch = command.expectedEpoch)
      (bound : command.validateImmutableBinding mid.birth mid.threadRef = true)
      (leased : command.leaseIsCurrent mid.birth finalNow = true)
      (step : DispatchStep mid command id draws disposition after) :
      WriteStep controller lane command finalNow draws (.ok disposition) after

/-- A write takes one step. -/
theorem writeReservedTurn_step (controller : CodexController P) (lane : ControllerIdleGuard)
    (command : ControllerCommand) (finalNow : OffsetDateTime) (draws : List PrivateNativeRef) :
    WriteStep controller lane command finalNow draws
      (controller.writeReservedTurn lane command finalNow draws).1
      (controller.writeReservedTurn lane command finalNow draws).2 := by
  by_cases mismatch : controller.laneProbe ≠ some command.expectedProbeId ∨
    lane.probeId ≠ command.expectedProbeId ∨ lane.epoch ≠ command.expectedEpoch
  · have turned : controller.writeReservedTurn lane command finalNow draws =
        (.error .bindingRejected, controller.clearLane) := if_pos mismatch
    rw [turned]
    exact .rejected
  unfold writeReservedTurn
  dsimp only [ControllerCommand.expectedProbe]
  rw [if_neg mismatch]
  simp only [not_or, not_not] at mismatch
  obtain ⟨held, probe, epoch⟩ := mismatch
  cases opened : controller.openedThread with
  | error error => exact .unopened
  | ok thread =>
      rcases prepared : controller.transport.prepareTurnFrame thread command.fixedTurn with
        ⟨error | id, transport⟩
      · simp only [prepared]
        exact .unprepared prepared
      · rcases drain : (controller.withTransport transport).drainBeforeMutation with
          ⟨error | done, mid⟩
        · simp only [prepared, drain]
          exact .withheld prepared drain (Or.inr (Or.inl rfl))
        · simp only [prepared, drain, finishWrite]
          split_ifs with moved unbound expired
          · exact .withheld prepared drain (Or.inr (Or.inr rfl))
          · exact .withheld prepared drain (Or.inl rfl)
          · exact .withheld prepared drain (Or.inr (Or.inl rfl))
          · refine .dispatched held ?_ opened prepared drain (not_not.1 moved) ?_ ?_
              (dispatchTurn_step mid command id draws)
            · rw [← probe, ← epoch]
            · simpa using unbound
            · simpa using expired

/-! ## Reconciling -/

omit [SerdeJson] [Blake3] in
/-- A reconciliation accepts only a response whose turn was sealed. -/
theorem concludeReconciliation_cases (controller : CodexController P)
    (scope : ReconciliationScope) (received : Except Error Received)
    (draws : List PrivateNativeRef) :
    (∃ turn turnRef persist, received = .ok (.turnStarted turn) ∧
        SealedTurn controller.persist scope.turnScope turn draws turnRef ∧
        controller.concludeReconciliation scope received draws =
          (.accepted turnRef, { controller with persist })) ∨
      (received = .error .native ∧
        controller.concludeReconciliation scope received draws =
          (.provenNotAccepted, controller)) ∨
      ∃ persist, controller.concludeReconciliation scope received draws =
        (.unknown, { controller with persist }) := by
  unfold concludeReconciliation
  split
  · rename_i turn
    rcases done : controller.sealTurn scope.turnScope turn draws with ⟨error | turnRef, last⟩
    · obtain ⟨⟨persist, rfl⟩, _⟩ := sealTurn_sealed done
      exact Or.inr (Or.inr ⟨persist, rfl⟩)
    · obtain ⟨⟨persist, rfl⟩, stored⟩ := sealTurn_sealed done
      exact Or.inl ⟨turn, turnRef, persist, rfl, stored turnRef rfl, rfl⟩
  · exact Or.inr (Or.inl ⟨rfl, rfl⟩)
  · exact Or.inr (Or.inr ⟨controller.persist, rfl⟩)

/-- What a reconciliation does over the store its recovery leaves: it is turned away, or
one value is received and judged. -/
inductive ReconcileStep (controller : CodexController P) (scope : ReconciliationScope)
    (draws : List PrivateNativeRef) (store : P) :
    Except ControllerReconcileError ReconciliationDisposition → CodexController P → Prop
  | rejected :
      ReconcileStep controller scope draws store (.error .bindingRejected)
        { controller with persist := store }
  | accepted {persist : P} {mid : CodexController P} {turn : NativeRef}
      {turnRef : PrivateNativeRef}
      (matched : ∀ expected, controller.reconciling = some expected →
        expected = scope.correlation)
      (taken : receiveUntil { controller with persist := store } 0 =
        (.ok (.turnStarted turn), mid))
      (stored : SealedTurn store scope.turnScope turn draws turnRef) :
      ReconcileStep controller scope draws store (.ok (.accepted turnRef))
        { mid with persist }
  | refused {mid : CodexController P}
      (matched : ∀ expected, controller.reconciling = some expected →
        expected = scope.correlation)
      (taken : receiveUntil { controller with persist := store } 0 = (.error .native, mid)) :
      ReconcileStep controller scope draws store (.ok .provenNotAccepted) mid
  | unknown {persist : P} {mid : CodexController P} {outcome : Except Error Received}
      (taken : receiveUntil { controller with persist := store } 0 = (outcome, mid)) :
      ReconcileStep controller scope draws store (.ok .unknown) { mid with persist }

/-- A reconciliation takes one step. -/
theorem reconcileExact_step (controller : CodexController P) (scope : ReconciliationScope)
    (verifiers : List VerifierRef) (draws : List PrivateNativeRef) :
    ReconcileStep controller scope draws
      (Persist.recoverAuthorityState verifiers controller.persist).2
      (controller.reconcileExact scope verifiers draws).1
      (controller.reconcileExact scope verifiers draws).2 := by
  simp only [reconcileExact]
  generalize Persist.recoverAuthorityState verifiers controller.persist = recovery
  obtain ⟨recovered, store⟩ := recovery
  simp only
  split_ifs with mismatch
  · exact .rejected
  have matched (expected : PersistedTurnCorrelation)
      (known : controller.reconciling = some expected) : expected = scope.correlation := by
    by_contra other
    exact mismatch (Or.inl (by simp [known, other]))
  rcases taken : receiveUntil { controller with persist := store } 0 with ⟨outcome, mid⟩
  obtain ⟨newer, receipt⟩ := receiveUntil_receipt taken
  have kept : mid.persist = store := receipt.passes.same.persist
  rcases mid.concludeReconciliation_cases scope outcome draws with
    ⟨turn, turnRef, persist, rfl, stored, same⟩ | ⟨rfl, same⟩ | ⟨persist, same⟩
  · rw [same]
    exact .accepted matched taken (kept ▸ stored)
  · rw [same]
    exact .refused matched taken
  · rw [same]
    exact .unknown taken

end CodexController
end Codex
end Gearwit
