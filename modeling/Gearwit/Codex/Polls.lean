import Gearwit.Codex.Observations
import Gearwit.Codex.Reports

/-!
# Polls of a run

The polls of one scope report the start and the end of its turn at most once each, in this
order, whatever the server sends and whatever else is done between them.
-/

namespace Gearwit
namespace Codex

open Transport

/-! ## Everything else -/

section Others

namespace CodexController

variable {P : Type} [SerdeJson] [Blake3]

private theorem drainLoop_unpolled (fuel : Nat) (controller : CodexController P) :
    Unpolled controller (drainLoop fuel controller).2 := by
  induction fuel generalizing controller with
  | zero =>
      unfold drainLoop
      split
      · exact receiveUntil_unpolled ‹_›
      · exact receiveUntil_unpolled ‹_›
      · exact (receiveUntil_unpolled ‹_›).trans (bumpEpoch_unpolled _)
  | succ fuel inductionHypothesis =>
      unfold drainLoop
      split
      · exact receiveUntil_unpolled ‹_›
      · exact receiveUntil_unpolled ‹_›
      · exact ((receiveUntil_unpolled ‹_›).trans (bumpEpoch_unpolled _)).trans
          (inductionHypothesis _)

private theorem responseLoop_unpolled (fuel : Nat) (controller : CodexController P) :
    Unpolled controller (responseLoop fuel controller).2 := by
  induction fuel generalizing controller with
  | zero =>
      unfold responseLoop
      split
      · exact receiveUntil_unpolled ‹_›
      · exact (receiveUntil_unpolled ‹_›).trans (bumpEpoch_unpolled _)
      · exact (receiveUntil_unpolled ‹_›).trans (bumpEpoch_unpolled _)
      · exact receiveUntil_unpolled ‹_›
      · exact receiveUntil_unpolled ‹_›
  | succ fuel inductionHypothesis =>
      unfold responseLoop
      split
      · exact receiveUntil_unpolled ‹_›
      · exact ((receiveUntil_unpolled ‹_›).trans (bumpEpoch_unpolled _)).trans
          (inductionHypothesis _)
      · exact ((receiveUntil_unpolled ‹_›).trans (bumpEpoch_unpolled _)).trans
          (inductionHypothesis _)
      · exact receiveUntil_unpolled ‹_›
      · exact receiveUntil_unpolled ‹_›

private theorem drainBeforeMutation_unpolled {after : CodexController P}
    {outcome : Except Error Unit} {controller : CodexController P}
    (drained : controller.drainBeforeMutation = (outcome, after)) :
    Unpolled controller after := by
  have unpolled := drainLoop_unpolled controller.transport.fuel controller
  rw [drainBeforeMutation] at drained
  rwa [drained] at unpolled

variable [Persist P]

private theorem observeThread_unpolled (controller : CodexController P) :
    Unpolled controller controller.observeThread.2 := by
  unfold observeThread
  split
  · exact .refl _
  · simp only
    split
    · exact ⟨rfl, rfl, rfl, rfl, rfl, rfl⟩
    · exact (⟨rfl, rfl, rfl, rfl, rfl, rfl⟩ : Unpolled controller
        (controller.withTransport (controller.transport.readThread _).2)).trans
          (responseLoop_unpolled _ _)

private theorem probeIdle_unpolled (controller : CodexController P) (scope : IdleProbeScope)
    (observedAt : OffsetDateTime) :
    Unpolled controller (controller.probeIdle scope observedAt).2 := by
  simp only [probeIdle]
  split_ifs
  · exact .refl _
  split
  · exact drainBeforeMutation_unpolled ‹_›
  · rename_i mid drained
    have watched := observeThread_unpolled mid
    split
    · rename_i error after observed
      rw [observed] at watched
      exact (drainBeforeMutation_unpolled drained).trans watched
    · rename_i state epoch after observed
      rw [observed] at watched
      refine ((drainBeforeMutation_unpolled drained).trans watched).trans ?_
      simp only [concludeProbe]
      have quiet : Unpolled after after.drainBeforeMutation.2 :=
        drainBeforeMutation_unpolled (Prod.mk.eta).symm
      split_ifs
      · exact quiet
      · exact quiet
      · cases state
        · exact quiet.trans ⟨rfl, rfl, rfl, rfl, rfl, rfl⟩
        · exact quiet
        · exact quiet

private theorem DispatchStep.unpolled {controller after : CodexController P}
    {command : ControllerCommand} {id : Nat} {draws : List PrivateNativeRef}
    {disposition : NativeWriteDisposition}
    (step : DispatchStep controller command id draws disposition after) :
    Unpolled controller after := by
  cases step with
  | failed sent => exact ⟨rfl, rfl, rfl, rfl, rfl, rfl⟩
  | accepted sent taken stored =>
      have unpolled := receiveUntil_unpolled taken
      exact ⟨unpolled.1, unpolled.2, unpolled.3, unpolled.4, unpolled.5, unpolled.6⟩
  | refused sent taken =>
      have unpolled := receiveUntil_unpolled taken
      exact ⟨unpolled.1, unpolled.2, unpolled.3, unpolled.4, unpolled.5, unpolled.6⟩
  | unknown sent taken =>
      have unpolled := receiveUntil_unpolled taken
      exact ⟨unpolled.1, unpolled.2, unpolled.3, unpolled.4, unpolled.5, unpolled.6⟩

private theorem WriteStep.unpolled {controller after : CodexController P}
    {lane : ControllerIdleGuard} {command : ControllerCommand} {finalNow : OffsetDateTime}
    {draws : List PrivateNativeRef}
    {result : Except ControllerWriteError NativeWriteDisposition}
    (step : WriteStep controller lane command finalNow draws result after) :
    Unpolled controller after := by
  cases step with
  | rejected => exact ⟨rfl, rfl, rfl, rfl, rfl, rfl⟩
  | unopened => exact ⟨rfl, rfl, rfl, rfl, rfl, rfl⟩
  | unprepared prepared => exact ⟨rfl, rfl, rfl, rfl, rfl, rfl⟩
  | withheld prepared drain unwritten =>
      have unpolled := drainBeforeMutation_unpolled drain
      exact ⟨unpolled.1, unpolled.2, unpolled.3, unpolled.4, unpolled.5, unpolled.6⟩
  | dispatched held issued opened prepared drain current bound leased step =>
      have unpolled := drainBeforeMutation_unpolled drain
      exact Unpolled.trans
        ⟨unpolled.1, unpolled.2, unpolled.3, unpolled.4, unpolled.5, unpolled.6⟩ step.unpolled

private theorem ReconcileStep.unpolled {controller after : CodexController P}
    {scope : ReconciliationScope} {draws : List PrivateNativeRef} {store : P}
    {result : Except ControllerReconcileError ReconciliationDisposition}
    (step : ReconcileStep controller scope draws store result after) :
    Unpolled controller after := by
  cases step with
  | rejected => exact ⟨rfl, rfl, rfl, rfl, rfl, rfl⟩
  | accepted matched taken stored =>
      have unpolled := receiveUntil_unpolled taken
      exact ⟨unpolled.1, unpolled.2, unpolled.3, unpolled.4, unpolled.5, unpolled.6⟩
  | refused matched taken =>
      have unpolled := receiveUntil_unpolled taken
      exact ⟨unpolled.1, unpolled.2, unpolled.3, unpolled.4, unpolled.5, unpolled.6⟩
  | unknown taken =>
      have unpolled := receiveUntil_unpolled taken
      exact ⟨unpolled.1, unpolled.2, unpolled.3, unpolled.4, unpolled.5, unpolled.6⟩

/-- Nothing was polled for yet. -/
structure Unobserved (controller : CodexController P) : Prop where
  startedTurn : controller.startedTurn = none
  pendingTerminal : controller.pendingTerminal = none
  terminal : controller.terminal = false
  lostReported : controller.lostReported = false

private theorem createOwned_unobserved {persist : P} {surroundings : Surroundings}
    {reservation reserved : ControllerBirthReservation} {draws : List PrivateNativeRef}
    {controller : CodexController P}
    (made : (createOwned persist surroundings reservation draws).1 =
      .owned reserved controller) : Unobserved controller := by
  simp only [createOwned] at made
  repeat' split at made
  all_goals cases made
  exact ⟨rfl, rfl, rfl, rfl⟩

private theorem receiveLate_unobserved {quarantine : QuarantinedCreate P}
    {reservation reserved : QuarantinedBirthReservation} {draws : List PrivateNativeRef}
    {controller : CodexController P}
    (made : (quarantine.receiveLate reservation draws).1 = .owned reserved controller) :
    Unobserved controller := by
  simp only [QuarantinedCreate.receiveLate, QuarantinedCreate.own] at made
  repeat' split at made
  all_goals cases made
  all_goals exact ⟨rfl, rfl, rfl, rfl⟩

private theorem resumeOwned_unobserved {persist : P} {surroundings : Surroundings}
    {birth : ControllerBirthBinding} {createAttemptId : RequestNonce}
    {threadRef : PrivateNativeRef} {controller : CodexController P}
    (made : resumeOwned persist surroundings birth createAttemptId threadRef =
      .ok controller) : Unobserved controller := by
  simp only [resumeOwned] at made
  repeat' split at made
  all_goals cases made
  exact ⟨rfl, rfl, rfl, rfl⟩

omit [Persist P] [SerdeJson] [Blake3] in
/-- The controller of a new thread tracks that nothing was polled. -/
private theorem Unobserved.tracks {controller : CodexController P}
    (unobserved : Unobserved controller) (turnRef : PrivateNativeRef) :
    Tracks turnRef controller [] [] ∧ Clear turnRef controller := by
  obtain ⟨startedTurn, pendingTerminal, terminal, lostReported⟩ := unobserved
  have unbegun : controller.startedTurn ≠ some turnRef := by
    rw [startedTurn]
    intro same
    cases same
  refine ⟨?_, fun begun => absurd begun unbegun⟩
  exact
    { began := iff_of_false unbegun fun began => by
        obtain ⟨item, member, _⟩ := began
        cases member
      started := (if_neg unbegun).symm
      parked := by
        rw [pendingTerminal, terminal]
        rfl
      ended := fun ended => by
        rw [terminal] at ended
        cases ended
      unended := fun _ => rfl
      ordered := .nil turnRef
      lost := fun member => by cases member
      lostLast := .nil
      settled := fun _ begun => absurd begun unbegun }

end CodexController

end Others

/-! ## Runs -/

section Runs

variable {P : Type} [Persist P] [SerdeJson] [Blake3]

/-- One poll of a controller: what it heard and reported, and the transport before and
after. -/
structure Poll where
  before : CodexTransport
  heard : List HeardItem
  fact : Option NativeTurnFact
  after : CodexTransport

/-- The poll that an operation is. -/
def CodexDesk.polls (desk : CodexDesk P) : CodexOp P → List Poll
  | .poll scope =>
      match desk.party with
      | .owned controller =>
          let (fact, after) := controller.pollExactObservation scope
          [⟨controller.transport, controller.polled scope, fact, after.transport⟩]
      | _ => []
  | _ => []

/-- What an operation does to the controller of the desk: there is none, it is new, its
flags are left alone, or it polls. -/
inductive CodexDesk.Turned (desk : CodexDesk P) (op : CodexOp P) : Prop
  | unowned (before : ∀ controller, desk.party ≠ .owned controller)
      (unpolled : desk.polls op = [])
      (after : ∀ controller, (desk.step op).party ≠ .owned controller)
  | seated {controller : CodexController P}
      (before : ∀ controller, desk.party ≠ .owned controller)
      (unpolled : desk.polls op = []) (after : (desk.step op).party = .owned controller)
      (unobserved : controller.Unobserved)
  | handed {controller next : CodexController P} (before : desk.party = .owned controller)
      (unpolled : desk.polls op = []) (after : (desk.step op).party = .owned next)
      (left : Unpolled controller next)
  | polled {controller : CodexController P} {scope : ObservationScope} (same : op = .poll scope)
      (before : desk.party = .owned controller)
      (once : desk.polls op = [⟨controller.transport, controller.polled scope,
        (controller.pollExactObservation scope).1,
        (controller.pollExactObservation scope).2.transport⟩])
      (after : (desk.step op).party = .owned (controller.pollExactObservation scope).2)

namespace CodexDesk

/-- An operation the party does not have. -/
private theorem Turned.nothing {desk : CodexDesk P} {op : CodexOp P}
    (same : desk.step op = desk) (unpolled : desk.polls op = []) : desk.Turned op := by
  cases party : desk.party with
  | owned controller => exact .handed party unpolled (by rw [same, party]) (.refl _)
  | vacant persist log =>
      exact .unowned (by rw [party]; intro _ same; cases same) unpolled
        (by rw [same, party]; intro _ same; cases same)
  | quarantined quarantine =>
      exact .unowned (by rw [party]; intro _ same; cases same) unpolled
        (by rw [same, party]; intro _ same; cases same)

private theorem create_turned (desk : CodexDesk P) (surroundings : Surroundings)
    (reservation : ControllerBirthReservation) (draws : List PrivateNativeRef) :
    desk.Turned (.create surroundings reservation draws) := by
  cases party : desk.party with
  | quarantined quarantine => exact .nothing (by simp only [step, perform, party]) rfl
  | owned controller => exact .nothing (by simp only [step, perform, party]) rfl
  | vacant persist log =>
      have before (controller : CodexController P) : desk.party ≠ .owned controller := by
        rw [party]
        intro same
        cases same
      rcases made : CodexController.createOwned persist surroundings reservation draws with
        ⟨outcome, childLog⟩
      cases outcome with
      | owned reserved controller =>
          exact .seated before rfl (by simp only [step, perform, party, made]; rfl)
            (CodexController.createOwned_unobserved (congrArg Prod.fst made))
      | _ =>
          refine .unowned before rfl fun controller same => ?_
          simp only [step, perform, party, made] at same
          cases same

private theorem resume_turned (desk : CodexDesk P) (surroundings : Surroundings)
    (birth : ControllerBirthBinding) (createAttemptId : RequestNonce)
    (threadRef : PrivateNativeRef) :
    desk.Turned (.resume surroundings birth createAttemptId threadRef) := by
  cases party : desk.party with
  | quarantined quarantine => exact .nothing (by simp only [step, perform, party]) rfl
  | owned controller => exact .nothing (by simp only [step, perform, party]) rfl
  | vacant persist log =>
      have before (controller : CodexController P) : desk.party ≠ .owned controller := by
        rw [party]
        intro same
        cases same
      cases made : CodexController.resumeOwned persist surroundings birth createAttemptId
          threadRef with
      | ok controller =>
          exact .seated before rfl (by simp only [step, perform, party, made]; rfl)
            (CodexController.resumeOwned_unobserved made)
      | error error =>
          refine .unowned before rfl fun controller same => ?_
          simp only [step, perform, party, made] at same
          cases same

private theorem late_turned (desk : CodexDesk P) (reservation : QuarantinedBirthReservation)
    (draws : List PrivateNativeRef) : desk.Turned (.late reservation draws) := by
  cases party : desk.party with
  | vacant persist log => exact .nothing (by simp only [step, perform, party]) rfl
  | owned controller => exact .nothing (by simp only [step, perform, party]) rfl
  | quarantined quarantine =>
      have before (controller : CodexController P) : desk.party ≠ .owned controller := by
        rw [party]
        intro same
        cases same
      rcases made : quarantine.receiveLate reservation draws with ⟨outcome, childLog⟩
      cases outcome with
      | owned reserved controller =>
          exact .seated before rfl (by simp only [step, perform, party, made]; rfl)
            (CodexController.receiveLate_unobserved (congrArg Prod.fst made))
      | _ =>
          refine .unowned before rfl fun controller same => ?_
          simp only [step, perform, party, made] at same
          cases same

private theorem poll_turned (desk : CodexDesk P) (scope : ObservationScope) :
    desk.Turned (.poll scope) := by
  cases party : desk.party with
  | vacant persist log =>
      exact .nothing (by simp only [step, perform, party]) (by simp only [polls, party])
  | quarantined quarantine =>
      exact .nothing (by simp only [step, perform, party]) (by simp only [polls, party])
  | owned controller =>
      exact .polled rfl party (by simp only [polls, party])
        (by simp only [step, perform, party]; rfl)

private theorem elsewhere_turned (desk : CodexDesk P) (persist : P) :
    desk.Turned (.elsewhere persist) := by
  cases party : desk.party with
  | owned controller =>
      exact .handed party rfl (by simp only [step, perform, party]; rfl)
        (⟨rfl, rfl, rfl, rfl, rfl, rfl⟩ : Unpolled controller { controller with persist })
  | _ =>
      refine .unowned (by rw [party]; intro _ same; cases same) rfl fun controller same => ?_
      simp only [step, perform, party] at same
      cases same

/-- What an operation does to the controller, whichever it is. -/
theorem turned (desk : CodexDesk P) (op : CodexOp P) : desk.Turned op := by
  cases op with
  | create surroundings reservation draws => exact create_turned desk surroundings reservation draws
  | resume surroundings birth createAttemptId threadRef =>
      exact resume_turned desk surroundings birth createAttemptId threadRef
  | late reservation draws => exact late_turned desk reservation draws
  | poll scope => exact poll_turned desk scope
  | elsewhere persist => exact elsewhere_turned desk persist
  | probe scope observedAt =>
      cases party : desk.party with
      | owned controller =>
          refine .handed party rfl ?_ (controller.probeIdle_unpolled scope observedAt)
          simp only [step, perform, party]
          split <;> rfl
      | _ => exact .nothing (by simp only [step, perform, party]) rfl
  | write lane command finalNow draws =>
      cases party : desk.party with
      | owned controller =>
          by_cases foreign : lane.epoch.birthId = controller.birth.birthId ∧ lane ∉ desk.lanes
          · exact .nothing (by simp only [step, perform, party, if_pos foreign]) rfl
          · refine .handed party rfl (by simp only [step, perform, party, if_neg foreign]; rfl) ?_
            exact (controller.writeReservedTurn_step lane command finalNow draws).unpolled
      | _ => exact .nothing (by simp only [step, perform, party]) rfl
  | reconcile scope verifiers draws =>
      cases party : desk.party with
      | owned controller =>
          refine .handed party rfl (by simp only [step, perform, party]; rfl) ?_
          exact (controller.reconcileExact_step scope verifiers draws).unpolled
      | _ => exact .nothing (by simp only [step, perform, party]) rfl

end CodexDesk

/-- What the polls of a run reported. -/
def factsOf (polls : List Poll) : List (Option NativeTurnFact) := polls.map Poll.fact

/-- What the polls of a run heard. -/
def heardOf (polls : List Poll) : List HeardItem := polls.flatMap Poll.heard

/-- The polls of one scope so far are tracked by the controller. -/
structure Polling (scope : ObservationScope) (turnRef : PrivateNativeRef) (polls : List Poll)
    (desk : CodexDesk P) : Prop where
  unowned : (∀ controller, desk.party ≠ .owned controller) → polls = []
  tracks : ∀ controller, desk.party = .owned controller →
    Tracks turnRef controller (factsOf polls) (heardOf polls)
  clear : ∀ controller, desk.party = .owned controller → Foreign scope controller →
    Clear turnRef controller

/-- One operation that polls for no other scope. -/
private theorem Polling.step {scope : ObservationScope} {turnRef : PrivateNativeRef}
    (named : scope.correlation.turnRef = some turnRef) {polls : List Poll} {desk : CodexDesk P}
    (polling : Polling scope turnRef polls desk) {op : CodexOp P}
    (single : ∀ other, op = .poll other → other = scope) :
    Polling scope turnRef (polls ++ desk.polls op) (desk.step op) := by
  cases desk.turned op with
  | unowned before unpolled after =>
      rw [unpolled, List.append_nil, polling.unowned before]
      exact ⟨fun _ => rfl, fun controller same => absurd same (after controller),
        fun controller same => absurd same (after controller)⟩
  | @seated controller before unpolled after unobserved =>
      rw [unpolled, List.append_nil, polling.unowned before]
      obtain ⟨tracks, clear⟩ := unobserved.tracks turnRef
      refine ⟨fun _ => rfl, fun other same => ?_, fun other same _ => ?_⟩
      · cases after.symm.trans same
        exact tracks
      · cases after.symm.trans same
        exact clear
  | @handed controller next before unpolled after left =>
      rw [unpolled, List.append_nil]
      refine ⟨fun none => absurd after (none next), fun other same => ?_,
        fun other same foreign => ?_⟩
      · cases after.symm.trans same
        exact (polling.tracks controller before).unpolled left
      · cases after.symm.trans same
        unfold Foreign at foreign
        rw [left.birth, left.threadRef] at foreign
        exact (polling.clear controller before foreign).unpolled left
  | @polled controller other same before once after =>
      cases single other same
      rw [once]
      have tracks := poll_tracks scope named (polling.tracks controller before)
        (polling.clear controller before)
      refine ⟨fun none => absurd after (none _), fun next same => ?_,
        fun next same foreign => ?_⟩
      · cases after.symm.trans same
        simpa [factsOf, heardOf] using tracks
      · cases after.symm.trans same
        obtain ⟨newer, passes⟩ := (controller.pollExactObservation_step scope).passes
        unfold Foreign at foreign
        rw [passes.same.birth, passes.same.threadRef] at foreign
        have still : (controller.pollExactObservation scope).2 = controller := by
          rw [CodexController.pollExactObservation]
          exact congrArg Prod.snd (if_pos foreign)
        rw [still]
        exact polling.clear controller before foreign

/-- The polls of a run. -/
def CodexDesk.pollsOf : CodexDesk P → List (CodexOp P) → List Poll
  | _, [] => []
  | desk, op :: rest => desk.polls op ++ pollsOf (desk.step op) rest

private theorem Polling.run {scope : ObservationScope} {turnRef : PrivateNativeRef}
    (named : scope.correlation.turnRef = some turnRef) {polls : List Poll} {desk : CodexDesk P}
    (polling : Polling scope turnRef polls desk) {ops : List (CodexOp P)}
    (single : ∀ other, .poll other ∈ ops → other = scope) :
    Polling scope turnRef (polls ++ desk.pollsOf ops) (Transition.run CodexDesk.step desk ops) := by
  induction ops generalizing polls desk with
  | nil =>
      rw [CodexDesk.pollsOf, List.append_nil]
      exact polling
  | cons op rest inductionHypothesis =>
      rw [CodexDesk.pollsOf, ← List.append_assoc, Transition.run_cons]
      refine inductionHypothesis (polling.step named fun other same => ?_) fun other member => ?_
      · exact single other (same ▸ List.mem_cons_self ..)
      · exact single other (List.mem_cons_of_mem _ member)

end Runs

/-! ## A completion before the start -/

namespace Observing

open Gearwit.Sample
open Transport.Sample (compact sent)
open Sample (empty started idle turned result silence vacant command lane reserved stored)

/-- A notification about the turn. -/
def notice (method : String) : String :=
  "\x7b\"method\":\"" ++ method ++ "\"\x7d"

/-- Top-level members of the lines. -/
def envelopes : List (String × BorrowedEnvelope) :=
  ([("1", empty), ("2", started), ("3", idle), ("4", turned)].map fun answer =>
    (result answer.1 answer.2, ⟨some ⟨answer.1⟩, none, some ⟨answer.2⟩, none⟩)) ++
  ["turn/started", "turn/completed"].map fun method =>
    (notice method, ⟨none, some method, none, none⟩)

/-- The reader on these lines: both notifications are about the turn that was written. -/
scoped instance serde : SerdeJson where
  envelope line := (envelopes.find? fun entry => textBytes entry.1 == line).map Prod.snd
  value raw := some (.number raw.text)
  natural raw := ([("1", 1), ("2", 2), ("3", 3), ("4", 4)].find? fun entry =>
    entry.1 == raw.text).map Prod.snd
  threadRef raw := if raw.text = started then some "t" else none
  turnRef raw := if raw.text = turned then some "u" else none
  threadResult raw :=
    if raw.text = idle then some ⟨"t", some ⟨"idle", none⟩, some []⟩ else none
  notification line :=
    if line = textBytes (notice "turn/started") then some ⟨"turn/started", "t", ⟨some "u", none⟩⟩
    else some ⟨"turn/completed", "t", ⟨some "u", some "completed"⟩⟩
  pieces value := [(compact value).flatMap String.utf8EncodeChar]

/-- The server completes the turn and starts it before it answers the request for it. -/
def child : Child where
  pipes := {
    clock := 0
    reads := sent (result "1" empty) ++ sent (result "2" started) ++ silence 0 ++
      sent (result "3" idle) ++ silence 0 ++ silence 0 ++ sent (notice "turn/completed") ++
      sent (notice "turn/started") ++ sent (result "4" turned) ++ silence 0 ++ silence 0
    writes := List.replicate 6 ⟨0, .accepted 4096⟩
    flushes := List.replicate 6 ⟨0, .done⟩
    log := [] }
  alive := []
  overflow := []

/-- The turn as it was accepted. -/
def scope : ObservationScope :=
  ⟨{ Sample.correlation with turnRef := some (PrivateId.fixture 3) }, PrivateId.fixture 7⟩

/-- What the store was asked up to the acceptance of the turn. -/
def accepted : List PortOp :=
  reserved ++
    [.sealNativeCoordinate Sample.correlation.turnScope ⟨.turn, textBytes "u", by decide⟩
        [PrivateId.fixture 3],
      .recordNativeTurnFact ⟨scope.correlation, .accepted (PrivateId.fixture 3),
        PrivateId.fixture 7⟩]

/-- A turn is written and polled for. -/
def polled : List (CodexOp FakePersist) :=
  [.create ⟨true, some child, some "/opt/helper"⟩ ⟨Sample.owner, PrivateId.fixture 1⟩
      [PrivateId.fixture 2],
    .elsewhere (stored reserved), .probe (Sample.probe 4) OffsetDateTime.unixEpoch,
    .write lane command OffsetDateTime.unixEpoch [PrivateId.fixture 3],
    .elsewhere (stored accepted), .poll scope, .poll scope, .poll scope]

end Observing
end Codex
end Gearwit
