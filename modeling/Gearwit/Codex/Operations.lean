import Gearwit.Codex.Controller

/-!
# Operations of the native controller

The four operations of the controller port, in the order in which the source checks,
receives and writes.  The loops over received values are bounded by what the child can
still send.
-/

namespace Gearwit
namespace Codex

open Transport (Error Received Notification NativeRef NativeClass ThreadState ioDeadline
  openedText version dialect)

/-- What an observation does with one notification. -/
inductive Observed (P : Type)
  | continues (controller : CodexController P)
  | reports (outcome : Option NativeTurnFact × CodexController P)

section

variable {P : Type}

namespace CodexController

/-- Count one more change of the thread; the counter saturates. -/
def bumpEpoch (controller : CodexController P) : CodexController P :=
  { controller with
    epoch := if controller.epoch.toNat + 1 < 2 ^ 64 then controller.epoch + 1
      else controller.epoch }

/-- Give up the lane. -/
def clearLane (controller : CodexController P) : CodexController P :=
  { controller with laneProbe := none }

/-- Replace the transport. -/
def withTransport (controller : CodexController P) (transport : CodexTransport) :
    CodexController P :=
  { controller with transport }

/-- Drop a prepared frame. -/
def discardPreparedTurn (controller : CodexController P) : CodexController P :=
  controller.withTransport controller.transport.discardPreparedTurn

/-- Report a degraded observation, once. -/
def degradedOnce (controller : CodexController P) :
    Option NativeTurnFact × CodexController P :=
  if controller.degradedReported then (none, controller)
  else (some .degradedTerminalObservation, { controller with degradedReported := true })

/-- Report an unknown observation, once. -/
def unknownOnce (controller : CodexController P) :
    Option NativeTurnFact × CodexController P :=
  if controller.degradedReported then (none, controller)
  else (some .unknown, { controller with degradedReported := true })

/-- The epoch of the thread as it is now. -/
def mutationEpoch (controller : CodexController P) : NativeMutationEpoch :=
  ⟨controller.birth.birthId, controller.epoch⟩

/-! ## Receiving -/

variable [SerdeJson] [Blake3]

/-- Receive until the deadline. -/
def receiveUntil (controller : CodexController P) (deadline : Nat) :
    Except Error Received × CodexController P :=
  let (outcome, transport) := controller.transport.receiveUntil deadline
  (outcome, controller.withTransport transport)

/-- Loop of `drainBeforeMutation`. -/
def drainLoop : Nat → CodexController P → Except Error Unit × CodexController P
  | fuel, controller =>
      match controller.receiveUntil 0 with
      | (.error .deadline, controller) => (.ok (), controller)
      | (.error error, controller) => (.error error, controller)
      | (.ok _, controller) =>
          match fuel with
          | 0 => (.error .deadline, controller.bumpEpoch)
          | fuel + 1 => drainLoop fuel controller.bumpEpoch

/-- Receive whatever is readable now; everything received counts as a change. -/
def drainBeforeMutation (controller : CodexController P) :
    Except Error Unit × CodexController P :=
  drainLoop controller.transport.fuel controller

/-- Loop of a probe over what precedes the response to its observation. -/
def responseLoop :
    Nat → CodexController P → Except Error (ThreadState × UInt64) × CodexController P
  | fuel, controller =>
      match controller.receiveUntil ioDeadline with
      | (.ok (.threadRead state), controller) => (.ok (state, controller.epoch), controller)
      | (.ok (.notification _), controller) | (.ok .serverRequestRejected, controller) =>
          match fuel with
          | 0 => (.error .deadline, controller.bumpEpoch)
          | fuel + 1 => responseLoop fuel controller.bumpEpoch
      | (.ok _, controller) => (.error .correlation, controller)
      | (.error error, controller) => (.error error, controller)

/-- What one notification is to the observed turn. -/
def observe (controller : CodexController P) (turnRef : PrivateNativeRef)
    (expectedThread expectedTurn : String) : Notification → Observed P
  | .turnStarted thread turn =>
      if thread.text = expectedThread ∧ turn.text = expectedTurn ∧
          controller.startedTurn ≠ some turnRef then
        .reports (some (.started turnRef), { controller with startedTurn := some turnRef })
      else .continues controller
  | .terminal thread turn nativeClass =>
      if thread.text = expectedThread ∧ turn.text = expectedTurn ∧ !controller.terminal then
        if controller.startedTurn ≠ some turnRef then
          if controller.pendingTerminal = none then
            .continues { controller with pendingTerminal := some (turnRef, nativeClass) }
          else .reports controller.degradedOnce
        else
          .reports (some (.terminal turnRef (terminalClass nativeClass)),
            { controller with terminal := true })
      else .continues controller
  | .degradedTerminal thread turn =>
      if thread.text = expectedThread ∧ turn.text = expectedTurn then
        .reports (some .degradedTerminalObservation, controller)
      else .continues controller
  | .signal => .continues controller

/-- What is reported when a receive brings no notification. -/
def observeOther (controller : CodexController P) :
    Except Error Received → Option NativeTurnFact × CodexController P
  | .error .closed | .error .ambiguous =>
      if controller.lostReported then controller.unknownOnce
      else (some .controllerLost, { controller with lostReported := true })
  | .error .malformed | .error .bounds | .error .degraded | .error .correlation =>
      controller.degradedOnce
  | .error .deadline => (none, controller)
  | .error _ => controller.unknownOnce
  | .ok _ => controller.degradedOnce

/-- Loop of an observation over the notifications readable now. -/
def observeLoop (turnRef : PrivateNativeRef) (expectedThread expectedTurn : String) :
    Nat → CodexController P → Option NativeTurnFact × CodexController P
  | fuel, controller =>
      match controller.receiveUntil 0 with
      | (.ok (.notification notification), controller) =>
          match controller.bumpEpoch.observe turnRef expectedThread expectedTurn
            notification with
          | .reports outcome => outcome
          | .continues controller =>
              match fuel with
              | 0 => (none, controller)
              | fuel + 1 => observeLoop turnRef expectedThread expectedTurn fuel controller
      | (other, controller) => controller.observeOther other

variable [Persist P]

/-- Seal the reference of a native turn. -/
def sealTurn (controller : CodexController P) (scope : NativeCoordinateScope)
    (turn : NativeRef) (draws : List PrivateNativeRef) :
    Except Error PrivateNativeRef × CodexController P :=
  match SecretNativeCoordinate.new .turn turn.text with
  | .error _ => (.error .bounds, controller)
  | .ok secret =>
      match Persist.sealNativeCoordinate scope secret draws controller.persist with
      | (.error error, persist) => (.error (mapPersistError error), { controller with persist })
      | (.ok turnRef, persist) => (.ok turnRef, { controller with persist })

/-! ## Probing -/

/-- Observe the thread, up to the response. -/
def observeThread (controller : CodexController P) :
    Except Error (ThreadState × UInt64) × CodexController P :=
  match controller.openedThread with
  | .error error => (.error error, controller)
  | .ok thread =>
      let (asked, transport) := controller.transport.readThread thread
      let controller := controller.withTransport transport
      match asked with
      | .error error => (.error error, controller)
      | .ok () => responseLoop controller.transport.fuel controller

/-- Conclude a probe whose observation was answered. -/
def concludeProbe (controller : CodexController P) (binding : ProbeBinding)
    (observedAt : OffsetDateTime) (state : ThreadState) (responseEpoch : UInt64) :
    Except ControllerProbeError IdleProbeResult × CodexController P :=
  let probeId := binding.challengeId
  let (drained, controller) := controller.drainBeforeMutation
  if controller.epoch ≠ responseEpoch then (.error .epochInvalidated, controller)
  else if drained ≠ .ok () then
    (.ok (.unproven (.unproven binding probeId observedAt)), controller)
  else
    let epoch : NativeMutationEpoch := ⟨controller.birth.birthId, responseEpoch⟩
    match state with
    | .idle =>
        (.ok (.idle (.idle binding probeId epoch observedAt) ⟨probeId, epoch⟩),
          { controller with laneProbe := some probeId })
    | .activeTurn prehash =>
        (.ok (.active (.fromBinding binding controller.createAttemptId epoch observedAt prehash
          version dialect)), controller)
    | .unproven => (.ok (.unproven (.unproven binding probeId observedAt)), controller)

/-- Observe whether the thread is idle. -/
def probeIdle (controller : CodexController P) (scope : IdleProbeScope)
    (observedAt : OffsetDateTime) :
    Except ControllerProbeError IdleProbeResult × CodexController P :=
  let binding := scope.binding
  let unproven : IdleProbeResult :=
    .unproven (.unproven binding binding.challengeId observedAt)
  if binding.attachment.birthId ≠ controller.birth.birthId ∨
      binding.threadRef ≠ controller.threadRef ∨ controller.laneProbe ≠ none then
    (.error .bindingRejected, controller)
  else
    match controller.drainBeforeMutation with
    | (.error _, controller) => (.ok unproven, controller)
    | (.ok (), controller) =>
        match controller.observeThread with
        | (.error _, controller) => (.ok unproven, controller)
        | (.ok (state, responseEpoch), controller) =>
            controller.concludeProbe binding observedAt state responseEpoch

/-! ## Writing -/

/-- Disposition of a dispatched turn, from what was received next. -/
def concludeWrite (controller : CodexController P) (command : ControllerCommand)
    (received : Except Error Received) (draws : List PrivateNativeRef) :
    NativeWriteDisposition × CodexController P :=
  match received with
  | .ok (.turnStarted turn) =>
      match controller.sealTurn command.turnScope turn draws with
      | (.ok turnRef, controller) => (.accepted turnRef, controller)
      | (.error _, controller) => (.unknown, controller)
  | .error .native => (.provenNotAccepted, controller)
  | _ => (.unknown, controller)

/-- Write the prepared turn and receive its outcome. -/
def dispatchTurn (controller : CodexController P) (command : ControllerCommand) (id : Nat)
    (draws : List PrivateNativeRef) : NativeWriteDisposition × CodexController P :=
  let (sent, transport) := controller.transport.dispatchPreparedTurn id
  let controller := controller.withTransport transport
  match sent with
  | .error failure =>
      let controller := controller.clearLane
      let disposition := failedWriteDisposition failure
      (disposition,
        if disposition = .unknown then
          { controller with reconciling := some command.correlation }
        else controller)
  | .ok _ =>
      let (received, controller) := controller.receiveUntil ioDeadline
      let (disposition, controller) := controller.concludeWrite command received draws
      (disposition,
        clearLane { controller with
          reconciling := if disposition = .unknown then some command.correlation else none })

/-- The last checks before a prepared turn is written. -/
def finishWrite (controller : CodexController P) (command : ControllerCommand) (id : Nat)
    (finalNow : OffsetDateTime) (draws : List PrivateNativeRef) :
    Except ControllerWriteError NativeWriteDisposition × CodexController P :=
  let observedEpoch := controller.mutationEpoch
  if observedEpoch ≠ command.expectedEpoch then
    (.ok (.idleEpochInvalidated command.expectedProbeId command.expectedEpoch observedEpoch),
      controller.discardPreparedTurn.clearLane)
  else if !command.validateImmutableBinding controller.birth controller.threadRef then
    (.error .bindingRejected, controller.discardPreparedTurn.clearLane)
  else if !command.leaseIsCurrent controller.birth finalNow then
    (.ok .provenNotAccepted, controller.discardPreparedTurn.clearLane)
  else
    let (disposition, controller) := controller.dispatchTurn command id draws
    (.ok disposition, controller)

/-- Write one reserved turn. -/
def writeReservedTurn (controller : CodexController P) (lane : ControllerIdleGuard)
    (command : ControllerCommand) (finalNow : OffsetDateTime)
    (draws : List PrivateNativeRef) :
    Except ControllerWriteError NativeWriteDisposition × CodexController P :=
  let (expectedProbe, expectedEpoch) := command.expectedProbe
  if controller.laneProbe ≠ some expectedProbe ∨ lane.probeId ≠ expectedProbe ∨
      lane.epoch ≠ expectedEpoch then
    (.error .bindingRejected, controller.clearLane)
  else
    match controller.openedThread with
    | .error _ => (.ok .provenNotAccepted, controller.clearLane)
    | .ok thread =>
        let (prepared, transport) :=
          controller.transport.prepareTurnFrame thread command.fixedTurn
        let controller := controller.withTransport transport
        match prepared with
        | .error _ => (.ok .provenNotAccepted, controller.clearLane)
        | .ok id =>
            match controller.drainBeforeMutation with
            | (.error _, controller) =>
                (.ok .provenNotAccepted, controller.discardPreparedTurn.clearLane)
            | (.ok (), controller) => controller.finishWrite command id finalNow draws

/-! ## Observing -/

/-- The next exact fact about a turn. -/
def exactNotification (controller : CodexController P)
    (correlation : PersistedTurnCorrelation) (scope : NativeCoordinateScope) :
    Option NativeTurnFact × CodexController P :=
  match correlation.turnRef with
  | none => (none, controller)
  | some turnRef =>
      match (if controller.startedTurn = some turnRef then controller.pendingTerminal
        else none) with
      | some (pendingTurn, nativeClass) =>
          let controller := { controller with pendingTerminal := none }
          if pendingTurn = turnRef then
            (some (.terminal pendingTurn (terminalClass nativeClass)),
              { controller with terminal := true })
          else controller.degradedOnce
      | none =>
          match controller.openedThread with
          | .error _ => controller.degradedOnce
          | .ok thread =>
              match (Persist.openNativeCoordinate scope turnRef controller.persist).toOption.bind
                openedText with
              | none => controller.degradedOnce
              | some turn =>
                  observeLoop turnRef thread.text turn controller.transport.fuel controller

/-- Poll for a fact about a turn. -/
def pollExactObservation (controller : CodexController P) (scope : ObservationScope) :
    Option NativeTurnFact × CodexController P :=
  let correlation := scope.correlation
  if correlation.birthId ≠ controller.birth.birthId ∨
      correlation.threadRef ≠ controller.threadRef then (none, controller)
  else if controller.lostReported then (none, controller)
  else controller.exactNotification correlation scope.turnScope

/-! ## Reconciling -/

/-- Whether the store holds the unknown outcome of a scope. -/
def durableUnknown (scope : ReconciliationScope) (snapshot : RecoverySnapshot) : Bool :=
  snapshot.nativeWriteEvidence.any fun evidence =>
    decide (evidence.correlation = scope.correlation ∧
      evidence.evidenceRef = scope.nativeWriteEvidenceRef ∧ evidence.evidence = .unknown)

/-- Disposition of a turn that was unknown, from what was received next. -/
def concludeReconciliation (controller : CodexController P) (scope : ReconciliationScope)
    (received : Except Error Received) (draws : List PrivateNativeRef) :
    ReconciliationDisposition × CodexController P :=
  match received with
  | .ok (.turnStarted turn) =>
      match controller.sealTurn scope.turnScope turn draws with
      | (.ok turnRef, controller) => (.accepted turnRef, controller)
      | (.error _, controller) => (.unknown, controller)
  | .error .native => (.provenNotAccepted, controller)
  | _ => (.unknown, controller)

/-- Reconcile a turn whose outcome is unknown. -/
def reconcileExact (controller : CodexController P) (scope : ReconciliationScope)
    (verifiers : List VerifierRef) (draws : List PrivateNativeRef) :
    Except ControllerReconcileError ReconciliationDisposition × CodexController P :=
  let correlation := scope.correlation
  let (recovered, persist) := Persist.recoverAuthorityState verifiers controller.persist
  let controller := { controller with persist }
  if (controller.reconciling.any fun expected => decide (expected ≠ correlation)) ∨
      !recovered.toOption.any (durableUnknown scope) ∨
      correlation.birthId ≠ controller.birth.birthId ∨
      correlation.threadRef ≠ controller.threadRef then
    (.error .bindingRejected, controller)
  else
    let (received, controller) := controller.receiveUntil 0
    let (disposition, controller) := controller.concludeReconciliation scope received draws
    (.ok disposition, controller)

end CodexController
end
end Codex
end Gearwit
