import Gearwit.Codex.Observations
import Gearwit.Codex.Reports

/-!
# What a probe shows

A probe issues a lane only if the response to its observation shows the thread idle and
nothing was counted after it.  The epoch counts what drains and loops receive; the line of a
request whose rejection the pipe blocks is heard without being counted.
-/

namespace Gearwit

/-! ## A receive that finds nothing -/

namespace Transport.Wire

variable [SerdeJson]

/-- A send that runs into the deadline leaves the frame buffer empty. -/
private theorem send_late {wire after : Wire} {purpose : Purpose} {value : Json}
    (late : wire.send purpose value = (.error .deadline, after)) : after.state.frame = [] := by
  simp only [send, write] at late
  split_ifs at late with unknown
  · cases late
  split at late
  · cases late
  rename_i failure mid wrote
  split_ifs at late
  · cases late
  · rcases encoded : encode value with ⟨error | done, frame⟩
    · rw [encoded] at wrote
      cases wrote
      have first : (encode value).1 = .error error := by rw [encoded]
      simp only [encode] at first
      split_ifs at first
      cases first
      cases late
    · rw [encoded] at wrote
      rw [← (Prod.mk.inj late).2]
      exact congrArg (·.2.state.frame) wrote.symm

variable [Blake3]

private theorem nextLine_ends {wire next : Wire} {due : Nat} (idle : wire.state.pending = []) :
    wire.nextLine due ≠ (.ok none, next) := by
  intro quiet
  have effect := nextLine_effect due wire
  rw [quiet] at effect
  cases effect with
  | @handled line mid after inbound _ heard read effect =>
      have still : mid.state.pending = [] := by rw [heard.state, idle]
      exact (effect.idle still).1 rfl

/-- With nothing outstanding a receive that ends at the deadline at once found no line, or
the pipe blocked the rejection of a request and the frame buffer was used for it. -/
theorem nextUntil_late {wire after : Wire} (idle : wire.state.pending = [])
    (late : wire.nextUntil 0 = (.error .deadline, after)) :
    ((readLineUntil 0 wire.pipes).1 = .error .deadline ∧
        after.pipes.log = wire.pipes.log ∧ after.state.frame = wire.state.frame) ∨
      after.state.frame = [] := by
  have effect := nextUntil_effect wire 0
  rw [late] at effect
  cases effect with
  | @read mid _ _ queue quiet last =>
      cases quiet with
      | line step rest => exact absurd step (nextLine_ends idle)
      | refl =>
          replace last : wire.nextLine wire.pipes.clock = (.error .deadline, after) := last
          have calm : wire.waiting = false := waiting_eq_false_iff.2 idle
          unfold nextLine at last
          rw [Nat.sub_self] at last
          obtain ⟨line, reads, clock, _, ⟨error, read⟩ | ⟨read, _⟩⟩ :=
            readLineUntil_effect 0 wire.pipes
          · left
            rw [read] at last ⊢
            simp only at last
            split_ifs at last with busy
            · cases last
            · cases last
              exact ⟨rfl, rfl, rfl⟩
          · right
            rw [read] at last
            simp only [handleLine] at last
            split_ifs at last with excess
            · cases last
            split at last
            · rename_i understood
              cases last
              rcases classify_error understood with other | other <;> cases other
            · rename_i inbound understood
              generalize counted : Wire.mk _ _ = mid at last
              have still : mid.state.pending = [] := by
                rw [← counted]
                exact idle
              rcases answer : mid.handleInbound inbound with ⟨result, final⟩
              rw [answer] at last
              cases last
              obtain ⟨id, rfl, _⟩ := handleInbound_deadline still answer
              simp only [handleInbound, handleServerRequest] at answer
              split at answer
              · rename_i sent
                cases answer
                exact (send_late sent : final.state.frame = [])
              · cases answer

end Transport.Wire

namespace Codex

open Transport Transition

/-! ## Lines heard -/

/-- Some line was heard since an older log. -/
def hears (older log : List WireEvent) : Bool :=
  (log.take (log.length - older.length)).any fun event =>
    match event with
    | .heard _ => true
    | .offered _ _ _ => false

/-- No line is among the events. -/
def Unheard (events : List WireEvent) : Prop := ∀ line, .heard line ∉ events

/-- Nothing is heard after a log exactly if what was added is unheard. -/
theorem hears_append {newer older : List WireEvent} :
    hears older (newer ++ older) = false ↔ Unheard newer := by
  have same : (newer ++ older).take ((newer ++ older).length - older.length) = newer := by
    simp
  rw [hears, same, List.any_eq_false]
  refine ⟨fun silent line member => silent _ member rfl, fun unheard event member heard => ?_⟩
  cases event with
  | heard line => exact unheard line member
  | offered purpose frame accepted => cases heard

/-- An empty log is unheard. -/
theorem Unheard.nil : Unheard [] := fun _ member => by cases member

/-- Unheard logs compose. -/
theorem Unheard.append {newer older : List WireEvent} (first : Unheard older)
    (second : Unheard newer) : Unheard (newer ++ older) := fun line member =>
  (List.mem_append.1 member).elim (second line) (first line)

section Probes

variable {P : Type} [SerdeJson] [Blake3]

namespace CodexController

/-- What is received next comes with a line. -/
def hearsNext (controller : CodexController P) : Bool :=
  hears controller.wire.pipes.log (controller.receiveUntil 0).2.wire.pipes.log

/-- What is received next comes with a line, and it is no notification. -/
def swallows (controller : CodexController P) : Bool :=
  match controller.receiveUntil 0 with
  | (.ok (.notification _), _) => false
  | (_, after) => hears controller.wire.pipes.log after.wire.pipes.log

/-- What is received next comes with a line, and it ends at the deadline. -/
def blocked (controller : CodexController P) : Bool :=
  match controller.receiveUntil 0 with
  | (.error .deadline, after) => hears controller.wire.pipes.log after.wire.pipes.log
  | _ => false

/-- Without a line on the way a receive leaves only events that are no lines. -/
theorem hearsNext_eq_false {controller after : CodexController P}
    {outcome : Except Error Received} {newer : List WireEvent}
    (taken : controller.receiveUntil 0 = (outcome, after))
    (log : after.wire.pipes.log = newer ++ controller.wire.pipes.log)
    (silent : controller.hearsNext = false) : Unheard newer := by
  rw [hearsNext, taken, log] at silent
  exact hears_append.1 silent

/-- A receipt that is no notification swallows none. -/
theorem swallows_eq_false {controller after : CodexController P}
    {outcome : Except Error Received} {newer : List WireEvent}
    (taken : controller.receiveUntil 0 = (outcome, after))
    (other : ∀ notification, outcome ≠ .ok (.notification notification))
    (log : after.wire.pipes.log = newer ++ controller.wire.pipes.log)
    (silent : controller.swallows = false) : Unheard newer := by
  unfold swallows at silent
  rw [taken] at silent
  split at silent
  · rename_i same
    cases same
    exact absurd rfl (other _)
  · rename_i same
    cases same
    rw [log] at silent
    exact hears_append.1 silent

/-- A silent drain that runs into its deadline heard nothing. -/
theorem blocked_eq_false {controller after : CodexController P} {newer : List WireEvent}
    (taken : controller.receiveUntil 0 = (.error .deadline, after))
    (log : after.wire.pipes.log = newer ++ controller.wire.pipes.log)
    (silent : controller.blocked = false) : Unheard newer := by
  unfold blocked at silent
  rw [taken] at silent
  replace silent : hears controller.wire.pipes.log after.wire.pipes.log = false := silent
  rw [log] at silent
  exact hears_append.1 silent

/-- A drain that ends well and leaves the epoch ended at its first receive. -/
theorem drainBeforeMutation_late {controller after : CodexController P}
    (counted : controller.Counted) (drained : controller.drainBeforeMutation = (.ok (), after))
    (untouched : after.epoch = controller.epoch) :
    controller.receiveUntil 0 = (.error .deadline, after) := by
  obtain ⟨error, taken, outcome⟩ := drainBeforeMutation_first counted drained untouched
  split_ifs at outcome with late
  rw [taken, late]

/-- With nothing outstanding such a drain found no line, or the frame buffer is empty. -/
theorem drainBeforeMutation_quiet {controller after : CodexController P}
    (counted : controller.Counted) (idle : controller.wire.state.pending = [])
    (drained : controller.drainBeforeMutation = (.ok (), after))
    (untouched : after.epoch = controller.epoch) :
    ((readLineUntil 0 controller.wire.pipes).1 = .error .deadline ∧
        after.wire.pipes.log = controller.wire.pipes.log ∧
        after.wire.state.frame = controller.wire.state.frame) ∨
      after.wire.state.frame = [] := by
  have taken := drainBeforeMutation_late counted drained untouched
  unfold receiveUntil CodexTransport.receiveUntil at taken
  split_ifs at taken
  · cases taken
  · refine Wire.nextUntil_late idle ?_
    rcases read : controller.transport.wire.nextUntil 0 with ⟨outcome, wire⟩
    rw [read] at taken
    cases taken
    exact read

variable [Persist P]

/-- The response that shows the thread idle to a probe comes before a line whose rejection
the pipe blocks. -/
def probesBlocked (controller : CodexController P) : Bool :=
  match controller.drainBeforeMutation with
  | (.ok (), mid) =>
      match mid.observeThread with
      | (.ok (.idle, _), shown) => shown.blocked
      | _ => false
  | _ => false

/-- The response that shows the thread idle, in the log after a probe: it answers the
request that the probe sent, and no line was heard after it. -/
structure IdleShown (older log : List WireEvent) : Prop where
  shown : ∃ unheard line asked id thread,
    log = unheard ++ .heard line :: (asked ++ older) ∧ Unheard unheard ∧
      (requests asked).head? = some (id, .threadRead) ∧
      classify line = .ok (.response id) ∧
      parseResponse line ⟨id, .threadRead, some thread⟩ = .ok (.threadRead .idle)

/-- A probe that issues a lane. -/
structure Issues (controller : CodexController P) (scope : IdleProbeScope)
    (lane : ControllerIdleGuard) (after : CodexController P) : Prop where
  free : controller.laneProbe = none
  bound : scope.binding.attachment.birthId = controller.birth.birthId ∧
    scope.binding.threadRef = controller.threadRef
  issued : ∃ mid shown last epoch, controller.drainBeforeMutation = (.ok (), mid) ∧
    mid.observeThread = (.ok (.idle, epoch), shown) ∧
    shown.drainBeforeMutation = (.ok (), last) ∧ last.epoch = epoch ∧
    lane = ⟨scope.binding.challengeId, ⟨last.birth.birthId, epoch⟩⟩ ∧
    after = { last with laneProbe := some scope.binding.challengeId }

/-- A probe is turned away, or no lane was held and one is issued or none. -/
theorem probeIdle_issues (controller : CodexController P) (scope : IdleProbeScope)
    (observedAt : OffsetDateTime) :
    (controller.probeIdle scope observedAt = (.error .bindingRejected, controller)) ∨
      controller.laneProbe = none ∧
        ((∀ observation lane, (controller.probeIdle scope observedAt).1 ≠
            .ok (.idle observation lane)) ∨
          ∃ observation lane, (controller.probeIdle scope observedAt).1 =
              .ok (.idle observation lane) ∧
            Issues controller scope lane (controller.probeIdle scope observedAt).2) := by
  by_cases mismatch : scope.binding.attachment.birthId ≠ controller.birth.birthId ∨
    scope.binding.threadRef ≠ controller.threadRef ∨ controller.laneProbe ≠ none
  · exact .inl (if_pos mismatch)
  right
  unfold probeIdle
  dsimp only
  rw [if_neg mismatch]
  simp only [not_or, not_not] at mismatch
  obtain ⟨birth, threadRef, free⟩ := mismatch
  refine ⟨free, ?_⟩
  rcases drain : controller.drainBeforeMutation with ⟨error | done, mid⟩
  · exact .inl (by intro _ _ same; cases same)
  dsimp only
  rcases observed : mid.observeThread with ⟨error | ⟨state, responseEpoch⟩, shown⟩
  · exact .inl (by intro _ _ same; cases same)
  simp only [concludeProbe]
  rcases quiet : shown.drainBeforeMutation with ⟨drained, after⟩
  simp only
  split_ifs with moved failed
  · exact .inl (by intro _ _ same; cases same)
  · exact .inl (by intro _ _ same; cases same)
  · obtain rfl := not_not.1 failed
    cases state with
    | idle =>
        exact .inr ⟨_, _, rfl, free, ⟨birth, threadRef⟩, mid, shown, after, responseEpoch, drain,
          observed, quiet, not_not.1 moved, rfl, rfl⟩
    | activeTurn prehash => exact .inl (by intro _ _ same; cases same)
    | unproven => exact .inl (by intro _ _ same; cases same)

/-- The response that ends an observation. -/
private theorem observeThread_shown {controller after : CodexController P} {epoch : UInt64}
    (counted : controller.Counted)
    (observed : controller.observeThread = (.ok (.idle, epoch), after)) :
    epoch = after.epoch ∧ after.wire.state.pending = [] ∧ after.Counted ∧
      Same controller after ∧ controller.epoch.toNat ≤ after.epoch.toNat ∧
      ∃ line asked id thread,
        after.wire.pipes.log = .heard line :: (asked ++ controller.wire.pipes.log) ∧
          (requests asked).head? = some (id, .threadRead) ∧
          classify line = .ok (.response id) ∧
          parseResponse line ⟨id, .threadRead, some thread⟩ = .ok (.threadRead .idle) := by
  unfold observeThread at observed
  split at observed
  · cases observed
  rename_i thread opened
  rcases read : controller.transport.readThread thread with ⟨error | done, transport⟩
  · rw [read] at observed
    cases observed
  rw [read] at observed
  replace observed : responseLoop transport.fuel (controller.withTransport transport) =
    (.ok (.idle, epoch), after) := observed
  have requested := CodexTransport.readThread_requested read
  obtain ⟨_, idle, id, frame, pending, sent⟩ := requested.sent rfl
  have responds := responseLoop_responds observed
  obtain ⟨newer, passes⟩ := responseLoop_passes observed
  have asks : (controller.withTransport transport).Counted := by
    refine ⟨?_, ?_⟩
    · change controller.epoch.toNat + transport.wire.state.notifications.length ≤
        transport.wire.state.stdout
      rw [requested.queue, requested.stdout]
      exact counted.epoch
    · change transport.wire.state.stdout ≤ maxStdout
      rw [requested.stdout]
      exact counted.within
  obtain ⟨later, grown⟩ := passes.counted asks
  obtain ⟨awaited, line, rest, member, log, classified, parsed⟩ := responds.response
  have only : awaited = ⟨id, .threadRead, some thread⟩ := by
    change awaited ∈ transport.wire.state.pending at member
    rw [pending, List.mem_singleton] at member
    exact member
  rw [only] at classified parsed
  have asked : transport.wire.pipes.log =
      .offered (.request id .threadRead) frame frame.length :: controller.wire.pipes.log := sent
  have whole : after.wire.pipes.log = newer ++ transport.wire.pipes.log := passes.moves.log
  obtain ⟨events, rfl⟩ : ∃ events, newer = .heard line :: events := by
    rw [whole, asked] at log
    cases newer with
    | nil => cases log
    | cons event events => exact ⟨events, by rw [(List.cons.inj log).1]⟩
  refine ⟨responds.epoch, ?_, later, (Same.withTransport _ _).trans passes.same, grown, line,
    events ++ [.offered (.request id .threadRead) frame frame.length], id, thread, ?_, ?_,
    classified, parsed⟩
  · have settled := responds.settled
    change after.wire.state.pending.length + 1 ≤ transport.wire.state.pending.length at settled
    rw [pending] at settled
    exact List.length_eq_zero_iff.1 (Nat.le_zero.1 (Nat.le_of_succ_le_succ settled))
  · rw [whole, asked]
    simp
  · have unrequested : requests events = [] := passes.moves.unrequested
    simp [unrequested]

/-- What a probe that issues a lane leaves, and what it shows unless the pipe blocked a
rejection. -/
theorem Issues.shows {controller after : CodexController P} {scope : IdleProbeScope}
    {lane : ControllerIdleGuard} (issues : Issues controller scope lane after)
    (counted : controller.Counted) :
    after.birth = controller.birth ∧ after.threadRef = controller.threadRef ∧
      after.laneProbe = some scope.binding.challengeId ∧
      lane = ⟨scope.binding.challengeId, ⟨controller.birth.birthId, after.epoch⟩⟩ ∧
      (controller.probesBlocked = false →
        IdleShown controller.wire.pipes.log after.wire.pipes.log) := by
  obtain ⟨mid, shown, last, epoch, drained, observed, quiet, same, issued, rfl⟩ := issues.issued
  obtain ⟨early, before⟩ := drainBeforeMutation_passes drained
  obtain ⟨midway, _⟩ := before.counted counted
  obtain ⟨current, _, calm, kept, _, line, asked, id, thread, log, request, classified,
    parsed⟩ := observeThread_shown midway observed
  obtain ⟨late, after⟩ := drainBeforeMutation_passes quiet
  have taken := drainBeforeMutation_late calm quiet (by rw [same, current])
  have birth : last.birth = controller.birth :=
    after.same.birth.trans (kept.birth.trans before.same.birth)
  refine ⟨birth, after.same.threadRef.trans (kept.threadRef.trans before.same.threadRef), rfl,
    ?_, fun clear => ?_⟩
  · rw [issued, birth, ← same]
  · have silent : Unheard late := by
      refine blocked_eq_false taken after.moves.log ?_
      unfold probesBlocked at clear
      rw [drained] at clear
      simp only [observed] at clear
      exact clear
    refine ⟨late, line, asked ++ early, id, thread, ?_, silent, ?_, classified, parsed⟩
    · change last.wire.pipes.log = _
      rw [after.moves.log, log, before.moves.log, List.append_assoc]
    · rw [requests_append, before.moves.unrequested, List.append_nil, request]

end CodexController

variable [Persist P]

/-! ## Counted runs -/

namespace CodexController

omit [SerdeJson] [Blake3] [Persist P] in
/-- Counting looks at the epoch and at what the server sent. -/
theorem Counted.of {controller after : CodexController P} (counted : controller.Counted)
    (epoch : after.epoch = controller.epoch)
    (queue : after.wire.state.notifications = controller.wire.state.notifications)
    (stdout : after.wire.state.stdout = controller.wire.state.stdout) : after.Counted := by
  refine ⟨?_, ?_⟩
  · rw [epoch, queue, stdout]
    exact counted.epoch
  · rw [stdout]
    exact counted.within

omit [Persist P] in
/-- What a step leaves of a counted controller: its identity, and an epoch not smaller. -/
structure Grows (controller after : CodexController P) : Prop where
  birth : after.birth = controller.birth
  threadRef : after.threadRef = controller.threadRef
  counted : after.Counted
  grown : controller.epoch.toNat ≤ after.epoch.toNat

omit [SerdeJson] [Blake3] [Persist P] in
/-- Growing composes. -/
theorem Grows.trans {controller mid after : CodexController P} (first : Grows controller mid)
    (second : Grows mid after) : Grows controller after :=
  ⟨second.birth.trans first.birth, second.threadRef.trans first.threadRef, second.counted,
    Nat.le_trans first.grown second.grown⟩

omit [SerdeJson] [Blake3] [Persist P] in
/-- A counted controller that passes events grows. -/
theorem Passes.grows {controller after : CodexController P} {newer : List WireEvent}
    (passes : Passes controller after newer) (counted : controller.Counted) :
    Grows controller after :=
  ⟨passes.same.birth, passes.same.threadRef, (passes.counted counted).1,
    (passes.counted counted).2⟩

omit [SerdeJson] [Blake3] [Persist P] in
/-- A change of what counting does not look at. -/
theorem Counted.still {controller after : CodexController P} (counted : controller.Counted)
    (transport : after.transport = controller.transport)
    (epoch : after.epoch = controller.epoch) (birth : after.birth = controller.birth)
    (threadRef : after.threadRef = controller.threadRef) : Grows controller after := by
  have wires : after.wire = controller.wire := congrArg CodexTransport.wire transport
  refine ⟨birth, threadRef, counted.of epoch ?_ ?_, Nat.le_of_eq (by rw [epoch])⟩ <;> rw [wires]

omit [Persist P] [Blake3] in
/-- Asking for an observation receives nothing. -/
theorem Counted.asks {controller : CodexController P} {thread : NativeRef}
    {outcome : Except Error Unit} {transport : CodexTransport} (counted : controller.Counted)
    (read : controller.transport.readThread thread = (outcome, transport)) :
    Grows controller (controller.withTransport transport) :=
  have requested := CodexTransport.readThread_requested read
  ⟨rfl, rfl, counted.of rfl requested.queue requested.stdout, Nat.le_refl _⟩

omit [Persist P] [Blake3] in
/-- Preparing a turn receives nothing. -/
theorem Counted.prepares {controller : CodexController P} {thread : NativeRef} {text : String}
    {outcome : Except Error Nat} {transport : CodexTransport} (counted : controller.Counted)
    (prepared : controller.transport.prepareTurnFrame thread text = (outcome, transport)) :
    Grows controller (controller.withTransport transport) :=
  have effect := CodexTransport.prepareTurnFrame_prepared prepared
  ⟨rfl, rfl, counted.of rfl effect.queue effect.stdout, Nat.le_refl _⟩

omit [Persist P] in
/-- A dispatch receives at most what it counts. -/
theorem DispatchStep.grows {controller after : CodexController P} {command : ControllerCommand}
    {id : Nat} {draws : List PrivateNativeRef} {disposition : NativeWriteDisposition}
    [Persist P] (step : DispatchStep controller command id draws disposition after)
    (counted : controller.Counted) : Grows controller after := by
  have sends {outcome : Except WriteFailure WriteReceipt} {transport : CodexTransport}
      (sent : controller.transport.dispatchPreparedTurn id = (outcome, transport)) :
      Grows controller (controller.withTransport transport) := by
    obtain ⟨accepted, dispatched⟩ := CodexTransport.dispatchPreparedTurn_dispatched sent
    exact ⟨rfl, rfl, counted.of rfl dispatched.queue dispatched.stdout, Nat.le_refl _⟩
  have takes {transport : CodexTransport} {mid : CodexController P}
      {received : Except Error Received}
      (taken : (controller.withTransport transport).receiveUntil ioDeadline = (received, mid))
      (sent : Grows controller (controller.withTransport transport)) : Grows controller mid := by
    obtain ⟨newer, receipt⟩ := receiveUntil_receipt taken
    exact sent.trans (receipt.passes.grows sent.counted)
  cases step with
  | failed sent =>
      have grows := sends sent
      exact grows.trans (grows.counted.still rfl rfl rfl rfl)
  | accepted sent taken stored =>
      have grows := takes taken (sends sent)
      exact grows.trans (grows.counted.still rfl rfl rfl rfl)
  | refused sent taken =>
      have grows := takes taken (sends sent)
      exact grows.trans (grows.counted.still rfl rfl rfl rfl)
  | unknown sent taken =>
      have grows := takes taken (sends sent)
      exact grows.trans (grows.counted.still rfl rfl rfl rfl)

/-- A write counts what it receives before the dispatch and gives up the lane. -/
theorem WriteStep.grows {controller after : CodexController P} {lane : ControllerIdleGuard}
    {command : ControllerCommand} {finalNow : OffsetDateTime} {draws : List PrivateNativeRef}
    {outcome : Except ControllerWriteError NativeWriteDisposition}
    (step : WriteStep controller lane command finalNow draws outcome after)
    (counted : controller.Counted) : Grows controller after ∧ after.laneProbe = none := by
  cases step with
  | rejected => exact ⟨counted.still rfl rfl rfl rfl, rfl⟩
  | unopened => exact ⟨counted.still rfl rfl rfl rfl, rfl⟩
  | unprepared prepared =>
      have grows := counted.prepares prepared
      exact ⟨grows.trans (grows.counted.still rfl rfl rfl rfl), rfl⟩
  | withheld prepared drain unwritten =>
      have grows := counted.prepares prepared
      obtain ⟨newer, passes⟩ := drainBeforeMutation_passes drain
      have drained := grows.trans (passes.grows grows.counted)
      refine ⟨drained.trans ⟨rfl, rfl, ?_, Nat.le_refl _⟩, rfl⟩
      exact drained.counted.of rfl rfl rfl
  | dispatched held issued opened prepared drain current bound leased step =>
      have grows := counted.prepares prepared
      obtain ⟨newer, passes⟩ := drainBeforeMutation_passes drain
      have drained := grows.trans (passes.grows grows.counted)
      refine ⟨drained.trans (step.grows drained.counted), ?_⟩
      cases step <;> rfl

/-- A probe counts what it receives; without a lane it leaves the lane alone. -/
theorem probeIdle_grows (controller : CodexController P) (scope : IdleProbeScope)
    (observedAt : OffsetDateTime) (counted : controller.Counted) :
    Grows controller (controller.probeIdle scope observedAt).2 ∧
      ((∀ observation lane, (controller.probeIdle scope observedAt).1 ≠
          .ok (.idle observation lane)) →
        (controller.probeIdle scope observedAt).2.laneProbe = controller.laneProbe) := by
  have step := controller.probeIdle_step scope observedAt
  generalize (controller.probeIdle scope observedAt).1 = result at step ⊢
  generalize (controller.probeIdle scope observedAt).2 = after at step ⊢
  cases step with
  | rejected => exact ⟨counted.still rfl rfl rfl rfl, fun _ => rfl⟩
  | stopped drain unproven =>
      obtain ⟨newer, passes⟩ := drainBeforeMutation_passes drain
      exact ⟨passes.grows counted, fun _ => passes.same.laneProbe⟩
  | asked drain read passes unproven =>
      obtain ⟨newer, first⟩ := drainBeforeMutation_passes drain
      have drained := first.grows counted
      have asks := drained.trans (drained.counted.asks read)
      exact ⟨asks.trans (passes.grows asks.counted),
        fun _ => passes.same.laneProbe.trans first.same.laneProbe⟩
  | idle bound free drain read response quiet current =>
      obtain ⟨newer, first⟩ := drainBeforeMutation_passes drain
      have drained := first.grows counted
      have asks := drained.trans (drained.counted.asks read)
      obtain ⟨early, responds⟩ := responseLoop_passes response
      obtain ⟨late, last⟩ := drainBeforeMutation_passes quiet
      have shown := asks.trans (responds.grows asks.counted)
      have ends := shown.trans (last.grows shown.counted)
      exact ⟨ends.trans (ends.counted.still rfl rfl rfl rfl), fun other => absurd rfl (other _ _)⟩

omit [Persist P] in
/-- A loop that observes hears something. -/
private theorem hearing_ne_nil (turnRef : PrivateNativeRef) (expectedThread expectedTurn : String)
    (fuel : Nat) (controller : CodexController P) :
    hearing turnRef expectedThread expectedTurn fuel controller ≠ [] := by
  rcases taken : controller.receiveUntil 0 with ⟨error | received, mid⟩
  · unfold hearing
    rw [taken]
    exact List.cons_ne_nil _ _
  · unfold hearing
    rw [taken]
    cases received <;> exact List.cons_ne_nil _ _

/-- A poll hears something and observes, or it receives nothing. -/
theorem pollExactObservation_heard (controller : CodexController P) (scope : ObservationScope) :
    controller.polled scope ≠ [] ∧
        ObserveStep controller (controller.pollExactObservation scope).2 ∨
      Passes controller (controller.pollExactObservation scope).2 [] := by
  simp only [pollExactObservation, polled]
  split_ifs
  · exact .inr (.still (.refl _) rfl rfl)
  · exact .inr (.still (.refl _) rfl rfl)
  cases named : scope.correlation.turnRef with
  | none =>
      simp only [exactNotification, named]
      exact .inr (.still (.refl _) rfl rfl)
  | some turnRef =>
      simp only [exactNotification, named]
      cases (if controller.startedTurn = some turnRef then controller.pendingTerminal
          else none) with
      | some pending =>
          have cleared : Passes controller { controller with pendingTerminal := none } [] :=
            .still ⟨rfl, rfl, rfl, rfl, rfl, rfl⟩ rfl rfl
          simp only
          split_ifs
          · exact .inr (.still ⟨rfl, rfl, rfl, rfl, rfl, rfl⟩ rfl rfl)
          · exact .inr (cleared.trans (degradedOnce_still _))
      | none =>
          cases controller.openedThread with
          | error _ => exact .inr (degradedOnce_still _)
          | ok thread =>
              simp only
              cases (Persist.openNativeCoordinate scope.turnScope turnRef
                  controller.persist).toOption.bind openedText with
              | none => exact .inr (degradedOnce_still _)
              | some turn =>
                  exact .inl ⟨hearing_ne_nil turnRef thread.text turn _ controller,
                    observeLoop_step _ _ _ _ _⟩

end CodexController

namespace CodexController

omit [Persist P] in
/-- What is shown idle stays so while no line is heard. -/
theorem IdleShown.later {older log newer : List WireEvent} (shown : IdleShown older log)
    (unheard : Unheard newer) : IdleShown older (newer ++ log) := by
  obtain ⟨late, line, asked, id, thread, same, silent, answered⟩ := shown.shown
  refine ⟨newer ++ late, line, asked, id, thread, ?_, silent.append unheard, answered⟩
  rw [same, List.append_assoc]

omit [Persist P] in
/-- A receive does not look at the store. -/
theorem receiveUntil_elsewhere {controller mid : CodexController P} {store : P} {deadline : Nat}
    {outcome : Except Error Received}
    (taken : receiveUntil { controller with persist := store } deadline = (outcome, mid)) :
    controller.receiveUntil deadline = (outcome, controller.withTransport mid.transport) := by
  unfold receiveUntil at taken ⊢
  rcases read : controller.transport.receiveUntil deadline with ⟨received, transport⟩
  simp only [read] at taken
  cases taken
  rfl

end CodexController

end Probes

end Codex
end Gearwit
