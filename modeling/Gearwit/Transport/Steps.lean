import Gearwit.Transport.State

/-!
# What the transport's operations do

One lemma for each operation says which results it can have and what it leaves behind.
A receive is a chain of lines that concern nobody, followed by the line that ends it;
an invariant of the lines is an invariant of the receive.
-/

namespace Gearwit
namespace Transport
namespace Wire

/-! ## Simple updates -/

@[simp] theorem flag_same (wire : Wire) : wire.flag wire.state.ambiguous = wire := rfl

@[simp] theorem flag_pipes (wire : Wire) (ambiguous : Bool) :
    (wire.flag ambiguous).pipes = wire.pipes := rfl

@[simp] theorem flag_pending (wire : Wire) (ambiguous : Bool) :
    (wire.flag ambiguous).state.pending = wire.state.pending := rfl

@[simp] theorem flag_ambiguous (wire : Wire) (ambiguous : Bool) :
    (wire.flag ambiguous).state.ambiguous = ambiguous := rfl

@[simp] theorem settle_pipes (wire : Wire) : wire.settle.pipes = wire.pipes := rfl

@[simp] theorem hold_pipes (wire : Wire) (line : List UInt8) :
    (wire.hold line).pipes = wire.pipes := rfl

@[simp] theorem buffer_pipes (wire : Wire) (frame : List UInt8) :
    (wire.buffer frame).pipes = wire.pipes := rfl

@[simp] theorem await_pipes (wire : Wire) (pending : Pending) :
    (wire.await pending).pipes = wire.pipes := rfl

/-- A wire waits for nothing exactly if no request is pending. -/
theorem waiting_eq_false_iff {wire : Wire} :
    wire.waiting = false ↔ wire.state.pending = [] := by
  simp [waiting]

/-! ## Sending -/

variable [SerdeJson]

/-- What a send does: it is held back by an unknown outcome, the value is too long, or its
frame is offered once and accepted whole, not at all, or to an unknown extent. -/
inductive SendEffect (wire : Wire) (purpose : Purpose) (value : Json) :
    Except Error WriteReceipt → Wire → Prop
  | blocked (unknown : wire.state.ambiguous = true) :
      SendEffect wire purpose value (.error .ambiguous) wire
  | unwritten {error : Error} {frame : List UInt8} (clear : wire.state.ambiguous = false) :
      SendEffect wire purpose value (.error error) (wire.buffer frame)
  | sent {pipes : Pipes} (clear : wire.state.ambiguous = false)
      (logged : pipes.log =
        .offered purpose (frameOf value) (frameOf value).length :: wire.pipes.log)
      (unread : pipes.reads = wire.pipes.reads) :
      SendEffect wire purpose value (.ok .written) { wire.buffer [] with pipes }
  | refused {error : Error} {pipes : Pipes} (clear : wire.state.ambiguous = false)
      (logged : pipes.log = .offered purpose (frameOf value) 0 :: wire.pipes.log)
      (unread : pipes.reads = wire.pipes.reads) :
      SendEffect wire purpose value (.error error) { wire.buffer [] with pipes }
  | torn {pipes : Pipes} {accepted : Nat} (clear : wire.state.ambiguous = false)
      (logged : pipes.log = .offered purpose (frameOf value) accepted :: wire.pipes.log)
      (within : accepted ≤ (frameOf value).length)
      (unread : pipes.reads = wire.pipes.reads) :
      SendEffect wire purpose value (.error .ambiguous)
        (flag { wire.buffer [] with pipes } true)

/-- What sending does. -/
theorem send_effect (wire : Wire) (purpose : Purpose) (value : Json) :
    SendEffect wire purpose value (wire.send purpose value).1
      (wire.send purpose value).2 := by
  unfold send
  split_ifs with unknown
  · exact .blocked unknown
  have clear : wire.state.ambiguous = false := by simpa using unknown
  rcases encoded : encode value with ⟨outcome, frame⟩
  cases outcome with
  | error error =>
      simp only [write, encoded, reduceCtorEq, if_false]
      exact .unwritten clear
  | ok done =>
      obtain rfl : frame = frameOf value := by
        have filled := @encode_ok _ value (by rw [encoded])
        rwa [encoded] at filled
      obtain ⟨accepted, logged, unread, effect⟩ :=
        writeAllUntil_effect purpose (frameOf value) ioDeadline wire.pipes
      rcases wrote : writeAllUntil purpose (frameOf value) ioDeadline wire.pipes with
        ⟨outcome, pipes⟩
      rw [wrote] at logged unread effect
      simp only [write, encoded, wrote]
      cases effect with
      | written => exact .sent clear logged unread
      | refused error => exact .refused clear logged unread
      | possible within => exact .torn clear logged within unread

/-! ## One line -/

variable [Blake3]

/-- What handling a line does. -/
inductive InboundEffect (wire : Wire) :
    Inbound → Except Error (Option Received) → Wire → Prop
  | stray {inbound : Inbound}
      (uncorrelated : ∀ pending, wire.state.pending.head? = some pending →
        inbound ≠ .response pending.id ∧ inbound ≠ .nativeError pending.id) :
      InboundEffect wire inbound (.error .correlation)
        (wire.flag (wire.state.ambiguous || wire.waiting))
  | unparsed {pending : Pending} {error : Error}
      (awaited : wire.state.pending.head? = some pending)
      (unread : parseResponse wire.state.line pending = .error error) :
      InboundEffect wire (.response pending.id) (.error error) (wire.flag true)
  | answered {pending : Pending} {received : Received}
      (awaited : wire.state.pending.head? = some pending)
      (read : parseResponse wire.state.line pending = .ok received)
      (other : received ≠ .initialized) :
      InboundEffect wire (.response pending.id) (.ok (some received))
        (wire.flag false).settle
  | shaken {pending : Pending} {receipt : WriteReceipt} {mid : Wire}
      (awaited : wire.state.pending.head? = some pending)
      (read : parseResponse wire.state.line pending = .ok .initialized)
      (sent : SendEffect (wire.flag false) .initialized initializedNotification
        (.ok receipt) mid) :
      InboundEffect wire (.response pending.id) (.ok (some .initialized))
        (settle { mid with state := { mid.state with initialized := true } })
  | unshaken {pending : Pending} {error : Error} {mid : Wire}
      (awaited : wire.state.pending.head? = some pending)
      (read : parseResponse wire.state.line pending = .ok .initialized)
      (sent : SendEffect (wire.flag false) .initialized initializedNotification
        (.error error) mid) :
      InboundEffect wire (.response pending.id) (.error error) mid
  | refused {pending : Pending} (awaited : wire.state.pending.head? = some pending) :
      InboundEffect wire (.nativeError pending.id) (.error .native)
        (wire.flag false).settle
  | passed {notification : Notification} (idle : wire.state.pending = [])
      (ready : wire.state.initialized = true) :
      InboundEffect wire (.notification notification)
        (.ok (some (.notification notification))) wire
  | dropped {notification : Notification} (busy : wire.state.pending ≠ []) :
      InboundEffect wire (.notification notification) (.error .degraded) wire
  | kept {notification : Notification} (busy : wire.state.pending ≠ []) :
      InboundEffect wire (.notification notification) (.ok none)
        { wire with
          state := { wire.state with
            notifications := wire.state.notifications ++ [notification] } }
  | rejected {id : Json} {receipt : WriteReceipt} {mid : Wire} {received : Option Received}
      (sent : SendEffect wire .rejection (rejection id) (.ok receipt) mid)
      (shown : received = if mid.waiting then none else some .serverRequestRejected) :
      InboundEffect wire (.serverRequest id) (.ok received) mid
  | unrejected {id : Json} {error : Error} {mid : Wire}
      (sent : SendEffect wire .rejection (rejection id) (.error error) mid) :
      InboundEffect wire (.serverRequest id) (.error error) mid

private theorem handleResponse_effect (wire : Wire) (id : Nat) :
    InboundEffect wire (.response id) (wire.handleResponse id).1
      (wire.handleResponse id).2 := by
  unfold handleResponse
  cases awaited : wire.state.pending.head? with
  | none =>
      have idle : wire.waiting = false := by
        rw [waiting_eq_false_iff]
        simpa using awaited
      have stray := @InboundEffect.stray _ _ wire (.response id)
        (by rw [awaited]; nofun)
      rwa [idle, Bool.or_false] at stray
  | some pending =>
      simp only
      split_ifs with same
      · subst same
        cases read : parseResponse wire.state.line pending with
        | error error => exact .unparsed awaited read
        | ok received =>
            simp only
            split_ifs with shaking
            · subst shaking
              have sent := send_effect (wire.flag false) .initialized initializedNotification
              rcases outcome : (wire.flag false).send .initialized initializedNotification with
                ⟨result, mid⟩
              rw [outcome] at sent
              cases result with
              | error error => exact .unshaken awaited read sent
              | ok receipt => exact .shaken awaited read sent
            · exact .answered awaited read shaking
      · have busy : wire.waiting = true := by
          rw [← Bool.not_eq_false, waiting_eq_false_iff]
          intro idle
          rw [idle] at awaited
          cases awaited
        have stray := @InboundEffect.stray _ _ wire (.response id) (by
          intro other first
          rw [awaited] at first
          cases first
          exact ⟨fun equal => same (by cases equal; rfl), nofun⟩)
        rwa [busy, Bool.or_true] at stray

private theorem handleNativeError_effect (wire : Wire) (id : Nat) :
    InboundEffect wire (.nativeError id) (wire.handleNativeError id).1
      (wire.handleNativeError id).2 := by
  unfold handleNativeError
  split_ifs with same
  · obtain ⟨pending, awaited, rfl⟩ := Option.map_eq_some_iff.1 same
    exact .refused awaited
  · exact .stray fun pending awaited =>
      ⟨nofun, fun equal => same (by cases equal; rw [awaited]; rfl)⟩

private theorem handleNotification_effect (wire : Wire) (notification : Notification) :
    InboundEffect wire (.notification notification) (wire.handleNotification notification).1
      (wire.handleNotification notification).2 := by
  unfold handleNotification
  have busy (waits : ¬ (!wire.waiting) = true) : wire.state.pending ≠ [] := by
    rw [Ne, ← waiting_eq_false_iff]
    simpa using waits
  split_ifs with early idle full
  · exact .stray fun pending _ => ⟨nofun, nofun⟩
  · exact .passed (waiting_eq_false_iff.1 (by simpa using idle)) (by simpa using early)
  · exact .dropped (busy idle)
  · exact .kept (busy idle)

private theorem handleServerRequest_effect (wire : Wire) (id : Json) :
    InboundEffect wire (.serverRequest id) (wire.handleServerRequest id).1
      (wire.handleServerRequest id).2 := by
  have sent := send_effect wire .rejection (rejection id)
  unfold handleServerRequest
  rcases outcome : wire.send .rejection (rejection id) with ⟨result, mid⟩
  rw [outcome] at sent
  cases result with
  | error error => exact .unrejected sent
  | ok receipt => exact .rejected sent rfl

/-- What handling a message does. -/
theorem handleInbound_effect (wire : Wire) (inbound : Inbound) :
    InboundEffect wire inbound (wire.handleInbound inbound).1
      (wire.handleInbound inbound).2 := by
  cases inbound with
  | response id => exact handleResponse_effect wire id
  | nativeError id => exact handleNativeError_effect wire id
  | notification notification => exact handleNotification_effect wire notification
  | serverRequest id => exact handleServerRequest_effect wire id

/-- The wire after a line was read and counted. -/
structure Heard (wire : Wire) (line : List UInt8) (mid : Wire) : Prop where
  state : mid.state =
    { wire.state with line, stdout := wire.state.stdout + (line.length + 1) }
  log : mid.pipes.log = .heard line :: wire.pipes.log
  left : mid.pipes.reads <:+ wire.pipes.reads
  fewer : mid.pipes.reads.length < wire.pipes.reads.length
  within : mid.state.stdout ≤ maxStdout

/-- What reading and handling one line does: no line is read, the line exceeds what the
server may send, it is not understood, or it is handled. -/
inductive LineEffect (wire : Wire) : Except Error (Option Received) → Wire → Prop
  | silent {error : Error} {line : List UInt8} {pipes : Pipes}
      (stopped : wire.waiting = true → error = .ambiguous)
      (same : pipes.log = wire.pipes.log)
      (left : pipes.reads <:+ wire.pipes.reads) :
      LineEffect wire (.error error)
        ({ wire.hold line with pipes }.flag (wire.state.ambiguous || wire.waiting))
  | long {line : List UInt8} {pipes : Pipes}
      (logged : pipes.log = .heard line :: wire.pipes.log)
      (left : pipes.reads <:+ wire.pipes.reads) :
      LineEffect wire (.error .bounds) { wire.hold line with pipes }
  | malformed {line : List UInt8} {mid : Wire} {error : Error} (heard : Heard wire line mid)
      (unread : classify line = .error error) :
      LineEffect wire (.error error)
        ((mid.flag (wire.state.ambiguous || wire.waiting)).hold [])
  | handled {line : List UInt8} {mid after : Wire} {inbound : Inbound}
      {outcome : Except Error (Option Received)} (heard : Heard wire line mid)
      (read : classify line = .ok inbound)
      (effect : InboundEffect mid inbound outcome after) :
      LineEffect wire outcome (after.hold [])

omit [SerdeJson] [Blake3] in
/-- Reading a line takes reads off the front, and brings a line or an error. -/
theorem readLineUntil_effect (deadline : Nat) (pipes : Pipes) :
    ∃ line reads clock, reads <:+ pipes.reads ∧
      ((∃ error, readLineUntil deadline pipes =
          (.error error, line, { pipes with reads, clock })) ∨
        readLineUntil deadline pipes =
            (.ok (line.length + 1), line,
              { pipes with reads, clock, log := .heard line :: pipes.log }) ∧
          reads.length < pipes.reads.length) := by
  have suffix := readLoop_suffix (pipes.clock + deadline) pipes.reads pipes.clock [] 0
  rcases looped : readLoop (pipes.clock + deadline) pipes.reads pipes.clock [] 0 with
    ⟨outcome, line, reads, clock⟩
  rw [looped] at suffix
  refine ⟨line, reads, clock, suffix, ?_⟩
  cases outcome with
  | error error =>
      exact Or.inl ⟨error, by simp [readLineUntil, looped, Except.isOk, Except.toBool]⟩
  | ok total =>
      have counted := @readLoop_consumed (pipes.clock + deadline) pipes.reads pipes.clock [] 0
        total rfl (by rw [looped])
      have fewer := @readLoop_shorter (pipes.clock + deadline) pipes.reads pipes.clock [] 0
        total (by rw [looped])
      rw [looped] at counted fewer
      refine Or.inr ⟨?_, fewer⟩
      rw [← show total = line.length + 1 from counted]
      simp [readLineUntil, looped, Except.isOk, Except.toBool]

/-- What the next line does. -/
theorem nextLine_effect (due : Nat) (wire : Wire) :
    LineEffect wire (wire.nextLine due).1 (wire.nextLine due).2 := by
  obtain ⟨line, reads, clock, left, ⟨error, read⟩ | ⟨read, fewer⟩⟩ :=
    readLineUntil_effect (due - wire.pipes.clock) wire.pipes
  · have waits : Wire.waiting { wire.hold line with
        pipes := { wire.pipes with reads, clock } } = wire.waiting := rfl
    simp only [nextLine, read, waits]
    split_ifs with busy
    · have silent := @LineEffect.silent _ _ wire .ambiguous line
        { wire.pipes with reads, clock } (fun _ => rfl) rfl left
      rwa [busy, Bool.or_true] at silent
    · have silent := @LineEffect.silent _ _ wire error line
        { wire.pipes with reads, clock } (fun waits => absurd waits busy) rfl left
      have idle : wire.waiting = false := by simpa using busy
      rwa [idle, Bool.or_false] at silent
  · simp only [nextLine, read, handleLine]
    split_ifs with excess
    · exact .long rfl left
    · have heard : Heard wire line
          ⟨{ wire.state with line, stdout := wire.state.stdout + (line.length + 1) },
            { wire.pipes with reads, clock, log := .heard line :: wire.pipes.log }⟩ :=
        ⟨rfl, rfl, left, fewer, Nat.le_of_not_lt excess⟩
      simp only [hold]
      cases understood : classify line with
      | error error => exact .malformed heard understood
      | ok inbound => exact .handled heard understood (handleInbound_effect _ inbound)

omit [Blake3] in
/-- A send changes the frame buffer and the flag at most, and reads nothing. -/
theorem SendEffect.keeps {wire after : Wire} {purpose : Purpose} {value : Json}
    {outcome : Except Error WriteReceipt}
    (effect : SendEffect wire purpose value outcome after) :
    (∃ frame ambiguous, after.state = { wire.state with frame, ambiguous }) ∧
      after.pipes.reads = wire.pipes.reads := by
  cases effect with
  | blocked unknown => exact ⟨⟨_, _, rfl⟩, rfl⟩
  | unwritten clear => exact ⟨⟨_, _, rfl⟩, rfl⟩
  | sent clear logged unread => exact ⟨⟨_, _, rfl⟩, unread⟩
  | refused clear logged unread => exact ⟨⟨_, _, rfl⟩, unread⟩
  | torn clear logged within unread => exact ⟨⟨_, _, rfl⟩, unread⟩

/-- Handling a line reads nothing, counts nothing and takes no identifier. -/
theorem InboundEffect.keeps {wire after : Wire} {inbound : Inbound}
    {outcome : Except Error (Option Received)}
    (effect : InboundEffect wire inbound outcome after) :
    after.pipes.reads = wire.pipes.reads ∧ after.state.stdout = wire.state.stdout ∧
      after.state.nextId = wire.state.nextId := by
  cases effect with
  | shaken awaited read sent =>
      obtain ⟨⟨_, _, same⟩, unread⟩ := sent.keeps
      exact ⟨unread, by simp [settle, same, flag], by simp [settle, same, flag]⟩
  | unshaken awaited read sent =>
      obtain ⟨⟨_, _, same⟩, unread⟩ := sent.keeps
      exact ⟨unread, by simp [same, flag], by simp [same, flag]⟩
  | rejected sent shown =>
      obtain ⟨⟨_, _, same⟩, unread⟩ := sent.keeps
      exact ⟨unread, by simp [same], by simp [same]⟩
  | unrejected sent =>
      obtain ⟨⟨_, _, same⟩, unread⟩ := sent.keeps
      exact ⟨unread, by simp [same], by simp [same]⟩
  | _ => exact ⟨rfl, rfl, rfl⟩

/-- With nothing outstanding every line ends the receive, and nothing is awaited or kept
back after it. -/
theorem InboundEffect.idle {wire after : Wire} {inbound : Inbound}
    {outcome : Except Error (Option Received)}
    (effect : InboundEffect wire inbound outcome after) (idle : wire.state.pending = []) :
    outcome ≠ .ok none ∧ after.state.pending = [] ∧
      after.state.notifications = wire.state.notifications := by
  have none {pending : Pending} (awaited : wire.state.pending.head? = some pending) :
      False := by
    rw [idle] at awaited
    cases awaited
  cases effect with
  | stray uncorrelated => exact ⟨nofun, idle, rfl⟩
  | passed _ ready => exact ⟨nofun, idle, rfl⟩
  | rejected sent shown =>
      obtain ⟨⟨_, _, same⟩, _⟩ := sent.keeps
      rw [same]
      refine ⟨?_, idle, rfl⟩
      rw [shown, waiting, same, idle]
      nofun
  | unrejected sent =>
      obtain ⟨⟨_, _, same⟩, _⟩ := sent.keeps
      rw [same]
      exact ⟨nofun, idle, rfl⟩
  | unparsed awaited _ => exact (none awaited).elim
  | answered awaited _ _ => exact (none awaited).elim
  | shaken awaited _ _ => exact (none awaited).elim
  | unshaken awaited _ _ => exact (none awaited).elim
  | refused awaited => exact (none awaited).elim
  | dropped busy => exact absurd idle busy
  | kept busy => exact absurd idle busy

/-- While a request is outstanding, a line that neither answers it nor is its error object
leaves it outstanding and returns nothing to the caller. -/
theorem InboundEffect.uncorrelated {wire after : Wire} {inbound : Inbound}
    {outcome : Except Error (Option Received)} {pending : Pending}
    (effect : InboundEffect wire inbound outcome after)
    (busy : wire.state.pending = [pending])
    (other : inbound = .response pending.id →
      ∃ error, parseResponse wire.state.line pending = .error error)
    (stray : inbound ≠ .nativeError pending.id) :
    (∀ received, outcome ≠ .ok (some received)) ∧ after.state.pending = [pending] := by
  have same {first : Pending} (awaited : wire.state.pending.head? = some first) :
      first = pending := by
    rw [busy] at awaited
    cases awaited
    rfl
  have unread {first : Pending} {received : Received}
      (awaited : wire.state.pending.head? = some first)
      (read : parseResponse wire.state.line first = .ok received)
      (correlated : inbound = .response first.id) : False := by
    obtain rfl := same awaited
    obtain ⟨error, failed⟩ := other correlated
    rw [failed] at read
    cases read
  cases effect with
  | stray _ => exact ⟨nofun, busy⟩
  | passed idle ready =>
      rw [busy] at idle
      cases idle
  | rejected sent shown =>
      obtain ⟨⟨_, _, kept⟩, _⟩ := sent.keeps
      rw [kept]
      refine ⟨?_, busy⟩
      rw [shown, waiting, kept, busy]
      nofun
  | unrejected sent =>
      obtain ⟨⟨_, _, kept⟩, _⟩ := sent.keeps
      rw [kept]
      exact ⟨nofun, busy⟩
  | unparsed awaited _ => exact ⟨nofun, busy⟩
  | answered awaited read _ => exact (unread awaited read rfl).elim
  | shaken awaited read _ => exact (unread awaited read rfl).elim
  | unshaken awaited read _ => exact (unread awaited read rfl).elim
  | refused awaited => exact absurd (by rw [same awaited]) stray
  | dropped _ => exact ⟨nofun, busy⟩
  | kept _ => exact ⟨nofun, busy⟩

/-! ## The log -/

omit [Blake3] in
/-- Sending only adds to the log. -/
theorem SendEffect.logged {wire after : Wire} {purpose : Purpose} {value : Json}
    {outcome : Except Error WriteReceipt}
    (effect : SendEffect wire purpose value outcome after) :
    ∃ newer, after.pipes.log = newer ++ wire.pipes.log := by
  cases effect with
  | blocked unknown => exact ⟨[], rfl⟩
  | unwritten clear => exact ⟨[], rfl⟩
  | sent clear logged unread => exact ⟨[_], logged⟩
  | refused clear logged unread => exact ⟨[_], logged⟩
  | torn clear logged within unread => exact ⟨[_], logged⟩

/-- Handling a line only adds to the log. -/
theorem InboundEffect.logged {wire after : Wire} {inbound : Inbound}
    {outcome : Except Error (Option Received)}
    (effect : InboundEffect wire inbound outcome after) :
    ∃ newer, after.pipes.log = newer ++ wire.pipes.log := by
  cases effect with
  | shaken awaited read sent => exact sent.logged
  | unshaken awaited read sent => exact sent.logged
  | rejected sent shown => exact sent.logged
  | unrejected sent => exact sent.logged
  | _ => exact ⟨[], rfl⟩

/-- Reading a line only adds to the log. -/
theorem LineEffect.logged {wire after : Wire} {outcome : Except Error (Option Received)}
    (effect : LineEffect wire outcome after) :
    ∃ newer, after.pipes.log = newer ++ wire.pipes.log := by
  cases effect with
  | silent stopped same left => exact ⟨[], same⟩
  | long logged left => exact ⟨[_], logged⟩
  | malformed heard unread => exact ⟨[_], heard.log⟩
  | @handled line mid after _ _ heard read effect =>
      obtain ⟨newer, logged⟩ := effect.logged
      exact ⟨newer ++ [.heard line], by rw [hold_pipes, logged, heard.log]; simp⟩

/-! ## A receive -/

/-- Lines that concern nobody, one after the other. -/
inductive Quiet (due : Nat) : Wire → Wire → Prop
  | refl (wire : Wire) : Quiet due wire wire
  | line {wire next after : Wire} (quiet : wire.nextLine due = (.ok none, next))
      (rest : Quiet due next after) : Quiet due wire after

/-- A relation that every quiet line keeps is kept by a chain of them. -/
theorem Quiet.keeps {due : Nat} {wire after : Wire} {inv : Wire → Prop}
    (quiet : Quiet due wire after)
    (kept : ∀ wire next, inv wire → wire.nextLine due = (.ok none, next) → inv next)
    (start : inv wire) : inv after := by
  induction quiet with
  | refl wire => exact start
  | line step _ inductionHypothesis => exact inductionHypothesis (kept _ _ start step)

/-- What a receive does: it pops a notification, or quiet lines lead to the line that
ends it. -/
inductive ReceiveEffect (wire : Wire) (deadline : Nat) :
    Except Error Received → Wire → Prop
  | popped {notification : Notification} {rest : List Notification}
      (idle : wire.state.pending = [])
      (queued : wire.state.notifications = notification :: rest) :
      ReceiveEffect wire deadline (.ok (.notification notification))
        { wire with state := { wire.state with notifications := rest } }
  | read {mid after : Wire} {outcome : Except Error Received}
      (queue : wire.state.pending = [] → wire.state.notifications = [])
      (quiet : Quiet (wire.pipes.clock + deadline) wire mid)
      (last : mid.nextLine (wire.pipes.clock + deadline) = (outcome.map some, after)) :
      ReceiveEffect wire deadline outcome after

/-- A quiet line uses a read. -/
theorem quiet_fewer {due : Nat} {wire next : Wire}
    (quiet : wire.nextLine due = (.ok none, next)) :
    next.pipes.reads.length < wire.pipes.reads.length := by
  have effect := nextLine_effect due wire
  rw [quiet] at effect
  cases effect with
  | @handled line mid after inbound _ heard _ effect =>
      refine Nat.lt_of_le_of_lt (Nat.le_of_eq ?_) heard.fewer
      cases effect with
      | kept busy => rfl
      | rejected sent shown =>
          cases sent with
          | sent _ _ unread => exact congrArg List.length unread

private theorem nextLoop_effect {due fuel : Nat} {wire : Wire}
    (enough : wire.pipes.reads.length ≤ fuel) :
    ∃ mid, Quiet due wire mid ∧
      mid.nextLine due = ((nextLoop due fuel wire).1.map some, (nextLoop due fuel wire).2) := by
  induction fuel generalizing wire with
  | zero =>
      rcases read : wire.nextLine due with ⟨_ | _ | received, next⟩
      · exact ⟨wire, .refl wire, by simp [nextLoop, read]; rfl⟩
      · have fewer := quiet_fewer read
        omega
      · exact ⟨wire, .refl wire, by simp [nextLoop, read]; rfl⟩
  | succ fuel inductionHypothesis =>
      rcases read : wire.nextLine due with ⟨_ | _ | received, next⟩
      · exact ⟨wire, .refl wire, by simp [nextLoop, read]; rfl⟩
      · have fewer := quiet_fewer read
        obtain ⟨mid, quiet, last⟩ := @inductionHypothesis next (by omega)
        refine ⟨mid, .line read quiet, ?_⟩
        rw [last]
        conv_rhs => rw [nextLoop, read]
      · exact ⟨wire, .refl wire, by simp [nextLoop, read]; rfl⟩

/-- What waiting does. -/
theorem nextUntil_effect (wire : Wire) (deadline : Nat) :
    ReceiveEffect wire deadline (wire.nextUntil deadline).1 (wire.nextUntil deadline).2 := by
  unfold nextUntil
  split
  · rename_i idle queued
    exact .popped (waiting_eq_false_iff.1 idle) queued
  · rename_i other
    obtain ⟨mid, quiet, last⟩ := @nextLoop_effect _ _ (wire.pipes.clock + deadline) _ _
      (Nat.le_refl wire.pipes.reads.length)
    refine .read (fun idle => ?_) quiet last
    cases queued : wire.state.notifications with
    | nil => rfl
    | cons notification rest =>
        exact absurd queued (other notification rest (waiting_eq_false_iff.2 idle))

/-- Quiet lines only add to the log. -/
theorem Quiet.logged {due : Nat} {wire after : Wire} (quiet : Quiet due wire after) :
    ∃ newer, after.pipes.log = newer ++ wire.pipes.log := by
  refine @Quiet.keeps _ _ _ _ _ (fun mid => ∃ newer, mid.pipes.log = newer ++ wire.pipes.log)
    quiet ?_ ⟨[], rfl⟩
  rintro mid next ⟨newer, logged⟩ read
  have effect := nextLine_effect due mid
  rw [read] at effect
  obtain ⟨latest, same⟩ := effect.logged
  exact ⟨latest ++ newer, by rw [same, logged, List.append_assoc]⟩

/-- A quiet line leaves the outstanding request outstanding. -/
theorem quiet_pending {due : Nat} {wire next : Wire}
    (quiet : wire.nextLine due = (.ok none, next)) :
    next.state.pending = wire.state.pending := by
  have effect := nextLine_effect due wire
  rw [quiet] at effect
  cases effect with
  | @handled line mid after inbound _ heard _ effect =>
      have same : mid.state.pending = wire.state.pending := by rw [heard.state]
      rw [← same]
      cases effect with
      | kept busy => rfl
      | rejected sent shown =>
          cases sent with
          | sent => rfl

/-- A quiet line leaves what is pending. -/
theorem Quiet.pending {due : Nat} {wire after : Wire} (quiet : Quiet due wire after) :
    after.state.pending = wire.state.pending :=
  @Quiet.keeps _ _ _ _ _ (fun mid => mid.state.pending = wire.state.pending) quiet
    (fun _ _ same read => (quiet_pending read).trans same) rfl

end Wire
end Transport
end Gearwit
