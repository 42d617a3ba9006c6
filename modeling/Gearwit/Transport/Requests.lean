import Gearwit.Transport.Steps

/-!
# Requests and their answers

Identifiers of requests are taken once and never again, and one request is outstanding
at most.  Whatever a receive returns about the outstanding request was read in a line
that carries its identifier.
-/

namespace Gearwit
namespace Transport

/-- Requests offered to the pipe, newest first. -/
def requests (log : List WireEvent) : List (Nat × RequestKind) :=
  log.filterMap fun event =>
    match event with
    | .offered (.request id kind) _ _ => some (id, kind)
    | _ => none

@[simp] theorem requests_nil : requests [] = [] := rfl

@[simp] theorem requests_heard (line : List UInt8) (log : List WireEvent) :
    requests (.heard line :: log) = requests log := rfl

@[simp] theorem requests_request (id : Nat) (kind : RequestKind) (frame : List UInt8)
    (accepted : Nat) (log : List WireEvent) :
    requests (.offered (.request id kind) frame accepted :: log) =
      (id, kind) :: requests log := rfl

@[simp] theorem requests_initialized (frame : List UInt8) (accepted : Nat)
    (log : List WireEvent) :
    requests (.offered .initialized frame accepted :: log) = requests log := rfl

@[simp] theorem requests_rejection (frame : List UInt8) (accepted : Nat)
    (log : List WireEvent) :
    requests (.offered .rejection frame accepted :: log) = requests log := rfl

@[simp] theorem requests_append (newer older : List WireEvent) :
    requests (newer ++ older) = requests newer ++ requests older :=
  List.filterMap_append

/-- The requests of a log are those that were offered. -/
theorem mem_requests {log : List WireEvent} {id : Nat} {kind : RequestKind} :
    (id, kind) ∈ requests log ↔
      ∃ frame accepted, .offered (.request id kind) frame accepted ∈ log := by
  constructor
  · intro member
    obtain ⟨event, present, shown⟩ := List.mem_filterMap.1 member
    match event, shown with
    | .offered (.request _ _) frame accepted, rfl => exact ⟨frame, accepted, present⟩
  · rintro ⟨frame, accepted, present⟩
    exact List.mem_filterMap.2 ⟨_, present, rfl⟩

namespace Wire

/-! ## Identifiers -/

/-- Identifiers are taken in order, and the outstanding request is one that was offered. -/
structure Numbered (wire : Wire) : Prop where
  taken : ∀ request ∈ requests wire.pipes.log, request.1 < wire.state.nextId
  distinct : ((requests wire.pipes.log).map Prod.fst).Nodup
  single : wire.state.pending.length ≤ 1
  offered : ∀ pending ∈ wire.state.pending,
    (pending.id, pending.kind) ∈ requests wire.pipes.log

/-- Nothing that leaves the requests alone changes what was taken. -/
theorem Numbered.keeps {wire after : Wire} (numbered : wire.Numbered)
    (same : requests after.pipes.log = requests wire.pipes.log)
    (ids : after.state.nextId = wire.state.nextId)
    (fewer : after.state.pending <:+ wire.state.pending) : after.Numbered where
  taken := by rw [same, ids]; exact numbered.taken
  distinct := by rw [same]; exact numbered.distinct
  single := Nat.le_trans fewer.length_le numbered.single
  offered := by
    rw [same]
    exact fun pending member => numbered.offered pending (fewer.subset member)

/-! ## Steps of a receive -/

/-- What the server can still bring: two for each answer of the script, and the
notifications kept back. -/
def left (wire : Wire) : Nat :=
  2 * wire.pipes.reads.length + wire.state.notifications.length

/-- What every step of a receive keeps: no request is offered, no identifier taken, what
is kept back was counted, and the outstanding request is settled at most. -/
structure Moves (wire after : Wire) (newer : List WireEvent) : Prop where
  log : after.pipes.log = newer ++ wire.pipes.log
  unrequested : requests newer = []
  ids : after.state.nextId = wire.state.nextId
  settled : after.state.pending <:+ wire.state.pending
  budget : wire.state.stdout + after.state.notifications.length ≤
    after.state.stdout + wire.state.notifications.length
  spent : after.left ≤ wire.left
  within : wire.state.stdout ≤ maxStdout → after.state.stdout ≤ maxStdout
  ready : wire.state.initialized = true → after.state.initialized = true

/-- A wire that does nothing moves nowhere. -/
theorem Moves.refl (wire : Wire) : Moves wire wire [] :=
  ⟨rfl, rfl, rfl, List.suffix_refl _, Nat.le_refl _, Nat.le_refl _, id, id⟩

/-- Moving composes, with the later events in front. -/
theorem Moves.trans {wire mid after : Wire} {early late : List WireEvent}
    (first : Moves wire mid early) (second : Moves mid after late) :
    Moves wire after (late ++ early) where
  log := by rw [second.log, first.log, List.append_assoc]
  unrequested := by rw [requests_append, second.unrequested, first.unrequested]; rfl
  ids := second.ids.trans first.ids
  settled := second.settled.trans first.settled
  budget := by
    have early := first.budget
    have late := second.budget
    omega
  spent := Nat.le_trans second.spent first.spent
  within := second.within ∘ first.within
  ready := second.ready ∘ first.ready

/-- A numbered wire stays numbered. -/
theorem Moves.numbered {wire after : Wire} {newer : List WireEvent}
    (moves : Moves wire after newer) (numbered : wire.Numbered) : after.Numbered :=
  numbered.keeps (by rw [moves.log, requests_append, moves.unrequested]; rfl) moves.ids
    moves.settled

/-! ## A send -/

variable [SerdeJson]

/-- What a send offers is its request, once, or nothing. -/
theorem SendEffect.requests {wire after : Wire} {id : Nat} {kind : RequestKind}
    {value : Json} {outcome : Except Error WriteReceipt}
    (effect : SendEffect wire (.request id kind) value outcome after) :
    (outcome = .ok .written ∧
        after.pipes.log = .offered (.request id kind) (frameOf value) (frameOf value).length ::
          wire.pipes.log) ∨
      ∃ error, outcome = .error error ∧
        (error ≠ .ambiguous → ∀ accepted frame,
          after.pipes.log = .offered (.request id kind) frame accepted :: wire.pipes.log →
            accepted = 0) ∧
        (after.pipes.log = wire.pipes.log ∨ ∃ accepted,
          after.pipes.log =
            .offered (.request id kind) (frameOf value) accepted :: wire.pipes.log) := by
  cases effect with
  | blocked unknown => exact Or.inr ⟨_, rfl, fun other => absurd rfl other, Or.inl rfl⟩
  | unwritten clear =>
      refine Or.inr ⟨_, rfl, fun _ accepted frame longer => ?_, Or.inl rfl⟩
      exact absurd longer.symm (List.cons_ne_self _ _)
  | sent clear logged unread => exact Or.inl ⟨rfl, logged⟩
  | refused clear logged unread =>
      refine Or.inr ⟨_, rfl, fun _ accepted frame same => ?_, Or.inr ⟨0, logged⟩⟩
      have equal := logged.symm.trans same
      cases equal
      rfl
  | torn clear logged within unread =>
      exact Or.inr ⟨_, rfl, fun other => absurd rfl other, Or.inr ⟨_, logged⟩⟩

/-- A send that is no request offers none. -/
theorem SendEffect.unrequested {wire after : Wire} {purpose : Purpose} {value : Json}
    {outcome : Except Error WriteReceipt}
    (effect : SendEffect wire purpose value outcome after)
    (other : ∀ id kind, purpose ≠ .request id kind) :
    ∃ newer, after.pipes.log = newer ++ wire.pipes.log ∧ Transport.requests newer = [] := by
  have none (frame : List UInt8) (accepted : Nat) :
      Transport.requests [.offered purpose frame accepted] = [] := by
    cases purpose with
    | request id kind => exact absurd rfl (other id kind)
    | initialized => rfl
    | rejection => rfl
  cases effect with
  | blocked unknown => exact ⟨[], rfl, rfl⟩
  | unwritten clear => exact ⟨[], rfl, rfl⟩
  | sent clear logged unread => exact ⟨[_], logged, none _ _⟩
  | refused clear logged unread => exact ⟨[_], logged, none _ _⟩
  | torn clear logged within unread => exact ⟨[_], logged, none _ _⟩

end Wire

/-! ## Refusals by their origin -/

/-- A read fails with one of four refusals. -/
theorem readLoop_error {due : Nat} {reads : List (Timed ReadAnswer)} {clock : Nat}
    {line : List UInt8} {consumed : Nat} {error : Error}
    (failed : (readLoop due reads clock line consumed).1 = .error error) :
    error = .deadline ∨ error = .closed ∨ error = .malformed ∨ error = .bounds := by
  induction reads generalizing clock line consumed with
  | nil =>
      cases failed
      exact Or.inl rfl
  | cons read rest inductionHypothesis =>
      unfold readLoop at failed
      split at failed
      · cases failed
        split_ifs <;> simp
      · split_ifs at failed
        · cases failed
          simp
        · exact inductionHypothesis failed
      · split_ifs at failed
        · cases failed
          simp
        · exact inductionHypothesis failed
      · cases failed
        simp

/-- A reference is refused for its length only. -/
theorem parseBorrowed_error {text : String} {error : Error}
    (failed : NativeRef.parseBorrowed text = .error error) : error = .bounds := by
  unfold NativeRef.parseBorrowed at failed
  split_ifs at failed
  cases failed
  rfl

section Reading

variable [SerdeJson]

private theorem classifyNotification_error {line : List UInt8} {method : String}
    {error : Error} (failed : classifyNotification line method = .error error) :
    error = .malformed ∨ error = .bounds := by
  unfold classifyNotification at failed
  split_ifs at failed
  split at failed
  · cases failed
    exact Or.inl rfl
  · rename_i notification _
    cases thread : NativeRef.parseBorrowed notification.threadId with
    | error refused =>
        rw [thread] at failed
        cases failed
        exact Or.inr (parseBorrowed_error thread)
    | ok thread' =>
        rw [thread] at failed
        cases named : notification.turn.id with
        | none =>
            rw [named] at failed
            cases failed
            exact Or.inl rfl
        | some id =>
            rw [named] at failed
            cases turn : NativeRef.parseBorrowed id with
            | error refused =>
                simp only [bind, Except.bind, turn] at failed
                cases failed
                exact Or.inr (parseBorrowed_error turn)
            | ok turn' =>
                simp only [bind, Except.bind, turn] at failed
                split_ifs at failed
                split at failed <;> cases failed

omit [SerdeJson] in
private theorem map_error {α β : Type} {outcome : Except Error α} {f : α → β}
    {error : Error} (failed : outcome.map f = .error error) : outcome = .error error := by
  cases outcome with
  | error refused =>
      cases failed
      rfl
  | ok value => cases failed

/-- A line is not understood for one of two reasons. -/
theorem classify_error {line : List UInt8} {error : Error}
    (failed : classify line = .error error) : error = .malformed ∨ error = .bounds := by
  unfold classify at failed
  repeat' split at failed
  all_goals first
    | exact classifyNotification_error (map_error failed)
    | (cases failed; exact Or.inl rfl)
    | cases failed

variable [Blake3]

private theorem parseThreadStateRaw_error {result : RawValue} {requested : NativeRef}
    {error : Error} (failed : parseThreadStateRaw result requested = .error error) :
    error = .malformed ∨ error = .bounds ∨ error = .correlation := by
  unfold parseThreadStateRaw at failed
  split at failed
  · cases failed
    exact Or.inl rfl
  · rename_i thread _
    cases returned : NativeRef.parseBorrowed thread.id with
    | error refused =>
        rw [returned] at failed
        cases failed
        exact Or.inr (Or.inl (parseBorrowed_error returned))
    | ok returned' =>
        simp only [bind, Except.bind, returned] at failed
        split_ifs at failed
        · cases failed
          exact Or.inr (Or.inr rfl)
        · repeat' split at failed
          all_goals cases failed

/-- The body of a response is refused for one of three reasons. -/
theorem parseResponse_error {line : List UInt8} {pending : Pending} {error : Error}
    (failed : parseResponse line pending = .error error) :
    error = .malformed ∨ error = .bounds ∨ error = .correlation := by
  unfold parseResponse at failed
  repeat' split at failed
  · cases failed
    exact Or.inl rfl
  · cases failed
  · cases failed
    exact Or.inl rfl
  · exact Or.inr (Or.inl (parseBorrowed_error (map_error failed)))
  · cases failed
    exact Or.inr (Or.inr rfl)
  · exact parseThreadStateRaw_error (map_error failed)
  · cases failed
    exact Or.inr (Or.inr rfl)
  · exact parseThreadStateRaw_error (map_error failed)
  · cases failed
    exact Or.inl rfl
  · exact Or.inr (Or.inl (parseBorrowed_error (map_error failed)))

end Reading

/-- A write fails with one of three refusals. -/
theorem writeLoop_error {due : Nat} {writes : List (Timed WriteAnswer)} {clock : Nat}
    {frame : List UInt8} {wroteBytes : Bool} {failure : WriteFailure}
    (failed : (writeLoop due writes clock frame wroteBytes).1 = .error failure) :
    (failure.error = .deadline ∨ failure.error = .ambiguous ∨ failure.error = .closed) ∧
      (failure.receipt = .possiblyWritten ∨ failure.receipt = .provenNotWritten) := by
  have receipt (wroteBytes : Bool) : failureReceipt wroteBytes = .possiblyWritten ∨
      failureReceipt wroteBytes = .provenNotWritten := by
    cases wroteBytes with
    | true => exact Or.inl rfl
    | false => exact Or.inr rfl
  induction writes generalizing clock frame wroteBytes with
  | nil =>
      cases frame with
      | nil => cases failed
      | cons byte bytes =>
          cases failed
          exact ⟨Or.inl rfl, receipt _⟩
  | cons write rest inductionHypothesis =>
      cases frame with
      | nil => cases failed
      | cons byte bytes =>
          unfold writeLoop at failed
          split at failed
          · cases failed
            exact ⟨Or.inr (Or.inl rfl), receipt _⟩
          · exact inductionHypothesis failed
          · split_ifs at failed
            · cases failed
              exact ⟨Or.inl rfl, receipt _⟩
            · exact inductionHypothesis failed
          · cases failed
            exact ⟨Or.inr (Or.inr rfl), receipt _⟩

private theorem flushLoop_error {due : Nat} {flushes : List (Timed FlushAnswer)}
    {clock : Nat} {failure : WriteFailure}
    (failed : (flushLoop due flushes clock).1 = .error failure) :
    failure.receipt = .possiblyWritten := by
  induction flushes generalizing clock with
  | nil =>
      cases failed
      rfl
  | cons flush rest inductionHypothesis =>
      unfold flushLoop at failed
      split at failed
      · cases failed
      · split_ifs at failed
        · cases failed
          rfl
        · exact inductionHypothesis failed
      · cases failed
        rfl

namespace Wire

variable [SerdeJson]

/-- Whether the pipe blocks a frame until the deadline, with no byte of it accepted. -/
def Blocks (pipes : Pipes) (frame : List UInt8) : Prop :=
  (writeLoop (pipes.clock + ioDeadline) pipes.writes pipes.clock frame false).1 =
    .error ⟨.deadline, .provenNotWritten⟩

/-- A send fails with one of four refusals; with that of a deadline only where the pipe
blocked the whole frame. -/
theorem send_error {wire : Wire} {purpose : Purpose} {value : Json} {error : Error}
    (failed : (wire.send purpose value).1 = .error error) :
    error = .ambiguous ∨ error = .closed ∨ error = .bounds ∨
      error = .deadline ∧ Blocks wire.pipes (frameOf value) := by
  unfold send at failed
  split_ifs at failed
  · cases failed
    exact Or.inl rfl
  rcases encoded : encode value with ⟨outcome, frame⟩
  cases outcome with
  | error refused =>
      obtain rfl : refused = .bounds := by
        have short : (encode value).1 = .error refused := by rw [encoded]
        simp only [encode] at short
        split_ifs at short
        cases short
        rfl
      simp only [write, encoded, reduceCtorEq, if_false] at failed
      cases failed
      exact Or.inr (Or.inr (Or.inl rfl))
  | ok done =>
      obtain rfl : frame = frameOf value := by
        have filled := @encode_ok _ value (by rw [encoded])
        rwa [encoded] at filled
      simp only [write, encoded, writeAllUntil] at failed
      rcases looped : writeLoop (wire.pipes.clock + ioDeadline) wire.pipes.writes
        wire.pipes.clock (frameOf value) false with ⟨_ | done, left, writes, clock⟩
      · rename_i failure
        obtain ⟨reason, receipt⟩ := @writeLoop_error _ _ _ _ _ failure (by rw [looped])
        simp only [looped] at failed
        split_ifs at failed with possible
        · cases failed
          exact Or.inl rfl
        · cases failed
          rcases reason with late | unknown | closed
          · refine Or.inr (Or.inr (Or.inr ⟨late, ?_⟩))
            rw [Blocks, looped]
            obtain ⟨refused, known⟩ := failure
            obtain rfl : refused = .deadline := late
            rw [show known = .provenNotWritten from receipt.resolve_left possible]
          · exact Or.inl unknown
          · exact Or.inr (Or.inl closed)
      · rcases ended : flushLoop (wire.pipes.clock + ioDeadline) wire.pipes.flushes clock with
          ⟨_ | receipt, flushes, after⟩
        · rename_i failure
          have possible := @flushLoop_error _ _ _ failure (by rw [ended])
          simp only [looped, ended, possible, if_true] at failed
          cases failed
          exact Or.inl rfl
        · simp only [looped, ended] at failed
          cases failed

/-! ## What a line proves -/

variable [Blake3]

/-- The outstanding request was answered in one of the lines, which is the last event
unless it ends the handshake. -/
def AnsweredIn (wire : Wire) (newer : List WireEvent) (received : Received) : Prop :=
  ∃ pending line, wire.state.pending.head? = some pending ∧ .heard line ∈ newer ∧
    classify line = .ok (.response pending.id) ∧
    parseResponse line pending = .ok received ∧
    (received ≠ .initialized → newer.head? = some (.heard line))

omit [Blake3] in
/-- The error object of the outstanding request was one of the lines. -/
def RefusedIn (wire : Wire) (newer : List WireEvent) : Prop :=
  ∃ pending line, wire.state.pending.head? = some pending ∧ .heard line ∈ newer ∧
    classify line = .ok (.nativeError pending.id)

/-- The wire when a line was read up to its newline. -/
def hear (wire : Wire) (line : List UInt8) (reads : List (Timed ReadAnswer)) (clock : Nat) :
    Wire :=
  { wire.hold line with
    pipes := { wire.pipes with reads, clock, log := .heard line :: wire.pipes.log } }

/-- The wire when the bytes of a line were counted. -/
private def counted (wire : Wire) (consumed : Nat) : Wire :=
  { wire with state := { wire.state with stdout := wire.state.stdout + consumed } }

/-- Either no line is read, or one is and it is handled. -/
theorem nextLine_cases (due : Nat) (wire : Wire) :
    (∃ error line reads clock,
      (error = .deadline ∨ error = .closed ∨ error = .malformed ∨ error = .bounds) ∧
      reads.length ≤ wire.pipes.reads.length ∧
      wire.nextLine due =
        (.error (if wire.waiting then .ambiguous else error),
          flag { wire.hold line with pipes := { wire.pipes with reads, clock } }
            (wire.state.ambiguous || wire.waiting))) ∨
      ∃ line reads clock,
        readLineUntil (due - wire.pipes.clock) wire.pipes =
          (.ok (line.length + 1), line, (wire.hear line reads clock).pipes) ∧
        reads.length < wire.pipes.reads.length ∧
        wire.nextLine due = (wire.hear line reads clock).handleLine (line.length + 1) := by
  obtain ⟨line, reads, clock, left, ⟨error, read⟩ | ⟨read, fewer⟩⟩ :=
    readLineUntil_effect (due - wire.pipes.clock) wire.pipes
  · refine Or.inl ⟨error, line, reads, clock, ?_, left.length_le, ?_⟩
    · refine @readLoop_error (wire.pipes.clock + (due - wire.pipes.clock)) wire.pipes.reads
        wire.pipes.clock [] 0 error ?_
      have failed := congrArg Prod.fst read
      exact failed
    · simp only [nextLine, read]
      have waits : Wire.waiting { wire.hold line with
        pipes := { wire.pipes with reads, clock } } = wire.waiting := rfl
      rw [waits]
      cases busy : wire.waiting with
      | true => simp [flag, hold]
      | false => simp [flag, hold]
  · refine Or.inr ⟨line, reads, clock, read, fewer, ?_⟩
    simp only [nextLine, read]
    rfl

omit [Blake3] in
/-- A send that fails is refused for a reason of the pipe. -/
private theorem send_refusal {wire after : Wire} {purpose : Purpose} {value : Json}
    {error : Error} (failed : wire.send purpose value = (.error error, after)) :
    error ≠ .native ∧ (error = .deadline → Blocks wire.pipes (frameOf value)) := by
  have first : (wire.send purpose value).1 = .error error := by rw [failed]
  rcases send_error first with rfl | rfl | rfl | ⟨rfl, blocked⟩
  · exact ⟨nofun, nofun⟩
  · exact ⟨nofun, nofun⟩
  · exact ⟨nofun, nofun⟩
  · exact ⟨nofun, fun _ => blocked⟩

/-- A refusal by the server is its error object for the outstanding request. -/
theorem handleInbound_native {wire after : Wire} {inbound : Inbound}
    (refused : wire.handleInbound inbound = (.error .native, after)) :
    ∃ pending, wire.state.pending.head? = some pending ∧
      inbound = .nativeError pending.id ∧ after.state.pending = wire.state.pending.tail := by
  cases inbound with
  | response id =>
      simp only [handleInbound, handleResponse] at refused
      repeat' split at refused
      · cases refused
      · rename_i unread
        cases refused
        rcases parseResponse_error unread with same | same | same <;> cases same
      · rename_i failed
        cases refused
        exact absurd rfl (send_refusal failed).1
      all_goals cases refused
  | nativeError id =>
      simp only [handleInbound, handleNativeError] at refused
      split_ifs at refused with same
      · obtain ⟨pending, awaited, rfl⟩ := Option.map_eq_some_iff.1 same
        cases refused
        exact ⟨pending, awaited, rfl, rfl⟩
      · cases refused
  | notification notification =>
      simp only [handleInbound, handleNotification] at refused
      split_ifs at refused <;> cases refused
  | serverRequest id =>
      simp only [handleInbound, handleServerRequest] at refused
      split at refused
      · rename_i failed
        cases refused
        exact absurd rfl (send_refusal failed).1
      · cases refused

/-- With nothing outstanding a line runs into a deadline only where it is a request of the
server and the pipe blocks its rejection. -/
theorem handleInbound_deadline {wire after : Wire} {inbound : Inbound}
    (idle : wire.state.pending = [])
    (late : wire.handleInbound inbound = (.error .deadline, after)) :
    ∃ id, inbound = .serverRequest id ∧ Blocks wire.pipes (frameOf (rejection id)) := by
  cases inbound with
  | response id =>
      simp only [handleInbound, handleResponse, idle, List.head?_nil] at late
      cases late
  | nativeError id =>
      simp only [handleInbound, handleNativeError, idle] at late
      cases late
  | notification notification =>
      simp only [handleInbound, handleNotification] at late
      split_ifs at late <;> cases late
  | serverRequest id =>
      simp only [handleInbound, handleServerRequest] at late
      split at late
      · rename_i failed
        cases late
        exact ⟨id, rfl, (send_refusal failed).2 rfl⟩
      · cases late

/-- Handling a line. -/
theorem handleInbound_moves {wire after : Wire} {inbound : Inbound}
    {outcome : Except Error (Option Received)}
    (effect : InboundEffect wire inbound outcome after) :
    ∃ newer, after.pipes.log = newer ++ wire.pipes.log ∧ requests newer = [] ∧
      after.state.nextId = wire.state.nextId ∧
      after.state.pending <:+ wire.state.pending ∧
      after.state.stdout = wire.state.stdout ∧
      (wire.state.initialized = true → after.state.initialized = true) ∧
      after.state.notifications.length ≤
        wire.state.notifications.length + (if outcome = .ok none then 1 else 0) := by
  have kept : wire.state.pending <:+ wire.state.pending := List.suffix_refl _
  have settled : wire.state.pending.tail <:+ wire.state.pending := List.tail_suffix _
  cases effect with
  | stray _ => exact ⟨[], rfl, rfl, rfl, kept, rfl, id, Nat.le_add_right _ _⟩
  | unparsed _ _ => exact ⟨[], rfl, rfl, rfl, kept, rfl, id, Nat.le_add_right _ _⟩
  | answered _ _ _ => exact ⟨[], rfl, rfl, rfl, settled, rfl, id, Nat.le_add_right _ _⟩
  | shaken _ _ sent =>
      obtain ⟨newer, log, unrequested⟩ := sent.unrequested (by intro _ _ same; cases same)
      obtain ⟨⟨frame, ambiguous, same⟩, _⟩ := sent.keeps
      refine ⟨newer, log, unrequested, ?_, ?_, ?_, fun _ => rfl, ?_⟩ <;>
        simp only [settle, same, flag]
      · exact settled
      · exact Nat.le_add_right _ _
  | unshaken _ _ sent =>
      obtain ⟨newer, log, unrequested⟩ := sent.unrequested (by intro _ _ same; cases same)
      obtain ⟨⟨frame, ambiguous, same⟩, _⟩ := sent.keeps
      refine ⟨newer, log, unrequested, ?_, ?_, ?_, fun ready => ?_, ?_⟩ <;>
        simp only [same, flag]
      · exact kept
      · exact ready
      · exact Nat.le_add_right _ _
  | refused _ => exact ⟨[], rfl, rfl, rfl, settled, rfl, id, Nat.le_add_right _ _⟩
  | passed _ _ => exact ⟨[], rfl, rfl, rfl, kept, rfl, id, Nat.le_add_right _ _⟩
  | dropped _ => exact ⟨[], rfl, rfl, rfl, kept, rfl, id, Nat.le_add_right _ _⟩
  | kept _ =>
      refine ⟨[], rfl, rfl, rfl, kept, rfl, id, ?_⟩
      simp
  | rejected sent shown =>
      obtain ⟨newer, log, unrequested⟩ := sent.unrequested (by intro _ _ same; cases same)
      obtain ⟨⟨frame, ambiguous, same⟩, _⟩ := sent.keeps
      refine ⟨newer, log, unrequested, ?_, ?_, ?_, fun ready => ?_, ?_⟩ <;> rewrite [same]
      · rfl
      · exact kept
      · rfl
      · exact ready
      · exact Nat.le_add_right _ _
  | unrejected sent =>
      obtain ⟨newer, log, unrequested⟩ := sent.unrequested (by intro _ _ same; cases same)
      obtain ⟨⟨frame, ambiguous, same⟩, _⟩ := sent.keeps
      refine ⟨newer, log, unrequested, ?_, ?_, ?_, fun ready => ?_, ?_⟩ <;> rewrite [same]
      · rfl
      · exact kept
      · rfl
      · exact ready
      · exact Nat.le_add_right _ _

/-- What a step of a receive shows. -/
structure Shows (wire : Wire) (outcome : Except Error (Option Received)) (after : Wire)
    (newer : List WireEvent) : Prop where
  moves : Moves wire after newer
  native : outcome = .error .native →
    RefusedIn wire newer ∧ after.state.pending = wire.state.pending.tail
  answered : ∀ received, outcome = .ok (some received) →
    (wire.state.pending = [] ∧
        ((∃ notification, received = .notification notification) ∨
          received = .serverRequestRejected)) ∨
      AnsweredIn wire newer received ∧ after.state.pending = wire.state.pending.tail
  counted : ∀ received, outcome = .ok (some received) →
    wire.state.stdout + after.state.notifications.length + 1 ≤
      after.state.stdout + wire.state.notifications.length
  fewer : ∀ received, outcome = .ok (some received) → after.left < wire.left

/-- A step that refuses for another reason than the server's. -/
private theorem Shows.failed {wire after : Wire} {newer : List WireEvent} {error : Error}
    (moves : Moves wire after newer) (other : error ≠ .native) :
    Shows wire (.error error) after newer :=
  ⟨moves, fun same => absurd (by cases same; rfl) other, nofun, nofun, nofun⟩

/-- What handling a line returns about the outstanding request. -/
private theorem handleInbound_answered {wire after : Wire} {inbound : Inbound}
    {received : Received} (effect : InboundEffect wire inbound (.ok (some received)) after) :
    (wire.state.pending = [] ∧
        ((∃ notification, received = .notification notification) ∨
          received = .serverRequestRejected)) ∨
      ∃ pending, wire.state.pending.head? = some pending ∧
        inbound = .response pending.id ∧
        parseResponse wire.state.line pending = .ok received ∧
        after.state.pending = wire.state.pending.tail ∧
        (received ≠ .initialized → after.pipes.log = wire.pipes.log) := by
  cases effect with
  | answered awaited read other => exact Or.inr ⟨_, awaited, rfl, read, rfl, fun _ => rfl⟩
  | shaken awaited read sent =>
      obtain ⟨⟨frame, ambiguous, same⟩, _⟩ := sent.keeps
      exact Or.inr ⟨_, awaited, rfl, read, by simp only [settle, same, flag],
        fun other => absurd rfl other⟩
  | passed idle ready => exact Or.inl ⟨idle, Or.inl ⟨_, rfl⟩⟩
  | @rejected id receipt mid received' sent shown =>
      obtain ⟨⟨frame, ambiguous, same⟩, _⟩ := sent.keeps
      cases busy : after.waiting with
      | true =>
          rw [busy, if_pos rfl] at shown
          cases shown
      | false =>
          rw [busy] at shown
          have idle := waiting_eq_false_iff.1 busy
          rw [same] at idle
          exact Or.inl ⟨idle, Or.inr (Option.some.inj shown)⟩

/-- A line that is read is counted unless it exceeds what the server may send. -/
private theorem handleLine_shows {wire after : Wire} {line : List UInt8}
    {reads : List (Timed ReadAnswer)} {clock : Nat} {outcome : Except Error (Option Received)}
    (shorter : reads.length < wire.pipes.reads.length)
    (handled : (wire.hear line reads clock).handleLine (line.length + 1) = (outcome, after)) :
    ∃ newer, Shows wire outcome after newer := by
  unfold handleLine at handled
  split_ifs at handled with excess
  · cases handled
    refine ⟨[.heard line], Shows.failed ⟨rfl, rfl, rfl, List.suffix_refl _, Nat.le_refl _, ?_, id,
      id⟩ (by intro same; cases same)⟩
    change 2 * reads.length + wire.state.notifications.length ≤ _
    unfold left
    omega
  have within : wire.state.stdout + (line.length + 1) ≤ maxStdout := Nat.le_of_not_lt excess
  simp only at handled
  cases understood : classify line with
  | error error =>
      rw [show (wire.hear line reads clock).state.line = line from rfl, understood] at handled
      cases handled
      refine ⟨[.heard line], Shows.failed ⟨rfl, rfl, rfl, List.suffix_refl _, ?_, ?_,
        fun _ => within, id⟩ fun same => ?_⟩
      · change wire.state.stdout + wire.state.notifications.length ≤
          wire.state.stdout + (line.length + 1) + wire.state.notifications.length
        omega
      · change 2 * reads.length + wire.state.notifications.length ≤ _
        unfold left
        omega
      · rcases classify_error understood with other | other <;> rw [other] at same <;> cases same
  | ok inbound =>
      rw [show (wire.hear line reads clock).state.line = line from rfl, understood] at handled
      have effect := handleInbound_effect
        ((wire.hear line reads clock).counted (line.length + 1)) inbound
      rcases answer : ((wire.hear line reads clock).counted (line.length + 1)).handleInbound
        inbound with ⟨result, last⟩
      rw [answer] at effect
      have settled : (result, last.hold []) = (outcome, after) := by
        rw [← handled]
        exact congrArg (fun answered => (answered.1, answered.2.hold [])) answer.symm
      cases settled
      obtain ⟨newer, log, unrequested, ids, settled, stdout, ready, queue⟩ :=
        handleInbound_moves effect
      replace stdout : last.state.stdout = wire.state.stdout + (line.length + 1) := stdout
      replace queue : last.state.notifications.length ≤ wire.state.notifications.length +
        (if outcome = .ok none then 1 else 0) := queue
      have unread : last.pipes.reads = reads := effect.keeps.1
      have spent : (last.hold []).left + (if outcome = .ok none then 0 else 1) ≤ wire.left := by
        change 2 * last.pipes.reads.length + last.state.notifications.length + _ ≤ _
        rw [unread]
        unfold left
        split_ifs at queue ⊢ <;> omega
      have moves : Moves wire (last.hold []) (newer ++ [.heard line]) := by
        refine ⟨?_, ?_, ids, settled, ?_, Nat.le_of_add_right_le spent, fun _ => ?_, ready⟩
        · rw [hold_pipes, log]
          exact (List.append_assoc newer [_] _).symm
        · rw [requests_append, unrequested]
          rfl
        · change wire.state.stdout + last.state.notifications.length ≤
            last.state.stdout + wire.state.notifications.length
          split_ifs at queue <;> omega
        · change last.state.stdout ≤ maxStdout
          omega
      refine ⟨newer ++ [.heard line], moves, ?_, ?_, ?_, ?_⟩
      · rintro rfl
        obtain ⟨pending, awaited, rfl, rest⟩ := handleInbound_native answer
        exact ⟨⟨pending, line, awaited, by simp, understood⟩, rest⟩
      · rintro received rfl
        rcases handleInbound_answered effect with
          idle | ⟨pending, awaited, rfl, read, rest, quiet⟩
        · exact Or.inl idle
        · refine Or.inr ⟨⟨pending, line, awaited, by simp, understood, read, fun other => ?_⟩,
            rest⟩
          obtain rfl : newer = [] := List.append_left_eq_self.1 (log.symm.trans (quiet other))
          rfl
      · rintro received rfl
        change wire.state.stdout + last.state.notifications.length + 1 ≤
          last.state.stdout + wire.state.notifications.length
        rw [if_neg (by intro same; cases same)] at queue
        omega
      · rintro received rfl
        rw [if_neg (by intro same; cases same)] at spent
        exact spent

/-- A line shows in the log what came of it. -/
theorem nextLine_shows {due : Nat} {wire after : Wire}
    {outcome : Except Error (Option Received)}
    (read : wire.nextLine due = (outcome, after)) : ∃ newer, Shows wire outcome after newer := by
  rcases nextLine_cases due wire with
    ⟨error, line, reads, clock, reason, shorter, same⟩ | ⟨line, reads, clock, _, shorter, same⟩
  · rw [same] at read
    cases read
    refine ⟨[], Shows.failed ⟨rfl, rfl, rfl, List.suffix_refl _, Nat.le_refl _, ?_, id, id⟩ ?_⟩
    · exact Nat.add_le_add_right (Nat.mul_le_mul_left 2 shorter) _
    split_ifs
    · nofun
    · rcases reason with rfl | rfl | rfl | rfl <;> nofun
  · rw [same] at read
    exact handleLine_shows shorter read

/-! ## A receive -/

/-- What a receive shows. -/
structure Receives (wire : Wire) (outcome : Except Error Received) (after : Wire)
    (newer : List WireEvent) : Prop where
  moves : Moves wire after newer
  native : outcome = .error .native →
    RefusedIn wire newer ∧ after.state.pending = wire.state.pending.tail
  answered : ∀ received, outcome = .ok received →
    (wire.state.pending = [] ∧
        ((∃ notification, received = .notification notification) ∨
          received = .serverRequestRejected)) ∨
      AnsweredIn wire newer received ∧ after.state.pending = wire.state.pending.tail
  counted : ∀ received, outcome = .ok received →
    wire.state.stdout + after.state.notifications.length + 1 ≤
      after.state.stdout + wire.state.notifications.length
  fewer : ∀ received, outcome = .ok received → after.left < wire.left

private theorem Quiet.moves {due : Nat} {wire after : Wire} (quiet : Quiet due wire after) :
    ∃ newer, Moves wire after newer := by
  refine @Quiet.keeps _ _ _ _ _ (fun mid => ∃ newer, Moves wire mid newer) quiet ?_
    ⟨[], .refl wire⟩
  rintro mid next ⟨early, moves⟩ read
  obtain ⟨late, shows⟩ := nextLine_shows read
  exact ⟨late ++ early, moves.trans shows.moves⟩

/-- Waiting receives what a line says, or nothing. -/
theorem nextUntil_receives {wire after : Wire} {deadline : Nat}
    {outcome : Except Error Received} (taken : wire.nextUntil deadline = (outcome, after)) :
    ∃ newer, Receives wire outcome after newer := by
  have effect := nextUntil_effect wire deadline
  rw [taken] at effect
  cases effect with
  | popped idle queued =>
      refine ⟨[], ⟨rfl, rfl, rfl, List.suffix_refl _, ?_, ?_, id, id⟩, nofun, ?_, ?_, ?_⟩
      · simp [queued]
      · simp [left, queued]
      · rintro received same
        cases same
        exact Or.inl ⟨idle, Or.inl ⟨_, rfl⟩⟩
      · rintro received same
        simp only [queued, List.length_cons]
        omega
      · rintro received same
        simp [left, queued]
  | @read mid _ _ queue quiet last =>
      obtain ⟨early, first⟩ := quiet.moves
      obtain ⟨late, shows⟩ := nextLine_shows last
      have same := quiet.pending
      refine ⟨late ++ early, first.trans shows.moves, ?_, ?_, ?_, ?_⟩
      · rintro rfl
        obtain ⟨⟨pending, line, awaited, heard, read⟩, settled⟩ := shows.native rfl
        rw [same] at awaited settled
        exact ⟨⟨pending, line, awaited, List.mem_append_left _ heard, read⟩, settled⟩
      · rintro value rfl
        rcases shows.answered value rfl with
          ⟨idle, other⟩ | ⟨⟨pending, line, awaited, heard, read, parsed, newest⟩, settled⟩
        · exact Or.inl ⟨same ▸ idle, other⟩
        · rw [same] at awaited settled
          refine Or.inr ⟨⟨pending, line, awaited, List.mem_append_left _ heard, read, parsed,
            fun other => ?_⟩, settled⟩
          rw [List.head?_append, newest other]
          rfl
      · rintro value rfl
        have strict : mid.state.stdout + after.state.notifications.length + 1 ≤
            after.state.stdout + mid.state.notifications.length := shows.counted value rfl
        have budget := first.budget
        omega
      · rintro value rfl
        exact Nat.lt_of_lt_of_le (shows.fewer value rfl) first.spent

/-! ## Requests -/

omit [SerdeJson] [Blake3] in
/-- A request is granted to an initialized wire that waits for nothing and is certain. -/
theorem refusal_none {wire : Wire} (granted : wire.refusal = none) :
    wire.state.ambiguous = false ∧ wire.state.initialized = true ∧
      wire.state.pending = [] := by
  unfold refusal at granted
  split_ifs at granted with unknown early busy
  exact ⟨by simpa using unknown, by simpa using early,
    waiting_eq_false_iff.1 (by simpa using busy)⟩

/-- What sending a request does. -/
structure Requested (wire : Wire) (kind : RequestKind) (thread : Option NativeRef)
    (outcome : Except Error Unit) (after : Wire) : Prop where
  numbered : wire.Numbered → after.Numbered
  stdout : after.state.stdout = wire.state.stdout
  queue : after.state.notifications = wire.state.notifications
  ready : after.state.initialized = wire.state.initialized
  log : after.pipes.log = wire.pipes.log ∨ ∃ id frame accepted,
    after.pipes.log = .offered (.request id kind) frame accepted :: wire.pipes.log ∧
      (∀ error, outcome = .error error → error ≠ .ambiguous → accepted = 0)
  sent : outcome = .ok () → wire.state.initialized = true ∧ wire.state.pending = [] ∧
    ∃ id frame,
    after.state.pending = [⟨id, kind, thread⟩] ∧
      after.pipes.log = .offered (.request id kind) frame frame.length :: wire.pipes.log
  failed : ∀ error, outcome = .error error → after.state.pending = wire.state.pending

omit [SerdeJson] [Blake3] in
/-- A request that was not sent. -/
private theorem Requested.unsent {wire after : Wire} {kind : RequestKind}
    {thread : Option NativeRef} {error : Error} (log : after.pipes.log = wire.pipes.log)
    (state : ∃ nextId, wire.state.nextId ≤ nextId ∧
      after.state = { wire.state with nextId }) :
    Requested wire kind thread (.error error) after := by
  obtain ⟨nextId, later, same⟩ := state
  refine ⟨fun numbered => ⟨?_, ?_, ?_, ?_⟩, ?_, ?_, ?_, Or.inl log, nofun, ?_⟩ <;>
    simp only [log, same]
  · exact fun request member => Nat.lt_of_lt_of_le (numbered.taken request member) later
  · exact numbered.distinct
  · exact numbered.single
  · exact numbered.offered
  · exact fun _ _ => trivial

omit [SerdeJson] [Blake3] in
/-- A request that was turned away at once. -/
theorem Requested.unasked (wire : Wire) (kind : RequestKind) (thread : Option NativeRef)
    (error : Error) : Requested wire kind thread (.error error) wire :=
  .unsent rfl ⟨_, Nat.le_refl _, rfl⟩

omit [SerdeJson] [Blake3] in
/-- The next identifier was never offered. -/
theorem Numbered.next {wire : Wire} (numbered : wire.Numbered) (id : Nat)
    (fresh : wire.state.nextId ≤ id) :
    id ∉ (Transport.requests wire.pipes.log).map Prod.fst := by
  intro member
  obtain ⟨request, known, rfl⟩ := List.mem_map.1 member
  have taken := numbered.taken request known
  omega

omit [SerdeJson] [Blake3] in
/-- A request whose frame was accepted whole. -/
private theorem Requested.whole {wire last : Wire} {kind : RequestKind}
    {thread : Option NativeRef} {buffer frame : List UInt8} {ambiguous : Bool}
    (ready : wire.state.initialized = true) (idle : wire.state.pending = [])
    (same : last.state = { wire.state with
      nextId := wire.state.nextId + 1, frame := buffer, ambiguous })
    (log : last.pipes.log =
      .offered (.request wire.state.nextId kind) frame frame.length :: wire.pipes.log) :
    Requested wire kind thread (.ok ()) (last.await ⟨wire.state.nextId, kind, thread⟩) where
  numbered numbered := by
    have unused := numbered.next wire.state.nextId (Nat.le_refl _)
    refine ⟨?_, ?_, ?_, ?_⟩ <;> simp only [await, same, log, idle, requests_request]
    · intro request member
      rcases List.mem_cons.1 member with rfl | older
      · exact Nat.lt_succ_self _
      · exact Nat.lt_succ_of_lt (numbered.taken request older)
    · exact List.nodup_cons.2 ⟨unused, numbered.distinct⟩
    · exact Nat.le_refl 1
    · intro pending member
      obtain rfl := List.mem_singleton.1 member
      exact List.mem_cons_self
  stdout := by simp only [await, same]
  queue := by simp only [await, same]
  ready := by simp only [await, same]
  log := Or.inr ⟨_, _, _, log, nofun⟩
  sent _ := ⟨ready, idle, _, _, by simp only [await, same, idle]; rfl, log⟩
  failed error refused := by cases refused

omit [SerdeJson] [Blake3] in
/-- A request whose frame was not accepted whole. -/
private theorem Requested.refused {wire last : Wire} {kind : RequestKind}
    {thread : Option NativeRef} {buffer frame : List UInt8} {ambiguous : Bool} {error : Error}
    (idle : wire.state.pending = [])
    (same : last.state = { wire.state with
      nextId := wire.state.nextId + 1, frame := buffer, ambiguous })
    (log : last.pipes.log = wire.pipes.log ∨ ∃ accepted, last.pipes.log =
      .offered (.request wire.state.nextId kind) frame accepted :: wire.pipes.log)
    (untouched : ∀ accepted frame, last.pipes.log =
      .offered (.request wire.state.nextId kind) frame accepted :: wire.pipes.log →
        error ≠ .ambiguous → accepted = 0) :
    Requested wire kind thread (.error error) last where
  numbered numbered := by
    have unused := numbered.next wire.state.nextId (Nat.le_refl _)
    refine ⟨?_, ?_, ?_, ?_⟩
    · intro request member
      rw [same]
      rcases log with log | ⟨accepted, log⟩ <;> rw [log] at member
      · exact Nat.lt_succ_of_lt (numbered.taken request member)
      · rcases List.mem_cons.1 member with rfl | older
        · exact Nat.lt_succ_self _
        · exact Nat.lt_succ_of_lt (numbered.taken request older)
    · rcases log with log | ⟨accepted, log⟩ <;> rw [log]
      · exact numbered.distinct
      · exact List.nodup_cons.2 ⟨unused, numbered.distinct⟩
    · rw [same]
      exact numbered.single
    · rw [same, idle]
      nofun
  stdout := by rw [same]
  queue := by rw [same]
  ready := by rw [same]
  log := by
    rcases log with log | ⟨accepted, log⟩
    · exact Or.inl log
    · refine Or.inr ⟨_, _, _, log, fun other refused clear => ?_⟩
      cases refused
      exact untouched accepted _ log clear
  sent refused := by cases refused
  failed _ _ := by rw [same]

omit [Blake3] in
/-- Sending a request asks for one thing at most. -/
theorem sendRequest_requested (wire : Wire) (kind : RequestKind) (params : Json)
    (thread : Option NativeRef) :
    Requested wire kind thread (wire.sendRequest kind params thread).1
      (wire.sendRequest kind params thread).2 := by
  unfold sendRequest
  cases granted : wire.refusal with
  | some error => exact .unsent rfl ⟨_, Nat.le_refl _, rfl⟩
  | none =>
      obtain ⟨clear, ready, idle⟩ := refusal_none granted
      unfold mintId
      split_ifs with room
      · cases named : method kind with
        | none => exact .unsent rfl ⟨_, Nat.le_succ _, rfl⟩
        | some text =>
            simp only
            generalize minted : (⟨{ wire.state with nextId := wire.state.nextId + 1 },
              wire.pipes⟩ : Wire) = mid
            have sent := send_effect mid (.request wire.state.nextId kind)
              (clientRequest wire.state.nextId text params)
            rcases outcome : mid.send (.request wire.state.nextId kind)
              (clientRequest wire.state.nextId text params) with ⟨result, last⟩
            rw [outcome] at sent
            subst minted
            obtain ⟨⟨frame, ambiguous, same⟩, _⟩ := sent.keeps
            rcases sent.requests with ⟨rfl, log⟩ | ⟨error, rfl, whole, log⟩
            · exact .whole ready idle same log
            · exact .refused idle same log fun accepted frame logged other =>
                whole other accepted frame logged
      · exact .unsent rfl ⟨_, Nat.le_refl _, rfl⟩

/-! ## Turns -/

/-- What preparing a turn does. -/
structure Prepared (wire : Wire) (thread : NativeRef) (managedInput : String)
    (outcome : Except Error Nat) (after : Wire) : Prop where
  numbered : wire.Numbered → after.Numbered
  pipes : after.pipes = wire.pipes
  stdout : after.state.stdout = wire.state.stdout
  queue : after.state.notifications = wire.state.notifications
  ready : after.state.initialized = wire.state.initialized
  pending : after.state.pending = wire.state.pending
  frame : ∀ id, outcome = .ok id → wire.state.pending = [] ∧ id = wire.state.nextId ∧
    after.state.nextId = id + 1 ∧
      after.state.frame = frameOf (turnRequest id thread managedInput)
  failed : ∀ error, outcome = .error error →
    after.state.frame = [] ∨ after.state.frame = wire.state.frame

omit [Blake3] in
/-- Preparing a turn takes an identifier and keeps the frame. -/
theorem prepareTurn_prepared (wire : Wire) (thread : NativeRef) (managedInput : String) :
    Prepared wire thread managedInput (wire.prepareTurn thread managedInput).1
      (wire.prepareTurn thread managedInput).2 := by
  have numbered {after : Wire} (nextId : Nat) (frame : List UInt8)
      (same : after = ⟨{ wire.state with nextId, frame }, wire.pipes⟩)
      (later : wire.state.nextId ≤ nextId) (known : wire.Numbered) : after.Numbered := by
    subst same
    exact ⟨fun request member => Nat.lt_of_lt_of_le (known.taken request member) later,
      known.distinct, known.single, known.offered⟩
  unfold prepareTurn
  cases granted : wire.refusal with
  | some error => exact ⟨id, rfl, rfl, rfl, rfl, rfl, nofun, fun _ _ => Or.inr rfl⟩
  | none =>
      obtain ⟨_, _, idle⟩ := refusal_none granted
      unfold mintId
      split_ifs with room
      · simp only
        rcases encoded : encode (turnRequest wire.state.nextId thread managedInput) with
          ⟨outcome, frame⟩
        cases outcome with
        | error error =>
            exact ⟨numbered _ _ rfl (Nat.le_succ _), rfl, rfl, rfl, rfl, rfl, nofun,
              fun _ _ => Or.inl rfl⟩
        | ok done =>
            have filled := @encode_ok _ (turnRequest wire.state.nextId thread managedInput)
              (by rw [encoded])
            rw [encoded] at filled
            refine ⟨numbered _ _ rfl (Nat.le_succ _), rfl, rfl, rfl, rfl, rfl, ?_, nofun⟩
            rintro id same
            cases same
            exact ⟨idle, rfl, rfl, filled⟩
      · exact ⟨id, rfl, rfl, rfl, rfl, rfl, nofun, fun _ _ => Or.inr rfl⟩

/-- What dispatching a turn does. -/
structure Dispatched (wire : Wire) (id : Nat) (outcome : Except WriteFailure WriteReceipt)
    (after : Wire) (accepted : Nat) : Prop where
  log : after.pipes.log =
    .offered (.request id .turnStart) wire.state.frame accepted :: wire.pipes.log
  nextId : after.state.nextId = wire.state.nextId
  stdout : after.state.stdout = wire.state.stdout
  queue : after.state.notifications = wire.state.notifications
  ready : after.state.initialized = wire.state.initialized
  frame : after.state.frame = []
  written : ∀ receipt, outcome = .ok receipt →
    after.state.pending = wire.state.pending ++ [⟨id, .turnStart, none⟩]
  refused : ∀ failure, outcome = .error failure → failure.receipt = .provenNotWritten →
    accepted = 0 ∧ after.state.pending = wire.state.pending
  possible : ∀ failure, outcome = .error failure → failure.receipt ≠ .provenNotWritten →
    after.state.pending = wire.state.pending ++ [⟨id, .turnStart, none⟩]

omit [SerdeJson] [Blake3] in
/-- Dispatching offers the frame that was prepared. -/
theorem dispatchPreparedTurn_dispatched (wire : Wire) (id : Nat) :
    ∃ accepted, Dispatched wire id (wire.dispatchPreparedTurn id).1
      (wire.dispatchPreparedTurn id).2 accepted := by
  obtain ⟨accepted, log, _, effect⟩ :=
    writeAllUntil_effect (.request id .turnStart) wire.state.frame ioDeadline wire.pipes
  rcases wrote : writeAllUntil (.request id .turnStart) wire.state.frame ioDeadline wire.pipes
    with ⟨outcome, pipes⟩
  rw [wrote] at log effect
  refine ⟨accepted, ?_⟩
  simp only [dispatchPreparedTurn, wrote]
  cases effect with
  | written => exact ⟨log, rfl, rfl, rfl, rfl, rfl, fun _ _ => rfl, nofun, nofun⟩
  | refused error =>
      refine ⟨log, rfl, rfl, rfl, rfl, rfl, nofun, fun _ _ _ => ⟨rfl, rfl⟩, ?_⟩
      rintro failure same unproven
      cases same
      exact absurd rfl unproven
  | possible within =>
      refine ⟨log, rfl, rfl, rfl, rfl, rfl, nofun, ?_, fun _ _ _ => rfl⟩
      rintro failure same proven
      cases same
      cases proven

omit [SerdeJson] [Blake3] in
/-- A dispatch under a new identifier keeps the numbering. -/
theorem Dispatched.numbered {wire after : Wire} {id accepted : Nat}
    {outcome : Except WriteFailure WriteReceipt}
    (dispatched : Dispatched wire id outcome after accepted) (numbered : wire.Numbered)
    (idle : wire.state.pending = []) (minted : id < wire.state.nextId)
    (unused : id ∉ (requests wire.pipes.log).map Prod.fst) : after.Numbered := by
  have pending : after.state.pending = [] ∨
      after.state.pending = [⟨id, .turnStart, none⟩] := by
    rcases outcome with failure | receipt
    · by_cases proven : failure.receipt = .provenNotWritten
      · exact Or.inl ((dispatched.refused failure rfl proven).2.trans idle)
      · refine Or.inr ?_
        rw [dispatched.possible failure rfl proven, idle]
        rfl
    · refine Or.inr ?_
      rw [dispatched.written receipt rfl, idle]
      rfl
  refine ⟨?_, ?_, ?_, ?_⟩
  · rw [dispatched.log, dispatched.nextId, requests_request]
    intro request member
    rcases List.mem_cons.1 member with rfl | older
    · exact minted
    · exact numbered.taken request older
  · rw [dispatched.log, requests_request]
    exact List.nodup_cons.2 ⟨unused, numbered.distinct⟩
  · rcases pending with none | one
    · rw [none]
      exact Nat.zero_le 1
    · rw [one]
      exact Nat.le_refl 1
  · rw [dispatched.log, requests_request]
    intro waiting member
    rcases pending with none | one
    · rw [none] at member
      cases member
    · rw [one] at member
      obtain rfl := List.mem_singleton.1 member
      exact List.mem_cons_self

end Wire
end Transport
end Gearwit
