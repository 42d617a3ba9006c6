import Gearwit.Waiter.Admission

/-!
# Handled-cursor acknowledgement

The acknowledgement store keeps one batch for each signal and the reply of every
request.  An accepted request records its cursor, closes the batch and bumps the
generation of the arm, which is what makes coverage continue after that cursor.
-/

namespace Gearwit
namespace Waiter

/-- Request and reply of one acknowledgement. -/
structure HistoryEntry where
  request : HandledCursor
  reply : HandledCursor
  deriving DecidableEq

/-- What the store knows about one signal. -/
structure SignalBatch where
  armId : String
  generation : Nat
  delivered : List String
  drainSnapshot : List String
  afterBound : List String
  handled : Option String
  requireReturnCompleted : Bool
  returnCompleted : Bool
  closed : Bool
  deriving DecidableEq

/-- The cursor is held back until a successful receipt is recorded. -/
def SignalBatch.held (batch : SignalBatch) : Bool :=
  batch.requireReturnCompleted && !batch.returnCompleted

/-- In-memory acknowledgement authority for one daemon arm. -/
structure AckStore where
  arm : Option KnownArm
  signals : BTreeMap String SignalBatch
  history : BTreeMap String HistoryEntry

/-- Coverage successor after the first accepted acknowledgement. -/
structure AckRearm where
  after : String
  generation : Nat
  signalId : String
  deriving DecidableEq

/-- Reply of an acknowledgement, and the rearm it caused. -/
structure HandledServe where
  reply : HandledCursor
  rearm : Option AckRearm
  deriving DecidableEq

/-- The leading part of the drain that was delivered, without repeats. -/
def validateLeadingPrefix (delivered drainSnapshot : List String) :
    Except HandledCursorError Unit :=
  allOf [
    require (decide drainSnapshot.Nodup) (.semantic "duplicate drain ref"),
    require (decide delivered.Nodup) (.semantic "duplicate event_ref"),
    require (decide (delivered.length ≤ drainSnapshot.length) &&
        drainSnapshot.take delivered.length == delivered)
      (.semantic "delivered not leading prefix")]

namespace AckStore

/-- Bind the live arm. -/
def withArm (arm : KnownArm) : AckStore := ⟨some arm, ∅, ∅⟩

/-- First open batch of the arm's generation. -/
def openSignal (store : AckStore) (arm : KnownArm) : Option (String × SignalBatch) :=
  store.signals.toList.find? fun entry =>
    entry.2.generation == arm.generation && !entry.2.closed

/-- Another signal of the arm's generation is open. -/
def conflicting (store : AckStore) (arm : KnownArm) (signalId : String) : Bool :=
  (store.openSignal arm).any fun entry => entry.1 != signalId

/-- Record a delivered batch.  An exact repeat changes nothing; another body for
the same signal is a conflict. -/
def noteDelivered (store : AckStore) (signalId : String)
    (delivered drainSnapshot : List String) :
    Except HandledCursorError Unit × AckStore :=
  match store.arm with
  | none => (.error (.semantic "unknown_arm"), store)
  | some arm =>
      if delivered.isEmpty then (.error (.semantic "empty delivery"), store)
      else
        match validateLeadingPrefix delivered drainSnapshot with
        | .error error => (.error error, store)
        | .ok () =>
            let afterBound := drainSnapshot.drop delivered.length
            if store.conflicting arm signalId then
              (.error (.semantic "signal conflict"), store)
            else
              match store.signals[signalId]? with
              | some existing =>
                  let sameAuthority :=
                    existing.armId == arm.armId && existing.generation == arm.generation
                  if sameAuthority && existing.delivered.isEmpty && !existing.closed &&
                      existing.handled.isNone then
                    (.ok (), { store with
                      signals := store.signals.insert signalId
                        { existing with delivered, drainSnapshot, afterBound } })
                  else if sameAuthority && existing.delivered == delivered &&
                      existing.drainSnapshot == drainSnapshot then
                    (.ok (), store)
                  else (.error (.semantic "signal conflict"), store)
              | none =>
                  (.ok (), { store with
                    signals := store.signals.insert signalId {
                      armId := arm.armId
                      generation := arm.generation
                      delivered, drainSnapshot, afterBound
                      handled := none
                      requireReturnCompleted := false
                      returnCompleted := false
                      closed := false } })

/-- The batch of a signal that is claimed and not yet delivered. -/
def claimedBatch (arm : KnownArm) : SignalBatch where
  armId := arm.armId
  generation := arm.generation
  delivered := []
  drainSnapshot := []
  afterBound := []
  handled := none
  requireReturnCompleted := false
  returnCompleted := false
  closed := false

/-- Register a claimed signal before any event is delivered. -/
def noteClaimed (store : AckStore) (signalId : String) :
    Except HandledCursorError Unit × AckStore :=
  match store.arm with
  | none => (.error (.semantic "unknown_arm"), store)
  | some arm =>
      if store.conflicting arm signalId then (.error (.semantic "signal conflict"), store)
      else
        match store.signals[signalId]? with
        | some existing =>
            if existing.armId == arm.armId && existing.generation == arm.generation &&
                existing.delivered.isEmpty && !existing.closed then (.ok (), store)
            else (.error (.semantic "signal conflict"), store)
        | none =>
            (.ok (), { store with
              signals := store.signals.insert signalId (claimedBatch arm) })

/-- Hold the handled cursor until a successful receipt of this signal. -/
def requireReturnCompletedBeforeHandled (store : AckStore) (signalId : String) :
    Except HandledCursorError Unit × AckStore :=
  match store.signals[signalId]? with
  | none => (.error (.semantic "unknown_signal"), store)
  | some batch =>
      if batch.closed || batch.handled.isSome then
        (.error (.semantic "stale_generation"), store)
      else
        (.ok (), { store with
          signals := store.signals.insert signalId
            { batch with requireReturnCompleted := true } })

/-- Record the successful receipt of a signal. -/
def noteReturnCompleted (store : AckStore) (signalId : String) :
    Except HandledCursorError Unit × AckStore :=
  match store.signals[signalId]? with
  | none => (.error (.semantic "unknown_signal"), store)
  | some batch =>
      if batch.delivered.isEmpty then (.error (.semantic "ack_before_delivery"), store)
      else if batch.requireReturnCompleted then
        (.ok (), { store with
          signals := store.signals.insert signalId { batch with returnCompleted := true } })
      else (.ok (), store)

/-- Whether the signal's cursor is held for a successful receipt. -/
def requiresReturnCompletedBeforeHandled (store : AckStore) (signalId : String) : Bool :=
  store.signals[signalId]?.any SignalBatch.held

variable [Rfc3339]

/-- A rejection of the request. -/
def rejected (request : HandledRequest) (code : String) (now : OffsetDateTime) :
    HandledCursor :=
  .rejected ⟨handledSchemaId, request.requestId, code, formatTime now⟩

/-- The acceptance of the request. -/
def acceptance (request : HandledRequest) (now : OffsetDateTime) : HandledCursor :=
  .accepted {
    schema := handledSchemaId
    requestId := request.requestId
    armId := request.armId
    generation := request.generation
    signalId := request.signalId
    cursor := request.cursor
    acceptedAt := formatTime now }

/-- Decide a request that has no recorded reply. -/
def decide (store : AckStore) (request : HandledRequest) (now : OffsetDateTime) :
    HandledCursor × AckStore :=
  match store.arm with
  | none => (rejected request "unknown_arm" now, store)
  | some arm =>
      if arm.armId ≠ request.armId then (rejected request "unknown_arm" now, store)
      else if arm.seatId ≠ request.seatId then (rejected request "seat_mismatch" now, store)
      else if request.generation ≠ arm.generation then
        (rejected request "stale_generation" now, store)
      else
        match store.signals[request.signalId]? with
        | none => (rejected request "unknown_signal" now, store)
        | some batch =>
            if batch.closed || batch.generation != arm.generation then
              (rejected request "stale_generation" now, store)
            else if batch.delivered.isEmpty then
              (rejected request "ack_before_delivery" now, store)
            else if batch.held then (rejected request "ack_before_delivery" now, store)
            else if batch.afterBound.contains request.cursor then
              (rejected request "cursor_beyond_delivered" now, store)
            else if !batch.delivered.contains request.cursor then
              (rejected request "cursor_not_member" now, store)
            else if batch.handled.any fun handled =>
                batch.delivered.contains handled &&
                  Nat.blt (batch.delivered.idxOf request.cursor)
                    (batch.delivered.idxOf handled) then
              (rejected request "stale_cursor" now, store)
            else
              (acceptance request now, { store with
                signals := store.signals.insert request.signalId
                  { batch with handled := some request.cursor } })

/-- Record an acknowledgement; an exact repeat of a request is given its recorded
reply. -/
def recordHandled (store : AckStore) (request : HandledCursor) (now : OffsetDateTime) :
    Except HandledCursorError HandledCursor × AckStore :=
  match validateHandled request with
  | .error error => (.error error, store)
  | .ok () =>
  match request with
  | .request message =>
      match store.history[message.requestId]? with
      | some existing =>
          if existing.request = request then (.ok existing.reply, store)
          else (.error (.semantic "request_id conflict"), store)
      | none =>
          if historyCap ≤ store.history.size then
            (.error (.semantic "request history full"), store)
          else
            let (reply, decided) := decide store message now
            (.ok reply, { decided with
              history := decided.history.insert message.requestId ⟨request, reply⟩ })
  | _ => (.error (.semantic "expected request"), store)

omit [Rfc3339] in
/-- Close the signal at its recorded cursor and bump the generation, a 64-bit
counter. -/
def rearmFromHandled (store : AckStore) (signalId : String) :
    Except HandledCursorError String × AckStore :=
  match store.arm with
  | none => (.error (.semantic "unknown_arm"), store)
  | some arm =>
      match store.signals[signalId]? with
      | none => (.error (.semantic "unknown_signal"), store)
      | some batch =>
          if batch.generation ≠ arm.generation then
            (.error (.semantic "stale_generation"), store)
          else
            match batch.handled with
            | none => (.error (.semantic "ack_before_delivery"), store)
            | some cursor =>
                if batch.closed then (.error (.semantic "stale_generation"), store)
                else if 2 ^ 64 ≤ arm.generation + 1 then
                  (.error (.semantic "generation overflow"), store)
                else
                  (.ok cursor, { store with
                    arm := some { arm with generation := arm.generation + 1 }
                    signals := store.signals.insert signalId { batch with closed := true } })

/-- Record a request, then rearm exactly once if it was newly accepted. -/
def applyHandledRequest (store : AckStore) (request : HandledCursor) (now : OffsetDateTime) :
    Except HandledCursorError HandledServe × AckStore :=
  match recordHandled store request now with
  | (.error error, store) => (.error error, store)
  | (.ok reply, store) =>
      match reply with
      | .accepted message =>
          match rearmFromHandled store message.signalId with
          | (.ok _, store) =>
              match store.arm with
              | none => (.error (.semantic "unknown_arm"), store)
              | some arm =>
                  (.ok ⟨reply, some ⟨message.cursor, arm.generation, message.signalId⟩⟩, store)
          | (.error error, store) =>
              if error = .semantic "stale_generation" then (.ok ⟨reply, none⟩, store)
              else (.error error, store)
      | _ => (.ok ⟨reply, none⟩, store)

/-- Record an acknowledgement that arrived on a connection. -/
def recordAck (store : AckStore) (request : HandledCursor) (now : OffsetDateTime) :
    Except HandledCursorError HandledServe × AckStore :=
  match request with
  | .request _ => applyHandledRequest store request now
  | _ => (.error (.semantic "expected request"), store)

end AckStore
end Waiter
end Gearwit
