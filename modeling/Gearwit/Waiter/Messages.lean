import Gearwit.Controller.Identifiers
import Gearwit.Foundations.Checks
import Gearwit.Foundations.JsonText

/-!
# Waiter-link and handled-cursor messages

The messages a waiter and the daemon exchange, their semantic validation, and
the bounded JSON payload a waiter-link message is written as.  Calendar texts are
formatted and parsed by a library, which is a parameter here.
-/

namespace Gearwit

namespace Waiter

/-- Calendar texts: the RFC 3339 writer, the plain display of an instant, and the
RFC 3339 reader, which reads back what the writer wrote. -/
class Rfc3339 where
  format : OffsetDateTime → Option String
  display : OffsetDateTime → String
  parse : String → Option OffsetDateTime
  parse_format : ∀ {instant : OffsetDateTime} {text : String},
    format instant = some text → parse text = some instant

/-! ## Data -/

/-- Wire schema identifier. -/
def schemaId : String := "gearwit.interrupt.waiter-link.v0"

/-- Waiter asks to attach to an arm. -/
structure AttachWaiter where
  schema : String
  requestId : String
  waiterId : String
  armId : String
  generation : Nat
  seatId : String
  route : String
  observedAt : String
  deriving DecidableEq

/-- Daemon admitted the link. -/
structure AttachAccepted where
  schema : String
  requestId : String
  linkId : String
  armId : String
  generation : Nat
  route : String
  acceptedAt : String
  leaseUntil : String
  deriving DecidableEq

/-- Daemon refused the link. -/
structure AttachRejected where
  schema : String
  requestId : String
  code : String
  observedAt : String
  deriving DecidableEq

/-- One untrusted provider event. -/
structure ProviderEvent where
  provider : String
  eventRef : String
  actor : Option String
  observedAt : String
  body : String
  deriving DecidableEq

/-- Daemon delivers a stable event batch. -/
structure DeliverEvents where
  schema : String
  deliveryId : String
  linkId : String
  armId : String
  generation : Nat
  signalId : String
  route : String
  events : List ProviderEvent
  newestEventRef : String
  attemptedAt : String
  deriving DecidableEq

/-- Waiter reports the return-path outcome. -/
structure DeliveryResult where
  schema : String
  deliveryId : String
  linkId : String
  signalId : String
  outcome : String
  observedAt : String
  deriving DecidableEq

/-- Typed waiter-link message. -/
inductive WaiterLink
  | attachWaiter (message : AttachWaiter)
  | attachAccepted (message : AttachAccepted)
  | attachRejected (message : AttachRejected)
  | deliverEvents (message : DeliverEvents)
  | deliveryResult (message : DeliveryResult)
  deriving DecidableEq

/-- Validation failure. -/
inductive WaiterLinkError
  | json (text : String)
  | semantic (text : String)
  deriving DecidableEq

/-! ## Field checks -/

def schemaOk (schema : String) : Except WaiterLinkError Unit :=
  require (schema == schemaId) (.semantic "unknown schema")

/-- Crockford base 32 without `I`, `L`, `O` and `U`. -/
def ulidChar (character : Char) : Bool :=
  character.isDigit ||
    (character.isUpper && character != 'I' && character != 'L' &&
      character != 'O' && character != 'U')

/-- Twenty-six bytes of the identifier alphabet. -/
def ulidText (value : String) : Bool :=
  value.utf8ByteSize == 26 && value.toList.all ulidChar

def ulidOk (value : String) : Except WaiterLinkError Unit :=
  require (ulidText value) (.semantic "invalid ulid")

def generationOk (generation : Nat) : Except WaiterLinkError Unit :=
  require (decide (1 ≤ generation)) (.semantic "generation must be >= 1")

/-- Lowercase ASCII letters, digits and `-`, led by a letter, at most 63 bytes. -/
def seatText (seat : String) : Bool :=
  decide (1 ≤ seat.utf8ByteSize ∧ seat.utf8ByteSize ≤ 63) &&
    (seat.toList.head?.any Char.isLower) &&
    seat.toList.all fun character =>
      character.isLower || character.isDigit || character == '-'

def seatOk (seat : String) : Except WaiterLinkError Unit :=
  require (seatText seat) (.semantic "invalid seat_id")

/-- Routes that return through an attached waiter. -/
def attachedRoutes : List String := ["return_foreground", "complete_background_tool"]

def attachedRouteOk (route : String) : Except WaiterLinkError Unit :=
  require (attachedRoutes.contains route) (.semantic "route is not an attached return")

/-- Codes of a refused attach. -/
def attachRejectCodes : List String :=
  ["unknown_arm", "stale_generation", "route_mismatch", "already_attached",
    "coverage_ended"]

def rejectCodeOk (code : String) : Except WaiterLinkError Unit :=
  require (attachRejectCodes.contains code) (.semantic "unknown reject code")

/-- Outcomes a waiter may report. -/
def deliveryOutcomes : List String := ["return_completed", "return_failed", "link_lost"]

def outcomeOk (outcome : String) : Except WaiterLinkError Unit :=
  require (deliveryOutcomes.contains outcome) (.semantic "unknown delivery outcome")

/-- One to 256 scalars, all above the space and none of them a delete. -/
def tokenText (value : String) : Bool :=
  decide (1 ≤ value.toList.length ∧ value.toList.length ≤ 256) &&
    value.toList.all fun character =>
      decide (0x20 < character.toNat ∧ character.toNat ≠ 0x7F)

def tokenOk (value : String) : Except WaiterLinkError Unit :=
  require (tokenText value) (.semantic "invalid safe token")

/-- Controls a body may not hold; tab, line feed and carriage return pass. -/
def forbiddenInBody (character : Char) : Bool :=
  decide (character.toNat ≤ 0x08 ∨ character.toNat = 0x0B ∨ character.toNat = 0x0C ∨
    (0x0E ≤ character.toNat ∧ character.toNat ≤ 0x1F) ∨
    (0x7F ≤ character.toNat ∧ character.toNat ≤ 0x9F))

def bodyOk (value : String) : Except WaiterLinkError Unit :=
  allOf [
    require (decide (value.toList.length ≤ 4096)) (.semantic "body too long"),
    require (!value.toList.any forbiddenInBody)
      (.semantic "body contains forbidden controls")]

variable [Rfc3339]

def timeOk (value : String) : Except WaiterLinkError Unit :=
  require (Rfc3339.parse value).isSome (.semantic "invalid date-time")

/-! ## Validation -/

/-- Checks of one event, without the comparison with the others. -/
def validateEvent (event : ProviderEvent) : Except WaiterLinkError Unit :=
  allOf [
    tokenOk event.provider,
    tokenOk event.eventRef,
    (match event.actor with
      | some actor => tokenOk actor
      | none => .ok ()),
    timeOk event.observedAt,
    bodyOk event.body]

/-- The loop over the events; `seen` holds the references met so far. -/
def validateEachEvent (seen : List String) :
    List ProviderEvent → Except WaiterLinkError Unit
  | [] => .ok ()
  | event :: rest =>
      match validateEvent event with
      | .error refusal => .error refusal
      | .ok () =>
          if seen.contains event.eventRef then .error (.semantic "duplicate event_ref")
          else validateEachEvent (event.eventRef :: seen) rest

/-- The loop passes exactly when every event passes and no reference repeats. -/
theorem validateEachEvent_eq_ok_iff (seen : List String) (events : List ProviderEvent) :
    validateEachEvent seen events = .ok () ↔
      (∀ event ∈ events, validateEvent event = .ok ()) ∧
        (events.map ProviderEvent.eventRef).Nodup ∧
          ∀ event ∈ events, event.eventRef ∉ seen := by
  induction events generalizing seen with
  | nil => simp [validateEachEvent]
  | cons event rest inductionHypothesis =>
      cases outcome : validateEvent event with
      | error refusal => simp [validateEachEvent, outcome]
      | ok value =>
          by_cases repeated : event.eventRef ∈ seen
          · simp [validateEachEvent, outcome, repeated]
          · simp only [validateEachEvent, outcome, List.contains_eq_mem, repeated,
              decide_false, Bool.false_eq_true, if_false,
              inductionHypothesis (event.eventRef :: seen), List.mem_cons, not_or,
              List.map_cons, List.nodup_cons, List.mem_map, not_exists, not_and,
              forall_eq_or_imp, true_and, not_false_eq_true]
            constructor
            · rintro ⟨passing, distinct, unseen⟩
              exact ⟨passing, ⟨fun other member same => (unseen other member).1 same,
                distinct⟩, fun other member => (unseen other member).2⟩
            · rintro ⟨passing, ⟨fresh, distinct⟩, unseen⟩
              exact ⟨passing, distinct, fun other member =>
                ⟨fun same => fresh other member same, unseen other member⟩⟩

def validateEvents (events : List ProviderEvent) (newest : String) :
    Except WaiterLinkError Unit :=
  allOf [
    require (!events.isEmpty && decide (events.length ≤ 64))
      (.semantic "events must contain 1..=64 items"),
    validateEachEvent [] events,
    tokenOk newest,
    require (events.getLast?.map ProviderEvent.eventRef == some newest)
      (.semantic "newest_event_ref must be last event_ref")]

/-- Semantic validation of a message. -/
def validate : WaiterLink → Except WaiterLinkError Unit
  | .attachWaiter message =>
      allOf [schemaOk message.schema, ulidOk message.requestId, ulidOk message.waiterId,
        ulidOk message.armId, generationOk message.generation, seatOk message.seatId,
        attachedRouteOk message.route, timeOk message.observedAt]
  | .attachAccepted message =>
      allOf [schemaOk message.schema, ulidOk message.requestId, ulidOk message.linkId,
        ulidOk message.armId, generationOk message.generation,
        attachedRouteOk message.route, timeOk message.acceptedAt,
        timeOk message.leaseUntil,
        (match Rfc3339.parse message.acceptedAt, Rfc3339.parse message.leaseUntil with
          | some accepted, some lease =>
              require (!decide (lease ≤ accepted))
                (.semantic "lease_until must be after accepted_at")
          | _, _ => .ok ())]
  | .attachRejected message =>
      allOf [schemaOk message.schema, ulidOk message.requestId, rejectCodeOk message.code,
        timeOk message.observedAt]
  | .deliverEvents message =>
      allOf [schemaOk message.schema, ulidOk message.deliveryId, ulidOk message.linkId,
        ulidOk message.armId, generationOk message.generation, ulidOk message.signalId,
        attachedRouteOk message.route, timeOk message.attemptedAt,
        validateEvents message.events message.newestEventRef]
  | .deliveryResult message =>
      allOf [schemaOk message.schema, ulidOk message.deliveryId, ulidOk message.linkId,
        ulidOk message.signalId, outcomeOk message.outcome, timeOk message.observedAt]

/-! ## Payloads -/

/-- Maximum waiter-link JSON payload, 256 KiB. -/
def maxPayload : Nat := 256 * 1024

open JsonText

/-- JSON of one event; a missing actor is left out. -/
def ProviderEvent.json (event : ProviderEvent) : List Char :=
  object ([
    member "provider" (string event.provider),
    member "event_ref" (string event.eventRef)] ++
    (event.actor.map fun actor => member "actor" (string actor)).toList ++ [
    member "observed_at" (string event.observedAt),
    member "body" (string event.body)])

/-- JSON of a message: the type tag, then the fields in their declared order. -/
def WaiterLink.json : WaiterLink → List Char
  | .attachWaiter message =>
      object [
        member "type" (string "attach_waiter"),
        member "schema" (string message.schema),
        member "request_id" (string message.requestId),
        member "waiter_id" (string message.waiterId),
        member "arm_id" (string message.armId),
        member "generation" (nat message.generation),
        member "seat_id" (string message.seatId),
        member "route" (string message.route),
        member "observed_at" (string message.observedAt)]
  | .attachAccepted message =>
      object [
        member "type" (string "attach_accepted"),
        member "schema" (string message.schema),
        member "request_id" (string message.requestId),
        member "link_id" (string message.linkId),
        member "arm_id" (string message.armId),
        member "generation" (nat message.generation),
        member "route" (string message.route),
        member "accepted_at" (string message.acceptedAt),
        member "lease_until" (string message.leaseUntil)]
  | .attachRejected message =>
      object [
        member "type" (string "attach_rejected"),
        member "schema" (string message.schema),
        member "request_id" (string message.requestId),
        member "code" (string message.code),
        member "observed_at" (string message.observedAt)]
  | .deliverEvents message =>
      object [
        member "type" (string "deliver_events"),
        member "schema" (string message.schema),
        member "delivery_id" (string message.deliveryId),
        member "link_id" (string message.linkId),
        member "arm_id" (string message.armId),
        member "generation" (nat message.generation),
        member "signal_id" (string message.signalId),
        member "route" (string message.route),
        member "events" (array (message.events.map ProviderEvent.json)),
        member "newest_event_ref" (string message.newestEventRef),
        member "attempted_at" (string message.attemptedAt)]
  | .deliveryResult message =>
      object [
        member "type" (string "delivery_result"),
        member "schema" (string message.schema),
        member "delivery_id" (string message.deliveryId),
        member "link_id" (string message.linkId),
        member "signal_id" (string message.signalId),
        member "outcome" (string message.outcome),
        member "observed_at" (string message.observedAt)]

/-- Payload encode failure. -/
inductive PayloadError
  | empty
  | tooLarge (size : Nat)
  | message (error : WaiterLinkError)
  deriving DecidableEq

/-- Serialize one validated message; the payload is the text's UTF-8 bytes. -/
def encodePayload (message : WaiterLink) : Except PayloadError String :=
  match validate message with
  | .error error => .error (.message error)
  | .ok () =>
      let json := String.ofList message.json
      if json.utf8ByteSize = 0 then .error .empty
      else if json.utf8ByteSize > maxPayload then .error (.tooLarge json.utf8ByteSize)
      else .ok json

/-- A message is encoded exactly when it validates and its JSON fits. -/
theorem encodePayload_isOk_iff (message : WaiterLink) :
    (encodePayload message).isOk = true ↔
      validate message = .ok () ∧ String.utf8Len message.json ≤ maxPayload := by
  have written : String.utf8Len message.json ≠ 0 := by
    rw [Ne, String.utf8Len_eq_zero]
    cases message <;> simp [WaiterLink.json, object]
  unfold encodePayload
  cases valid : validate message with
  | error error => simp [Except.isOk, Except.toBool]
  | ok value =>
      simp only [String.utf8ByteSize_ofList, written, if_false, gt_iff_lt, true_and]
      by_cases fits : String.utf8Len message.json ≤ maxPayload
      · simp [fits, Nat.not_lt.2 fits, Except.isOk, Except.toBool]
      · simp [fits, Nat.not_le.1 fits, Except.isOk, Except.toBool]

/-! ## Handled cursors -/

/-- Wire schema identifier of handled-cursor messages. -/
def handledSchemaId : String := "gearwit.interrupt.handled-cursor.v0"

/-- Seat acknowledges a delivered prefix. -/
structure HandledRequest where
  schema : String
  requestId : String
  armId : String
  generation : Nat
  seatId : String
  signalId : String
  cursor : String
  observedAt : String
  deriving DecidableEq

/-- Daemon recorded the acknowledgement. -/
structure HandledAccepted where
  schema : String
  requestId : String
  armId : String
  generation : Nat
  signalId : String
  cursor : String
  acceptedAt : String
  deriving DecidableEq

/-- Daemon rejected the acknowledgement. -/
structure HandledRejected where
  schema : String
  requestId : String
  code : String
  observedAt : String
  deriving DecidableEq

/-- Typed handled-cursor message. -/
inductive HandledCursor
  | request (message : HandledRequest)
  | accepted (message : HandledAccepted)
  | rejected (message : HandledRejected)
  deriving DecidableEq

/-- Validation failure of a handled-cursor message. -/
inductive HandledCursorError
  | json (text : String)
  | semantic (text : String)
  deriving DecidableEq

/-- Codes of a rejected acknowledgement. -/
def handledRejectCodes : List String :=
  ["unknown_arm", "stale_generation", "seat_mismatch", "unknown_signal",
    "ack_before_delivery", "cursor_not_member", "cursor_beyond_delivered",
    "stale_cursor"]

/-- Semantic validation of a handled-cursor message. -/
def validateHandled : HandledCursor → Except HandledCursorError Unit
  | .request message =>
      allOf [
        require (message.schema == handledSchemaId) (.semantic "schema id"),
        require (ulidText message.requestId) (.semantic "ulid"),
        require (ulidText message.armId) (.semantic "ulid"),
        require (decide (1 ≤ message.generation)) (.semantic "generation"),
        require (seatText message.seatId) (.semantic "seat_id"),
        require (ulidText message.signalId) (.semantic "ulid"),
        require (tokenText message.cursor) (.semantic "token"),
        require (Rfc3339.parse message.observedAt).isSome (.semantic "timestamp")]
  | .accepted message =>
      allOf [
        require (message.schema == handledSchemaId) (.semantic "schema id"),
        require (ulidText message.requestId) (.semantic "ulid"),
        require (ulidText message.armId) (.semantic "ulid"),
        require (decide (1 ≤ message.generation)) (.semantic "generation"),
        require (ulidText message.signalId) (.semantic "ulid"),
        require (tokenText message.cursor) (.semantic "token"),
        require (Rfc3339.parse message.acceptedAt).isSome (.semantic "timestamp")]
  | .rejected message =>
      allOf [
        require (message.schema == handledSchemaId) (.semantic "schema id"),
        require (ulidText message.requestId) (.semantic "ulid"),
        require (handledRejectCodes.contains message.code) (.semantic "unknown reject code"),
        require (Rfc3339.parse message.observedAt).isSome (.semantic "timestamp")]

end Waiter
end Gearwit
