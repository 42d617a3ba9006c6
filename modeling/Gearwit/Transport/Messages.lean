import Gearwit.Foundations.JsonText
import Gearwit.Controller.Products
import Gearwit.Persist.Digest
import Gearwit.Transport.Pipes
import Gearwit.Waiter.Sanitize

/-!
# Frames of the client and lines of the server

Outbound values are written into one bounded frame buffer.  A line of the server is
read as an envelope and classified as a response, a native error, a notification or
a request; the body of a response is read only against the pending request.
-/

namespace Gearwit
namespace Transport

/-- Version the transport was qualified against. -/
def version : String := "codex-cli 0.152.1"

/-- Dialect of the thread observations. -/
def dialect : String := "thread/read-v2"

/-- Name the client gives itself. -/
def clientName : String := "gearwit"

/-- Version the client gives itself. -/
def clientVersion : String := "0.1.0"

/-! ## References and states -/

/-- Identifier of a native thread or turn. -/
structure NativeRef where
  text : String
  deriving DecidableEq

namespace NativeRef

/-- A reference of one to 1024 bytes. -/
def parseBorrowed (value : String) : Except Error NativeRef :=
  if value ≠ "" ∧ value.utf8ByteSize ≤ maxNativeRef then .ok ⟨value⟩ else .error .bounds

/-- A reference from a value that was validated when it was sealed. -/
def fromValidated (value : String) : NativeRef := ⟨value⟩

end NativeRef

/-- Text of an opened native coordinate. -/
def openedText (coordinate : List UInt8) : Option String :=
  String.fromUTF8? ⟨coordinate.toArray⟩

/-- What a thread observation proves. -/
inductive ThreadState
  | idle
  | activeTurn (prehash : Bytes32)
  | unproven
  deriving DecidableEq

/-- Recognized terminal statuses of a native turn. -/
inductive NativeClass
  | succeeded
  | interrupted
  | failed
  deriving DecidableEq, Repr

/-- Notifications of the server. -/
inductive Notification
  | signal
  | turnStarted (thread turn : NativeRef)
  | terminal (thread turn : NativeRef) (terminalClass : NativeClass)
  | degradedTerminal (thread turn : NativeRef)
  deriving DecidableEq

/-- What a receive returns. -/
inductive Received
  | initialized
  | threadStarted (thread : NativeRef)
  | threadResumed (state : ThreadState)
  | threadRead (state : ThreadState)
  | turnStarted (turn : NativeRef)
  | notification (notification : Notification)
  | serverRequestRejected
  deriving DecidableEq

/-- A request that awaits its response. -/
structure Pending where
  id : Nat
  kind : RequestKind
  thread : Option NativeRef
  deriving DecidableEq

/-! ## JSON reader and writer -/

/-- Text of a JSON value that was not read further. -/
structure RawValue where
  text : String
  deriving DecidableEq

/-- Top-level members of a line. -/
structure BorrowedEnvelope where
  id : Option RawValue
  method : Option String
  result : Option RawValue
  error : Option RawValue

/-- A turn of a thread or of a notification. -/
structure BorrowedTurn where
  id : Option String
  status : Option String

/-- Status of a thread. -/
structure BorrowedThreadStatus where
  kind : String
  activeFlags : Option (List String)

/-- Thread of an observation. -/
structure BorrowedThread where
  id : String
  status : Option BorrowedThreadStatus
  turns : Option (List BorrowedTurn)

/-- Notification about a turn. -/
structure BorrowedNotification where
  method : String
  threadId : String
  turn : BorrowedTurn

/-- A line as the client reads it. -/
inductive Inbound
  | response (id : Nat)
  | nativeError (id : Nat)
  | notification (notification : Notification)
  | serverRequest (id : Json)

end Transport

/-- The JSON library: readers of the borrowed shapes, and the pieces in which a value is
written out. -/
class SerdeJson where
  envelope : List UInt8 → Option Transport.BorrowedEnvelope
  value : Transport.RawValue → Option Json
  natural : Transport.RawValue → Option UInt64
  threadRef : Transport.RawValue → Option String
  turnRef : Transport.RawValue → Option String
  threadResult : Transport.RawValue → Option Transport.BorrowedThread
  notification : List UInt8 → Option Transport.BorrowedNotification
  pieces : Json → List (List UInt8)

namespace Transport

variable [SerdeJson]

/-! ## The frame buffer -/

/-- Write pieces into the frame buffer until one does not fit. -/
def fill : List (List UInt8) → List UInt8 → Bool × List UInt8
  | [], buffer => (true, buffer)
  | piece :: rest, buffer =>
      if maxFrame - buffer.length < piece.length then (false, buffer)
      else fill rest (buffer ++ piece)

/-- The frame of a value: its text and a newline. -/
def frameOf (value : Json) : List UInt8 := (SerdeJson.pieces value).flatten ++ [newline]

/-- Encode a value into the cleared frame buffer.  A value that does not fit leaves the
pieces before the one that did not. -/
def encode (value : Json) : Except Error Unit × List UInt8 :=
  let (fits, buffer) := fill (SerdeJson.pieces value ++ [[newline]]) []
  (if fits then .ok () else .error .bounds, buffer)

omit [SerdeJson] in
private theorem fill_all {pieces : List (List UInt8)} {buffer : List UInt8}
    (fits : (fill pieces buffer).1 = true) :
    (fill pieces buffer).2 = buffer ++ pieces.flatten := by
  induction pieces generalizing buffer with
  | nil => simp [fill]
  | cons piece rest inductionHypothesis =>
      unfold fill at fits ⊢
      split_ifs at fits ⊢
      rw [inductionHypothesis fits, List.flatten_cons, List.append_assoc]

/-- A value that was encoded fills the buffer with its frame. -/
theorem encode_ok {value : Json} (encoded : (encode value).1 = .ok ()) :
    (encode value).2 = frameOf value := by
  have fits : (fill (SerdeJson.pieces value ++ [[newline]]) []).1 = true := by
    by_contra short
    simp [encode, short] at encoded
  have filled := fill_all fits
  simpa [encode, frameOf] using filled

/-! ## Requests -/

/-- A request of the client. -/
def clientRequest (id : Nat) (method : String) (params : Json) : Json :=
  .object [("id", .number (toString id)), ("method", .string method), ("params", params)]

/-- Parameters of a turn. -/
def turnParams (thread : NativeRef) (managedInput : String) : Json :=
  .object [("threadId", .string thread.text),
    ("input", .array [.object [("type", .string "text"), ("text", .string managedInput)]])]

/-- Parameters of a thread observation. -/
def readParams (thread : NativeRef) : Json :=
  .object [("threadId", .string thread.text), ("includeTurns", .bool true)]

/-- Parameters of the handshake. -/
def initializeRequest : Json :=
  clientRequest 1 "initialize"
    (.object [("clientInfo",
      .object [("name", .string clientName), ("version", .string clientVersion)])])

/-- The notification that ends the handshake. -/
def initializedNotification : Json :=
  .object [("method", .string "initialized"), ("params", .object [])]

/-- The reply to a request of the server. -/
def rejection (id : Json) : Json :=
  .object [("error", .object [("code", .number "-32601"),
    ("message", .string "server requests unsupported")]), ("id", id)]

/-- Override that attaches the helper to a thread. -/
def attachedServers (members : List (String × Json)) : Json :=
  .object [("mcp_servers", .object [("gearwit_claimed_batch", .object members)])]

/-- Parameters of a thread with the helper attached. -/
def attachedThreadParams (helper : String) (thread : Option NativeRef) : Json :=
  .object (("config", attachedServers [("args", .array []), ("command", .string helper)]) ::
    (thread.map fun thread => ("threadId", Json.string thread.text)).toList)

/-- Parameters of an exact resume. -/
def resumeParams (thread : NativeRef) (helper : String) : Json :=
  .object [("threadId", .string thread.text),
    ("config", attachedServers [("command", .string helper), ("args", .array [])])]

/-! ## Classification -/

/-- Whether a raw value is an object. -/
def rawObject (value : RawValue) : Bool :=
  (value.text.toList.dropWhile Waiter.isWhitespace).head? == some '{'

/-- Read a notification. -/
def classifyNotification (line : List UInt8) (method : String) : Except Error Notification :=
  if method ≠ "turn/started" ∧ method ≠ "turn/completed" then .ok .signal
  else
    match SerdeJson.notification line with
    | none => .error .malformed
    | some notification => do
        let thread ← NativeRef.parseBorrowed notification.threadId
        let turn ← match notification.turn.id with
          | none => .error .malformed
          | some id => NativeRef.parseBorrowed id
        if notification.method = "turn/started" then .ok (.turnStarted thread turn)
        else
          match notification.turn.status with
          | some "completed" => .ok (.terminal thread turn .succeeded)
          | some "interrupted" => .ok (.terminal thread turn .interrupted)
          | some "failed" => .ok (.terminal thread turn .failed)
          | _ => .ok (.degradedTerminal thread turn)

/-- Classify a line. -/
def classify (line : List UInt8) : Except Error Inbound :=
  match SerdeJson.envelope line with
  | none => .error .malformed
  | some envelope =>
      match envelope.method with
      | some method =>
          match envelope.id with
          | some id =>
              match SerdeJson.value id with
              | none => .error .malformed
              | some id => .ok (.serverRequest id)
          | none => (classifyNotification line method).map .notification
      | none =>
          match (envelope.id.bind SerdeJson.natural).filter fun id => 0 < id with
          | none => .error .malformed
          | some id =>
              if envelope.result.any rawObject then .ok (.response id.toNat)
              else if envelope.error.any rawObject then .ok (.nativeError id.toNat)
              else .error .malformed

/-! ## Responses -/

/-- Whether a listed turn has a valid identifier. -/
def BorrowedTurn.identified (turn : BorrowedTurn) : Bool :=
  turn.id.any fun id => (NativeRef.parseBorrowed id).isOk

/-- Statuses of a turn that ended. -/
def endedStatus (status : Option String) : Bool :=
  status == some "completed" || status == some "interrupted" || status == some "failed"

/-- A thread whose turns are all identified and ended is idle. -/
def parseIdleThread (thread : BorrowedThread) : ThreadState :=
  match thread.turns with
  | none => .unproven
  | some turns =>
      if maxQueue < turns.length ∨
          turns.any (fun turn => !turn.identified || !endedStatus turn.status) then
        .unproven
      else .idle

/-- The single turn in progress, if every other turn ended. -/
def activeTurn : List BorrowedTurn → Option String → Option String
  | [], active => active
  | turn :: rest, active =>
      match turn.id with
      | none => none
      | some id =>
          if (NativeRef.parseBorrowed id).isOk then
            if endedStatus turn.status then activeTurn rest active
            else if turn.status = some "inProgress" ∧ active = none then
              activeTurn rest (some id)
            else none
          else none

/-- The turn in progress of an active thread with known flags. -/
def parseActiveThread (thread : BorrowedThread) (activeFlags : List String) :
    Option String :=
  if activeFlags.any fun flag =>
      flag != "waitingOnApproval" && flag != "waitingOnUserInput" then none
  else
    match thread.turns with
    | none => none
    | some turns => if maxQueue < turns.length then none else activeTurn turns none

/-- Fields hashed into the proof of an active turn. -/
def activeFields (requested returned : NativeRef) (kind : String) (activeFlags : List String)
    (turns : List BorrowedTurn) (active : String) : List (List UInt8) :=
  [textBytes requested.text, textBytes returned.text, textBytes kind] ++
    activeFlags.map textBytes ++
    turns.flatMap (fun turn =>
      [textBytes (turn.id.getD ""), textBytes (turn.status.getD "")]) ++
    [textBytes "exactly-one-active-turn", textBytes active, textBytes version,
      textBytes dialect]

variable [Blake3]

/-- What the result of a thread observation proves about the requested thread. -/
def parseThreadStateRaw (result : RawValue) (requested : NativeRef) :
    Except Error ThreadState :=
  match SerdeJson.threadResult result with
  | none => .error .malformed
  | some thread => do
      let returned ← NativeRef.parseBorrowed thread.id
      if returned ≠ requested then .error .correlation
      else
        match thread.status with
        | none => .ok .unproven
        | some status =>
            if status.kind = "idle" then .ok (parseIdleThread thread)
            else if status.kind = "active" then
              match status.activeFlags with
              | none => .ok .unproven
              | some activeFlags =>
                  match parseActiveThread thread activeFlags with
                  | none => .ok .unproven
                  | some active =>
                      .ok (.activeTurn (Blake3.hash
                        (domainTag "gearwit.codex-exact-active.v1" ++
                          FieldEncoding.fields (activeFields requested returned status.kind
                            activeFlags (thread.turns.getD []) active))))
            else .ok .unproven

/-- Read a response against the pending request. -/
def parseResponse (line : List UInt8) (pending : Pending) : Except Error Received :=
  match (SerdeJson.envelope line).bind BorrowedEnvelope.result with
  | none => .error .malformed
  | some result =>
      match pending.kind with
      | .handshake => .ok .initialized
      | .threadStart =>
          match SerdeJson.threadRef result with
          | none => .error .malformed
          | some thread => (NativeRef.parseBorrowed thread).map .threadStarted
      | .threadResume =>
          match pending.thread with
          | none => .error .correlation
          | some requested => (parseThreadStateRaw result requested).map .threadResumed
      | .threadRead =>
          match pending.thread with
          | none => .error .correlation
          | some requested => (parseThreadStateRaw result requested).map .threadRead
      | .turnStart =>
          match SerdeJson.turnRef result with
          | none => .error .malformed
          | some turn => (NativeRef.parseBorrowed turn).map .turnStarted

end Transport
end Gearwit
