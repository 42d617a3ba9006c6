import Gearwit.Transport.Messages

/-!
# The transport state

One client request is outstanding at a time.  Lines of the server are handled one by
one: a correlated response ends the request, notifications wait behind it, and every
request of the server is rejected at once.  One flag remembers that the acceptance of
an outbound frame, or the fate of a request, is not known.
-/

namespace Gearwit
namespace Transport

/-- The state of the transport of one process. -/
structure TransportState where
  line : List UInt8
  frame : List UInt8
  stdout : Nat
  pending : List Pending
  notifications : List Notification
  ambiguous : Bool
  initialized : Bool
  nextId : Nat

/-- The state of a fresh process. -/
def TransportState.new : TransportState where
  line := []
  frame := []
  stdout := 0
  pending := []
  notifications := []
  ambiguous := false
  initialized := false
  nextId := 2

/-- The transport with the child's streams. -/
structure Wire where
  state : TransportState
  pipes : Pipes

namespace Wire

/-- The wire of a fresh process, over which nothing has passed yet. -/
def fresh (pipes : Pipes) : Wire := ⟨.new, { pipes with log := [] }⟩

/-- Set the flag of an unknown outcome. -/
def flag (wire : Wire) (ambiguous : Bool) : Wire :=
  { wire with state := { wire.state with ambiguous } }

/-- Replace the content of the frame buffer. -/
def buffer (wire : Wire) (frame : List UInt8) : Wire :=
  { wire with state := { wire.state with frame } }

/-- Replace the content of the line buffer. -/
def hold (wire : Wire) (line : List UInt8) : Wire :=
  { wire with state := { wire.state with line } }

/-- Await the response of one more request. -/
def await (wire : Wire) (pending : Pending) : Wire :=
  { wire with state := { wire.state with pending := wire.state.pending ++ [pending] } }

/-- The outstanding request is no longer awaited. -/
def settle (wire : Wire) : Wire :=
  { wire with state := { wire.state with pending := wire.state.pending.tail } }

/-- Whether a request is outstanding. -/
def waiting (wire : Wire) : Bool := !wire.state.pending.isEmpty

/-- Take the next request identifier. -/
def mintId (wire : Wire) : Except Error Nat × Wire :=
  if wire.state.nextId + 1 < 2 ^ 64 then
    (.ok wire.state.nextId,
      { wire with state := { wire.state with nextId := wire.state.nextId + 1 } })
  else (.error .bounds, wire)

variable [SerdeJson]

/-! ## Writing -/

/-- Encode a value and write its frame. -/
def write (wire : Wire) (purpose : Purpose) (value : Json) :
    Except WriteFailure WriteReceipt × Wire :=
  match encode value with
  | (.error error, frame) => (.error ⟨error, .provenNotWritten⟩, wire.buffer frame)
  | (.ok (), frame) =>
      let (outcome, pipes) := writeAllUntil purpose frame ioDeadline wire.pipes
      (outcome, { wire.buffer [] with pipes })

/-- Write a value unless an earlier outcome is unknown. -/
def send (wire : Wire) (purpose : Purpose) (value : Json) :
    Except Error WriteReceipt × Wire :=
  if wire.state.ambiguous then (.error .ambiguous, wire)
  else
    match wire.write purpose value with
    | (.ok receipt, wire) => (.ok receipt, wire)
    | (.error failure, wire) =>
        if failure.receipt = .possiblyWritten then (.error .ambiguous, wire.flag true)
        else (.error failure.error, wire)

/-! ## Requests -/

/-- Begin the handshake. -/
def beginHandshake (wire : Wire) : Except Error Unit × Wire :=
  if wire.state.ambiguous then (.error .ambiguous, wire)
  else if wire.state.initialized ∨ wire.waiting then (.error .bounds, wire)
  else
    match wire.send (.request 1 .handshake) initializeRequest with
    | (.error error, wire) => (.error error, wire)
    | (.ok _, wire) => (.ok (), wire.await ⟨1, .handshake, none⟩)

/-- Method of a request; the handshake has its own operation. -/
def method : RequestKind → Option String
  | .handshake => none
  | .threadStart => some "thread/start"
  | .threadResume => some "thread/resume"
  | .threadRead => some "thread/read"
  | .turnStart => some "turn/start"

/-- Refusal of a request before it takes an identifier. -/
def refusal (wire : Wire) : Option Error :=
  if wire.state.ambiguous then some .ambiguous
  else if !wire.state.initialized then some .preflight
  else if wire.waiting then some .bounds
  else none

/-- Send one request and await its response. -/
def sendRequest (wire : Wire) (kind : RequestKind) (params : Json)
    (thread : Option NativeRef) : Except Error Unit × Wire :=
  match wire.refusal with
  | some error => (.error error, wire)
  | none =>
      match wire.mintId with
      | (.error error, wire) => (.error error, wire)
      | (.ok id, wire) =>
          match method kind with
          | none => (.error .unsupported, wire)
          | some method =>
              match wire.send (.request id kind) (clientRequest id method params) with
              | (.error error, wire) => (.error error, wire)
              | (.ok _, wire) => (.ok (), wire.await ⟨id, kind, thread⟩)

/-- Start a thread with the helper attached; `helper` is its path unless the file was
replaced. -/
def startAttachedThread (wire : Wire) (helper : Option String) :
    Except Error Unit × Wire :=
  match helper with
  | none => (.error .identity, wire)
  | some helper => wire.sendRequest .threadStart (attachedThreadParams helper none) none

/-- Resume a thread with the helper attached. -/
def resumeThread (wire : Wire) (thread : NativeRef) (helper : Option String) :
    Except Error Unit × Wire :=
  match helper with
  | none => (.error .identity, wire)
  | some helper => wire.sendRequest .threadResume (resumeParams thread helper) (some thread)

/-- Observe a thread. -/
def readThread (wire : Wire) (thread : NativeRef) : Except Error Unit × Wire :=
  wire.sendRequest .threadRead (readParams thread) (some thread)

/-- The request a prepared turn will send. -/
def turnRequest (id : Nat) (thread : NativeRef) (managedInput : String) : Json :=
  clientRequest id "turn/start" (turnParams thread managedInput)

/-- Encode the frame of a turn and keep it in the buffer. -/
def prepareTurn (wire : Wire) (thread : NativeRef) (managedInput : String) :
    Except Error Nat × Wire :=
  match wire.refusal with
  | some error => (.error error, wire)
  | none =>
      match wire.mintId with
      | (.error error, wire) => (.error error, wire)
      | (.ok id, wire) =>
          match encode (turnRequest id thread managedInput) with
          | (.error error, _) => (.error error, wire.buffer [])
          | (.ok (), frame) => (.ok id, wire.buffer frame)

omit [SerdeJson] in
/-- Drop a prepared frame. -/
def discardPreparedTurn (wire : Wire) : Wire := wire.buffer []

omit [SerdeJson] in
/-- Write whatever the frame buffer holds as the prepared turn. -/
def dispatchPreparedTurn (wire : Wire) (id : Nat) :
    Except WriteFailure WriteReceipt × Wire :=
  let (result, pipes) :=
    writeAllUntil (.request id .turnStart) wire.state.frame ioDeadline wire.pipes
  let wire : Wire := { wire.buffer [] with pipes }
  match result with
  | .ok .written => (result, (wire.flag false).await ⟨id, .turnStart, none⟩)
  | .error ⟨_, .possiblyWritten⟩ => (result, (wire.flag true).await ⟨id, .turnStart, none⟩)
  | _ => (result, wire)

/-! ## Lines of the server -/

variable [Blake3]

/-- Handle a response. -/
def handleResponse (wire : Wire) (id : Nat) : Except Error (Option Received) × Wire :=
  match wire.state.pending.head? with
  | none => (.error .correlation, wire)
  | some pending =>
      if pending.id = id then
        match parseResponse wire.state.line pending with
        | .error error => (.error error, wire.flag true)
        | .ok received =>
            if received = .initialized then
              match (wire.flag false).send .initialized initializedNotification with
              | (.error error, wire) => (.error error, wire)
              | (.ok _, wire) =>
                  (.ok (some received),
                    settle { wire with state := { wire.state with initialized := true } })
            else (.ok (some received), (wire.flag false).settle)
      else (.error .correlation, wire.flag true)

omit [SerdeJson] [Blake3] in
/-- Handle an error object. -/
def handleNativeError (wire : Wire) (id : Nat) : Except Error (Option Received) × Wire :=
  if wire.state.pending.head?.map Pending.id = some id then
    (.error .native, (wire.flag false).settle)
  else (.error .correlation, wire.flag (wire.state.ambiguous || wire.waiting))

omit [SerdeJson] [Blake3] in
/-- Handle a notification. -/
def handleNotification (wire : Wire) (notification : Notification) :
    Except Error (Option Received) × Wire :=
  if !wire.state.initialized then
    (.error .correlation, wire.flag (wire.state.ambiguous || wire.waiting))
  else if !wire.waiting then (.ok (some (.notification notification)), wire)
  else if wire.state.notifications.length = maxQueue then (.error .degraded, wire)
  else
    (.ok none,
      { wire with
        state := { wire.state with
          notifications := wire.state.notifications ++ [notification] } })

omit [Blake3] in
/-- Handle a request of the server. -/
def handleServerRequest (wire : Wire) (id : Json) :
    Except Error (Option Received) × Wire :=
  match wire.send .rejection (rejection id) with
  | (.error error, wire) => (.error error, wire)
  | (.ok _, wire) =>
      (.ok (if wire.waiting then none else some .serverRequestRejected), wire)

/-- Handle one line. -/
def handleInbound (wire : Wire) : Inbound → Except Error (Option Received) × Wire
  | .response id => wire.handleResponse id
  | .nativeError id => wire.handleNativeError id
  | .notification notification => wire.handleNotification notification
  | .serverRequest id => wire.handleServerRequest id

/-- Count and handle the line in the line buffer. -/
def handleLine (wire : Wire) (consumed : Nat) : Except Error (Option Received) × Wire :=
  if maxStdout < wire.state.stdout + consumed then (.error .bounds, wire)
  else
    let wire : Wire :=
      { wire with state := { wire.state with stdout := wire.state.stdout + consumed } }
    match classify wire.state.line with
    | .error error =>
        (.error error, (wire.flag (wire.state.ambiguous || wire.waiting)).hold [])
    | .ok inbound =>
        let (outcome, wire) := wire.handleInbound inbound
        (outcome, wire.hold [])

/-- Read one line and handle it. -/
def nextLine (due : Nat) (wire : Wire) : Except Error (Option Received) × Wire :=
  let (read, line, pipes) := readLineUntil (due - wire.pipes.clock) wire.pipes
  let wire : Wire := { wire.hold line with pipes }
  match read with
  | .error error =>
      if wire.waiting then (.error .ambiguous, wire.flag true) else (.error error, wire)
  | .ok consumed => wire.handleLine consumed

/-- Loop of `nextUntil`; every line takes an answer of the script. -/
def nextLoop (due : Nat) : Nat → Wire → Except Error Received × Wire
  | fuel, wire =>
      match wire.nextLine due with
      | (.error error, wire) => (.error error, wire)
      | (.ok (some received), wire) => (.ok received, wire)
      | (.ok none, wire) =>
          match fuel with
          | 0 => (.error .deadline, wire)
          | fuel + 1 => nextLoop due fuel wire

/-- Receive until the deadline: a notification kept back, or what the next line that
concerns the caller makes. -/
def nextUntil (wire : Wire) (deadline : Nat) : Except Error Received × Wire :=
  match wire.waiting, wire.state.notifications with
  | false, notification :: rest =>
      (.ok (.notification notification),
        { wire with state := { wire.state with notifications := rest } })
  | _, _ => nextLoop (wire.pipes.clock + deadline) wire.pipes.reads.length wire

end Wire
end Transport
end Gearwit
