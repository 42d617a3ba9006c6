import Gearwit.Foundations.FrameStream
import Gearwit.Foundations.Transition
import Gearwit.Transport.Steps

/-!
# Whole frames on the outbound stream

Any operations of one transport, in any order, over any reader and writer.  The flag of
an unknown outcome holds back every write after a torn frame, but a response to the
outstanding request, or the dispatch of a turn, clears it.  Where neither happens, the
accepted bytes are whole frames and at most one part of a frame at the very end.
-/

namespace Gearwit
namespace Transport

open FrameStream (Torn Unbroken stream)

/-! ## Offers of the log -/

/-- Frames offered to the pipe, newest first. -/
def offers (log : List WireEvent) : List (FrameOffer UInt8) :=
  log.filterMap fun event =>
    match event with
    | .offered _ frame accepted => some ⟨frame, accepted⟩
    | .heard _ => none

@[simp] theorem offers_offered (purpose : Purpose) (frame : List UInt8) (accepted : Nat)
    (log : List WireEvent) :
    offers (.offered purpose frame accepted :: log) = ⟨frame, accepted⟩ :: offers log := rfl

@[simp] theorem offers_heard (line : List UInt8) (log : List WireEvent) :
    offers (.heard line :: log) = offers log := rfl

/-- The offers of a log are its frames. -/
theorem mem_offers {log : List WireEvent} {offer : FrameOffer UInt8} :
    offer ∈ offers log ↔ ∃ purpose, .offered purpose offer.frame offer.accepted ∈ log := by
  constructor
  · intro member
    obtain ⟨event, present, shown⟩ := List.mem_filterMap.1 member
    cases event with
    | offered purpose frame accepted =>
        cases shown
        exact ⟨purpose, present⟩
    | heard line => cases shown
  · rintro ⟨purpose, present⟩
    exact List.mem_filterMap.2 ⟨_, present, rfl⟩

variable [SerdeJson]

/-- The law of the outbound stream: nothing is accepted after a torn frame, and the
accepted bytes are complete frames, followed by a part of one frame at most. -/
structure FramesWhole (log : List WireEvent) : Prop where
  later : ∀ newer older purpose frame accepted,
    log = newer ++ .offered purpose frame accepted :: older →
    0 < accepted → accepted < frame.length →
      ∀ purpose frame accepted, .offered purpose frame accepted ∈ newer →
        frame.take accepted = []
  whole : ∃ (frames : List (List UInt8)) (part : List UInt8), stream (offers log) = frames.flatten ++ part ∧
    (∀ frame ∈ frames, ∃ value, frame = frameOf value) ∧
    (part = [] ∨ ∃ value accepted, accepted < (frameOf value).length ∧
      part = (frameOf value).take accepted)

/-- What the flag guards: nothing is accepted after a torn frame, a torn frame raises the
flag, and only encoded values and emptied buffers are offered. -/
structure Wire.Guarded (wire : Wire) : Prop where
  unbroken : Unbroken (offers wire.pipes.log)
  flagged : Torn (offers wire.pipes.log) → wire.state.ambiguous = true
  encoded : ∀ offer ∈ offers wire.pipes.log,
    offer.frame = [] ∨ ∃ value, offer.frame = frameOf value

/-- A guarded wire obeys the law. -/
theorem Wire.Guarded.framesWhole {wire : Wire} (guarded : wire.Guarded) :
    FramesWhole wire.pipes.log where
  later newer older purpose frame accepted split positive short purpose' frame' accepted'
      member := by
    have unbroken := guarded.unbroken
    rw [split, offers, List.filterMap_append] at unbroken
    exact @Unbroken.later _ _ _ ⟨frame, accepted⟩ ⟨frame', accepted'⟩ unbroken
      ⟨positive, short⟩ (mem_offers.2 ⟨purpose', member⟩)
  whole := by
    obtain ⟨frames, part, whole, offered, last⟩ := guarded.unbroken.whole
    refine ⟨frames.filter (!·.isEmpty), part, ?_, ?_, ?_⟩
    · rw [whole, List.flatten_filter_not_isEmpty]
    · intro frame member
      obtain ⟨present, nonempty⟩ := List.mem_filter.1 member
      obtain ⟨offer, known, rfl⟩ := offered frame present
      exact (guarded.encoded offer known).resolve_left fun empty => by simp [empty] at nonempty
    · refine last.imp_right ?_
      rintro ⟨offer, known, torn, rfl⟩
      obtain empty | ⟨value, same⟩ := guarded.encoded offer known
      · simp [FrameOffer.Torn, empty] at torn
      · refine ⟨value, offer.accepted, same ▸ torn.2, ?_⟩
        rw [FrameOffer.taken, same]

/-! ## What keeps the guard -/

namespace Wire

/-- Nothing was offered before the process was started. -/
theorem fresh_guarded (pipes : Pipes) : (fresh pipes).Guarded where
  unbroken := trivial
  flagged torn := absurd torn FrameStream.not_torn_nil
  encoded offer member := by cases member

/-- An offer on a guarded wire whose outcome is not unknown. -/
theorem Guarded.offered {wire after : Wire} {purpose : Purpose} {frame : List UInt8}
    {accepted : Nat} (guarded : wire.Guarded) (intact : ¬ Torn (offers wire.pipes.log))
    (logged : after.pipes.log = .offered purpose frame accepted :: wire.pipes.log)
    (encoded : frame = [] ∨ ∃ value, frame = frameOf value)
    (flagged : (⟨frame, accepted⟩ : FrameOffer UInt8).Torn →
      after.state.ambiguous = true) : after.Guarded where
  unbroken := by
    rw [logged]
    exact guarded.unbroken.offer intact ⟨frame, accepted⟩
  flagged torn := by
    rw [logged, offers_offered, FrameStream.torn_cons] at torn
    exact flagged (torn.resolve_right intact)
  encoded offer member := by
    rw [logged] at member
    rcases List.mem_cons.1 member with rfl | older
    · exact encoded
    · exact guarded.encoded offer older

/-- The guard depends on the flag and the offers only. -/
theorem Guarded.congr {wire after : Wire} (guarded : wire.Guarded)
    (same : offers after.pipes.log = offers wire.pipes.log)
    (flagged : Torn (offers wire.pipes.log) → after.state.ambiguous = true) :
    after.Guarded where
  unbroken := same ▸ guarded.unbroken
  flagged torn := flagged (same ▸ torn)
  encoded offer member := guarded.encoded offer (same ▸ member)

/-- A send on a guarded wire. -/
theorem SendEffect.guarded {wire after : Wire} {purpose : Purpose} {value : Json}
    {outcome : Except Error WriteReceipt}
    (effect : SendEffect wire purpose value outcome after) (guarded : wire.Guarded) :
    after.Guarded := by
  have intact (clear : wire.state.ambiguous = false) : ¬ Torn (offers wire.pipes.log) := by
    intro torn
    rw [guarded.flagged torn] at clear
    cases clear
  cases effect with
  | blocked unknown => exact guarded
  | unwritten clear => exact guarded.congr rfl guarded.flagged
  | sent clear logged unread =>
      exact guarded.offered (intact clear) logged (Or.inr ⟨value, rfl⟩)
        fun torn => absurd torn.2 (Nat.lt_irrefl _)
  | refused clear logged unread =>
      exact guarded.offered (intact clear) logged (Or.inr ⟨value, rfl⟩)
        fun torn => absurd torn.1 (Nat.lt_irrefl _)
  | torn clear logged within unread =>
      exact guarded.offered (intact clear) logged (Or.inr ⟨value, rfl⟩) fun _ => rfl

variable [Blake3]

/-- The line is a response that answers the outstanding request, or its error object. -/
def Correlates (wire : Wire) (line : List UInt8) : Prop :=
  ∃ pending, wire.state.pending.head? = some pending ∧
    (classify line = .ok (.response pending.id) ∧ (parseResponse line pending).isOk = true ∨
      classify line = .ok (.nativeError pending.id))

/-- The line was read between two moments. -/
def Hears (before after : Wire) (line : List UInt8) : Prop :=
  ∃ newer, after.pipes.log = newer ++ before.pipes.log ∧ .heard line ∈ newer

omit [SerdeJson] [Blake3] in
/-- What is heard later is heard. -/
theorem Hears.trans {before mid after : Wire} {line : List UInt8}
    (early : ∃ newer, mid.pipes.log = newer ++ before.pipes.log)
    (late : Hears mid after line) : Hears before after line := by
  obtain ⟨newer, logged, member⟩ := late
  obtain ⟨between, same⟩ := early
  exact ⟨newer ++ between, by rw [logged, same, List.append_assoc],
    List.mem_append_left _ member⟩

/-- Handling a line keeps the guard unless it clears the flag while a frame is torn. -/
theorem InboundEffect.guarded {wire after : Wire} {inbound : Inbound}
    {outcome : Except Error (Option Received)}
    (effect : InboundEffect wire inbound outcome after) (guarded : wire.Guarded)
    (safe : Torn (offers wire.pipes.log) → ∀ pending,
      wire.state.pending.head? = some pending →
        ¬ (inbound = .response pending.id ∧
          (parseResponse wire.state.line pending).isOk = true) ∧
        inbound ≠ .nativeError pending.id) : after.Guarded := by
  have cleared (intact : ¬ Torn (offers wire.pipes.log)) : (wire.flag false).Guarded :=
    guarded.congr rfl fun torn => absurd torn intact
  cases effect with
  | stray uncorrelated =>
      exact guarded.congr rfl fun torn => by simp [guarded.flagged torn]
  | unparsed awaited unread => exact guarded.congr rfl fun _ => rfl
  | answered awaited read other =>
      have intact : ¬ Torn (offers wire.pipes.log) := fun torn =>
        (safe torn _ awaited).1 ⟨rfl, by rw [read]; rfl⟩
      exact (cleared intact).congr rfl fun torn => absurd torn intact
  | shaken awaited read sent =>
      have intact : ¬ Torn (offers wire.pipes.log) := fun torn =>
        (safe torn _ awaited).1 ⟨rfl, by rw [read]; rfl⟩
      have kept := sent.guarded (cleared intact)
      exact kept.congr rfl kept.flagged
  | unshaken awaited read sent =>
      have intact : ¬ Torn (offers wire.pipes.log) := fun torn =>
        (safe torn _ awaited).1 ⟨rfl, by rw [read]; rfl⟩
      exact sent.guarded (cleared intact)
  | refused awaited =>
      have intact : ¬ Torn (offers wire.pipes.log) := fun torn => (safe torn _ awaited).2 rfl
      exact (cleared intact).congr rfl fun torn => absurd torn intact
  | passed idle ready => exact guarded
  | dropped busy => exact guarded
  | kept busy => exact guarded.congr rfl guarded.flagged
  | rejected sent shown => exact sent.guarded guarded
  | unrejected sent => exact sent.guarded guarded

/-- A line keeps the guard unless it clears the flag while a frame is torn. -/
theorem LineEffect.guarded {wire after : Wire} {outcome : Except Error (Option Received)}
    (effect : LineEffect wire outcome after) (guarded : wire.Guarded)
    (safe : Torn (offers wire.pipes.log) → ∀ line, Hears wire after line →
      ¬ wire.Correlates line) : after.Guarded := by
  cases effect with
  | silent stopped same left =>
      exact guarded.congr (congrArg offers same) fun torn => by
        simp [guarded.flagged torn]
  | long logged left =>
      exact guarded.congr (by rw [logged]; rfl) guarded.flagged
  | malformed heard unread =>
      exact guarded.congr (by rw [hold_pipes, flag_pipes, heard.log]; rfl) fun torn => by
        simp [hold, guarded.flagged torn]
  | @handled line mid after inbound _ heard read effect =>
      have same : offers mid.pipes.log = offers wire.pipes.log := by rw [heard.log]; rfl
      have counted : mid.Guarded := guarded.congr same fun torn => by
        rw [heard.state]
        exact guarded.flagged torn
      have kept : after.Guarded := by
        refine effect.guarded counted fun torn pending awaited => ?_
        obtain ⟨newer, logged⟩ := effect.logged
        have hears : Hears wire (after.hold []) line :=
          ⟨newer ++ [.heard line], by rw [hold_pipes, logged, heard.log]; simp, by simp⟩
        have apart := safe (same ▸ torn) line hears
        rw [heard.state] at awaited
        rw [show mid.state.line = line by rw [heard.state]]
        refine ⟨fun both => apart ⟨pending, awaited, Or.inl ⟨by rw [read, both.1], both.2⟩⟩,
          fun equal => apart ⟨pending, awaited, Or.inr (by rw [read, equal])⟩⟩
      exact kept.congr rfl kept.flagged

/-- A quiet line keeps the guard and tears no frame. -/
theorem LineEffect.quiet_guarded {wire after : Wire}
    (effect : LineEffect wire (.ok none) after) (guarded : wire.Guarded) :
    after.Guarded ∧ (Torn (offers after.pipes.log) → Torn (offers wire.pipes.log)) := by
  cases effect with
  | @handled line mid after inbound _ heard read effect =>
      have same : offers mid.pipes.log = offers wire.pipes.log := by rw [heard.log]; rfl
      have counted : mid.Guarded := guarded.congr same fun torn => by
        rw [heard.state]
        exact guarded.flagged torn
      rw [← same]
      cases effect with
      | kept busy => exact ⟨counted.congr rfl counted.flagged, id⟩
      | rejected sent shown =>
          have kept := sent.guarded counted
          refine ⟨kept.congr rfl kept.flagged, fun torn => ?_⟩
          cases sent with
          | sent clear logged unread =>
              rw [hold_pipes, logged, offers_offered, FrameStream.torn_cons] at torn
              exact torn.resolve_left fun broken => Nat.lt_irrefl _ broken.2

/-- A receive keeps the guard unless it clears the flag while a frame is torn. -/
theorem ReceiveEffect.guarded {wire after : Wire} {deadline : Nat}
    {outcome : Except Error Received} (effect : ReceiveEffect wire deadline outcome after) (guarded : wire.Guarded)
    (safe : Torn (offers wire.pipes.log) → ∀ line, Hears wire after line →
      ¬ wire.Correlates line) : after.Guarded := by
  cases effect with
  | popped idle queued => exact guarded.congr rfl guarded.flagged
  | @read mid _ _ queue quiet last =>
      -- The last line is safe at `mid` when the frame was torn before the receive; a
      -- quiet line tears none.
      have steady : mid.Guarded ∧
          (Torn (offers mid.pipes.log) → Torn (offers wire.pipes.log)) := by
        refine @Quiet.keeps _ _ _ _ _ (fun mid => mid.Guarded ∧
          (Torn (offers mid.pipes.log) → Torn (offers wire.pipes.log))) quiet ?_ ⟨guarded, id⟩
        rintro mid next ⟨kept, older⟩ read
        have effect := nextLine_effect (wire.pipes.clock + deadline) mid
        rw [read] at effect
        obtain ⟨kept, same⟩ := effect.quiet_guarded kept
        exact ⟨kept, fun torn => older (same torn)⟩
      have effect := nextLine_effect (wire.pipes.clock + deadline) mid
      rw [last] at effect
      refine effect.guarded steady.1 fun torn line hears apart => ?_
      obtain ⟨pending, awaited, reads⟩ := apart
      rw [quiet.pending] at awaited
      exact safe (steady.2 torn) line (hears.trans quiet.logged) ⟨pending, awaited, reads⟩

/-! ## Requests and turns -/

omit [Blake3] in
/-- Beginning the handshake keeps the guard. -/
theorem beginHandshake_guarded {wire : Wire} (guarded : wire.Guarded) :
    wire.beginHandshake.2.Guarded := by
  unfold beginHandshake
  split_ifs
  · exact guarded
  · exact guarded
  have kept := (send_effect wire (.request 1 .handshake) initializeRequest).guarded guarded
  rcases sent : wire.send (.request 1 .handshake) initializeRequest with ⟨outcome, after⟩
  rw [sent] at kept
  cases outcome with
  | error error => exact kept
  | ok receipt => exact kept.congr rfl kept.flagged

omit [SerdeJson] [Blake3] in
/-- Taking an identifier keeps a wire guarded. -/
theorem mintId_guarded [SerdeJson] {wire : Wire} (guarded : wire.Guarded) :
    wire.mintId.2.Guarded := by
  unfold mintId
  split_ifs
  · exact guarded.congr rfl guarded.flagged
  · exact guarded

omit [Blake3] in
/-- A request keeps the guard. -/
theorem sendRequest_guarded {wire : Wire} (guarded : wire.Guarded) (kind : RequestKind)
    (params : Json) (thread : Option NativeRef) :
    (wire.sendRequest kind params thread).2.Guarded := by
  have minted := mintId_guarded guarded
  unfold sendRequest
  split
  · exact guarded
  rcases mint : wire.mintId with ⟨outcome, numbered⟩
  rw [mint] at minted
  cases outcome with
  | error error => exact minted
  | ok id =>
      simp only
      split
      · exact minted
      rename_i method _
      have kept := (send_effect numbered (.request id kind)
        (clientRequest id method params)).guarded minted
      rcases sent : numbered.send (.request id kind) (clientRequest id method params) with
        ⟨outcome, after⟩
      rw [sent] at kept
      cases outcome with
      | error error => exact kept
      | ok receipt => exact kept.congr rfl kept.flagged

omit [Blake3] in
/-- Preparing a turn keeps the guard. -/
theorem prepareTurn_guarded {wire : Wire} (guarded : wire.Guarded) (thread : NativeRef)
    (managedInput : String) : (wire.prepareTurn thread managedInput).2.Guarded := by
  have minted := mintId_guarded guarded
  unfold prepareTurn
  split
  · exact guarded
  rcases mint : wire.mintId with ⟨outcome, numbered⟩
  rw [mint] at minted
  cases outcome with
  | error error => exact minted
  | ok id =>
      simp only
      split
      · exact minted.congr rfl minted.flagged
      · exact minted.congr rfl minted.flagged

omit [Blake3] in
/-- The frame buffer is empty or holds the frame of a value. -/
def Loaded (wire : Wire) : Prop :=
  wire.state.frame = [] ∨ ∃ value, wire.state.frame = frameOf value

omit [Blake3] in
/-- Dispatching a loaded turn keeps the guard when no frame is torn. -/
theorem dispatchPreparedTurn_guarded {wire : Wire} (guarded : wire.Guarded)
    (intact : ¬ Torn (offers wire.pipes.log)) (loaded : wire.Loaded) (id : Nat) :
    (wire.dispatchPreparedTurn id).2.Guarded := by
  obtain ⟨accepted, logged, _, effect⟩ := writeAllUntil_effect (.request id .turnStart)
    wire.state.frame ioDeadline wire.pipes
  unfold dispatchPreparedTurn
  rcases wrote : writeAllUntil (.request id .turnStart) wire.state.frame ioDeadline
    wire.pipes with ⟨result, pipes⟩
  rw [wrote] at logged effect
  cases effect with
  | written =>
      exact guarded.offered intact logged loaded fun torn => absurd torn.2 (Nat.lt_irrefl _)
  | refused error =>
      exact guarded.offered intact logged loaded fun torn => absurd torn.1 (Nat.lt_irrefl _)
  | possible within => exact guarded.offered intact logged loaded fun _ => rfl

end Wire

/-! ## Runs -/

/-- One operation of the transport. -/
inductive TransportOp
  | handshake
  | request (kind : RequestKind) (params : Json) (thread : Option NativeRef)
  | prepare (thread : NativeRef) (managedInput : String)
  | discard
  | dispatch (id : Nat)
  | receive (deadline : Nat)

/-- A transport and the permits of turns that are prepared and not dispatched. -/
structure TransportDesk where
  wire : Wire
  permits : List Nat

namespace TransportDesk

variable [Blake3]

/-- A transport over a fresh process. -/
def start (pipes : Pipes) : TransportDesk := ⟨.fresh pipes, []⟩

/-- Perform one operation; a permit is used up by its dispatch. -/
def step (desk : TransportDesk) : TransportOp → TransportDesk
  | .handshake => { desk with wire := desk.wire.beginHandshake.2 }
  | .request kind params thread =>
      { desk with wire := (desk.wire.sendRequest kind params thread).2 }
  | .prepare thread managedInput =>
      match desk.wire.prepareTurn thread managedInput with
      | (.ok id, wire) => ⟨wire, id :: desk.permits⟩
      | (.error _, wire) => { desk with wire }
  | .discard => { desk with wire := desk.wire.discardPreparedTurn }
  | .dispatch id =>
      if id ∈ desk.permits then
        ⟨(desk.wire.dispatchPreparedTurn id).2, desk.permits.erase id⟩
      else desk
  | .receive deadline => { desk with wire := (desk.wire.nextUntil deadline).2 }

/-- What passed over the wire. -/
def log (desk : TransportDesk) : List WireEvent := desk.wire.pipes.log

/-- The step writes again after a torn frame, or writes what is no frame: a receive reads
an answer to the outstanding request while a frame is torn, or a turn is dispatched while
a frame is torn or after a reply that did not fit was left in the frame buffer. -/
def Reopens (desk : TransportDesk) : TransportOp → Prop
  | .receive deadline =>
      Torn (offers desk.log) ∧ ∃ line,
        desk.wire.Hears (desk.wire.nextUntil deadline).2 line ∧ desk.wire.Correlates line
  | .dispatch id =>
      id ∈ desk.permits ∧ (Torn (offers desk.log) ∨ ¬ desk.wire.Loaded)
  | _ => False

/-- A step that does not write again keeps the guard. -/
theorem step_guarded {desk : TransportDesk} (guarded : desk.wire.Guarded)
    (op : TransportOp) (safe : ¬ desk.Reopens op) : (desk.step op).wire.Guarded := by
  cases op with
  | handshake => exact Wire.beginHandshake_guarded guarded
  | request kind params thread => exact Wire.sendRequest_guarded guarded kind params thread
  | prepare thread managedInput =>
      have kept := Wire.prepareTurn_guarded guarded thread managedInput
      simp only [step]
      rcases prepared : desk.wire.prepareTurn thread managedInput with ⟨_ | id, wire⟩
      · rw [prepared] at kept
        exact kept
      · rw [prepared] at kept
        exact kept
  | discard => exact guarded.congr rfl guarded.flagged
  | dispatch id =>
      simp only [step]
      split_ifs with held
      · have open_ : ¬ Torn (offers desk.log) ∧ desk.wire.Loaded := by
          by_contra broken
          rw [not_and_or, not_not] at broken
          exact safe ⟨held, broken⟩
        exact Wire.dispatchPreparedTurn_guarded guarded open_.1 open_.2 id
      · exact guarded
  | receive deadline =>
      exact (Wire.nextUntil_effect desk.wire deadline).guarded guarded
        fun torn line hears correlated => safe ⟨torn, line, hears, correlated⟩

/-- In every run in which no step writes again after a torn frame, the accepted bytes are
whole frames and a part of one frame at most, after which nothing is accepted. -/
theorem run_framesWhole (pipes : Pipes) (ops : List TransportOp)
    (safe : Transition.Along step (fun desk op => ¬ desk.Reopens op) (start pipes) ops) :
    FramesWhole (Transition.run step (start pipes) ops).log :=
  (Transition.invariant_along (fun desk : TransportDesk => desk.wire.Guarded)
    (fun _ op open_ guarded => step_guarded guarded op open_)
    (Wire.fresh_guarded pipes) safe).framesWhole

end TransportDesk
end Transport

/-! ## A response that comes after a torn reply -/

namespace Transport
namespace Sample

mutual

/-- Compact text of a value. -/
def compact : Json → List Char
  | .null => ['n', 'u', 'l', 'l']
  | .bool true => ['t', 'r', 'u', 'e']
  | .bool false => ['f', 'a', 'l', 's', 'e']
  | .number text => text.toList
  | .string text => JsonText.string text
  | .array items => JsonText.array (compactItems items)
  | .object members => JsonText.object (compactMembers members)

/-- Compact texts of elements. -/
def compactItems : List Json → List (List Char)
  | [] => []
  | item :: rest => compact item :: compactItems rest

/-- Compact texts of members. -/
def compactMembers : List (String × Json) → List (List Char)
  | [] => []
  | (name, value) :: rest => JsonText.member name (compact value) :: compactMembers rest

end

/-- Lines of the samples' server, with their top-level members. -/
def envelopes : List (String × BorrowedEnvelope) :=
  [("\x7b\"id\":1,\"result\":\x7b\x7d\x7d", ⟨some ⟨"1"⟩, none, some ⟨"\x7b\x7d"⟩, none⟩),
    ("\x7b\"id\":7,\"method\":\"ping\"\x7d", ⟨some ⟨"7"⟩, some "ping", none, none⟩),
    ("\x7b\"method\":\"ping\"\x7d", ⟨none, some "ping", none, none⟩),
    ("\x7b\"id\":2,\"result\":\x7b\"thread\":\x7b\"id\":\"t\"\x7d\x7d\x7d",
      ⟨some ⟨"2"⟩, none, some ⟨"\x7b\"thread\":\x7b\"id\":\"t\"\x7d\x7d"⟩, none⟩)]

/-- Numbers of the samples' lines. -/
def naturals : List (String × UInt64) := [("1", 1), ("2", 2), ("7", 7)]

/-- The reader on the samples' lines, and the compact writer. -/
scoped instance serde : SerdeJson where
  envelope line := (envelopes.find? fun entry => textBytes entry.1 == line).map Prod.snd
  value raw := some (.number raw.text)
  natural raw := (naturals.find? fun entry => entry.1 == raw.text).map Prod.snd
  threadRef raw :=
    if raw.text = "\x7b\"thread\":\x7b\"id\":\"t\"\x7d\x7d" then some "t" else none
  turnRef _ := none
  threadResult _ := none
  notification _ := none
  pieces value := [textBytes (String.ofList (compact value))]

/-- Hashes of the samples. -/
scoped instance blake3 : Blake3 where
  hash _ := ⟨0⟩
  keyed _ _ := ⟨0⟩

/-- Reads of a line. -/
def sent (line : String) : List (Timed ReadAnswer) :=
  (textBytes line ++ [newline]).map fun byte => ⟨0, .byte byte⟩

/-- The newest event is a torn frame. -/
def tornFirst : List WireEvent → Bool
  | .offered _ frame accepted :: _ => decide (0 < accepted ∧ accepted < frame.length)
  | _ => false

/-- Bytes of some frame were accepted. -/
def writesAny (log : List WireEvent) : Bool :=
  log.any fun event =>
    match event with
    | .offered _ frame accepted => !(frame.take accepted).isEmpty
    | .heard _ => false

private theorem not_framesWhole {newer older : List WireEvent}
    (torn : tornFirst older = true) (writes : writesAny newer = true) :
    ¬ FramesWhole (newer ++ older) := by
  intro law
  unfold tornFirst at torn
  split at torn
  · rename_i purpose frame accepted rest
    obtain ⟨event, member, accepts⟩ := List.any_eq_true.1 writes
    obtain ⟨positive, short⟩ := of_decide_eq_true torn
    cases event with
    | heard line => cases accepts
    | offered purpose' frame' accepted' =>
        have none := law.later newer rest purpose frame accepted rfl positive short purpose'
          frame' accepted' member
        simp [none] at accepts
  · cases torn

/-- The server pings while a thread is being started, and the reply is cut short.  The
thread starts, and the server pings again. -/
def interrupted : Pipes where
  clock := 0
  reads := sent "\x7b\"id\":1,\"result\":\x7b\x7d\x7d" ++
    sent "\x7b\"id\":7,\"method\":\"ping\"\x7d" ++
    sent "\x7b\"id\":2,\"result\":\x7b\"thread\":\x7b\"id\":\"t\"\x7d\x7d\x7d" ++
    sent "\x7b\"id\":7,\"method\":\"ping\"\x7d"
  writes := [⟨0, .accepted 4096⟩, ⟨0, .accepted 4096⟩, ⟨0, .accepted 4096⟩, ⟨0, .accepted 5⟩,
    ⟨0, .failed⟩, ⟨0, .accepted 4096⟩]
  flushes := List.replicate 4 ⟨0, .done⟩
  log := []

/-- The operations of the client. -/
def exchange : List TransportOp :=
  [.handshake, .receive ioDeadline,
    .request .threadStart (attachedThreadParams "/opt/helper" none) none,
    .receive ioDeadline, .receive ioDeadline, .receive ioDeadline]

/-- What passed over the wire in the end. -/
def exchanged : List WireEvent :=
  (Transition.run TransportDesk.step (.start interrupted) exchange).log

private theorem exchanged_reply :
    tornFirst (exchanged.drop 3) = true ∧ writesAny (exchanged.take 3) = true := by
  decide +kernel

/-- The second reply follows the torn first one on the stream. -/
theorem reply_after_torn_frame : ¬ FramesWhole exchanged := by
  rw [← List.take_append_drop 3 exchanged]
  exact not_framesWhole exchanged_reply.1 exchanged_reply.2

/-- The first ping alone is rejected, and the stream ends in the torn reply. -/
theorem torn_reply_last :
    FramesWhole (Transition.run TransportDesk.step (.start interrupted)
      (exchange.take 4)).log := by
  refine TransportDesk.run_framesWhole interrupted (exchange.take 4)
    ⟨id, ?_, id, ?_, trivial⟩
  · exact fun reopens => absurd reopens.1 (by decide +kernel)
  · exact fun reopens => absurd reopens.1 (by decide +kernel)

end Sample
end Transport
end Gearwit
