import Gearwit.Codex.Desk

/-!
# Creating a thread

A creation reports that nothing was accepted only where no byte of its request was, or
where the server's error object for exactly that request was read; it owns a thread only
where the result of exactly that request named it.  What stays unknown keeps the child,
and whatever its last request is answered with later proves as much.
-/

namespace Gearwit
namespace Codex

open Transport

variable {P : Type}

/-! ## Evidence -/

section Evidence

variable [SerdeJson]

/-- The server's error object for a request is among the events. -/
def ErrorRead (events : List WireEvent) (id : Nat) : Prop :=
  ∃ line, .heard line ∈ events ∧ classify line = .ok (.nativeError id)

/-- No byte of a request of one kind was accepted, or its error object was read. -/
def Unaccepted (kind : RequestKind) (events : List WireEvent) : Prop :=
  ∀ id frame accepted, .offered (.request id kind) frame accepted ∈ events →
    accepted = 0 ∨ ErrorRead events id

variable [Blake3]

/-- The result of a request was read, and it means a value. -/
def ResultRead (events : List WireEvent) (id : Nat) (kind : RequestKind)
    (received : Received) : Prop :=
  ∃ line thread, .heard line ∈ events ∧ classify line = .ok (.response id) ∧
    parseResponse line ⟨id, kind, thread⟩ = .ok received

/-- A thread was started by a request of the log, whose result named it. -/
def ThreadNamed (log : List WireEvent) (thread : NativeRef) : Prop :=
  ∃ id, id ∈ idsOf .threadStart log ∧
    ResultRead log id .threadStart (.threadStarted thread)

end Evidence

/-- A thread's reference is sealed as the store sealed it. -/
def SealedThread [Persist P] (persist : P) (birthId : ControllerBirthId)
    (createAttemptId : RequestNonce) (thread : NativeRef) (draws : List PrivateNativeRef)
    (threadRef : PrivateNativeRef) : Prop :=
  ∃ secret, SecretNativeCoordinate.new .thread thread.text = .ok secret ∧
    (Persist.sealNativeCoordinate (.thread birthId createAttemptId) secret draws persist).1 =
      .ok threadRef

/-- A reference that sealing returned is the one the store sealed. -/
theorem sealThread_sealed [Persist P] {persist after : P} {birth : ControllerBirthBinding}
    {createAttemptId : RequestNonce} {thread : NativeRef} {draws : List PrivateNativeRef}
    {threadRef : PrivateNativeRef}
    (done : sealThread persist birth createAttemptId thread draws = (some threadRef, after)) :
    SealedThread persist birth.birthId createAttemptId thread draws threadRef := by
  unfold sealThread at done
  split at done
  · cases done
  · rename_i secret valid
    split at done
    · cases done
    · rename_i stored
      cases done
      exact ⟨secret, valid, by rw [stored]⟩

/-! ## The child of a creation -/

/-- A child that was asked for no turn, with what it sent counted. -/
structure Born (wire : Wire) : Prop where
  numbered : wire.Numbered
  queue : wire.state.notifications.length ≤ wire.state.stdout
  within : wire.state.stdout ≤ maxStdout
  turnless : idsOf .turnStart wire.pipes.log = []

/-- A log with no identifier twice and no turn. -/
structure Turnless (log : List WireEvent) : Prop where
  distinct : ((requests log).map Prod.fst).Nodup
  none : idsOf .turnStart log = []

/-- An empty log starts no turn. -/
theorem Turnless.nil : Turnless [] := ⟨List.nodup_nil, rfl⟩

/-- The log of a newborn wire starts no turn. -/
theorem Born.log {wire : Wire} (born : Born wire) : Turnless wire.pipes.log :=
  ⟨born.numbered.distinct, born.turnless⟩

/-- A wire that moves without a request of its own stays newborn. -/
theorem Born.moves {wire after : Wire} {newer : List WireEvent} (born : Born wire)
    (moves : Wire.Moves wire after newer) : Born after where
  numbered := moves.numbered born.numbered
  queue := by
    have budget := moves.budget
    have queue := born.queue
    omega
  within := moves.within born.within
  turnless := by rw [moves.log, idsOf_unrequested moves.unrequested, born.turnless]

section Creation

variable [SerdeJson]

omit [SerdeJson] in
/-- A wire stays newborn when it requests anything but a turn. -/
theorem Born.requested {wire after : Wire} {kind : RequestKind} {thread : Option NativeRef}
    {outcome : Except Error Unit} (born : Born wire)
    (requested : Wire.Requested wire kind thread outcome after) (other : kind ≠ .turnStart) :
    Born after where
  numbered := requested.numbered born.numbered
  queue := by rw [requested.queue, requested.stdout]; exact born.queue
  within := by rw [requested.stdout]; exact born.within
  turnless := by
    rcases requested.log with log | ⟨id, frame, accepted, log, _⟩
    · rw [log, born.turnless]
    · rw [log, idsOf_other other, born.turnless]

/-- A child that was asked for the handshake only. -/
structure Newborn (wire : Wire) : Prop where
  born : Born wire
  shaking : ∀ request ∈ requests wire.pipes.log, request.2 = .handshake

omit [SerdeJson] in
/-- Before its thread is started a wire made no request but the handshake. -/
theorem Newborn.idsOf {wire : Wire} (newborn : Newborn wire) {kind : RequestKind}
    (other : kind ≠ .handshake) : idsOf kind wire.pipes.log = [] := by
  refine List.eq_nil_iff_forall_not_mem.2 fun id member => other ?_
  exact newborn.shaking _ (mem_idsOf.1 member)

omit [SerdeJson] in
private theorem newborn_of {wire : Wire} (ids : wire.state.nextId = 2)
    (queue : wire.state.notifications = []) (stdout : wire.state.stdout = 0)
    (log : requests wire.pipes.log = [] ∨ requests wire.pipes.log = [(1, .handshake)])
    (pending : wire.state.pending = [] ∨ wire.state.pending = [⟨1, .handshake, none⟩] ∧
      requests wire.pipes.log = [(1, .handshake)]) : Newborn wire where
  born := by
    refine ⟨⟨?_, ?_, ?_, ?_⟩, ?_, ?_, ?_⟩
    · rw [ids]
      rcases log with none | one <;> simp [*]
    · rcases log with none | one <;> simp [*]
    · rcases pending with none | ⟨one, _⟩ <;> simp [*]
    · rcases pending with none | ⟨one, offered⟩ <;> simp [*]
    · simp [queue]
    · simp [stdout]
    · rcases log with none | one <;> simp [Codex.idsOf, *]
  shaking := by rcases log with none | one <;> simp [*]

private theorem beginHandshake_newborn (pipes : Pipes) :
    Newborn ((Wire.fresh pipes).beginHandshake).2 := by
  have sent := Wire.send_effect (Wire.fresh pipes) (.request 1 .handshake) initializeRequest
  obtain ⟨⟨frame, ambiguous, same⟩, _⟩ := sent.keeps
  simp only [Wire.beginHandshake]
  rw [if_neg (by simp [Wire.fresh, TransportState.new]),
    if_neg (by simp [Wire.fresh, TransportState.new, Wire.waiting])]
  rcases outcome : (Wire.fresh pipes).send (.request 1 .handshake) initializeRequest with
    ⟨result, mid⟩
  rw [outcome] at sent same
  replace same : mid.state = { (Wire.fresh pipes).state with frame, ambiguous } := same
  rcases sent.requests with ⟨rfl, log⟩ | ⟨error, rfl, _, log⟩
  · have one : requests mid.pipes.log = [(1, .handshake)] := by
      rw [log]
      rfl
    refine newborn_of ?_ ?_ ?_ (Or.inr one) (Or.inr ⟨?_, one⟩) <;>
      simp only [Wire.await, same] <;> rfl
  · refine newborn_of ?_ ?_ ?_ ?_ (Or.inl ?_)
    · rw [same]
      rfl
    · rw [same]
      rfl
    · rw [same]
      rfl
    · rcases log with none | ⟨accepted, one⟩
      · exact Or.inl (by rw [none]; rfl)
      · exact Or.inr (by rw [one]; rfl)
    · rw [same]
      rfl

/-- Starting a child asks for the handshake only. -/
theorem start_newborn {child : Option Child} {outcome : Except Error CodexTransport}
    {log : List WireEvent} (started : CodexTransport.start child = (outcome, log)) :
    Turnless log ∧ (∀ request ∈ requests log, request.2 = .handshake) ∧
      ∀ transport, outcome = .ok transport →
        Newborn transport.wire ∧ transport.wire.pipes.log = log := by
  cases child with
  | none =>
      cases started
      exact ⟨.nil, nofun, nofun⟩
  | some child =>
      have newborn := beginHandshake_newborn child.pipes
      simp only [CodexTransport.start] at started
      split_ifs at started with alive
      · rcases begun : (Wire.fresh child.pipes).beginHandshake with ⟨error | done, wire⟩
        · rw [begun] at newborn started
          cases started
          exact ⟨newborn.born.log, newborn.shaking, nofun⟩
        · rw [begun] at newborn started
          cases started
          refine ⟨newborn.born.log, newborn.shaking, ?_⟩
          rintro transport same
          cases same
          exact ⟨newborn, rfl⟩
      · cases started
        exact ⟨.nil, nofun, nofun⟩

variable [Blake3]

/-- A creation whose outcome is unknown: one thread was asked for at most, and it is the
outstanding request or the one that was named. -/
structure Quarantine (quarantine : QuarantinedCreate P) : Prop where
  born : Born quarantine.transport.wire
  starts : (idsOf .threadStart quarantine.transport.wire.pipes.log).length ≤ 1
  awaited : ∀ pending ∈ quarantine.transport.wire.state.pending,
    pending.kind = .threadStart ∧ pending.thread = none
  ready : quarantine.transport.wire.state.pending ≠ [] →
    quarantine.transport.wire.state.initialized = true
  named : ∀ thread, quarantine.state = .exactThread thread →
    ThreadNamed quarantine.transport.wire.pipes.log thread ∧
      quarantine.transport.wire.state.pending = [] ∧
      quarantine.transport.wire.state.initialized = true

/-- A controller that has done nothing yet. -/
structure Fresh (controller : CodexController P) : Prop where
  born : Born controller.wire
  idle : controller.wire.state.pending = []
  ready : controller.wire.state.initialized = true
  epoch : controller.epoch = 0
  laneProbe : controller.laneProbe = none
  reconciling : controller.reconciling = none

variable [Persist P]

/-- What a creation reports is proven by the log of its child. -/
def Created (persist : P) (birthId : ControllerBirthId) (createAttemptId : RequestNonce)
    (draws : List PrivateNativeRef) (log : List WireEvent) : CreateReport → Prop
  | .owned threadRef => ∃ thread, ThreadNamed log thread ∧
      SealedThread persist birthId createAttemptId thread draws threadRef
  | .provenNotAccepted => Unaccepted .threadStart log
  | .unknown | .notReserved => True

omit [SerdeJson] [Blake3] [Persist P] in
/-- Nothing is left when the only request is settled. -/
theorem settled_nil {pending : List Pending} (single : pending.length ≤ 1) :
    pending.tail = [] := by
  rw [← List.length_eq_zero_iff, List.length_tail]
  omega

omit [Persist P] in
/-- The handshake is settled when it is answered. -/
private theorem Newborn.shaken {transport after : CodexTransport}
    {received : Except Error Received} (newborn : Newborn transport.wire)
    (taken : transport.receive = (received, after)) :
    Newborn after.wire ∧ (received = .ok .initialized → after.wire.state.pending = []) := by
  obtain ⟨newer, receives⟩ := CodexTransport.receiveUntil_receives taken
  refine ⟨⟨newborn.born.moves receives.moves, ?_⟩, fun answered => ?_⟩
  · rw [receives.moves.log, requests_append, receives.moves.unrequested]
    exact newborn.shaking
  · rcases receives.answered _ answered with ⟨_, ⟨_, other⟩ | other⟩ | ⟨_, settled⟩
    · cases other
    · cases other
    · rw [settled]
      exact settled_nil newborn.born.numbered.single

/-- What the receive of a thread's start proves. -/
private theorem Quarantine.receives {transport after : CodexTransport}
    {newer : List WireEvent} {outcome : Except Error Received} (born : Born transport.wire)
    (starts : (idsOf .threadStart transport.wire.pipes.log).length ≤ 1)
    (awaited : ∀ pending ∈ transport.wire.state.pending,
      pending.kind = .threadStart ∧ pending.thread = none)
    (receives : Wire.Receives transport.wire outcome after.wire newer) :
    (idsOf .threadStart after.wire.pipes.log).length ≤ 1 ∧
      (∀ pending ∈ after.wire.state.pending,
        pending.kind = .threadStart ∧ pending.thread = none) ∧
      (outcome = .error .native → Unaccepted .threadStart after.wire.pipes.log) ∧
      ∀ thread, outcome = .ok (.threadStarted thread) →
        ThreadNamed after.wire.pipes.log thread ∧ after.wire.state.pending = [] := by
  have same : idsOf .threadStart after.wire.pipes.log =
      idsOf .threadStart transport.wire.pipes.log := by
    rw [receives.moves.log, idsOf_unrequested receives.moves.unrequested]
  have offered {pending : Pending}
      (first : transport.wire.state.pending.head? = some pending) :
      pending.kind = .threadStart ∧ pending.thread = none ∧
        pending.id ∈ idsOf .threadStart after.wire.pipes.log := by
    have member := List.mem_of_mem_head? (Option.mem_def.2 first)
    obtain ⟨kind, thread⟩ := awaited pending member
    refine ⟨kind, thread, ?_⟩
    rw [same, mem_idsOf, ← kind]
    exact born.numbered.offered pending member
  refine ⟨by rw [same]; exact starts,
    fun pending member => awaited pending (receives.moves.settled.subset member), ?_, ?_⟩
  · intro native
    obtain ⟨⟨pending, line, first, heard, read⟩, _⟩ := receives.native native
    obtain ⟨_, _, known⟩ := offered first
    intro id frame accepted member
    have also : id ∈ idsOf .threadStart after.wire.pipes.log :=
      mem_idsOf.2 (mem_requests.2 ⟨frame, accepted, member⟩)
    refine Or.inr ⟨line, ?_, ?_⟩
    · rw [receives.moves.log]
      exact List.mem_append_left _ heard
    · rw [read]
      rw [same] at also known
      obtain ⟨only, only_eq⟩ : ∃ only, idsOf .threadStart transport.wire.pipes.log = [only] :=
        List.length_eq_one_iff.1 (Nat.le_antisymm starts (List.length_pos_of_mem known))
      rw [only_eq, List.mem_singleton] at also known
      rw [also, known]
  · intro thread answered
    rcases receives.answered _ answered with
      ⟨_, ⟨_, other⟩ | other⟩ | ⟨⟨pending, line, first, heard, read, parsed, _⟩, settled⟩
    · cases other
    · cases other
    · obtain ⟨kind, _, known⟩ := offered first
      refine ⟨⟨pending.id, known, line, pending.thread, ?_, read, ?_⟩, ?_⟩
      · rw [receives.moves.log]
        exact List.mem_append_left _ heard
      · rw [← kind]
        exact parsed
      · rw [settled]
        exact settled_nil born.numbered.single

omit [SerdeJson] [Blake3] [Persist P] in
/-- A controller made of what a creation left is fresh. -/
private theorem fromOwnedParts_fresh {persist : P} {transport : CodexTransport}
    {birth : ControllerBirthBinding} {createAttemptId : RequestNonce}
    {threadRef : PrivateNativeRef} (born : Born transport.wire)
    (idle : transport.wire.state.pending = [])
    (ready : transport.wire.state.initialized = true) :
    Fresh (CodexController.fromOwnedParts persist transport birth createAttemptId threadRef) :=
  ⟨born, idle, ready, rfl, rfl, rfl⟩

/-- What a creation leaves. -/
def Leaves (persist : P) (birthId : ControllerBirthId) (createAttemptId : RequestNonce)
    (draws : List PrivateNativeRef) (log : List WireEvent) : CodexCreateOutcome P → Prop
  | .owned _ controller => controller.wire.pipes.log = log ∧ Fresh controller ∧
      Created persist birthId createAttemptId draws log (.owned controller.threadRef)
  | .provenNotAccepted _ _ => Unaccepted .threadStart log
  | .unknown _ quarantine => quarantine.transport.wire.pipes.log = log ∧ Quarantine quarantine
  | .notReserved _ _ => True

/-- Creating a thread starts no turn, and leaves the store as its reply says. -/
theorem createOwned_leaves (persist : P) (surroundings : Surroundings)
    (reservation : ControllerBirthReservation) (draws : List PrivateNativeRef) :
    Turnless (CodexController.createOwned persist surroundings reservation draws).2 ∧
      Leaves persist reservation.binding.birthId reservation.createAttemptId draws
        (CodexController.createOwned persist surroundings reservation draws).2
        (CodexController.createOwned persist surroundings reservation draws).1 := by
  have nothing {log : List WireEvent}
      (shaking : ∀ request ∈ requests log, request.2 = .handshake) :
      Unaccepted .threadStart log := by
    intro id frame accepted member
    cases shaking _ (mem_requests.2 ⟨frame, accepted, member⟩)
  unfold CodexController.createOwned
  dsimp only
  split_ifs
  · exact ⟨.nil, trivial⟩
  · exact ⟨.nil, nothing nofun⟩
  rcases started : CodexTransport.start surroundings.child with ⟨error | transport, log⟩
  · obtain ⟨distinct, shaking, _⟩ := start_newborn started
    exact ⟨distinct, nothing shaking⟩
  obtain ⟨_, _, begun⟩ := start_newborn started
  obtain ⟨newborn, rfl⟩ := begun transport rfl
  rcases taken : transport.receive with ⟨received, shaken⟩
  obtain ⟨calm, settled⟩ := newborn.shaken taken
  simp only [taken]
  split_ifs with unshaken
  · exact ⟨calm.born.log, nothing calm.shaking⟩
  have idle := settled (not_not.1 unshaken)
  rcases asked : shaken.startAttachedThread surroundings.helper with ⟨outcome, asking⟩
  have requested := CodexTransport.startAttachedThread_requested asked
  have born := calm.born.requested requested nofun
  have starts : (idsOf .threadStart asking.wire.pipes.log).length ≤ 1 := by
    have before := @Newborn.idsOf _ calm .threadStart nofun
    rcases requested.log with log | ⟨id, frame, accepted, log, _⟩
    · rw [log, before]
      exact Nat.zero_le 1
    · rw [log, idsOf_same, before]
      exact Nat.le_refl 1
  cases outcome with
  | error error =>
      have pending := (requested.failed error rfl).trans idle
      by_cases ambiguous : error = .ambiguous
      · subst ambiguous
        exact ⟨born.log, rfl, born, starts, by rw [pending]; nofun,
          fun some => absurd pending some, nofun⟩
      · have unaccepted : Unaccepted .threadStart asking.wire.pipes.log := by
          rcases requested.log with log | ⟨id, frame, accepted, log, whole⟩
          · rw [log]
            exact nothing calm.shaking
          · rw [log]
            intro id' frame' accepted' member
            rcases List.mem_cons.1 member with same | older
            · cases same
              exact Or.inl (whole error rfl ambiguous)
            · exact absurd (calm.shaking _ (mem_requests.2 ⟨_, _, older⟩)) nofun
        cases error <;> first
          | exact absurd rfl ambiguous
          | exact ⟨born.log, unaccepted⟩
  | ok done =>
      obtain ⟨ready, _, id, frame, pending, _⟩ := requested.sent rfl
      have awaited : ∀ pending ∈ asking.wire.state.pending,
          pending.kind = .threadStart ∧ pending.thread = none := by
        rw [pending]
        intro one member
        obtain rfl := List.mem_singleton.1 member
        exact ⟨rfl, rfl⟩
      rcases answer : asking.receive with ⟨result, last⟩
      obtain ⟨latest, answers⟩ := CodexTransport.receiveUntil_receives answer
      obtain ⟨starts', awaited', refused, named⟩ :=
        Quarantine.receives born starts awaited answers
      have born' := born.moves answers.moves
      have ready' : last.wire.state.initialized = true :=
        answers.moves.ready (requested.ready.trans ready)
      simp only
      refine ⟨born'.log, ?_⟩
      split
      · rename_i thread
        obtain ⟨known, none⟩ := named thread rfl
        split
        · refine ⟨rfl, born', starts', awaited', fun _ => ready', fun other same => ?_⟩
          cases same
          exact ⟨known, none, ready'⟩
        · rename_i sealed
          exact ⟨rfl, fromOwnedParts_fresh born' none ready', thread, known,
            sealThread_sealed sealed⟩
      · exact refused rfl
      · exact ⟨rfl, born', starts', awaited', fun _ => ready', nofun⟩

/-- What asking a quarantined creation again leaves. -/
def LeavesLate (quarantine : QuarantinedCreate P) (draws : List PrivateNativeRef)
    (log : List WireEvent) : LateCreateOutcome P → Prop
  | .owned _ controller => controller.wire.pipes.log = log ∧ Fresh controller ∧
      Created quarantine.persist quarantine.birth.birthId quarantine.createAttemptId draws log
        (.owned controller.threadRef)
  | .provenNotAccepted _ _ => Unaccepted .threadStart log
  | .stillUnknown _ after => after.transport.wire.pipes.log = log ∧ Quarantine after

/-- Owning a quarantined thread seals its reference, or keeps the thread. -/
private theorem own_leaves {quarantine : QuarantinedCreate P}
    (reservation : QuarantinedBirthReservation) {thread : NativeRef}
    (draws : List PrivateNativeRef) (born : Born quarantine.transport.wire)
    (starts : (idsOf .threadStart quarantine.transport.wire.pipes.log).length ≤ 1)
    (known : ThreadNamed quarantine.transport.wire.pipes.log thread)
    (idle : quarantine.transport.wire.state.pending = [])
    (ready : quarantine.transport.wire.state.initialized = true) :
    LeavesLate quarantine draws quarantine.transport.wire.pipes.log
      (quarantine.own reservation thread draws) := by
  unfold QuarantinedCreate.own
  split
  · refine ⟨rfl, born, starts, by rw [idle]; nofun, fun _ => ready, fun other same => ?_⟩
    cases same
    exact ⟨known, idle, ready⟩
  · rename_i sealed
    exact ⟨rfl, fromOwnedParts_fresh born idle ready, thread, known, sealThread_sealed sealed⟩

/-- A late response starts no turn, and leaves the store as its reply says. -/
theorem receiveLate_leaves {quarantine : QuarantinedCreate P} (kept : Quarantine quarantine)
    (reservation : QuarantinedBirthReservation) (draws : List PrivateNativeRef) :
    Turnless (quarantine.receiveLate reservation draws).2 ∧
      LeavesLate quarantine draws (quarantine.receiveLate reservation draws).2
        (quarantine.receiveLate reservation draws).1 := by
  unfold QuarantinedCreate.receiveLate
  split_ifs
  · exact ⟨kept.born.log, rfl, kept⟩
  cases state : quarantine.state with
  | exactThread thread =>
      obtain ⟨known, idle, ready⟩ := kept.named thread state
      exact ⟨kept.born.log,
        @own_leaves P _ _ _ { quarantine with state := .pending } reservation thread draws
          kept.born kept.starts known idle ready⟩
  | pending =>
      rcases taken : quarantine.transport.receive with ⟨received, transport⟩
      obtain ⟨newer, receives⟩ := CodexTransport.receiveUntil_receives taken
      obtain ⟨starts, awaited, refused, named⟩ :=
        Quarantine.receives kept.born kept.starts kept.awaited receives
      have born := kept.born.moves receives.moves
      have ready (some : quarantine.transport.wire.state.pending ≠ []) :
          transport.wire.state.initialized = true := receives.moves.ready (kept.ready some)
      simp only
      refine ⟨born.log, ?_⟩
      split
      · rename_i thread
        obtain ⟨known, idle⟩ := named thread rfl
        refine @own_leaves P _ _ _ { quarantine with transport } reservation thread draws born
          starts known idle (ready ?_)
        rcases receives.answered _ rfl with
          ⟨_, ⟨_, other⟩ | other⟩ | ⟨⟨pending, line, first, _⟩, _⟩
        · cases other
        · cases other
        · intro empty
          rw [empty] at first
          cases first
      · exact refused rfl
      · refine ⟨rfl, born, starts, awaited, fun some => ready fun empty => some ?_, ?_⟩
        · have settled := receives.moves.settled
          rw [empty] at settled
          exact List.suffix_nil.1 settled
        · intro thread same
          cases same

/-- A resumed controller is fresh. -/
theorem resumeOwned_fresh {persist : P} {surroundings : Surroundings}
    {birth : ControllerBirthBinding} {createAttemptId : RequestNonce}
    {threadRef : PrivateNativeRef} {controller : CodexController P}
    (resumed : CodexController.resumeOwned persist surroundings birth createAttemptId threadRef =
      .ok controller) : Fresh controller := by
  unfold CodexController.resumeOwned at resumed
  split at resumed
  · cases resumed
  split_ifs at resumed
  split at resumed
  · cases resumed
  rename_i transport log started
  split at resumed
  · cases resumed
  rename_i received shaken taken
  obtain ⟨_, _, begun⟩ := start_newborn started
  obtain ⟨calm, settled⟩ := (begun transport rfl).1.shaken taken
  split_ifs at resumed with unshaken
  dsimp only at resumed
  split at resumed
  · cases resumed
  split at resumed
  · cases resumed
  rename_i asking asked
  have requested := CodexTransport.resumeThread_requested asked
  obtain ⟨ready, _, id, frame, pending, _⟩ := requested.sent rfl
  have born := calm.born.requested requested nofun
  split at resumed
  · rename_i state last answer
    obtain ⟨newer, receives⟩ := CodexTransport.receiveUntil_receives answer
    cases resumed
    refine ⟨born.moves receives.moves, ?_, receives.moves.ready (requested.ready.trans ready),
      rfl, rfl, rfl⟩
    rcases receives.answered _ rfl with ⟨_, ⟨_, other⟩ | other⟩ | ⟨_, settled⟩
    · cases other
    · cases other
    · exact settled.trans (settled_nil born.numbered.single)
  · cases resumed
  · cases resumed

end Creation
end Codex
end Gearwit
