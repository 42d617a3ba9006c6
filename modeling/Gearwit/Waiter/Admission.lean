import Gearwit.Foundations.BTreeMap
import Gearwit.Waiter.Messages

/-!
# Admission of waiter links

The link table holds at most one live link and the outcome of every attach
request met so far.  An attach is decided against the table, its reply is
written, and only then is the decision committed.
-/

namespace Gearwit
namespace Waiter

/-- Maximum distinct request outcomes retained. -/
def historyCap : Nat := 1024

/-- Arm the daemon currently covers. -/
structure KnownArm where
  armId : String
  generation : Nat
  seatId : String
  route : String
  coverageUntil : OffsetDateTime
  deriving DecidableEq

/-- Currently admitted waiter link. -/
structure AdmittedLink where
  requestId : String
  linkId : String
  armId : String
  generation : Nat
  waiterId : String
  leaseUntil : OffsetDateTime
  route : String
  request : WaiterLink
  lastAccepted : WaiterLink
  deriving DecidableEq

/-- Token that may revoke only the link it admitted. -/
structure LinkSession where
  linkId : String
  armId : String
  generation : Nat
  deriving DecidableEq

/-- The session token of a link. -/
def AdmittedLink.session (link : AdmittedLink) : LinkSession :=
  ⟨link.linkId, link.armId, link.generation⟩

/-- The session still owns the link. -/
def LinkSession.owns (session : LinkSession) (link : AdmittedLink) : Bool :=
  link.linkId == session.linkId && link.armId == session.armId &&
    link.generation == session.generation

/-- Owning a link is being its session token. -/
@[simp] theorem LinkSession.owns_iff (session : LinkSession) (link : AdmittedLink) :
    session.owns link = true ↔ link.session = session := by
  cases session
  simp [LinkSession.owns, AdmittedLink.session, and_assoc]

/-- Request and reply of one attach. -/
structure RequestRecord where
  request : WaiterLink
  reply : WaiterLink
  deriving DecidableEq

/-- At most one live link, plus durable request outcomes. -/
structure LinkTable where
  current : Option AdmittedLink
  history : BTreeMap String RequestRecord

namespace LinkTable

/-- The table of a fresh daemon. -/
def empty : LinkTable := ⟨none, ∅⟩

/-- Drop the link. -/
def dropCurrent (table : LinkTable) : LinkTable := { table with current := none }

/-- Revoke the session only when it still owns the live link. -/
def dropSession (table : LinkTable) (session : LinkSession) : LinkTable :=
  if table.current.any session.owns then { table with current := none } else table

/-- Drop a live link whose lease has elapsed. -/
def dropExpired (table : LinkTable) (now : OffsetDateTime) : LinkTable :=
  if table.current.any fun current => decide (current.leaseUntil ≤ now) then
    { table with current := none }
  else table

/-- Dropping a session keeps the current link or ends it. -/
theorem current_dropSession (table : LinkTable) (session : LinkSession) :
    (table.dropSession session).current = table.current ∨
      (table.dropSession session).current = none := by
  unfold dropSession
  split
  · exact Or.inr rfl
  · exact Or.inl rfl

/-- Dropping what expired keeps the current link or ends it. -/
theorem current_dropExpired (table : LinkTable) (now : OffsetDateTime) :
    (table.dropExpired now).current = table.current ∨
      (table.dropExpired now).current = none := by
  unfold dropExpired
  split
  · exact Or.inr rfl
  · exact Or.inl rfl

end LinkTable

/-- Decision about one attach. -/
inductive AttachDecision
  | accept (link : AdmittedLink) (reply : WaiterLink)
  | replay (reply : WaiterLink) (session : Option LinkSession)
  | reject (request reply : WaiterLink)

/-- Remember an accepted request and install its link. -/
def commitAttach (table : LinkTable) (link : AdmittedLink) : LinkTable :=
  { current := some link
    history := table.history.insert link.requestId ⟨link.request, link.lastAccepted⟩ }

/-- Remember a rejected request. -/
def commitReject (table : LinkTable) (request reply : WaiterLink) : LinkTable :=
  match request with
  | .attachWaiter message =>
      { table with history := table.history.insert message.requestId ⟨request, reply⟩ }
  | _ => table

@[simp] theorem current_commitReject (table : LinkTable) (request reply : WaiterLink) :
    (commitReject table request reply).current = table.current := by
  cases request <;> rfl

variable [Rfc3339]

/-- RFC 3339 text of an instant, or its display where that cannot be written. -/
def formatTime (instant : OffsetDateTime) : String :=
  (Rfc3339.format instant).getD (Rfc3339.display instant)

/-- Validated rejection. -/
def rejectMessage (requestId code : String) (now : OffsetDateTime) :
    Except WaiterLinkError WaiterLink :=
  let rejected := WaiterLink.attachRejected ⟨schemaId, requestId, code, formatTime now⟩
  match validate rejected with
  | .error error => .error error
  | .ok () => .ok rejected

/-- A rejection of `request`, once its message validates. -/
def rejectAttach (request : WaiterLink) (requestId code : String) (now : OffsetDateTime) :
    Except WaiterLinkError AttachDecision :=
  match rejectMessage requestId code now with
  | .error error => .error error
  | .ok reply => .ok (.reject request reply)

/-- Lease of an admitted link, in nanoseconds: ten minutes. -/
def leaseNanos : Nat := 600 * 1000000000

/-- The link a first accepted request is given. -/
def admittedLink (request : AttachWaiter) (arm : KnownArm) (now : OffsetDateTime)
    (freshId : String) : AdmittedLink :=
  let leaseUntil := (now.addNanos leaseNanos).min arm.coverageUntil
  { requestId := request.requestId
    linkId := freshId
    armId := request.armId
    generation := request.generation
    waiterId := request.waiterId
    leaseUntil
    route := request.route
    request := .attachWaiter request
    lastAccepted := .attachAccepted {
      schema := schemaId
      requestId := request.requestId
      linkId := freshId
      armId := request.armId
      generation := request.generation
      route := request.route
      acceptedAt := formatTime now
      leaseUntil := formatTime leaseUntil } }

/-- Decide an attach; `freshId` is the identifier minted for an accepted link. -/
def decideAttach (table : LinkTable) (request : WaiterLink) (now : OffsetDateTime)
    (arms : List KnownArm) (freshId : String) :
    Except WaiterLinkError AttachDecision :=
  match validate request with
  | .error error => .error error
  | .ok () =>
  match request with
  | .attachWaiter message =>
      match table.history[message.requestId]? with
      | some record =>
          if record.request ≠ request then .error (.semantic "request_id conflict")
          else
            .ok (.replay record.reply (table.current.bind fun current =>
              if current.requestId = message.requestId ∧ now < current.leaseUntil then
                some current.session
              else none))
      | none =>
          if historyCap ≤ table.history.size then
            .error (.semantic "request history full")
          else
            match arms.find? fun arm => arm.armId == message.armId with
            | none => rejectAttach request message.requestId "unknown_arm" now
            | some arm =>
                if arm.generation ≠ message.generation then
                  rejectAttach request message.requestId "stale_generation" now
                else if arm.seatId ≠ message.seatId ∨ arm.route ≠ message.route then
                  rejectAttach request message.requestId "route_mismatch" now
                else if arm.coverageUntil ≤ now then
                  rejectAttach request message.requestId "coverage_ended" now
                else if table.current.isSome then
                  rejectAttach request message.requestId "already_attached" now
                else
                  let link := admittedLink message arm now freshId
                  match validate link.lastAccepted with
                  | .error error => .error error
                  | .ok () => .ok (.accept link link.lastAccepted)
  | _ => .error (.semantic "expected attach_waiter")

private theorem eq_of_reject {request : WaiterLink} {requestId code : String}
    {now : OffsetDateTime} {decision : AttachDecision}
    (decided : rejectAttach request requestId code now = .ok decision) :
    ∃ reply, decision = .reject request reply := by
  unfold rejectAttach at decided
  split at decided
  · cases decided
  · cases decided
    exact ⟨_, rfl⟩

/-- What a decision can be: the replay of a remembered request, whose session is the
token of the live link of that request; the rejection of a new request; or the
admission of a new request, under a known arm and with the minted identifier, when no
link is live. -/
inductive AttachOutcome (table : LinkTable) (request : WaiterLink) (now : OffsetDateTime)
    (arms : List KnownArm) (freshId : String) : AttachDecision → Prop
  | replayed {message : AttachWaiter} {record : RequestRecord} {session : Option LinkSession}
      (named : request = .attachWaiter message)
      (remembered : table.history[message.requestId]? = some record)
      (same : record.request = request)
      (owner : ∀ token, session = some token → ∃ current, table.current = some current ∧
        current.session = token ∧ current.requestId = message.requestId) :
      AttachOutcome table request now arms freshId (.replay record.reply session)
  | rejected {message : AttachWaiter} {reply : WaiterLink}
      (named : request = .attachWaiter message) (valid : validate request = .ok ())
      (unknown : table.history[message.requestId]? = none) :
      AttachOutcome table request now arms freshId (.reject request reply)
  | accepted {message : AttachWaiter} {arm : KnownArm}
      (named : request = .attachWaiter message) (valid : validate request = .ok ())
      (unknown : table.history[message.requestId]? = none) (member : arm ∈ arms)
      (armId : arm.armId = message.armId) (generation : arm.generation = message.generation)
      (route : arm.route = message.route) (vacant : table.current = none)
      (answers : validate (admittedLink message arm now freshId).lastAccepted = .ok ()) :
      AttachOutcome table request now arms freshId
        (.accept (admittedLink message arm now freshId)
          (admittedLink message arm now freshId).lastAccepted)

/-- A decision is one of these outcomes. -/
theorem decideAttach_outcome {table : LinkTable} {request : WaiterLink}
    {now : OffsetDateTime} {arms : List KnownArm} {freshId : String}
    {decision : AttachDecision}
    (decided : decideAttach table request now arms freshId = .ok decision) :
    AttachOutcome table request now arms freshId decision := by
  unfold decideAttach at decided
  cases valid : validate request with
  | error error => simp [valid] at decided
  | ok value =>
      simp only [valid] at decided
      cases request with
      | attachWaiter message =>
          simp only at decided
          cases remembered : table.history[message.requestId]? with
          | some record =>
              simp only [remembered] at decided
              split_ifs at decided with different
              cases decided
              refine .replayed rfl remembered (by simpa using different) ?_
              intro token found
              obtain ⟨current, present, chosen⟩ := Option.bind_eq_some_iff.1 found
              split_ifs at chosen with owned
              exact ⟨current, present, Option.some.inj chosen, owned.1⟩
          | none =>
              have refused {code : String} {decision : AttachDecision}
                  (decided : rejectAttach (.attachWaiter message) message.requestId code now =
                    .ok decision) :
                  AttachOutcome table (.attachWaiter message) now arms freshId decision := by
                obtain ⟨reply, rfl⟩ := eq_of_reject decided
                exact .rejected rfl valid remembered
              simp only [remembered] at decided
              by_cases full : historyCap ≤ table.history.size
              · rw [if_pos full] at decided
                cases decided
              rw [if_neg full] at decided
              cases known : arms.find? fun arm => arm.armId == message.armId with
              | none =>
                  simp only [known] at decided
                  exact refused decided
              | some arm =>
                  simp only [known] at decided
                  have member := List.mem_of_find?_eq_some known
                  have named := List.find?_some known
                  simp only [beq_iff_eq] at named
                  split_ifs at decided with generation route ended live
                  · exact refused decided
                  · exact refused decided
                  · exact refused decided
                  · exact refused decided
                  · cases accepted : validate (admittedLink message arm now freshId).lastAccepted with
                    | error error => simp [accepted] at decided
                    | ok value =>
                        simp only [accepted, Except.ok.injEq] at decided
                        subst decided
                        push Not at generation route
                        exact .accepted rfl valid remembered member named generation route.2
                          (by simpa using live) accepted
      | attachAccepted message => cases decided
      | attachRejected message => cases decided
      | deliverEvents message => cases decided
      | deliveryResult message => cases decided

/-- What a decision can be: a replay of a remembered request, whose session is the
live link's token; a rejection; or the admission of a link with the minted
identifier under a known arm, when no link is live. -/
theorem decideAttach_cases {table : LinkTable} {request : WaiterLink}
    {now : OffsetDateTime} {arms : List KnownArm} {freshId : String}
    {decision : AttachDecision}
    (decided : decideAttach table request now arms freshId = .ok decision) :
    (∃ reply session, decision = .replay reply session ∧
      ∀ token, session = some token →
        ∃ current, table.current = some current ∧ current.session = token) ∨
    (∃ reply, decision = .reject request reply) ∨
    (∃ message arm, request = .attachWaiter message ∧ arm ∈ arms ∧
      arm.armId = message.armId ∧ arm.generation = message.generation ∧
      arm.route = message.route ∧ table.current = none ∧
      validate request = .ok () ∧
      validate (admittedLink message arm now freshId).lastAccepted = .ok () ∧
      decision = .accept (admittedLink message arm now freshId)
        (admittedLink message arm now freshId).lastAccepted) := by
  cases decideAttach_outcome decided with
  | replayed named remembered same owner =>
      refine Or.inl ⟨_, _, rfl, fun token issued => ?_⟩
      obtain ⟨current, present, owned, _⟩ := owner token issued
      exact ⟨current, present, owned⟩
  | rejected => exact Or.inr (Or.inl ⟨_, rfl⟩)
  | accepted named valid unknown member armId generation route vacant answers =>
      exact Or.inr (Or.inr ⟨_, _, named, member, armId, generation, route, vacant, valid,
        answers, rfl⟩)

/-- Admit or reject an attach and remember the outcome at once. -/
def admitAttach (table : LinkTable) (request : WaiterLink) (now : OffsetDateTime)
    (arms : List KnownArm) (freshId : String) :
    Except WaiterLinkError WaiterLink × LinkTable :=
  let table := table.dropExpired now
  match decideAttach table request now arms freshId with
  | .error error => (.error error, table)
  | .ok (.accept link reply) => (.ok reply, commitAttach table link)
  | .ok (.replay reply _) => (.ok reply, table)
  | .ok (.reject request reply) => (.ok reply, commitReject table request reply)

/-! ## Preparing and committing -/

/-- What remains to be done once the reply is written. -/
inductive PendingCommit
  | accept (link : AdmittedLink)
  | reject (request reply : WaiterLink)
  | replay

/-- Admission decision ready to write. -/
structure PreparedAttach where
  reply : WaiterLink
  session : Option LinkSession
  leaseUntil : Option OffsetDateTime
  pending : PendingCommit
  decisionNow : OffsetDateTime

/-- Outcome of one attach exchange; the connection carries both the reader and
the writer of the session. -/
structure ServeAttach where
  reply : WaiterLink
  session : Option LinkSession
  connection : Nat

/-- Decide an attach using only the table.  An elapsed link is dropped even when
the request is refused. -/
def prepareAttach (table : LinkTable) (request : WaiterLink) (now : OffsetDateTime)
    (elapsed : Nat) (arms : List KnownArm) (freshId : String) :
    Except WaiterLinkError PreparedAttach × LinkTable :=
  let decisionNow := now.addNanos elapsed
  let table := table.dropExpired decisionNow
  match decideAttach table request decisionNow arms freshId with
  | .error error => (.error error, table)
  | .ok (.accept link reply) =>
      (.ok ⟨reply, some link.session, some link.leaseUntil, .accept link, decisionNow⟩, table)
  | .ok (.replay reply session) =>
      (.ok ⟨reply, session, table.current.map AdmittedLink.leaseUntil, .replay, decisionNow⟩,
        table)
  | .ok (.reject request reply) =>
      (.ok ⟨reply, none, none, .reject request reply, decisionNow⟩, table)

omit [Rfc3339] in
/-- Commit a prepared attach after a successful write; a newer live generation
wins over it. -/
def commitPreparedAttach (table : LinkTable) (prepared : PreparedAttach)
    (connection : Nat) (writeOk : Bool) : Option ServeAttach × LinkTable :=
  if !writeOk then (none, table)
  else
    match prepared.pending with
    | .accept link =>
        if table.current.any fun current => decide (link.generation < current.generation) then
          (none, table)
        else
          (some ⟨prepared.reply, prepared.session, connection⟩, commitAttach table link)
    | .reject request reply =>
        (some ⟨prepared.reply, prepared.session, connection⟩, commitReject table request reply)
    | .replay => (some ⟨prepared.reply, prepared.session, connection⟩, table)

end Waiter
end Gearwit
