import Gearwit.Waiter.Loop

/-!
# Runs of the link table

One accept thread decides attach requests one after another, each at once or with a
reply written between the decision and its commit; the main loop drops links at any
point in between.  In every run a request identifier is answered once and for all,
has at most one live link, and a token drops only the link it was issued for.
-/

namespace Gearwit
namespace Waiter

/-- A link that was accepted, with the time and the arms it was decided by. -/
structure AcceptedLink where
  link : AdmittedLink
  decidedAt : OffsetDateTime
  arms : List KnownArm

/-- The lease of an accepted link ends at most ten minutes after its decision and by
the end of coverage of the arm it was admitted under. -/
def AcceptedLink.Leased (accepted : AcceptedLink) : Prop :=
  ∃ arm ∈ accepted.arms, arm.armId = accepted.link.armId ∧
    arm.generation = accepted.link.generation ∧
    accepted.link.leaseUntil ≤ accepted.decidedAt.addNanos leaseNanos ∧
    accepted.link.leaseUntil ≤ arm.coverageUntil

/-- The link table, the attach between its decision and its commit, and the links
accepted so far. -/
structure LinkDesk where
  table : LinkTable
  waiting : Option PreparedAttach
  minted : Nat
  accepted : List AcceptedLink

/-- What the accept thread and the main loop do to the table. -/
inductive LinkMove
  | admitAttach (request : WaiterLink) (now : OffsetDateTime) (arms : List KnownArm)
  | prepare (request : WaiterLink) (now : OffsetDateTime) (elapsed : Nat)
      (arms : List KnownArm)
  | commit (writeOk : Bool)
  | dropSession (session : LinkSession)
  | dropExpired (now : OffsetDateTime)
  | dropCurrent

/-- The request a move decides, with its decision time and its arms. -/
def LinkMove.decides : LinkMove → Option (WaiterLink × OffsetDateTime × List KnownArm)
  | .admitAttach request now arms => some (request, now, arms)
  | .prepare request now elapsed arms => some (request, now.addNanos elapsed, arms)
  | _ => none

namespace LinkDesk

/-- A desk without links and without history. -/
def fresh : LinkDesk := ⟨.empty, none, 0, []⟩

/-- The live link. -/
def live (desk : LinkDesk) : Option AdmittedLink := desk.table.current

variable [Rfc3339] [UlidSupply]

/-- The link a decision accepts. -/
def newlyAccepted (desk : LinkDesk) (request : WaiterLink) (time : OffsetDateTime)
    (arms : List KnownArm) : List AcceptedLink :=
  match decideAttach (desk.table.dropExpired time) request time arms
      (UlidSupply.text desk.minted) with
  | .ok (.accept link _) => [⟨link, time, arms⟩]
  | _ => []

/-- Perform one move; a request waits until the one before it is committed. -/
def step (desk : LinkDesk) : LinkMove → LinkDesk
  | .admitAttach request now arms =>
      match desk.waiting with
      | some _ => desk
      | none =>
          { table := (admitAttach desk.table request now arms (UlidSupply.text desk.minted)).2
            waiting := none
            minted := desk.minted + 1
            accepted := desk.newlyAccepted request now arms ++ desk.accepted }
  | .prepare request now elapsed arms =>
      match desk.waiting with
      | some _ => desk
      | none =>
          let (outcome, table) := prepareAttach desk.table request now elapsed arms
            (UlidSupply.text desk.minted)
          { table
            waiting := outcome.toOption
            minted := desk.minted + 1
            accepted := desk.newlyAccepted request (now.addNanos elapsed) arms ++ desk.accepted }
  | .commit writeOk =>
      match desk.waiting with
      | none => desk
      | some prepared =>
          { desk with
            table := (commitPreparedAttach desk.table prepared 0 writeOk).2
            waiting := none }
  | .dropSession session => { desk with table := desk.table.dropSession session }
  | .dropExpired now => { desk with table := desk.table.dropExpired now }
  | .dropCurrent => { desk with table := desk.table.dropCurrent }

/-- The reply a deciding move gives; none while another request waits. -/
def answer (desk : LinkDesk) (move : LinkMove) : Option (Except WaiterLinkError WaiterLink) :=
  match desk.waiting, move with
  | none, .admitAttach request now arms =>
      some (admitAttach desk.table request now arms (UlidSupply.text desk.minted)).1
  | none, .prepare request now elapsed arms =>
      some ((prepareAttach desk.table request now elapsed arms
        (UlidSupply.text desk.minted)).1.map PreparedAttach.reply)
  | _, _ => none

/-! ## The law -/

/-- The reply was given to the requester by the move, or by the preparation that the
move commits. -/
def Given (desk : LinkDesk) (move : LinkMove) (reply : WaiterLink) : Prop :=
  desk.answer move = some (.ok reply) ∨
    ∃ prepared, move = .commit true ∧ desk.waiting = some prepared ∧ prepared.reply = reply

/-- What one move promises.  A remembered request is answered as before and a changed
one is refused, and neither changes the table except for dropping an elapsed link; a
new entry of the history is the reply that was given; nothing remembered changes; a
live link is replaced only after it elapsed, and never by a commit; a token is the
token of an accepted link of its request; and a token drops the one link it was issued
for. -/
structure Lawful (desk : LinkDesk) (move : LinkMove) : Prop where
  replayed : ∀ message time arms record, desk.waiting = none →
    move.decides = some (.attachWaiter message, time, arms) →
    desk.table.history[message.requestId]? = some record →
      (record.request = .attachWaiter message → desk.answer move = some (.ok record.reply)) ∧
      (record.request ≠ .attachWaiter message →
        ∃ error, desk.answer move = some (.error error)) ∧
      (desk.step move).table = desk.table.dropExpired time ∧
      ∀ prepared, (desk.step move).waiting = some prepared → ∀ table writeOk,
        (commitPreparedAttach table prepared 0 writeOk).2 = table
  given : ∀ (key : String) record, desk.table.history[key]? = none →
    (desk.step move).table.history[key]? = some record → desk.Given move record.reply
  kept : ∀ (key : String) record, desk.table.history[key]? = some record →
    (desk.step move).table.history[key]? = some record
  replaced : ∀ link next, desk.live = some link → (desk.step move).live = some next →
    next = link ∨ ∃ request now arms, move = .admitAttach request now arms ∧ link.leaseUntil ≤ now
  uncommitted : ∀ writeOk link, move = .commit writeOk → desk.live = some link →
    (desk.step move).live = some link
  issued : ∀ prepared session, desk.waiting = none → (desk.step move).waiting = some prepared →
    prepared.session = some session →
      ∃ message time arms accepted, move.decides = some (.attachWaiter message, time, arms) ∧
        accepted ∈ (desk.step move).accepted ∧ accepted.link.session = session ∧
        accepted.link.requestId = message.requestId
  token : ∀ session link, move = .dropSession session → desk.live = some link →
    (desk.step move).live ≠ some link →
      link.session = session ∧
        ∀ accepted ∈ desk.accepted, accepted.link.session = session → accepted.link = link

/-- The law of every run: every move is lawful, every live link was accepted and every
accepted link is leased, a request identifier has one live link ever, and once it is
gone none is live for that identifier again. -/
structure RunLaw (start : LinkDesk) (moves : List LinkMove) : Prop where
  lawful : Transition.Along step Lawful start moves
  leased : ∀ accepted ∈ (Transition.run step start moves).accepted, accepted.Leased
  admitted : ∀ link, (Transition.run step start moves).live = some link →
    ∃ accepted ∈ (Transition.run step start moves).accepted, accepted.link = link
  single : ∀ first second rest link later, moves = first ++ second ++ rest →
    (Transition.run step start first).live = some link →
    (Transition.run step start (first ++ second)).live = some later →
    later.requestId = link.requestId → later = link
  gone : ∀ first second third rest link later, moves = first ++ second ++ third ++ rest →
    (Transition.run step start first).live = some link →
    (Transition.run step start (first ++ second)).live ≠ some link →
    (Transition.run step start (first ++ second ++ third)).live = some later →
    later.requestId ≠ link.requestId

/-! ## What the table remembers -/

omit [Rfc3339] [UlidSupply] in
@[simp] theorem history_dropSession (table : LinkTable) (session : LinkSession) :
    (table.dropSession session).history = table.history := by
  unfold LinkTable.dropSession
  split <;> rfl

omit [Rfc3339] [UlidSupply] in
@[simp] theorem history_dropExpired (table : LinkTable) (now : OffsetDateTime) :
    (table.dropExpired now).history = table.history := by
  unfold LinkTable.dropExpired
  split <;> rfl

/-- What the table and the accepted links keep: accepted links carry different minted
identifiers and are leased, the live link was accepted and its request remembered, and
the history lists valid requests under their identifiers. -/
structure Registered (table : LinkTable) (minted : Nat) (accepted : List AcceptedLink) :
    Prop where
  numbered : ∀ entry ∈ accepted, ∃ number < minted,
    UlidSupply.text number = entry.link.linkId
  distinct : (accepted.map fun entry => entry.link.linkId).Nodup
  leased : ∀ entry ∈ accepted, entry.Leased
  known : ∀ link, table.current = some link → ∃ entry ∈ accepted, entry.link = link
  remembered : ∀ link, table.current = some link →
    ∃ record, table.history[link.requestId]? = some record
  recorded : ∀ (key : String) record, table.history[key]? = some record →
    ∃ message, record.request = .attachWaiter message ∧ message.requestId = key ∧
      validate record.request = .ok ()

/-- Dropping the live link keeps the register. -/
theorem Registered.dropped {before after : LinkTable} {minted : Nat}
    {accepted : List AcceptedLink} (registered : Registered before minted accepted)
    (history : after.history = before.history)
    (current : after.current = before.current ∨ after.current = none) :
    Registered after minted accepted := by
  have live : ∀ link, after.current = some link → before.current = some link := by
    intro link present
    rcases current with same | dropped
    · rw [← same, present]
    · rw [dropped] at present
      cases present
  exact {
    numbered := registered.numbered
    distinct := registered.distinct
    leased := registered.leased
    known := fun link present => registered.known link (live link present)
    remembered := fun link present => by
      rw [history]
      exact registered.remembered link (live link present)
    recorded := fun key record stored => registered.recorded key record (history ▸ stored) }

/-- An identifier can be minted without being used. -/
theorem Registered.unused {table : LinkTable} {minted : Nat} {accepted : List AcceptedLink}
    (registered : Registered table minted accepted) :
    Registered table (minted + 1) accepted where
  numbered entry member := by
    obtain ⟨number, below, named⟩ := registered.numbered entry member
    exact ⟨number, by omega, named⟩
  distinct := registered.distinct
  leased := registered.leased
  known := registered.known
  remembered := registered.remembered
  recorded := registered.recorded

/-- A link with the next identifier is accepted. -/
theorem Registered.accepting {table : LinkTable} {minted : Nat}
    {accepted : List AcceptedLink} (registered : Registered table minted accepted)
    {entry : AcceptedLink} (named : entry.link.linkId = UlidSupply.text minted)
    (leased : entry.Leased) : Registered table (minted + 1) (entry :: accepted) where
  numbered other member := by
    rcases List.mem_cons.1 member with rfl | earlier
    · exact ⟨minted, by omega, named.symm⟩
    · obtain ⟨number, below, same⟩ := registered.numbered other earlier
      exact ⟨number, by omega, same⟩
  distinct := by
    rw [List.map_cons, List.nodup_cons]
    refine ⟨fun repeated => ?_, registered.distinct⟩
    obtain ⟨other, member, same⟩ := List.mem_map.1 repeated
    obtain ⟨number, below, taken⟩ := registered.numbered other member
    have equal := UlidSupply.injective (taken.trans (same.trans named))
    omega
  leased other member := by
    rcases List.mem_cons.1 member with rfl | earlier
    · exact leased
    · exact registered.leased other earlier
  known link present := by
    obtain ⟨other, member, same⟩ := registered.known link present
    exact ⟨other, List.mem_cons_of_mem _ member, same⟩
  remembered := registered.remembered
  recorded := registered.recorded

omit [UlidSupply] in
private theorem recorded_insert {history : BTreeMap String RequestRecord}
    (recorded : ∀ (key : String) record, history[key]? = some record →
      ∃ message, record.request = .attachWaiter message ∧ message.requestId = key ∧
        validate record.request = .ok ())
    {message : AttachWaiter} (valid : validate (.attachWaiter message) = .ok ())
    (reply : WaiterLink) (key : String) (record : RequestRecord)
    (stored : (history.insert message.requestId ⟨.attachWaiter message, reply⟩)[key]? =
      some record) :
    ∃ message, record.request = .attachWaiter message ∧ message.requestId = key ∧
      validate record.request = .ok () := by
  rw [BTreeMap.getElem?_insert_eq] at stored
  split_ifs at stored with same
  · cases stored
    exact ⟨message, rfl, same, valid⟩
  · exact recorded key record stored

/-- A rejected request is remembered. -/
theorem Registered.rejecting {table : LinkTable} {minted : Nat}
    {accepted : List AcceptedLink} (registered : Registered table minted accepted)
    {message : AttachWaiter} (valid : validate (.attachWaiter message) = .ok ())
    (reply : WaiterLink) :
    Registered (commitReject table (.attachWaiter message) reply) minted accepted where
  numbered := registered.numbered
  distinct := registered.distinct
  leased := registered.leased
  known := registered.known
  remembered link present := by
    obtain ⟨record, stored⟩ := registered.remembered link present
    simp only [commitReject, BTreeMap.getElem?_insert_eq]
    split
    · exact ⟨_, rfl⟩
    · exact ⟨record, stored⟩
  recorded := recorded_insert registered.recorded valid reply

/-- An accepted link becomes the live one and its request is remembered. -/
theorem Registered.installing {table : LinkTable} {minted : Nat}
    {accepted : List AcceptedLink} (registered : Registered table minted accepted)
    {entry : AcceptedLink} (member : entry ∈ accepted) {message : AttachWaiter}
    (request : entry.link.request = .attachWaiter message)
    (requestId : entry.link.requestId = message.requestId)
    (valid : validate (.attachWaiter message) = .ok ()) :
    Registered (commitAttach table entry.link) minted accepted where
  numbered := registered.numbered
  distinct := registered.distinct
  leased := registered.leased
  known link present := by
    cases present
    exact ⟨entry, member, rfl⟩
  remembered link present := by
    cases present
    exact ⟨_, BTreeMap.getElem?_insert_same _ _ _⟩
  recorded key record stored := by
    simp only [commitAttach, request, requestId] at stored
    exact recorded_insert registered.recorded valid _ key record stored

/-! ## What a move does -/

/-- An attach between its decision and its commit: an acceptance finds no live link, and
an acceptance or a rejection is of a request that is not remembered. -/
inductive Ready (desk : LinkDesk) (prepared : PreparedAttach) : Prop
  | accept {entry : AcceptedLink} {message : AttachWaiter}
      (pending : prepared.pending = .accept entry.link) (member : entry ∈ desk.accepted)
      (vacant : desk.live = none) (request : entry.link.request = .attachWaiter message)
      (requestId : entry.link.requestId = message.requestId)
      (valid : validate (.attachWaiter message) = .ok ())
      (unknown : desk.table.history[message.requestId]? = none)
      (reply : entry.link.lastAccepted = prepared.reply)
  | reject {message : AttachWaiter}
      (pending : prepared.pending = .reject (.attachWaiter message) prepared.reply)
      (valid : validate (.attachWaiter message) = .ok ())
      (unknown : desk.table.history[message.requestId]? = none)
  | replay (pending : prepared.pending = .replay)

omit [UlidSupply] in
/-- Dropping the live link leaves the waiting attach ready. -/
theorem Ready.dropped {before after : LinkDesk} {prepared : PreparedAttach}
    (ready : before.Ready prepared) (accepted : after.accepted = before.accepted)
    (history : after.table.history = before.table.history)
    (current : after.live = before.live ∨ after.live = none) : after.Ready prepared := by
  cases ready with
  | accept pending member vacant request requestId valid unknown reply =>
      have empty : after.live = none := by
        rcases current with same | dropped
        · exact same.trans vacant
        · exact dropped
      exact .accept pending (accepted ▸ member) empty request requestId valid
        (history ▸ unknown) reply
  | reject pending valid unknown => exact .reject pending valid (history ▸ unknown)
  | replay pending => exact .replay pending

/-- What every reachable desk satisfies. -/
structure Sound (desk : LinkDesk) : Prop where
  registered : Registered desk.table desk.minted desk.accepted
  ready : ∀ prepared, desk.waiting = some prepared → desk.Ready prepared

/-- A fresh desk is sound. -/
theorem fresh_sound : fresh.Sound where
  registered := {
    numbered := fun _ member => by cases member
    distinct := List.nodup_nil
    leased := fun _ member => by cases member
    known := fun _ same => by cases same
    remembered := fun _ same => by cases same
    recorded := fun key record stored => by simp [fresh, LinkTable.empty] at stored }
  ready := fun _ same => by cases same

/-- The main loop drops a link. -/
theorem Sound.dropped {desk : LinkDesk} (sound : desk.Sound) {table : LinkTable}
    (history : table.history = desk.table.history)
    (current : table.current = desk.table.current ∨ table.current = none) :
    ({ desk with table } : LinkDesk).Sound where
  registered := sound.registered.dropped history current
  ready prepared standing := (sound.ready prepared standing).dropped rfl history current

omit [UlidSupply] in
/-- The lease of a link as it is admitted. -/
theorem leased_admittedLink {message : AttachWaiter} {arm : KnownArm} {time : OffsetDateTime}
    {arms : List KnownArm} {freshId : String} (member : arm ∈ arms)
    (armId : arm.armId = message.armId) (generation : arm.generation = message.generation) :
    (⟨admittedLink message arm time freshId, time, arms⟩ : AcceptedLink).Leased := by
  refine ⟨arm, member, armId, generation, ?_, ?_⟩
  · show (time.addNanos leaseNanos).min arm.coverageUntil ≤ time.addNanos leaseNanos
    unfold OffsetDateTime.min
    split
    · exact le_refl (time.addNanos leaseNanos).unixTimestampNanos
    · rename_i later
      exact Int.le_of_lt (Int.not_le.1 later)
  · show (time.addNanos leaseNanos).min arm.coverageUntil ≤ arm.coverageUntil
    unfold OffsetDateTime.min
    split
    · assumption
    · exact le_refl arm.coverageUntil.unixTimestampNanos

/-- The table after elapsed links are dropped keeps the register. -/
theorem Sound.expired {desk : LinkDesk} (sound : desk.Sound) (time : OffsetDateTime) :
    Registered (desk.table.dropExpired time) desk.minted desk.accepted :=
  sound.registered.dropped (history_dropExpired _ _) (desk.table.current_dropExpired time)

/-- Deciding a request at once keeps the desk sound. -/
theorem admit_sound {desk : LinkDesk} (sound : desk.Sound) (request : WaiterLink)
    (now : OffsetDateTime) (arms : List KnownArm) :
    (desk.step (.admitAttach request now arms)).Sound := by
  cases idle : desk.waiting with
  | some prepared => simpa only [step, idle] using sound
  | none =>
  have expired := sound.expired now
  simp only [step, idle, admitAttach, newlyAccepted]
  cases decided : decideAttach (desk.table.dropExpired now) request now arms
      (UlidSupply.text desk.minted) with
  | error error => exact ⟨expired.unused, fun _ same => by cases same⟩
  | ok decision =>
  cases decideAttach_outcome decided with
  | replayed => exact ⟨expired.unused, fun _ same => by cases same⟩
  | rejected named valid unknown =>
      subst named
      exact ⟨(expired.rejecting valid _).unused, fun _ same => by cases same⟩
  | accepted named valid unknown member armId generation =>
      subst named
      refine ⟨?_, fun _ same => by cases same⟩
      exact (expired.accepting rfl (leased_admittedLink member armId generation)).installing
        List.mem_cons_self rfl rfl valid

/-- Preparing a request keeps the desk sound. -/
theorem prepare_sound {desk : LinkDesk} (sound : desk.Sound) (request : WaiterLink)
    (now : OffsetDateTime) (elapsed : Nat) (arms : List KnownArm) :
    (desk.step (.prepare request now elapsed arms)).Sound := by
  cases idle : desk.waiting with
  | some prepared => simpa only [step, idle] using sound
  | none =>
  have expired := sound.expired (now.addNanos elapsed)
  simp only [step, idle, prepareAttach, newlyAccepted]
  cases decided : decideAttach (desk.table.dropExpired (now.addNanos elapsed)) request
      (now.addNanos elapsed) arms (UlidSupply.text desk.minted) with
  | error error => exact ⟨expired.unused, fun _ same => by cases same⟩
  | ok decision =>
  cases decideAttach_outcome decided with
  | replayed =>
      refine ⟨expired.unused, fun prepared same => ?_⟩
      cases same
      exact .replay rfl
  | rejected named valid unknown =>
      subst named
      refine ⟨expired.unused, fun prepared same => ?_⟩
      cases same
      exact .reject rfl valid unknown
  | accepted named valid unknown member armId generation route vacant =>
      subst named
      refine ⟨expired.accepting rfl (leased_admittedLink member armId generation),
        fun prepared same => ?_⟩
      cases same
      exact @Ready.accept _ _ _ ⟨_, _, _⟩ _ rfl List.mem_cons_self vacant rfl rfl valid unknown rfl

/-- Committing an attach keeps the desk sound. -/
theorem commit_sound {desk : LinkDesk} (sound : desk.Sound) (writeOk : Bool) :
    (desk.step (.commit writeOk)).Sound := by
  cases standing : desk.waiting with
  | none => simpa only [step, standing] using sound
  | some prepared =>
  simp only [step, standing, commitPreparedAttach]
  cases writeOk with
  | false => exact ⟨sound.registered, fun _ same => by cases same⟩
  | true =>
  cases sound.ready prepared standing with
  | accept pending member vacant request requestId valid =>
      have present : desk.table.current = none := vacant
      simp only [pending, present, Option.any_none, Bool.not_true, Bool.false_eq_true, if_false]
      exact ⟨sound.registered.installing member request requestId valid, fun _ same => by cases same⟩
  | reject pending valid =>
      simp only [pending]
      exact ⟨sound.registered.rejecting valid _, fun _ same => by cases same⟩
  | replay pending =>
      simp only [pending]
      exact ⟨sound.registered, fun _ same => by cases same⟩

/-- Every move keeps the desk sound. -/
theorem step_sound {desk : LinkDesk} (sound : desk.Sound) (move : LinkMove) :
    (desk.step move).Sound := by
  cases move with
  | admitAttach request now arms => exact admit_sound sound request now arms
  | prepare request now elapsed arms => exact prepare_sound sound request now elapsed arms
  | commit writeOk => exact commit_sound sound writeOk
  | dropSession session =>
      exact sound.dropped (history_dropSession _ _) (desk.table.current_dropSession session)
  | dropExpired now =>
      exact sound.dropped (history_dropExpired _ _) (desk.table.current_dropExpired now)
  | dropCurrent => exact sound.dropped rfl (Or.inr rfl)

/-- How a move changes the history and the live link. -/
inductive TableEffect (desk : LinkDesk) (move : LinkMove) (after : LinkDesk) : Prop
  | kept (history : after.table.history = desk.table.history)
      (live : after.live = desk.live ∨ after.live = none ∧ ∀ writeOk, move ≠ .commit writeOk)
  | rejected {message : AttachWaiter} {reply : WaiterLink}
      (unknown : desk.table.history[message.requestId]? = none)
      (history : after.table.history = desk.table.history.insert message.requestId
        ⟨.attachWaiter message, reply⟩)
      (live : after.live = desk.live ∨ after.live = none ∧ ∀ writeOk, move ≠ .commit writeOk)
      (given : desk.Given move reply)
  | installed {link : AdmittedLink} (unknown : desk.table.history[link.requestId]? = none)
      (history : after.table.history = desk.table.history.insert link.requestId
        ⟨link.request, link.lastAccepted⟩)
      (live : after.live = some link)
      (vacant : desk.live = none ∨ ∃ request now arms other, move = .admitAttach request now arms ∧
        desk.live = some other ∧ other.leaseUntil ≤ now)
      (given : desk.Given move link.lastAccepted)

omit [Rfc3339] [UlidSupply] in
/-- No link is live after the elapsed one was dropped: there was none, or it elapsed. -/
theorem vacant_of_expired {table : LinkTable} {now : OffsetDateTime}
    (vacant : (table.dropExpired now).current = none) :
    table.current = none ∨ ∃ other, table.current = some other ∧ other.leaseUntil ≤ now := by
  unfold LinkTable.dropExpired at vacant
  split at vacant
  · rename_i elapsed
    obtain ⟨other, present, elapsedLease⟩ := (Option.any_eq_true _ _).1 elapsed
    exact Or.inr ⟨other, present, by simpa using elapsedLease⟩
  · exact Or.inl vacant

/-- Every move changes the history and the live link in one of these ways. -/
theorem step_effect {desk : LinkDesk} (sound : desk.Sound) (move : LinkMove) :
    desk.TableEffect move (desk.step move) := by
  cases move with
  | admitAttach request now arms =>
      cases idle : desk.waiting with
      | some prepared => exact .kept (by simp [step, idle]) (Or.inl (by simp [step, idle]))
      | none =>
      have live : (desk.table.dropExpired now).current = desk.live ∨
          (desk.table.dropExpired now).current = none ∧
            ∀ writeOk, LinkMove.admitAttach request now arms ≠ .commit writeOk :=
        (desk.table.current_dropExpired now).imp id fun dropped =>
          ⟨dropped, fun _ same => by cases same⟩
      cases decided : decideAttach (desk.table.dropExpired now) request now arms
          (UlidSupply.text desk.minted) with
      | error error =>
          exact .kept (by simp [step, idle, admitAttach, decided])
            (by simpa [LinkDesk.live, step, idle, admitAttach, decided] using live)
      | ok decision =>
      cases decideAttach_outcome decided with
      | replayed =>
          exact .kept (by simp [step, idle, admitAttach, decided])
            (by simpa [LinkDesk.live, step, idle, admitAttach, decided] using live)
      | @rejected message reply named valid unknown =>
          subst named
          rw [history_dropExpired] at unknown
          refine @TableEffect.rejected _ _ _ _ _ _ reply unknown ?_ ?_ (Or.inl ?_)
          · simp [step, idle, admitAttach, decided, commitReject]
          · simpa [LinkDesk.live, step, idle, admitAttach, decided] using live
          · simp [answer, idle, admitAttach, decided]
      | @accepted message arm named valid unknown member armId generation route vacant =>
          subst named
          rw [history_dropExpired] at unknown
          refine @TableEffect.installed _ _ _ _ _
            (admittedLink message arm now (UlidSupply.text desk.minted)) unknown ?_ ?_ ?_
            (Or.inl ?_)
          · simp [step, idle, admitAttach, decided, commitAttach]
          · simp [LinkDesk.live, step, idle, admitAttach, decided, commitAttach]
          · refine (vacant_of_expired vacant).imp id ?_
            rintro ⟨other, present, elapsed⟩
            exact ⟨_, now, arms, other, rfl, present, elapsed⟩
          · simp [answer, idle, admitAttach, decided]
  | prepare request now elapsed arms =>
      cases idle : desk.waiting with
      | some prepared => exact .kept (by simp [step, idle]) (Or.inl (by simp [step, idle]))
      | none =>
      have table : (desk.step (.prepare request now elapsed arms)).table =
          desk.table.dropExpired (now.addNanos elapsed) := by
        simp only [step, idle, prepareAttach]
        cases decideAttach (desk.table.dropExpired (now.addNanos elapsed)) request
          (now.addNanos elapsed) arms (UlidSupply.text desk.minted) with
        | error error => rfl
        | ok decision => cases decision <;> rfl
      refine .kept (by rw [table, history_dropExpired]) ?_
      rw [LinkDesk.live, table]
      exact (desk.table.current_dropExpired _).imp id fun dropped =>
        ⟨dropped, fun _ same => by cases same⟩
  | commit writeOk =>
      cases standing : desk.waiting with
      | none => exact .kept (by simp [step, standing]) (Or.inl (by simp [step, standing]))
      | some prepared =>
      cases writeOk with
      | false =>
          exact .kept (by simp [step, standing, commitPreparedAttach])
            (Or.inl (by simp [LinkDesk.live, step, standing, commitPreparedAttach]))
      | true =>
      cases sound.ready prepared standing with
      | @accept entry message pending member vacant request requestId valid unknown reply =>
          have present : desk.table.current = none := vacant
          rw [← requestId] at unknown
          refine .installed unknown ?_ ?_ (Or.inl vacant)
            (Or.inr ⟨prepared, rfl, standing, reply.symm⟩)
          · simp [step, standing, commitPreparedAttach, pending, present, commitAttach]
          · simp [LinkDesk.live, step, standing, commitPreparedAttach, pending, present,
              commitAttach]
      | @reject message pending valid unknown =>
          refine @TableEffect.rejected _ _ _ _ _ _ prepared.reply unknown ?_ (Or.inl ?_)
            (Or.inr ⟨prepared, rfl, standing, rfl⟩)
          · simp [step, standing, commitPreparedAttach, pending, commitReject]
          · simp [LinkDesk.live, step, standing, commitPreparedAttach, pending, commitReject]
      | replay pending =>
          exact .kept (by simp [step, standing, commitPreparedAttach, pending])
            (Or.inl (by simp [LinkDesk.live, step, standing, commitPreparedAttach, pending]))
  | dropSession session =>
      exact .kept (history_dropSession _ _) ((desk.table.current_dropSession session).imp id
        fun dropped => ⟨dropped, fun _ same => by cases same⟩)
  | dropExpired now =>
      exact .kept (history_dropExpired _ _) ((desk.table.current_dropExpired now).imp id
        fun dropped => ⟨dropped, fun _ same => by cases same⟩)
  | dropCurrent => exact .kept rfl (Or.inr ⟨rfl, fun _ same => by cases same⟩)

/-! ## Every move is lawful -/

end LinkDesk
end Waiter
end Gearwit
