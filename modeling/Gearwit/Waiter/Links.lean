import Gearwit.Waiter.Rearm

/-!
# Which link a frame goes to

The accept thread admits a link and hands its connection to the main loop, which
adopts it later and reads the current link again before every flush.  A session
that left the table never returns to it.  A frame names the link that was read, so
it goes to the connection admitted under that name as long as the read link is the
served one.
-/

namespace Gearwit
namespace Waiter

/-! ## Admissions and the attaches they belong to -/

/-- The admission an observation records. -/
def Observation.admission : Observation → Option (Nat × LinkSession)
  | .admitted connection session => some (connection, session)
  | _ => none

/-- Connections admitted so far, with their sessions, newest first. -/
def admissions (trace : List Observation) : List (Nat × LinkSession) :=
  trace.filterMap Observation.admission

@[simp] theorem admissions_append (newer older : List Observation) :
    admissions (newer ++ older) = admissions newer ++ admissions older :=
  List.filterMap_append

/-- The attach an event carries. -/
def DaemonEvent.attached? : DaemonEvent → Option ServeAttach
  | .attached served => some served
  | .coverageRearm _ => none

/-- The attach the accept thread is about to queue. -/
def Acceptor.attaches : Acceptor → List ServeAttach
  | .sending (.attached served) => [served]
  | _ => []

/-- The attach the main loop works on. -/
def Phase.attaches : Phase → List ServeAttach
  | .retaining next | .superseding next _ | .leasing next => [next]
  | _ => []

/-- The attach the main loop decided to keep. -/
def Phase.adopted : Phase → List ServeAttach
  | .superseding next _ | .leasing next => [next]
  | _ => []

@[simp] theorem Resume.attaches_phase (resume : Resume) : resume.phase.attaches = [] := by
  cases resume <;> rfl

@[simp] theorem Resume.adopted_phase (resume : Resume) : resume.phase.adopted = [] := by
  cases resume <;> rfl

namespace Daemon

/-- Every attach on its way to the main loop or served by it. -/
def attaches (daemon : Daemon) : List ServeAttach :=
  daemon.served.toList ++ daemon.phase.attaches ++
    daemon.queue.filterMap DaemonEvent.attached? ++ daemon.acceptor.attaches

/-- The attach the main loop serves or is adopting. -/
def adopted (daemon : Daemon) : List ServeAttach :=
  daemon.served.toList ++ daemon.phase.adopted

/-- Sessions in use are served, in hand or queued. -/
theorem mem_attaches {daemon : Daemon} {served : ServeAttach} :
    served ∈ daemon.attaches ↔ daemon.served = some served ∨ served ∈ daemon.phase.attaches ∨
      served ∈ daemon.queue.filterMap DaemonEvent.attached? ∨
      served ∈ daemon.acceptor.attaches := by
  simp only [attaches, List.mem_append, Option.mem_toList, or_assoc]

/-- Adopted sessions are served or in hand. -/
theorem mem_adopted {daemon : Daemon} {served : ServeAttach} :
    served ∈ daemon.adopted ↔ daemon.served = some served ∨ served ∈ daemon.phase.adopted := by
  simp only [adopted, List.mem_append, Option.mem_toList]

/-- A decision about an attach that is not committed yet: a link to admit is new, and
a replayed session was admitted before. -/
def Promising [UlidSupply] (daemon : Daemon) (prepared : PreparedAttach) : Prop :=
  match prepared.pending with
  | .accept link =>
      prepared.session = some link.session ∧
        (∃ number < daemon.minted, UlidSupply.text number = link.linkId) ∧
        ∀ entry ∈ admissions daemon.trace, entry.2.linkId ≠ link.linkId
  | .replay => ∀ session, prepared.session = some session →
      session ∈ (admissions daemon.trace).map Prod.snd
  | .reject _ _ => prepared.session = none

/-- Every session in use was admitted, and admitted links carry minted identifiers. -/
structure Linked [UlidSupply] (daemon : Daemon) : Prop where
  entered : ∀ served ∈ daemon.attaches, ∀ session, served.session = some session →
    (served.connection, session) ∈ admissions daemon.trace
  bound : ∀ served ∈ daemon.adopted, served.session.isSome
  numbered : ∀ entry ∈ admissions daemon.trace,
    ∃ number < daemon.minted, UlidSupply.text number = entry.2.linkId
  current : ∀ link, daemon.table.current = some link →
    link.session ∈ (admissions daemon.trace).map Prod.snd
  promising : ∀ prepared connection, daemon.acceptor = .replying prepared connection →
    daemon.Promising prepared

/-- A move that admits no link and prepares none. -/
structure Unadmitted (before after : Daemon) : Prop where
  acceptor : ∀ prepared connection, after.acceptor = .replying prepared connection →
    before.acceptor = .replying prepared connection
  admitted : admissions after.trace = admissions before.trace
  minted : before.minted ≤ after.minted
  table : after.table.current = before.table.current ∨ after.table.current = none
  attaches : after.attaches ⊆ before.attaches
  adopted : ∀ served ∈ after.adopted, served ∈ before.adopted ∨ served.session.isSome

/-- Doing nothing admits no link. -/
theorem unadmitted_refl (daemon : Daemon) : daemon.Unadmitted daemon where
  acceptor _ _ same := same
  admitted := rfl
  minted := le_rfl
  table := Or.inl rfl
  attaches := List.Subset.refl _
  adopted _ member := Or.inl member

/-- A move that admits no link keeps the daemon linked. -/
theorem Unadmitted.linked [UlidSupply] {before after : Daemon}
    (same : before.Unadmitted after) (linked : before.Linked) : after.Linked where
  entered served member session held := by
    rw [same.admitted]
    exact linked.entered served (same.attaches member) session held
  bound served member := by
    rcases same.adopted served member with earlier | present
    · exact linked.bound served earlier
    · exact present
  numbered entry member := by
    rw [same.admitted] at member
    obtain ⟨number, below, named⟩ := linked.numbered entry member
    exact ⟨number, lt_of_lt_of_le below same.minted, named⟩
  current link present := by
    rw [same.admitted]
    rcases same.table with kept | dropped
    · exact linked.current link (kept ▸ present)
    · rw [dropped] at present
      cases present
  promising prepared connection standing := by
    have promised := linked.promising prepared connection
      (same.acceptor prepared connection standing)
    unfold Promising at promised ⊢
    rw [same.admitted]
    cases pending : prepared.pending with
    | accept link =>
        simp only [pending] at promised
        obtain ⟨session, ⟨number, below, named⟩, fresh⟩ := promised
        exact ⟨session, ⟨number, lt_of_lt_of_le below same.minted, named⟩, fresh⟩
    | replay =>
        simp only [pending] at promised
        exact promised
    | reject request reply =>
        simp only [pending] at promised
        exact promised

/-! ## Moves of the accept thread -/

/-- Accepting a waiter admits no link. -/
theorem acceptWaiter_unadmitted (daemon : Daemon) (request : WaiterLink)
    (instant : OffsetDateTime) : daemon.Unadmitted (daemon.acceptWaiter request instant) := by
  unfold acceptWaiter
  split
  · rename_i standing
    exact { daemon.unadmitted_refl with
      acceptor := fun _ _ same => by cases same
      attaches := by
        simp only [Daemon.attaches, standing, Acceptor.attaches]
        exact List.Subset.refl _ }
  · exact daemon.unadmitted_refl

/-- Sending admits no link. -/
theorem send_unadmitted (daemon : Daemon) : daemon.Unadmitted daemon.send := by
  unfold send
  split
  · rename_i event standing
    exact { daemon.unadmitted_refl with
      acceptor := fun _ _ same => by cases same
      attaches := by
        simp only [Daemon.attaches, standing]
        cases event <;>
          simp [Acceptor.attaches, DaemonEvent.attached?, List.filterMap_cons] }
  · exact daemon.unadmitted_refl

/-- Stopping admits no link. -/
theorem stop_unadmitted (daemon : Daemon) : daemon.Unadmitted daemon.stop := by
  unfold stop
  split
  · rename_i standing
    exact { daemon.unadmitted_refl with
      acceptor := fun _ _ same => by cases same
      attaches := by
        simp only [Daemon.attaches, standing, Acceptor.attaches]
        exact List.Subset.refl _ }
  · exact daemon.unadmitted_refl

/-- A commit is abandoned, or hands over the attach; only an accepted link replaces
the current one. -/
theorem commitPreparedAttach_cases (table : LinkTable) (prepared : PreparedAttach)
    (connection : Nat) (writeOk : Bool) :
    commitPreparedAttach table prepared connection writeOk = (none, table) ∨
      ∃ after, (after.current = table.current ∨
          ∃ link, prepared.pending = .accept link ∧ after.current = some link) ∧
        commitPreparedAttach table prepared connection writeOk =
          (some ⟨prepared.reply, prepared.session, connection⟩, after) := by
  unfold commitPreparedAttach
  split
  · exact Or.inl rfl
  · cases pending : prepared.pending with
    | accept link =>
        simp only
        split
        · exact Or.inl rfl
        · exact Or.inr ⟨_, Or.inr ⟨link, rfl, rfl⟩, rfl⟩
    | reject request reply =>
        exact Or.inr ⟨_, Or.inl (current_commitReject table request reply), rfl⟩
    | replay => exact Or.inr ⟨table, Or.inl rfl, rfl⟩

/-- Committing an attach drops it, or hands it over and admits its session on its
connection. -/
theorem commit_cases {daemon : Daemon} {prepared : PreparedAttach} {connection : Nat}
    (standing : daemon.acceptor = .replying prepared connection) (writeOk : Bool) :
    daemon.commit writeOk = { daemon with acceptor := .idle } ∨
      ∃ table, (table.current = daemon.table.current ∨
          ∃ link, prepared.pending = .accept link ∧ table.current = some link) ∧
        daemon.commit writeOk =
          { daemon with
            table
            acceptor := .sending (.attached ⟨prepared.reply, prepared.session, connection⟩)
            trace := (prepared.session.map (Observation.admitted connection)).toList ++
              daemon.trace } := by
  simp only [commit, standing]
  rcases commitPreparedAttach_cases daemon.table prepared connection writeOk with
    same | ⟨table, kind, same⟩
  · exact Or.inl (by rw [same])
  · refine Or.inr ⟨table, kind, ?_⟩
    rw [same]
    cases prepared.session <;> rfl

/-- Committing an attach keeps every session in use admitted. -/
theorem commit_linked [UlidSupply] {daemon : Daemon} (linked : daemon.Linked)
    (writeOk : Bool) : (daemon.commit writeOk).Linked := by
  cases standing : daemon.acceptor with
  | replying prepared connection =>
      have promised := linked.promising prepared connection standing
      rcases commit_cases standing writeOk with same | ⟨table, kind, same⟩
      · rw [same]
        have dropped : daemon.Unadmitted { daemon with acceptor := .idle } :=
          { daemon.unadmitted_refl with
            acceptor := fun _ _ same => by cases same
            attaches := by
              simp only [Daemon.attaches, standing, Acceptor.attaches]
              exact List.Subset.refl _ }
        exact dropped.linked linked
      · have session (token : LinkSession) (held : prepared.session = some token) :
            (∃ number < daemon.minted, UlidSupply.text number = token.linkId) := by
          unfold Promising at promised
          cases pending : prepared.pending with
          | accept link =>
              simp only [pending] at promised
              obtain ⟨given, numbered, _⟩ := promised
              rw [held, Option.some.injEq] at given
              rw [given]
              exact numbered
          | replay =>
              simp only [pending] at promised
              obtain ⟨entry, member, rfl⟩ := List.mem_map.1 (promised token held)
              exact linked.numbered entry member
          | reject request reply =>
              simp only [pending] at promised
              rw [held] at promised
              cases promised
        have noted : admissions ((prepared.session.map (Observation.admitted connection)).toList ++
              daemon.trace) =
            (prepared.session.map (Prod.mk connection)).toList ++ admissions daemon.trace := by
          rw [admissions_append]
          cases prepared.session <;> rfl
        have kept : admissions daemon.trace ⊆
            (prepared.session.map (Prod.mk connection)).toList ++ admissions daemon.trace :=
          List.subset_append_right _ _
        rw [same]
        refine ⟨?_, linked.bound, ?_, ?_, fun _ _ same => by cases same⟩
        · intro served member token held
          rw [noted]
          simp only [Daemon.attaches, Acceptor.attaches, List.mem_append, List.mem_singleton]
            at member
          rcases member with earlier | rfl
          · refine kept (linked.entered served ?_ token held)
            simp only [Daemon.attaches, List.mem_append]
            exact Or.inl earlier
          · have given : prepared.session = some token := held
            rw [given]
            exact List.mem_cons_self
        · intro entry member
          rw [noted, List.mem_append] at member
          rcases member with new | old
          · obtain ⟨token, held, rfl⟩ := Option.map_eq_some_iff.1 (Option.mem_toList.1 new)
            exact session token held
          · exact linked.numbered entry old
        · intro link present
          rw [noted]
          rcases kind with same | ⟨other, pending, same⟩
          · rw [same] at present
            exact List.map_subset _ kept (linked.current link present)
          · rw [same, Option.some.injEq] at present
            subst present
            simp only [Promising, pending] at promised
            rw [promised.1]
            exact List.mem_cons_self
  | _ =>
      rw [commit, standing]
      exact linked

variable [Rfc3339]

/-- Preparing an attach promises a new link or an admitted session. -/
theorem prepare_linked [UlidSupply] {daemon : Daemon} (linked : daemon.Linked)
    (elapsed : Nat) : (daemon.prepare elapsed).Linked := by
  cases standing : daemon.acceptor with
  | arming request instant arms connection =>
      have expired := daemon.table.current_dropExpired (instant.addNanos elapsed)
      have dropped (acceptor : Acceptor) (idle : acceptor.attaches = [])
          (promised : ∀ prepared connection, acceptor = .replying prepared connection →
            ({ daemon with
              table := daemon.table.dropExpired (instant.addNanos elapsed)
              minted := daemon.minted + 1
              acceptor } : Daemon).Promising prepared) :
          ({ daemon with
            table := daemon.table.dropExpired (instant.addNanos elapsed)
            minted := daemon.minted + 1
            acceptor } : Daemon).Linked := by
        refine ⟨?_, linked.bound, ?_, ?_, promised⟩
        · intro served member token held
          refine linked.entered served ?_ token held
          simp only [Daemon.attaches, idle, List.append_nil] at member
          simpa only [Daemon.attaches, standing, Acceptor.attaches, List.append_nil] using member
        · intro entry member
          obtain ⟨number, below, named⟩ := linked.numbered entry member
          exact ⟨number, Nat.lt_succ_of_lt below, named⟩
        · intro link present
          rcases expired with same | none
          · exact linked.current link (same ▸ present)
          · rw [none] at present
            cases present
      simp only [prepare, standing, prepareAttach]
      rcases decided : decideAttach (daemon.table.dropExpired (instant.addNanos elapsed)) request
        (instant.addNanos elapsed) arms (UlidSupply.text daemon.minted) with error | decision
      · exact dropped .idle rfl fun _ _ same => by cases same
      · rcases decideAttach_cases decided with
          ⟨reply, session, rfl, owned⟩ | ⟨reply, rfl⟩ |
            ⟨message, arm, _, _, _, _, _, _, _, _, rfl⟩
        · refine dropped _ rfl fun prepared other same => ?_
          cases same
          intro token held
          obtain ⟨link, present, named⟩ := owned token held
          rw [← named]
          refine linked.current link ?_
          rcases expired with same | none
          · exact same ▸ present
          · rw [none] at present
            cases present
        · refine dropped _ rfl fun prepared other same => ?_
          cases same
          exact rfl
        · refine dropped _ rfl fun prepared other same => ?_
          cases same
          refine ⟨rfl, ⟨daemon.minted, Nat.lt_succ_self _, rfl⟩, fun entry member named => ?_⟩
          obtain ⟨number, below, minted⟩ := linked.numbered entry member
          have equal := UlidSupply.injective (minted.trans named)
          omega
  | _ =>
      rw [prepare, standing]
      exact linked

omit [Rfc3339] in
/-- Recording an acknowledgement touches no link. -/
private theorem unadmitted_of_recorded {before after : Daemon}
    (acceptor : ∀ prepared connection, after.acceptor ≠ .replying prepared connection)
    (attaches : after.acceptor.attaches = []) (served : after.served = before.served)
    (phase : after.phase = before.phase) (queue : after.queue = before.queue)
    (table : after.table = before.table) (minted : after.minted = before.minted)
    (admitted : admissions after.trace = admissions before.trace) :
    before.Unadmitted after where
  acceptor prepared connection same := absurd same (acceptor prepared connection)
  admitted := admitted
  minted := minted.ge
  table := Or.inl (by rw [table])
  attaches := by
    simp only [Daemon.attaches, attaches, served, phase, queue, List.append_nil]
    exact List.subset_append_left _ _
  adopted other member := by
    rw [adopted, served, phase] at member
    exact Or.inl member

/-- Accepting a handled cursor admits no link. -/
theorem acceptHandled_unadmitted {daemon : Daemon} (sane : daemon.acks.Remembers)
    (request : HandledCursor) (instant : OffsetDateTime) :
    daemon.Unadmitted (daemon.acceptHandled request instant) := by
  rcases acceptHandled_cases sane request instant with
    same | ⟨_, acks, _, _, _, same⟩ | ⟨_, message, arm, batch, _, _, same⟩
  · rw [same]
    exact daemon.unadmitted_refl
  · rw [same]
    exact unadmitted_of_recorded (fun _ _ same => by cases same) rfl rfl rfl rfl rfl rfl rfl
  · rw [same]
    exact unadmitted_of_recorded (fun _ _ same => by cases same) rfl rfl rfl rfl rfl rfl rfl

/-! ## Moves of the main loop -/

omit [Rfc3339] in
/-- A move of the main loop that keeps the served attach, or drops it. -/
private theorem unadmitted_of_served {before after : Daemon}
    (acceptor : after.acceptor = before.acceptor) (queue : after.queue = before.queue)
    (served : after.served = before.served ∨ after.served = none)
    (table : after.table.current = before.table.current ∨ after.table.current = none)
    (attaches : after.phase.attaches ⊆ before.phase.attaches)
    (adopted : after.phase.adopted ⊆ before.phase.adopted)
    (minted : before.minted ≤ after.minted)
    (admitted : admissions after.trace = admissions before.trace) :
    before.Unadmitted after where
  acceptor prepared connection same := acceptor ▸ same
  admitted := admitted
  minted := minted
  table := table
  attaches other member := by
    rw [mem_attaches, acceptor, queue] at member
    rw [mem_attaches]
    rcases member with held | standing | queued
    · rcases served with same | none
      · exact Or.inl (same ▸ held)
      · rw [none] at held
        cases held
    · exact Or.inr (Or.inl (attaches standing))
    · exact Or.inr (Or.inr queued)
  adopted other member := by
    refine Or.inl ?_
    rw [mem_adopted] at member ⊢
    rcases member with held | standing
    · rcases served with same | none
      · exact Or.inl (same ▸ held)
      · rw [none] at held
        cases held
    · exact Or.inr (adopted standing)

omit [Rfc3339] in
/-- A move of the main loop into a phase without an attach. -/
private theorem unadmitted_of_phase {before after : Daemon}
    (acceptor : after.acceptor = before.acceptor) (queue : after.queue = before.queue)
    (served : after.served = before.served) (table : after.table = before.table)
    (attaches : after.phase.attaches = []) (adopted : after.phase.adopted = [])
    (minted : before.minted ≤ after.minted)
    (admitted : admissions after.trace = admissions before.trace) :
    before.Unadmitted after :=
  unadmitted_of_served acceptor queue (Or.inl served) (Or.inl (by rw [table]))
    (by rw [attaches]; exact List.nil_subset _) (by rw [adopted]; exact List.nil_subset _)
    minted admitted

omit [Rfc3339] in
/-- A move of the main loop that starts to adopt the attach it works on. -/
private theorem unadmitted_of_adopting {before after : Daemon} {next : ServeAttach}
    (acceptor : after.acceptor = before.acceptor) (queue : after.queue = before.queue)
    (served : after.served = none) (table : after.table = before.table)
    (standing : before.phase.attaches = [next]) (attaches : after.phase.attaches = [next])
    (adopted : after.phase.adopted = [next]) (bound : next.session.isSome)
    (minted : before.minted ≤ after.minted)
    (admitted : admissions after.trace = admissions before.trace) :
    before.Unadmitted after where
  acceptor prepared connection same := acceptor ▸ same
  admitted := admitted
  minted := minted
  table := Or.inl (by rw [table])
  attaches other member := by
    rw [mem_attaches, acceptor, queue, served, attaches] at member
    rw [mem_attaches, standing]
    exact Or.inr (member.resolve_left nofun)
  adopted other member := by
    rw [mem_adopted, served, adopted] at member
    rw [List.mem_singleton.1 (member.resolve_left nofun)]
    exact Or.inr bound

omit [Rfc3339] in
/-- A move of the main loop that serves the attach it adopted. -/
private theorem unadmitted_of_installing {before after : Daemon} {next : ServeAttach}
    (acceptor : after.acceptor = before.acceptor) (queue : after.queue = before.queue)
    (served : after.served = some next) (table : after.table = before.table)
    (standing : before.phase.attaches = [next]) (adopting : before.phase.adopted = [next])
    (attaches : after.phase.attaches = []) (adopted : after.phase.adopted = [])
    (minted : before.minted ≤ after.minted)
    (admitted : admissions after.trace = admissions before.trace) :
    before.Unadmitted after where
  acceptor prepared connection same := acceptor ▸ same
  admitted := admitted
  minted := minted
  table := Or.inl (by rw [table])
  attaches other member := by
    rw [mem_attaches, acceptor, queue, served, attaches, Option.some.injEq] at member
    rw [mem_attaches, standing]
    rcases member with rfl | gone | queued
    · exact Or.inr (Or.inl List.mem_cons_self)
    · cases gone
    · exact Or.inr (Or.inr queued)
  adopted other member := by
    rw [mem_adopted, served, adopted, Option.some.injEq] at member
    rw [mem_adopted, adopting]
    rcases member with rfl | gone
    · exact Or.inl (Or.inr List.mem_cons_self)
    · cases gone

omit [Rfc3339] in
/-- Receiving an event admits no link. -/
theorem receive_unadmitted (daemon : Daemon) (now : OffsetDateTime) :
    daemon.Unadmitted (daemon.receive now) := by
  unfold receive
  split
  · rename_i standing
    split
    · exact unadmitted_of_phase rfl rfl rfl rfl rfl rfl le_rfl rfl
    split
    · rename_i next queue waiting
      refine { daemon.unadmitted_refl with attaches := ?_, adopted := ?_ }
      · intro other member
        rw [mem_attaches] at member ⊢
        rw [waiting]
        rcases member with held | same | queued
        · exact Or.inl held
        · rw [List.mem_singleton.1 same]
          exact Or.inr (Or.inr (Or.inl List.mem_cons_self))
        · exact Or.inr (Or.inr (queued.imp_left (List.mem_cons_of_mem _)))
      · intro other member
        rw [mem_adopted] at member ⊢
        exact Or.inl (member.imp_right nofun)
    · rename_i rearm queue waiting
      refine { daemon.unadmitted_refl with attaches := ?_, adopted := ?_ }
      · intro other member
        rw [mem_attaches] at member ⊢
        rw [waiting]
        exact member.imp_right (Or.imp_left nofun)
      · intro other member
        rw [mem_adopted] at member ⊢
        exact Or.inl (member.imp_right nofun)
    · split <;> exact unadmitted_of_phase rfl rfl rfl rfl rfl rfl le_rfl rfl
  · exact daemon.unadmitted_refl

omit [Rfc3339] in
/-- An attach that is kept has a session. -/
theorem retainLiveAttach_session {incoming : ServeAttach} {table : LinkTable}
    {existing : Option ServeAttach} (kept : retainLiveAttach incoming table existing = true) :
    ∃ session link, incoming.session = some session ∧ table.current = some link ∧
      link.session = session := by
  unfold retainLiveAttach at kept
  split at kept
  · rename_i session link held present
    rw [Bool.and_eq_true, LinkSession.owns_iff] at kept
    exact ⟨session, link, held, present, kept.1⟩
  · cases kept

omit [Rfc3339] in
/-- Retaining an attachment admits no link. -/
theorem retain_unadmitted (daemon : Daemon) : daemon.Unadmitted daemon.retain := by
  unfold retain
  split
  · rename_i next standing
    split
    · rename_i kept
      obtain ⟨session, link, held, _⟩ := retainLiveAttach_session kept
      refine unadmitted_of_adopting rfl rfl rfl rfl (by rw [standing]; rfl) ?_ ?_
        (by rw [held]; rfl) le_rfl rfl
      · dsimp only
        split <;> rfl
      · dsimp only
        split <;> rfl
    · exact unadmitted_of_phase rfl rfl rfl rfl rfl rfl le_rfl rfl
  · exact daemon.unadmitted_refl

omit [Rfc3339] in
/-- Setting a lease admits no link. -/
theorem lease_unadmitted (daemon : Daemon) (timeoutOk : Bool) :
    daemon.Unadmitted (daemon.lease timeoutOk) := by
  unfold lease
  split
  · rename_i next standing
    have rests : ∀ failed : Bool,
        (if failed then Phase.revoking true .poll else .linking .poll).attaches = [] ∧
          (if failed then Phase.revoking true .poll else .linking .poll).adopted = [] := by
      intro failed
      cases failed <;> exact ⟨rfl, rfl⟩
    exact unadmitted_of_installing rfl rfl rfl rfl (by rw [standing]; rfl)
      (by rw [standing]; rfl) (rests _).1 (rests _).2 le_rfl rfl
  · exact daemon.unadmitted_refl

/-- Superseding a link admits no link. -/
theorem supersede_unadmitted (daemon : Daemon) : daemon.Unadmitted daemon.supersede := by
  unfold supersede
  split
  · rename_i next old standing
    refine unadmitted_of_served rfl rfl (Or.inl rfl)
      (daemon.table.current_dropSession old) ?_ ?_ le_rfl rfl
    · rw [standing]
      exact List.Subset.refl _
    · rw [standing]
      exact List.Subset.refl _
  · exact daemon.unadmitted_refl

omit [Rfc3339] in
/-- Reading the link admits no link. -/
theorem readLink_unadmitted (daemon : Daemon) : daemon.Unadmitted daemon.readLink := by
  unfold readLink
  split
  · exact unadmitted_of_phase rfl rfl rfl rfl rfl rfl le_rfl rfl
  · exact daemon.unadmitted_refl

omit [Rfc3339] in
private theorem admissions_wrote (connection : Nat) (written : Option DeliverEvents)
    (trace : List Observation) :
    admissions ((written.map (Observation.wrote connection)).toList ++ trace) =
      admissions trace := by
  cases written <;> rfl

/-- Flushing admits no link. -/
theorem flush_unadmitted [UlidSupply] (daemon : Daemon) (writeOk : Bool) :
    daemon.Unadmitted (daemon.flush writeOk) := by
  unfold flush
  split
  · rename_i link resume standing
    split
    · exact unadmitted_of_phase rfl rfl rfl rfl resume.attaches_phase resume.adopted_phase
        le_rfl rfl
    · simp only
      refine unadmitted_of_phase rfl rfl rfl rfl ?_ ?_ (Nat.le_succ _)
        (admissions_wrote _ _ _)
      · simp only
        split
        · rfl
        · exact resume.attaches_phase
      · simp only
        split
        · rfl
        · exact resume.adopted_phase
  · exact daemon.unadmitted_refl

/-- Revoking a link admits no link. -/
theorem revoke_unadmitted (daemon : Daemon) : daemon.Unadmitted daemon.revoke := by
  unfold revoke
  split
  · rename_i markLost resume standing
    refine unadmitted_of_served rfl rfl (Or.inr rfl) ?_
      (by simp only [resume.attaches_phase]; exact List.nil_subset _)
      (by simp only [resume.adopted_phase]; exact List.nil_subset _) le_rfl rfl
    cases daemon.served.bind ServeAttach.session with
    | none => cases markLost <;> exact Or.inl rfl
    | some session => cases markLost <;> exact daemon.table.current_dropSession session
  · exact daemon.unadmitted_refl

omit [Rfc3339] in
/-- Polling the lease admits no link. -/
theorem pollLease_unadmitted (daemon : Daemon) (timeoutOk : Bool) :
    daemon.Unadmitted (daemon.pollLease timeoutOk) := by
  unfold pollLease
  split
  · split
    · exact unadmitted_of_phase rfl rfl rfl rfl rfl rfl le_rfl rfl
    · simp only
      split
      · split <;> exact unadmitted_of_phase rfl rfl rfl rfl rfl rfl le_rfl rfl
      · split <;> exact unadmitted_of_phase rfl rfl rfl rfl rfl rfl le_rfl rfl
  · exact daemon.unadmitted_refl

/-- Reading a result admits no link. -/
theorem readResult_unadmitted (daemon : Daemon) (read : ReadResult) :
    daemon.Unadmitted (daemon.readResult read) := by
  unfold readResult
  split
  · split
    · exact unadmitted_of_phase rfl rfl rfl rfl rfl rfl le_rfl rfl
    · exact unadmitted_of_phase rfl rfl rfl rfl rfl rfl le_rfl rfl
    · rename_i result
      have silent : admissions (resultRecorded daemon.pipe.ledger result) = [] := by
        unfold resultRecorded
        split <;> rfl
      refine unadmitted_of_phase rfl rfl rfl rfl ?_ ?_ le_rfl (by simp [silent])
      · simp only
        split <;> rfl
      · simp only
        split <;> rfl
  · exact daemon.unadmitted_refl

omit [Rfc3339] in
/-- Noting a result admits no link. -/
theorem note_unadmitted (daemon : Daemon) : daemon.Unadmitted daemon.note := by
  unfold note
  split
  · exact unadmitted_of_phase rfl rfl rfl rfl rfl rfl le_rfl rfl
  · exact daemon.unadmitted_refl

omit [Rfc3339] in
/-- Polling the child admits no link. -/
theorem tryWait_unadmitted (daemon : Daemon) (poll : ChildPoll) :
    daemon.Unadmitted (daemon.tryWait poll) := by
  unfold tryWait
  split
  · split
    · exact unadmitted_of_phase rfl rfl rfl rfl rfl rfl le_rfl rfl
    · split <;> exact unadmitted_of_phase rfl rfl rfl rfl rfl rfl le_rfl rfl
  · exact daemon.unadmitted_refl

omit [Rfc3339] in
/-- Reading the link of the child admits no link. -/
theorem readChildLink_unadmitted (daemon : Daemon) :
    daemon.Unadmitted daemon.readChildLink := by
  unfold readChildLink
  split
  · exact unadmitted_of_phase rfl rfl rfl rfl rfl rfl le_rfl rfl
  · exact daemon.unadmitted_refl

/-- Ingesting a drain admits no link. -/
theorem ingest_unadmitted [UnicodeSegmentation] [UlidSupply] {daemon : Daemon}
    (sane : daemon.Sane) (output : ReadOutput) (instant : OffsetDateTime) (spawnOk : Bool) :
    daemon.Unadmitted (daemon.ingest output instant spawnOk) := by
  cases standing : daemon.phase with
  | ingesting wait link =>
      obtain ⟨clear, _, _⟩ := sane.clear (by rw [standing]; rfl)
      rcases ingest_cases clear standing output instant spawnOk with
        ⟨spec, observed, _, noted, same⟩ | ⟨_, same⟩ | ⟨events, pipe, acks, _, _, _, same⟩
      · rw [same]
        refine unadmitted_of_phase rfl rfl rfl rfl rfl rfl (Nat.le_add_right _ _) ?_
        rcases noted with rfl | rfl <;> rfl
      · rw [same]
        exact unadmitted_of_phase rfl rfl rfl rfl rfl rfl (Nat.le_add_right _ _) rfl
      · rw [same]
        exact unadmitted_of_phase rfl rfl rfl rfl rfl rfl (Nat.le_add_right _ _) rfl
  | _ =>
      rw [ingest, standing]
      exact daemon.unadmitted_refl

omit [Rfc3339] in
private theorem current_revokeOlderGeneration (served : Option ServeAttach) (table : LinkTable)
    (generation : Nat) :
    ((revokeOlderGeneration served table generation).1 = served ∨
        (revokeOlderGeneration served table generation).1 = none) ∧
      ((revokeOlderGeneration served table generation).2.current = table.current ∨
        (revokeOlderGeneration served table generation).2.current = none) := by
  unfold revokeOlderGeneration
  simp only
  generalize (served.bind ServeAttach.session).filter _ = older
  cases older with
  | none =>
      refine ⟨Or.inl rfl, ?_⟩
      simp only
      split
      · exact Or.inr rfl
      · exact Or.inl rfl
  | some session =>
      refine ⟨Or.inr rfl, ?_⟩
      simp only
      split
      · exact Or.inr rfl
      · exact table.current_dropSession session

omit [Rfc3339] in
/-- Taking up a rearm admits no link. -/
theorem outdate_unadmitted (daemon : Daemon) : daemon.Unadmitted daemon.outdate := by
  unfold outdate
  split
  · rename_i rearm standing
    simp only
    split
    · exact unadmitted_of_phase rfl rfl rfl rfl rfl rfl le_rfl rfl
    · obtain ⟨served, table⟩ :=
        current_revokeOlderGeneration daemon.served daemon.table rearm.generation
      exact unadmitted_of_served rfl rfl served table (List.nil_subset _) (List.nil_subset _)
        le_rfl rfl
  · exact daemon.unadmitted_refl

omit [Rfc3339] in
/-- Reaping the child admits no link. -/
theorem reap_unadmitted [UnicodeSegmentation] (daemon : Daemon) (reapOk : Bool)
    (output : ReadOutput) (spawnOk : Bool) :
    daemon.Unadmitted (daemon.reap reapOk output spawnOk) := by
  cases standing : daemon.phase with
  | reaping =>
      rcases reap_cases daemon reapOk output spawnOk standing with
        same | same | ⟨_, same⟩ | ⟨events, _, _, same⟩ <;> rw [same] <;>
        exact unadmitted_of_phase rfl rfl rfl rfl rfl rfl le_rfl rfl
  | _ =>
      rw [reap, standing]
      exact daemon.unadmitted_refl

/-- Claiming what follows admits no link. -/
theorem claimSuffix_unadmitted [UlidSupply] {daemon : Daemon} (sane : daemon.Sane) :
    daemon.Unadmitted daemon.claimSuffix := by
  cases standing : daemon.phase with
  | claiming events =>
      obtain ⟨clear, _, _⟩ := sane.clear (by rw [standing]; rfl)
      rcases claimSuffix_cases clear standing with same | ⟨pipe, acks, _, same⟩ <;> rw [same] <;>
        exact unadmitted_of_phase rfl rfl rfl rfl rfl rfl (Nat.le_add_right _ _) rfl
  | _ =>
      rw [claimSuffix, standing]
      exact daemon.unadmitted_refl

omit [Rfc3339] in
/-- Posting a message admits no link. -/
theorem post_unadmitted (daemon : Daemon) (message : Json) :
    daemon.Unadmitted { daemon with log := daemon.log ++ [message] } :=
  { daemon.unadmitted_refl with }

/-! ## Runs -/

omit [Rfc3339] in
/-- A daemon starts linked. -/
theorem start_linked [UlidSupply] (armId seatId : String) (coverageUntil : OffsetDateTime)
    (spec : WaitOnSpec) (initial : String) (log : List Json) :
    (Daemon.start armId seatId coverageUntil spec initial log).Linked where
  entered served member := by cases member
  bound served member := by cases member
  numbered entry member := by cases member
  current link present := by cases present
  promising prepared connection same := by cases same

/-- The moves that leave admissions alone are all but the two that make them. -/
theorem step_linked [UnicodeSegmentation] [UlidSupply] {daemon : Daemon} (sane : daemon.Sane)
    (linked : daemon.Linked) (move : Move) : (daemon.step move).Linked := by
  cases move with
  | acceptWaiter request instant => exact (daemon.acceptWaiter_unadmitted request instant).linked linked
  | prepare elapsed => exact prepare_linked linked elapsed
  | commit writeOk => exact commit_linked linked writeOk
  | acceptHandled request instant =>
      exact (acceptHandled_unadmitted sane.remembers request instant).linked linked
  | send => exact daemon.send_unadmitted.linked linked
  | stop => exact daemon.stop_unadmitted.linked linked
  | receive now => exact (daemon.receive_unadmitted now).linked linked
  | retain => exact daemon.retain_unadmitted.linked linked
  | supersede => exact daemon.supersede_unadmitted.linked linked
  | lease timeoutOk => exact (daemon.lease_unadmitted timeoutOk).linked linked
  | readLink => exact daemon.readLink_unadmitted.linked linked
  | flush writeOk => exact (daemon.flush_unadmitted writeOk).linked linked
  | revoke => exact daemon.revoke_unadmitted.linked linked
  | pollLease timeoutOk => exact (daemon.pollLease_unadmitted timeoutOk).linked linked
  | readResult read => exact (daemon.readResult_unadmitted read).linked linked
  | note => exact daemon.note_unadmitted.linked linked
  | tryWait poll => exact (daemon.tryWait_unadmitted poll).linked linked
  | readChildLink => exact daemon.readChildLink_unadmitted.linked linked
  | ingest output instant spawnOk =>
      exact (ingest_unadmitted sane output instant spawnOk).linked linked
  | outdate => exact daemon.outdate_unadmitted.linked linked
  | reap reapOk output spawnOk =>
      exact (daemon.reap_unadmitted reapOk output spawnOk).linked linked
  | claim => exact (claimSuffix_unadmitted sane).linked linked
  | post message => exact (daemon.post_unadmitted message).linked linked

end Daemon
end Waiter
end Gearwit
