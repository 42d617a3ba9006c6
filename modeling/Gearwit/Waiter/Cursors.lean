import Gearwit.Foundations.CursorLog
import Gearwit.Waiter.Rearm

/-!
# No provider event is skipped

The provider's log only grows, and a reply lists a leading part of what follows the
cursor it was asked for.  The daemon's cursor then moves only along pages that were
written to a waiter before they were acknowledged.
-/

namespace Gearwit
namespace Waiter

/-! ## The provider -/

/-- The reply lists a leading part of what follows the cursor in the log. -/
def ReadOutput.Follows (output : ReadOutput) (log : List Json) (after : Option String) : Prop :=
  match output.messages, after with
  | some messages, some cursor =>
      messageIds messages <+: CursorLog.following (messageIds log) (some cursor)
  | _, _ => True

instance (output : ReadOutput) (log : List Json) (after : Option String) :
    Decidable (output.Follows log after) := by
  unfold ReadOutput.Follows
  split <;> infer_instance

/-- A page the provider lists honestly follows the cursor it was drained from. -/
theorem page_of_drained [UnicodeSegmentation] {output : ReadOutput} {spec : WaitOnSpec}
    {log : List Json} {cursor : String} {events : List DrainedEvent}
    (based : spec.after = some cursor) (follows : output.Follows log spec.after)
    (drained : chanvoyDrain output spec = .ok events) :
    CursorLog.Page (messageIds log) (some cursor) ((events.map DrainedEvent.id).map some) := by
  obtain ⟨_, json, rfl, read⟩ := chanvoyDrain_ok drained
  obtain ⟨messages, page, _, nonempty, _, _, named⟩ := parseDrainedEvents_ok read
  have listed : (ReadOutput.stdout json).messages = some messages := page
  simp only [ReadOutput.Follows, listed, based] at follows
  rw [named] at follows
  rw [List.map_map]
  exact CursorLog.page_of_following follows (by simpa using nonempty)

/-- The provider appends messages that are new, and lists its log in order. -/
def Daemon.Honest (daemon : Daemon) : Move → Prop
  | .post message =>
      (message.get "id").bind Json.asStr ∉ messageIds daemon.log
  | .ingest output _ _ => output.Follows daemon.log daemon.spec.after
  | .reap _ output _ => output.Follows daemon.log daemon.spec.after
  | _ => True

instance (daemon : Daemon) : (move : Move) → Decidable (daemon.Honest move)
  | .post _ => inferInstanceAs (Decidable (¬ _))
  | .ingest output _ _ => inferInstanceAs (Decidable (output.Follows _ _))
  | .reap _ output _ => inferInstanceAs (Decidable (output.Follows _ _))
  | .acceptWaiter _ _ | .prepare _ | .commit _ | .acceptHandled _ _ | .send | .stop
  | .receive _ | .retain | .supersede | .lease _ | .readLink | .flush _ | .revoke
  | .pollLease _ | .readResult _ | .note | .tryWait _ | .readChildLink | .outdate | .claim =>
      .isTrue trivial

/-! ## What the trace records -/

/-- Cursors accepted so far, newest first. -/
def acceptedCursors : List Observation → List String
  | [] => []
  | .accepted _ cursor :: older => cursor :: acceptedCursors older
  | _ :: older => acceptedCursors older

/-- The cursor accepted last, or the initial one. -/
def lastAccepted (initial : String) (trace : List Observation) : String :=
  (acceptedCursors trace).headD initial

/-- The event was in a batch that was written. -/
def Written (trace : List Observation) (event : String) : Prop :=
  ∃ connection message, Observation.wrote connection message ∈ trace ∧
    event ∈ message.events.map ProviderEvent.eventRef

/-- Entries of the log, with the identifiers of the messages. -/
abbrev Daemon.ids (daemon : Daemon) : List (Option String) := messageIds daemon.log

/-- Every wait and every drain went on from the cursor accepted last, and every
accepted cursor ended a page that was written before. -/
def Accountable (ids : List (Option String)) (initial : String) : List Observation → Prop
  | [] => True
  | observation :: older =>
      Accountable ids initial older ∧
        match observation with
        | .spawned spec => spec.after = some (lastAccepted initial older)
        | .drained spec => spec.after = some (lastAccepted initial older)
        | .accepted _ cursor =>
            ∃ between : List String,
              CursorLog.Page ids (some (lastAccepted initial older))
                (between.map some ++ [some cursor]) ∧
              ∀ event ∈ between ++ [cursor], Written older event
        | _ => True

/-- An observation that neither starts coverage nor accepts a cursor. -/
def Observation.quiet : Observation → Bool
  | .spawned _ | .drained _ | .accepted _ _ => false
  | _ => true

/-- Quiet observations accept no cursor. -/
theorem acceptedCursors_quiet {recent : List Observation}
    (quiet : ∀ observation ∈ recent, observation.quiet = true) (older : List Observation) :
    acceptedCursors (recent ++ older) = acceptedCursors older := by
  induction recent with
  | nil => rfl
  | cons observation rest inductionHypothesis =>
      have still := inductionHypothesis fun other member =>
        quiet other (List.mem_cons_of_mem _ member)
      have silent := quiet observation List.mem_cons_self
      cases observation <;> first | exact still | cases silent

/-- Quiet observations keep the last accepted cursor. -/
theorem lastAccepted_quiet {recent : List Observation}
    (quiet : ∀ observation ∈ recent, observation.quiet = true) (initial : String)
    (older : List Observation) :
    lastAccepted initial (recent ++ older) = lastAccepted initial older := by
  rw [lastAccepted, lastAccepted, acceptedCursors_quiet quiet]

/-- Quiet observations keep a trace accountable. -/
theorem accountable_quiet {ids : List (Option String)} {initial : String}
    {recent older : List Observation}
    (quiet : ∀ observation ∈ recent, observation.quiet = true)
    (accountable : Accountable ids initial older) :
    Accountable ids initial (recent ++ older) := by
  induction recent with
  | nil => exact accountable
  | cons observation rest inductionHypothesis =>
      have still := inductionHypothesis fun other member =>
        quiet other (List.mem_cons_of_mem _ member)
      have silent := quiet observation List.mem_cons_self
      refine ⟨still, ?_⟩
      cases observation <;> trivial

/-- A trace stays accountable as the log grows. -/
theorem Accountable.grow {ids : List (Option String)} {initial : String}
    {trace : List Observation} (accountable : Accountable ids initial trace)
    (more : List (Option String)) : Accountable (ids ++ more) initial trace := by
  induction trace with
  | nil => trivial
  | cons observation older inductionHypothesis =>
      refine ⟨inductionHypothesis accountable.1, ?_⟩
      have noted := accountable.2
      cases observation with
      | accepted signalId cursor =>
          obtain ⟨between, page, written⟩ := noted
          exact ⟨between, page.grow more, written⟩
      | _ => exact noted

/-- The part of the trace before any observation is accountable. -/
theorem Accountable.older {ids : List (Option String)} {initial : String}
    {newer older : List Observation} (accountable : Accountable ids initial (newer ++ older)) :
    Accountable ids initial older := by
  induction newer with
  | nil => exact accountable
  | cons observation rest inductionHypothesis => exact inductionHypothesis accountable.1

/-- What was written stays written. -/
theorem Written.mono {trace more : List Observation} {event : String}
    (written : Written trace event) (subset : trace ⊆ more) : Written more event := by
  obtain ⟨connection, message, wrote, member⟩ := written
  exact ⟨connection, message, subset wrote, member⟩

/-- An accountable trace consumed the log up to its last cursor, and all of it was
written. -/
theorem Accountable.consumed {ids : List (Option String)} {initial : String}
    {trace : List Observation} (accountable : Accountable ids initial trace) :
    ∃ shown : List String,
      CursorLog.Consumed ids (some initial) (some (lastAccepted initial trace))
        (shown.map some) ∧
      ∀ event ∈ shown, Written trace event := by
  induction trace with
  | nil => exact ⟨[], .start, nofun⟩
  | cons observation older inductionHypothesis =>
      obtain ⟨shown, consumed, written⟩ := inductionHypothesis accountable.1
      have kept : ∀ event ∈ shown, Written (observation :: older) event := fun event member =>
        (written event member).mono (List.subset_cons_self _ _)
      have noted := accountable.2
      cases observation with
      | accepted signalId cursor =>
          obtain ⟨between, page, covered⟩ := noted
          refine ⟨shown ++ (between ++ [cursor]), ?_, ?_⟩
          · rw [List.map_append, List.map_append]
            exact .accept consumed page
          · intro event member
            rcases List.mem_append.1 member with earlier | later
            · exact kept event earlier
            · exact (covered event later).mono (List.subset_cons_self _ _)
      | _ => exact ⟨shown, consumed, kept⟩

/-- What is resumed is not claiming a page. -/
theorem Resume.phase_ne_claiming (resume : Resume) (events : List DrainedEvent) :
    resume.phase ≠ .claiming events := by
  cases resume <;> nofun

/-- What is resumed holds no rearm. -/
theorem Resume.rearms_resumed (resume : Resume) (lost : Bool) :
    (if lost then Phase.revoking true resume else resume.phase).rearms = [] := by
  cases lost
  · exact resume.rearms_phase
  · rfl

namespace Daemon

/-! ## Moves that touch no cursor -/

/-- A move that starts no coverage, accepts no cursor and drains no page. -/
structure Untracked (before after : Daemon) : Prop where
  spec : after.spec = before.spec
  log : after.log = before.log
  trace : ∃ recent, (∀ observation ∈ recent, Observation.quiet observation = true) ∧
    after.trace = recent ++ before.trace
  claiming : ∀ events, after.phase = .claiming events → before.phase = .claiming events

/-- Doing nothing touches no cursor. -/
theorem untracked_refl (daemon : Daemon) : daemon.Untracked daemon :=
  ⟨rfl, rfl, ⟨[], nofun, rfl⟩, fun _ same => same⟩

/-- A move of the accept thread. -/
private theorem untracked_of_phase {before after : Daemon} (spec : after.spec = before.spec)
    (log : after.log = before.log) (trace : after.trace = before.trace)
    (phase : after.phase = before.phase) : before.Untracked after :=
  ⟨spec, log, ⟨[], nofun, trace⟩, fun _ same => phase ▸ same⟩

/-- A move of the main loop to a phase without a page. -/
private theorem untracked_of_trace {before after : Daemon} (spec : after.spec = before.spec)
    (log : after.log = before.log) (trace : after.trace = before.trace)
    (pageless : ∀ events, after.phase ≠ .claiming events) : before.Untracked after :=
  ⟨spec, log, ⟨[], nofun, trace⟩, fun events same => absurd same (pageless events)⟩

/-- Accepting a waiter touches no cursor. -/
theorem acceptWaiter_untracked (daemon : Daemon) (request : WaiterLink)
    (instant : OffsetDateTime) : daemon.Untracked (daemon.acceptWaiter request instant) := by
  unfold acceptWaiter
  split <;> exact untracked_of_phase rfl rfl rfl rfl

/-- Sending touches no cursor. -/
theorem send_untracked (daemon : Daemon) : daemon.Untracked daemon.send := by
  unfold send
  split <;> exact untracked_of_phase rfl rfl rfl rfl

/-- Stopping touches no cursor. -/
theorem stop_untracked (daemon : Daemon) : daemon.Untracked daemon.stop := by
  unfold stop
  split <;> exact untracked_of_phase rfl rfl rfl rfl

/-- Committing an attachment touches no cursor. -/
theorem commit_untracked (daemon : Daemon) (writeOk : Bool) :
    daemon.Untracked (daemon.commit writeOk) := by
  unfold commit
  split
  · simp only
    split
    · exact untracked_of_phase rfl rfl rfl rfl
    · rename_i served _
      cases served.session with
      | none => exact untracked_of_phase rfl rfl rfl rfl
      | some session =>
          refine ⟨rfl, rfl, ⟨[.admitted _ session], ?_, rfl⟩, fun _ same => same⟩
          intro observation member
          rw [List.mem_singleton.1 member]
          rfl
  · exact daemon.untracked_refl

/-- Receiving an event touches no cursor. -/
theorem receive_untracked (daemon : Daemon) (now : OffsetDateTime) :
    daemon.Untracked (daemon.receive now) := by
  unfold receive
  split
  · split
    · exact untracked_of_trace rfl rfl rfl nofun
    split
    · exact untracked_of_trace rfl rfl rfl nofun
    · exact untracked_of_trace rfl rfl rfl nofun
    · split <;> exact untracked_of_trace rfl rfl rfl nofun
  · exact daemon.untracked_refl

/-- Retaining an attachment touches no cursor. -/
theorem retain_untracked (daemon : Daemon) : daemon.Untracked daemon.retain := by
  unfold retain
  split
  · split
    · refine untracked_of_trace rfl rfl rfl fun events => ?_
      simp only
      split <;> nofun
    · exact untracked_of_trace rfl rfl rfl nofun
  · exact daemon.untracked_refl

/-- Setting a lease touches no cursor. -/
theorem lease_untracked (daemon : Daemon) (timeoutOk : Bool) :
    daemon.Untracked (daemon.lease timeoutOk) := by
  unfold lease
  split
  · refine untracked_of_trace rfl rfl rfl fun events => ?_
    simp only
    split <;> nofun
  · exact daemon.untracked_refl

/-- Reading the link touches no cursor. -/
theorem readLink_untracked (daemon : Daemon) : daemon.Untracked daemon.readLink := by
  unfold readLink
  split
  · exact untracked_of_trace rfl rfl rfl nofun
  · exact daemon.untracked_refl

/-- Polling the lease touches no cursor. -/
theorem pollLease_untracked (daemon : Daemon) (timeoutOk : Bool) :
    daemon.Untracked (daemon.pollLease timeoutOk) := by
  unfold pollLease
  split
  · split
    · exact untracked_of_trace rfl rfl rfl nofun
    · simp only
      split
      · split <;> exact untracked_of_trace rfl rfl rfl nofun
      · split <;> exact untracked_of_trace rfl rfl rfl nofun
  · exact daemon.untracked_refl

/-- Noting a result touches no cursor. -/
theorem note_untracked (daemon : Daemon) : daemon.Untracked daemon.note := by
  unfold note
  split
  · exact untracked_of_trace rfl rfl rfl nofun
  · exact daemon.untracked_refl

/-- Polling the child touches no cursor. -/
theorem tryWait_untracked (daemon : Daemon) (poll : ChildPoll) :
    daemon.Untracked (daemon.tryWait poll) := by
  unfold tryWait
  split
  · split
    · exact untracked_of_trace rfl rfl rfl nofun
    · split <;> exact untracked_of_trace rfl rfl rfl nofun
  · exact daemon.untracked_refl

/-- Reading the link of the child touches no cursor. -/
theorem readChildLink_untracked (daemon : Daemon) :
    daemon.Untracked daemon.readChildLink := by
  unfold readChildLink
  split
  · exact untracked_of_trace rfl rfl rfl nofun
  · exact daemon.untracked_refl

variable [Rfc3339]

/-- Preparing an attachment touches no cursor. -/
theorem prepare_untracked [UlidSupply] (daemon : Daemon) (elapsed : Nat) :
    daemon.Untracked (daemon.prepare elapsed) := by
  unfold prepare
  split
  · simp only
    split <;> exact untracked_of_phase rfl rfl rfl rfl
  · exact daemon.untracked_refl

/-- Superseding a link touches no cursor. -/
theorem supersede_untracked (daemon : Daemon) : daemon.Untracked daemon.supersede := by
  unfold supersede
  split
  · exact untracked_of_trace rfl rfl rfl nofun
  · exact daemon.untracked_refl

/-- Revoking a link touches no cursor. -/
theorem revoke_untracked (daemon : Daemon) : daemon.Untracked daemon.revoke := by
  unfold revoke
  split
  · rename_i markLost resume _
    exact untracked_of_trace rfl rfl rfl fun events => resume.phase_ne_claiming events
  · exact daemon.untracked_refl

/-- Reading a result touches no cursor. -/
theorem readResult_untracked (daemon : Daemon) (read : ReadResult) :
    daemon.Untracked (daemon.readResult read) := by
  unfold readResult
  split
  · split
    · exact untracked_of_trace rfl rfl rfl nofun
    · exact untracked_of_trace rfl rfl rfl nofun
    · rename_i result
      refine ⟨rfl, rfl, ⟨_, ?_, rfl⟩, fun events => ?_⟩
      · intro observation member
        unfold resultRecorded at member
        split at member
        · rw [List.mem_singleton.1 member]
          rfl
        · cases member
      · simp only
        split <;> nofun
  · exact daemon.untracked_refl

/-- Flushing touches no cursor. -/
theorem flush_untracked [UlidSupply] (daemon : Daemon) (writeOk : Bool) :
    daemon.Untracked (daemon.flush writeOk) := by
  unfold flush
  split
  · rename_i link resume _
    split
    · exact untracked_of_trace rfl rfl rfl fun events => resume.phase_ne_claiming events
    · rename_i served _
      simp only
      refine ⟨rfl, rfl, ⟨_, ?_, rfl⟩, fun events => ?_⟩
      · intro observation member
        obtain ⟨message, _, rfl⟩ := Option.map_eq_some_iff.1 (Option.mem_toList.1 member)
        rfl
      · simp only
        split
        · nofun
        · exact fun same => absurd same (resume.phase_ne_claiming events)
  · exact daemon.untracked_refl

/-! ## The invariant -/

omit [Rfc3339] in
/-- The cursor of coverage is the one accepted last, also while its rearm is on the
way, and the live page follows it. -/
structure Followed (initial : String) (daemon : Daemon) : Prop where
  distinct : daemon.ids.Nodup
  accountable : Accountable daemon.ids initial daemon.trace
  based : daemon.outstanding = [] →
    daemon.spec.after = some (lastAccepted initial daemon.trace)
  accepted : ∀ rearm ∈ daemon.outstanding, rearm.after = lastAccepted initial daemon.trace
  page : ∀ live, daemon.pipe.claim = some live → daemon.outstanding = [] →
    CursorLog.Page daemon.ids (some (lastAccepted initial daemon.trace))
      (live.eventRefs.map some)
  drained : ∀ events, daemon.phase = .claiming events →
    CursorLog.Page daemon.ids (some (lastAccepted initial daemon.trace))
      ((events.map DrainedEvent.id).map some)

omit [Rfc3339] in
/-- A move that touches no cursor keeps the cursor followed. -/
theorem Untracked.followed {before after : Daemon} (same : before.Untracked after)
    (outstanding : after.outstanding = before.outstanding)
    (claim : after.pipe.claim = before.pipe.claim) {initial : String}
    (followed : before.Followed initial) : after.Followed initial := by
  obtain ⟨recent, quiet, trace⟩ := same.trace
  have last : lastAccepted initial after.trace = lastAccepted initial before.trace := by
    rw [trace]
    exact lastAccepted_quiet quiet initial before.trace
  have ids : after.ids = before.ids := by rw [ids, same.log]
  refine ⟨by rw [ids]; exact followed.distinct, ?_, ?_, ?_, ?_, ?_⟩
  · rw [ids, trace]
    exact accountable_quiet quiet followed.accountable
  · rw [outstanding, same.spec, last]
    exact followed.based
  · rw [outstanding, last]
    exact followed.accepted
  · rw [claim, outstanding, ids, last]
    exact followed.page
  · intro events standing
    rw [ids, last]
    exact followed.drained events (same.claiming events standing)

omit [Rfc3339] in
/-- A move that leaves coverage where it is and touches no cursor. -/
theorem Undisturbed.followed {before after : Daemon} (same : before.Undisturbed after)
    (untracked : before.Untracked after) {initial : String}
    (followed : before.Followed initial) : after.Followed initial :=
  untracked.followed same.outstanding same.pipe.claim followed

/-- Flushing keeps the cursor followed. -/
theorem flush_followed [UlidSupply] {daemon : Daemon} {initial : String}
    (followed : daemon.Followed initial) (writeOk : Bool) :
    (daemon.flush writeOk).Followed initial := by
  refine (daemon.flush_untracked writeOk).followed ?_ ?_ followed
  · unfold flush
    split
    · rename_i link resume standing
      split
      · simp only [outstanding, standing, resume.rearms_phase]
        rfl
      · simp only [outstanding, standing, resume.rearms_resumed]
        rfl
    · rfl
  · unfold flush
    split
    · split
      · rfl
      · exact (flushAttached_kept _ _ _ _ _ _).claim
    · rfl

omit [Rfc3339] in
/-- Polling the child keeps the cursor followed. -/
theorem tryWait_followed {daemon : Daemon} {initial : String}
    (followed : daemon.Followed initial) (poll : ChildPoll) :
    (daemon.tryWait poll).Followed initial := by
  refine (daemon.tryWait_untracked poll).followed ?_ ?_ followed
  · unfold tryWait
    split
    · rename_i standing
      split
      · simp [outstanding, standing, Phase.rearms]
      · split <;> simp [outstanding, standing, Phase.rearms]
    · rfl
  · unfold tryWait
    split
    · split
      · rfl
      · split <;> rfl
    · rfl

omit [Rfc3339] in
/-- A new message at the end of the log changes nothing that was followed. -/
theorem post_followed {daemon : Daemon} {initial : String} (followed : daemon.Followed initial)
    {message : Json} (fresh : (message.get "id").bind Json.asStr ∉ daemon.ids) :
    ({ daemon with log := daemon.log ++ [message] } : Daemon).Followed initial := by
  have grown : ({ daemon with log := daemon.log ++ [message] } : Daemon).ids =
      daemon.ids ++ [(message.get "id").bind Json.asStr] := by
    simp [ids, messageIds]
  refine ⟨?_, ?_, followed.based, followed.accepted, ?_, ?_⟩
  · rw [grown, List.nodup_append]
    refine ⟨followed.distinct, List.nodup_singleton _, ?_⟩
    intro id member other single same
    rw [List.mem_singleton.1 single] at same
    exact fresh (same ▸ member)
  · rw [grown]
    exact followed.accountable.grow _
  · intro live claimed quiet
    rw [grown]
    exact (followed.page live claimed quiet).grow _
  · intro events standing
    rw [grown]
    exact (followed.drained events standing).grow _

/-- Accepting a cursor ends a page that was written. -/
theorem acceptHandled_followed [UlidSupply] {daemon : Daemon} {initial : String}
    (sane : daemon.Sane) (followed : daemon.Followed initial) (request : HandledCursor)
    (instant : OffsetDateTime) : (daemon.acceptHandled request instant).Followed initial := by
  rcases acceptHandled_cases sane.remembers request instant with
    same | ⟨standing, acks, _, _, _, same⟩ | ⟨standing, message, arm, batch, acceptable, _, same⟩
  · rw [same]
    exact followed
  · rw [same]
    have tracked : daemon.Untracked { daemon with acks, acceptor := .idle } :=
      untracked_of_phase rfl rfl rfl rfl
    refine tracked.followed ?_ rfl followed
    simp [outstanding, standing, Acceptor.rearms]
  · rw [same]
    obtain ⟨live, holds, _, _, member, ⟨connection, written, wrote, _, events⟩, quiet, _⟩ :=
      sane.custody.acceptable acceptable
    obtain ⟨between, rest, split⟩ := List.append_of_mem member
    have page := followed.page live holds.claimed quiet
    have pending : ({ daemon with
        acks := daemon.acks.accepting message instant arm batch
        acceptor := .sending (.coverageRearm
          ⟨message.cursor, arm.generation + 1, message.signalId⟩)
        trace := .accepted message.signalId message.cursor :: daemon.trace } :
          Daemon).outstanding = [⟨message.cursor, arm.generation + 1, message.signalId⟩] := by
      simp only [outstanding, List.append_eq_nil_iff] at quiet ⊢
      simp [quiet.1.1, quiet.1.2, Acceptor.rearms]
    refine ⟨followed.distinct, ⟨followed.accountable, between, ?_, ?_⟩, ?_, ?_, ?_, ?_⟩
    · rw [split, show between ++ message.cursor :: rest = (between ++ [message.cursor]) ++ rest
        by simp, List.map_append, List.map_append] at page
      exact page.of_append
    · intro event covered
      refine ⟨connection, written, wrote, ?_⟩
      rw [events, ← holds.listed, split]
      rcases List.mem_append.1 covered with earlier | last
      · exact List.mem_append_left _ earlier
      · rw [List.mem_singleton.1 last]
        exact List.mem_append_right _ List.mem_cons_self
    · intro none
      rw [pending] at none
      cases none
    · intro rearm member
      rw [pending, List.mem_singleton] at member
      rw [member]
      rfl
    · intro other _ none
      rw [pending] at none
      cases none
    · intro events claiming
      have between : daemon.phase.stage = .between := by rw [claiming]; rfl
      exact absurd between holds.settled

omit [Rfc3339] in
/-- Applying a rearm sets the cursor that was accepted last. -/
theorem outdate_followed [UlidSupply] {daemon : Daemon} {initial : String}
    (sane : daemon.Sane) (followed : daemon.Followed initial) :
    daemon.outdate.Followed initial := by
  cases standing : daemon.phase with
  | rearming rearm =>
      obtain ⟨live, holds, bound, closed, generation, _, queued, sent⟩ :=
        sane.custody.rearming standing
      have last := followed.accepted rearm (by simp [outstanding, standing, Phase.rearms])
      rw [outdate_eq standing generation]
      refine ⟨followed.distinct, followed.accountable, fun _ => congrArg some last, ?_, (by intros; contradiction),
        (by intros; contradiction)⟩
      intro other member
      simp [outstanding, Phase.rearms, queued, sent] at member
  | _ =>
      rw [outdate, standing]
      exact followed

omit [Rfc3339] in
/-- Draining after a rearm goes on from the accepted cursor. -/
theorem reap_followed [UnicodeSegmentation] [UlidSupply] {daemon : Daemon} {initial : String}
    (sane : daemon.Sane) (followed : daemon.Followed initial) (reapOk : Bool)
    (output : ReadOutput) (spawnOk : Bool)
    (follows : output.Follows daemon.log daemon.spec.after) :
    (daemon.reap reapOk output spawnOk).Followed initial := by
  cases standing : daemon.phase with
  | reaping =>
      obtain ⟨clear, quiet, childless⟩ := sane.clear (by rw [standing]; rfl)
      have based := followed.based quiet
      have moved (child : Option WaitOnSpec) (trace : List Observation) (phase : Phase)
          (rearms : phase.rearms = [])
          (accountable : Accountable daemon.ids initial trace)
          (last : lastAccepted initial trace = lastAccepted initial daemon.trace)
          (drained : ∀ events, phase = .claiming events →
            CursorLog.Page daemon.ids (some (lastAccepted initial daemon.trace))
              ((events.map DrainedEvent.id).map some)) :
          ({ daemon with child, trace, phase } : Daemon).Followed initial := by
        have none : ({ daemon with child, trace, phase } : Daemon).outstanding = [] := by
          simp only [outstanding, List.append_eq_nil_iff] at quiet ⊢
          exact ⟨⟨rearms, quiet.1.2⟩, quiet.2⟩
        refine ⟨followed.distinct, accountable, fun _ => by rw [last]; exact based, ?_, ?_, ?_⟩
        · intro rearm member
          rw [none] at member
          cases member
        · intro live claimed
          rw [clear.pipe] at claimed
          cases claimed
        · intro events same
          rw [last]
          exact drained events same
      rcases reap_cases daemon reapOk output spawnOk standing with
        same | same | ⟨_, same⟩ | ⟨events, drained, _, same⟩
      · rw [same]
        exact moved _ _ _ rfl followed.accountable rfl (by intros; contradiction)
      · rw [same]
        exact moved _ _ _ rfl ⟨followed.accountable, based⟩ rfl (by intros; contradiction)
      · rw [same]
        exact moved _ _ _ rfl ⟨⟨followed.accountable, based⟩, based⟩ rfl (by intros; contradiction)
      · rw [same]
        refine moved _ _ _ rfl ⟨followed.accountable, based⟩ rfl fun others listed => ?_
        cases listed
        exact page_of_drained based follows drained
  | _ =>
      rw [reap, standing]
      exact followed

/-- A claimed page follows the accepted cursor. -/
private theorem claimed_followed [UlidSupply] {before after : Daemon} {initial : String}
    (followed : before.Followed initial) {request : IngestRequest}
    {events : List DrainedEvent} (quiet : before.outstanding = [])
    (claimed : before.Claimed request events after.pipe after.acks)
    (page : CursorLog.Page before.ids (some (lastAccepted initial before.trace))
      ((events.map DrainedEvent.id).map some))
    (spec : after.spec = before.spec) (log : after.log = before.log)
    (queue : after.queue = before.queue) (acceptor : after.acceptor = before.acceptor)
    (rearms : after.phase.rearms = []) (pageless : ∀ events, after.phase ≠ .claiming events)
    (accountable : Accountable before.ids initial after.trace)
    (last : lastAccepted initial after.trace = lastAccepted initial before.trace) :
    after.Followed initial := by
  have none : after.outstanding = [] := by
    simp only [outstanding, List.append_eq_nil_iff] at quiet ⊢
    rw [queue, acceptor]
    exact ⟨⟨rearms, quiet.1.2⟩, quiet.2⟩
  have ids : after.ids = before.ids := by rw [ids, log]
  refine ⟨by rw [ids]; exact followed.distinct, by rw [ids]; exact accountable, ?_, ?_, ?_,
    fun events same => absurd same (pageless events)⟩
  · intro _
    rw [spec, last]
    exact followed.based quiet
  · intro rearm member
    rw [none] at member
    cases member
  · intro live same _
    rw [claimed.claim, Option.some.injEq] at same
    rw [ids, last, ← same]
    exact page

/-- Claiming a drained page follows the accepted cursor. -/
theorem claimSuffix_followed [UlidSupply] {daemon : Daemon} {initial : String}
    (sane : daemon.Sane) (followed : daemon.Followed initial) :
    daemon.claimSuffix.Followed initial := by
  cases standing : daemon.phase with
  | claiming events =>
      obtain ⟨clear, quiet, childless⟩ := sane.clear (by rw [standing]; rfl)
      rcases claimSuffix_cases clear standing with same | ⟨pipe, acks, claimed, same⟩
      · rw [same]
        have tracked : daemon.Untracked
            { daemon with minted := daemon.minted + 2, phase := .halted } :=
          untracked_of_trace rfl rfl rfl (by intro _ same; cases same)
        exact tracked.followed (by simp [outstanding, standing, Phase.rearms]) rfl followed
      · rw [same]
        exact claimed_followed followed quiet claimed (followed.drained events standing) rfl rfl
          rfl rfl rfl (by intro _ same; cases same) ⟨followed.accountable, trivial⟩ rfl
  | _ =>
      rw [claimSuffix, standing]
      exact followed

/-- Ingesting an exited child goes on from the accepted cursor. -/
theorem ingest_followed [UnicodeSegmentation] [UlidSupply] {daemon : Daemon}
    {initial : String} (sane : daemon.Sane) (followed : daemon.Followed initial)
    (output : ReadOutput) (instant : OffsetDateTime) (spawnOk : Bool)
    (follows : output.Follows daemon.log daemon.spec.after) :
    (daemon.ingest output instant spawnOk).Followed initial := by
  cases standing : daemon.phase with
  | ingesting wait link =>
      obtain ⟨clear, quiet, childless⟩ := sane.clear (by rw [standing]; rfl)
      have based := followed.based quiet
      have rebased : daemon.rebased.after = some (lastAccepted initial daemon.trace) := by
        simp [Daemon.rebased, based]
      have moved (spec : WaitOnSpec) (child : Option WaitOnSpec) (trace : List Observation)
          (phase : Phase) (rearms : phase.rearms = [])
          (pageless : ∀ events, phase ≠ .claiming events)
          (accountable : Accountable daemon.ids initial trace)
          (last : lastAccepted initial trace = lastAccepted initial daemon.trace)
          (after : spec.after = some (lastAccepted initial daemon.trace)) :
          ({ daemon with
            spec, child, trace, phase
            minted := daemon.minted + 2 } : Daemon).Followed initial := by
        have none : ({ daemon with
            spec, child, trace, phase
            minted := daemon.minted + 2 } : Daemon).outstanding = [] := by
          simp only [outstanding, List.append_eq_nil_iff] at quiet ⊢
          exact ⟨⟨rearms, quiet.1.2⟩, quiet.2⟩
        refine ⟨followed.distinct, accountable, fun _ => by rw [last]; exact after, ?_, ?_,
          fun events same => absurd same (pageless events)⟩
        · intro rearm member
          rw [none] at member
          cases member
        · intro live claimed
          rw [clear.pipe] at claimed
          cases claimed
      rcases ingest_cases clear standing output instant spawnOk with
        ⟨spec, observed, named, noted, same⟩ | ⟨_, same⟩ |
          ⟨events, pipe, acks, drained, _, claimed, same⟩
      · rw [same]
        have after : spec.after = some (lastAccepted initial daemon.trace) := by
          rcases named with rfl | rfl
          · exact based
          · exact rebased
        rcases noted with rfl | rfl
        · exact moved _ _ _ _ rfl (by intro _ same; cases same) followed.accountable rfl after
        · exact moved _ _ _ _ rfl (by intro _ same; cases same) ⟨followed.accountable, based⟩ rfl after
      · rw [same]
        exact moved _ _ _ _ rfl (by intro _ same; cases same) ⟨followed.accountable, rebased⟩ rfl rebased
      · rw [same]
        exact claimed_followed followed quiet claimed (page_of_drained based follows drained)
          rfl rfl rfl rfl rfl (by intro _ same; cases same) ⟨⟨followed.accountable, based⟩, trivial⟩ rfl
  | _ =>
      rw [ingest, standing]
      exact followed

/-! ## Runs -/

omit [Rfc3339] in
/-- A daemon starts with its cursor followed. -/
theorem start_followed (armId seatId : String) (coverageUntil : OffsetDateTime)
    (spec : WaitOnSpec) (initial : String) {log : List Json}
    (distinct : (messageIds log).Nodup) :
    (Daemon.start armId seatId coverageUntil spec initial log).Followed initial where
  distinct := distinct
  accountable := ⟨trivial, rfl⟩
  based _ := rfl
  accepted rearm member := by cases member
  page live claimed := by cases claimed
  drained events standing := by cases standing

/-- Every move with an honest provider keeps the cursor followed. -/
theorem step_followed [UnicodeSegmentation] [UlidSupply] {daemon : Daemon} {initial : String}
    (sane : daemon.Sane) (followed : daemon.Followed initial) {move : Move}
    (honest : daemon.Honest move) : (daemon.step move).Followed initial := by
  cases move with
  | acceptWaiter request instant =>
      exact (daemon.acceptWaiter_undisturbed request instant).followed
        (daemon.acceptWaiter_untracked request instant) followed
  | prepare elapsed =>
      exact (daemon.prepare_undisturbed elapsed).followed (daemon.prepare_untracked elapsed)
        followed
  | commit writeOk =>
      exact (daemon.commit_undisturbed writeOk).followed (daemon.commit_untracked writeOk)
        followed
  | acceptHandled request instant => exact acceptHandled_followed sane followed request instant
  | send => exact daemon.send_undisturbed.followed daemon.send_untracked followed
  | stop => exact daemon.stop_undisturbed.followed daemon.stop_untracked followed
  | receive now =>
      exact (daemon.receive_undisturbed now).followed (daemon.receive_untracked now) followed
  | retain => exact daemon.retain_undisturbed.followed daemon.retain_untracked followed
  | supersede => exact daemon.supersede_undisturbed.followed daemon.supersede_untracked followed
  | lease timeoutOk =>
      exact (daemon.lease_undisturbed timeoutOk).followed (daemon.lease_untracked timeoutOk)
        followed
  | readLink => exact daemon.readLink_undisturbed.followed daemon.readLink_untracked followed
  | flush writeOk => exact flush_followed followed writeOk
  | revoke => exact daemon.revoke_undisturbed.followed daemon.revoke_untracked followed
  | pollLease timeoutOk =>
      exact (daemon.pollLease_undisturbed timeoutOk).followed
        (daemon.pollLease_untracked timeoutOk) followed
  | readResult read =>
      exact (daemon.readResult_undisturbed read).followed (daemon.readResult_untracked read)
        followed
  | note => exact daemon.note_undisturbed.followed daemon.note_untracked followed
  | tryWait poll => exact tryWait_followed followed poll
  | readChildLink =>
      exact daemon.readChildLink_undisturbed.followed daemon.readChildLink_untracked followed
  | ingest output instant spawnOk =>
      exact ingest_followed sane followed output instant spawnOk honest
  | outdate => exact outdate_followed sane followed
  | reap reapOk output spawnOk =>
      exact reap_followed sane followed reapOk output spawnOk honest
  | claim => exact claimSuffix_followed sane followed
  | post message => exact post_followed followed honest

/-- Every run with an honest provider keeps the cursor followed. -/
theorem run_followed [UnicodeSegmentation] [UlidSupply] {daemon : Daemon} {initial : String}
    (sane : daemon.Sane) (followed : daemon.Followed initial) {moves : List Move}
    (honest : Transition.Along step Honest daemon moves) :
    (Transition.run step daemon moves).Sane ∧
      (Transition.run step daemon moves).Followed initial :=
  Transition.invariant_along (fun daemon => daemon.Sane ∧ daemon.Followed initial)
    (fun _ _ honest held => ⟨step_sane held.1 _, step_followed held.1 held.2 honest⟩)
    ⟨sane, followed⟩ honest

end Daemon

/-! ## Nothing is skipped -/

/-- Accepted cursors move forward in the log. -/
theorem Accountable.increasing {ids : List (Option String)} {initial : String}
    {trace : List Observation} (distinct : ids.Nodup)
    (accountable : Accountable ids initial trace) :
    (acceptedCursors trace ++ [initial]).Pairwise fun later earlier =>
      CursorLog.Before ids (some earlier) (some later) := by
  induction trace with
  | nil => exact List.pairwise_singleton _ _
  | cons observation older inductionHypothesis =>
      have sorted := inductionHypothesis accountable.1
      cases observation with
      | accepted signalId cursor =>
          obtain ⟨between, page, _⟩ := accountable.2
          have ahead := page.before
          rw [acceptedCursors, List.cons_append, List.pairwise_cons]
          refine ⟨fun earlier member => ?_, sorted⟩
          cases accepted : acceptedCursors older with
          | nil =>
              simp only [accepted, List.nil_append, List.mem_singleton] at member
              simpa [lastAccepted, accepted, member] using ahead
          | cons last rest =>
              have last_eq : lastAccepted initial older = last := by
                simp [lastAccepted, accepted]
              rw [last_eq] at ahead
              rw [accepted, List.cons_append, List.pairwise_cons] at sorted
              rw [accepted, List.cons_append, List.mem_cons] at member
              rcases member with rfl | member
              · exact ahead
              · exact (sorted.1 earlier member).trans distinct ahead
      | _ => exact sorted

/-- Everything up to an accepted cursor was written before it was accepted. -/
theorem Accountable.covered {ids : List (Option String)} {initial : String}
    {older : List Observation} {signalId cursor event : String} (distinct : ids.Nodup)
    (accountable : Accountable ids initial (.accepted signalId cursor :: older))
    (later : CursorLog.Before ids (some initial) (some event))
    (within : event = cursor ∨ CursorLog.Before ids (some event) (some cursor)) :
    Written older event := by
  obtain ⟨shown, consumed, written⟩ := accountable.1.consumed
  obtain ⟨between, page, covered⟩ := accountable.2
  have whole := CursorLog.Consumed.accept consumed page
  have member := whole.shown_of_between distinct later (within.imp_left (congrArg some))
    (by simp)
  rw [List.mem_append] at member
  rcases member with earlier | last
  · obtain ⟨other, listed, same⟩ := List.mem_map.1 earlier
    cases same
    exact written event listed
  · rw [show between.map some ++ [some cursor] = (between ++ [cursor]).map some by simp] at last
    obtain ⟨other, listed, same⟩ := List.mem_map.1 last
    cases same
    exact covered event listed

variable [Rfc3339] [UnicodeSegmentation] [UlidSupply]

/-- In every run against an honest provider: accepted cursors move forward in the log,
every wait and drain goes on from the cursor accepted last, exactly one of a running
wait and a live claim covers between iterations, and everything up to an accepted
cursor was written to a waiter before. -/
theorem no_event_skipped (armId seatId : String) (coverageUntil : OffsetDateTime)
    (spec : WaitOnSpec) (initial : String) {log : List Json}
    (distinct : (messageIds log).Nodup) {moves : List Move}
    (honest : Transition.Along Daemon.step Daemon.Honest
      (Daemon.start armId seatId coverageUntil spec initial log) moves) :
    let daemon := Transition.run Daemon.step
      (Daemon.start armId seatId coverageUntil spec initial log) moves
    ((acceptedCursors daemon.trace ++ [initial]).Pairwise fun later earlier =>
      CursorLog.Before daemon.ids (some earlier) (some later)) ∧
    (∀ newer older started, daemon.trace = newer ++ .spawned started :: older →
      started.after = some (lastAccepted initial older)) ∧
    (∀ newer older read, daemon.trace = newer ++ .drained read :: older →
      read.after = some (lastAccepted initial older)) ∧
    (daemon.phase = .top →
      (daemon.child.isSome ∧ daemon.pipe.claim = none) ∨
        (daemon.child = none ∧ daemon.pipe.claim.isSome)) ∧
    ∀ newer older signalId cursor event,
      daemon.trace = newer ++ .accepted signalId cursor :: older →
        CursorLog.Before daemon.ids (some initial) (some event) →
          event = cursor ∨ CursorLog.Before daemon.ids (some event) (some cursor) →
            Written older event := by
  intro daemon
  obtain ⟨sane, followed⟩ := Daemon.run_followed
    (Daemon.start_sane armId seatId coverageUntil spec initial log)
    (Daemon.start_followed armId seatId coverageUntil spec initial distinct) honest
  have since {newer older : List Observation} (split : daemon.trace = newer ++ older) :
      Accountable daemon.ids initial older := by
    have accountable := followed.accountable
    rw [split] at accountable
    exact accountable.older
  refine ⟨followed.accountable.increasing followed.distinct, ?_, ?_, sane.exactly_one, ?_⟩
  · intro newer older started split
    exact (since split).2
  · intro newer older read split
    exact (since split).2
  · intro newer older signalId cursor event split later within
    exact (since split).covered followed.distinct later within

end Waiter

namespace Waiter
namespace Sample

/-- A page posted after the cursor is delivered and acknowledged. -/
theorem posted_page_accepted :
    let posted := Transition.run Daemon.step
      (Daemon.start arm.armId arm.seatId arm.coverageUntil spec "post00"
        [post "post00" "anna" "first"])
      (.post (post "post-1" "anna" "hello") :: (attaching ++ delivering ++ acknowledging))
    (acceptedCursors posted.trace ++ ["post00"]).Pairwise fun later earlier =>
      CursorLog.Before posted.ids (some earlier) (some later) :=
  (no_event_skipped arm.armId arm.seatId arm.coverageUntil spec "post00" (by decide +kernel)
    (by decide +kernel)).1

end Sample
end Waiter
end Gearwit
