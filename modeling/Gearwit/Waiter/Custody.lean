import Gearwit.Waiter.Moves

/-!
# Who holds coverage

At every moment coverage is either with a wait child, with a live claim whose one
batch is open, or with a live claim whose batch was accepted and whose rearm is on
its way to the main loop.  Each move keeps one of these, so every run does.
-/

namespace Gearwit
namespace Waiter

/-! ## Accepted rearms on their way -/

/-- The rearm an event carries. -/
def DaemonEvent.rearm? : DaemonEvent → Option AckRearm
  | .coverageRearm rearm => some rearm
  | .attached _ => none

/-- The rearm the accept thread is about to queue. -/
def Acceptor.rearms : Acceptor → List AckRearm
  | .sending (.coverageRearm rearm) => [rearm]
  | _ => []

/-- The rearm the main loop is about to apply. -/
def Phase.rearms : Phase → List AckRearm
  | .rearming rearm => [rearm]
  | _ => []

/-- Whether the child slot is between two waits. -/
inductive Stage
  | steady
  | between
  | halted
  deriving DecidableEq

/-- The stage of a phase. -/
def Phase.stage : Phase → Stage
  | .exited _ | .ingesting _ _ | .reaping | .claiming _ => .between
  | .halted => .halted
  | _ => .steady

@[simp] theorem Resume.stage_phase (resume : Resume) : resume.phase.stage = .steady := by
  cases resume <;> rfl

@[simp] theorem Resume.rearms_phase (resume : Resume) : resume.phase.rearms = [] := by
  cases resume <;> rfl

/-- A store an acknowledgement cannot tell from another: the same arm and the same
batches, up to their holds. -/
structure AckStore.Alike (before after : AckStore) : Prop where
  arm : after.arm = before.arm
  view : ∀ id, after.view id = before.view id
  remembers : before.Remembers → after.Remembers

/-- A store is like itself. -/
theorem AckStore.alike_refl (store : AckStore) : store.Alike store :=
  ⟨rfl, fun _ => rfl, id⟩

/-- Memory is about the arm, the history, and which batches are closed. -/
theorem AckStore.Remembers.of_view {before after : AckStore} (sane : before.Remembers)
    (arm : after.arm = before.arm) (history : after.history = before.history)
    (kept : ∀ id batch, before.view id = some batch → batch.closed = true →
      ∃ other, after.view id = some other ∧ other.closed = true) : after.Remembers where
  acceptedClosed key entry message stored replied := by
    rw [history] at stored
    obtain ⟨batch, held, closed⟩ := sane.acceptedClosed key entry message stored replied
    obtain ⟨other, viewed, still⟩ := kept message.signalId
      ⟨batch.generation, batch.closed, batch.delivered⟩ (by simp [AckStore.view, held]) closed
    obtain ⟨kept, present, rfl⟩ := Option.map_eq_some_iff.1 viewed
    exact ⟨kept, present, still⟩
  bounded := by
    rw [history]
    exact sane.bounded
  generation bound same := by
    rw [arm] at same
    rw [history]
    exact sane.generation bound same

/-- Stores that show the same batches are alike. -/
theorem AckStore.Alike.of_view {before after : AckStore} (arm : after.arm = before.arm)
    (history : after.history = before.history)
    (view : ∀ id, after.view id = before.view id) : before.Alike after where
  arm := arm
  view := view
  remembers sane := sane.of_view arm history fun id batch viewed closed =>
    ⟨batch, (view id).trans viewed, closed⟩

/-- Stores that are alike are closed together. -/
theorem AckStore.Alike.allClosed {before after : AckStore} (alike : before.Alike after)
    (closed : before.AllClosed) : after.AllClosed := by
  rw [AckStore.allClosed_iff] at closed ⊢
  intro id batch viewed
  rw [alike.view] at viewed
  exact closed id batch viewed

/-- A receipt changes holds only. -/
theorem AckStore.noteReturnCompleted_alike (store : AckStore) (signalId : String) :
    store.Alike (store.noteReturnCompleted signalId).2 := by
  rcases store.noteReturnCompleted_cases signalId with same | ⟨batch, stored, _, same⟩
  · rw [same]
    exact store.alike_refl
  · rw [same]
    refine .of_view rfl rfl fun id => ?_
    rw [AckStore.view_insert]
    split
    · rename_i named
      subst named
      simp [AckStore.view, stored]
    · rfl

/-- Updating the holds leaves a store alike. -/
theorem updateAckVisibility_alike (store : AckStore) (result : WaiterLink) :
    store.Alike (updateAckVisibilityAfterResult store result) := by
  unfold updateAckVisibilityAfterResult
  split
  · split
    · exact store.noteReturnCompleted_alike _
    · exact store.alike_refl
  · exact store.alike_refl

namespace Daemon

/-- Rearms accepted and not applied yet, oldest first. -/
def outstanding (daemon : Daemon) : List AckRearm :=
  daemon.phase.rearms ++ daemon.queue.filterMap DaemonEvent.rearm? ++ daemon.acceptor.rearms

/-! ## The invariant -/

/-- A claim that is live in the pipe, with everything pending carrying it. -/
structure Holds (daemon : Daemon) (live : SignalClaim) : Prop where
  claimed : daemon.pipe.claim = some live
  listed : live.eventRefs = live.events.map ProviderEvent.eventRef
  carries : daemon.pipe.ledger.Carries live
  childless : daemon.child = none
  settled : daemon.phase.stage ≠ .between

/-- The batch of the claim was written to some connection. -/
def Wrote (daemon : Daemon) (live : SignalClaim) : Prop :=
  ∃ connection message, Observation.wrote connection message ∈ daemon.trace ∧
    message.signalId = live.signalId ∧ message.events = live.events

/-- Where coverage is. -/
inductive Custody (daemon : Daemon) : Prop
  | covering (pipe : daemon.pipe = .empty) (bound : daemon.acks.arm = some daemon.arm)
      (closed : daemon.acks.AllClosed) (quiet : daemon.outstanding = [])
      (running : daemon.phase.stage = .steady → daemon.child.isSome)
      (vacant : daemon.phase.stage = .between → daemon.child = none)
  | holding {live : SignalClaim} {delivered : List String} (holds : daemon.Holds live)
      (bound : daemon.acks.arm = some daemon.arm)
      (opened : daemon.acks.view live.signalId =
        some ⟨daemon.arm.generation, false, delivered⟩)
      (others : ∀ id batch, id ≠ live.signalId → daemon.acks.view id = some batch →
        batch.closed = true)
      (shown : delivered = [] ∨ delivered = live.eventRefs ∧ daemon.Wrote live)
      (quiet : daemon.outstanding = [])
  | handled {live : SignalClaim} {rearm : AckRearm} (holds : daemon.Holds live)
      (bound : daemon.acks.arm =
        some { daemon.arm with generation := daemon.arm.generation + 1 })
      (closed : daemon.acks.AllClosed)
      (known : (daemon.acks.view live.signalId).isSome)
      (outstanding : daemon.outstanding = [rearm])
      (generation : rearm.generation = daemon.arm.generation + 1)
      (member : rearm.after ∈ live.eventRefs)

/-- What every reachable daemon satisfies. -/
structure Sane [UlidSupply] (daemon : Daemon) : Prop where
  remembers : daemon.acks.Remembers
  numbered : daemon.acks.Numbered daemon.minted
  custody : daemon.Custody

/-- A move that leaves coverage where it is: the pipe is kept, the batches look the
same, and the stage stays or the daemon halts. -/
structure Undisturbed (before after : Daemon) : Prop where
  pipe : before.pipe.Kept after.pipe
  acks : before.acks.Alike after.acks
  arm : after.arm = before.arm
  child : after.child = before.child
  outstanding : after.outstanding = before.outstanding
  stage : after.phase.stage = before.phase.stage ∨ after.phase.stage = .halted
  minted : before.minted ≤ after.minted
  trace : before.trace ⊆ after.trace

/-- A claim stays held where coverage is left. -/
theorem Undisturbed.holds {before after : Daemon} (same : before.Undisturbed after)
    {live : SignalClaim} (holds : before.Holds live) : after.Holds live where
  claimed := same.pipe.claim.trans holds.claimed
  listed := holds.listed
  carries := same.pipe.carries live holds.claimed holds.carries
  childless := same.child.trans holds.childless
  settled := by
    rcases same.stage with stage | stage
    · rw [stage]
      exact holds.settled
    · rw [stage]
      exact nofun

/-- Custody is kept where coverage is left. -/
theorem Undisturbed.custody {before after : Daemon} (same : before.Undisturbed after)
    (custody : before.Custody) : after.Custody := by
  cases custody with
  | covering pipe bound closed quiet running vacant =>
      refine .covering (same.pipe.empty pipe) ?_ (same.acks.allClosed closed)
        (same.outstanding.trans quiet) ?_ ?_
      · rw [same.acks.arm, same.arm]
        exact bound
      · intro steady
        rw [same.child]
        rcases same.stage with stage | stage
        · exact running (stage ▸ steady)
        · rw [stage] at steady
          cases steady
      · intro between
        rw [same.child]
        rcases same.stage with stage | stage
        · exact vacant (stage ▸ between)
        · rw [stage] at between
          cases between
  | @holding live delivered holds bound opened others shown quiet =>
      have viewed : after.acks.view live.signalId =
          some ⟨after.arm.generation, false, delivered⟩ := by
        rw [same.acks.view, same.arm]
        exact opened
      refine .holding (same.holds holds) ?_ viewed ?_ ?_ (same.outstanding.trans quiet)
      · rw [same.acks.arm, same.arm]
        exact bound
      · intro id batch other viewed
        rw [same.acks.view] at viewed
        exact others id batch other viewed
      · rcases shown with blank | ⟨listed, connection, message, wrote, named⟩
        · exact Or.inl blank
        · exact Or.inr ⟨listed, connection, message, same.trace wrote, named⟩
  | handled holds bound closed known outstanding generation member =>
      refine .handled (same.holds holds) ?_ (same.acks.allClosed closed) ?_
        (same.outstanding.trans outstanding) ?_ member
      · rw [same.acks.arm, same.arm]
        exact bound
      · rw [same.acks.view]
        exact known
      · rw [same.arm]
        exact generation


/-- Batches stay numbered where coverage is left. -/
theorem Undisturbed.numbered [UlidSupply] {before after : Daemon}
    (same : before.Undisturbed after) (numbered : before.acks.Numbered before.minted) :
    after.acks.Numbered after.minted := by
  intro id present
  rw [same.acks.view] at present
  obtain ⟨number, below, named⟩ := numbered id present
  exact ⟨number, lt_of_lt_of_le below same.minted, named⟩

/-- A daemon stays sane where coverage is left. -/
theorem Undisturbed.sane [UlidSupply] {before after : Daemon}
    (same : before.Undisturbed after) (sane : before.Sane) : after.Sane where
  remembers := same.acks.remembers sane.remembers
  numbered := same.numbered sane.numbered
  custody := same.custody sane.custody

/-- Doing nothing leaves coverage where it is. -/
theorem undisturbed_refl (daemon : Daemon) : daemon.Undisturbed daemon where
  pipe := daemon.pipe.kept_refl
  acks := daemon.acks.alike_refl
  arm := rfl
  child := rfl
  outstanding := rfl
  stage := Or.inl rfl
  minted := le_rfl
  trace := List.Subset.refl _

/-! ## Moves that leave coverage where it is -/

/-- Accepting a waiter leaves coverage where it is. -/
theorem acceptWaiter_undisturbed (daemon : Daemon) (request : WaiterLink)
    (instant : OffsetDateTime) : daemon.Undisturbed (daemon.acceptWaiter request instant) := by
  unfold acceptWaiter
  split
  · rename_i standing
    refine { daemon.undisturbed_refl with outstanding := ?_ }
    simp [outstanding, standing, Acceptor.rearms]
  · exact daemon.undisturbed_refl

/-- Sending leaves coverage where it is. -/
theorem send_undisturbed (daemon : Daemon) : daemon.Undisturbed daemon.send := by
  unfold send
  split
  · rename_i event standing
    refine { daemon.undisturbed_refl with outstanding := ?_ }
    cases event <;> simp [outstanding, standing, Acceptor.rearms, DaemonEvent.rearm?]
  · exact daemon.undisturbed_refl

/-- Stopping leaves coverage where it is. -/
theorem stop_undisturbed (daemon : Daemon) : daemon.Undisturbed daemon.stop := by
  unfold stop
  split
  · rename_i standing
    refine { daemon.undisturbed_refl with outstanding := ?_ }
    simp [outstanding, standing, Acceptor.rearms]
  · exact daemon.undisturbed_refl

/-- Committing an attachment leaves coverage where it is. -/
theorem commit_undisturbed (daemon : Daemon) (writeOk : Bool) :
    daemon.Undisturbed (daemon.commit writeOk) := by
  unfold commit
  split
  · rename_i prepared connection standing
    simp only
    split
    · refine { daemon.undisturbed_refl with outstanding := ?_ }
      simp [outstanding, standing, Acceptor.rearms]
    · refine { daemon.undisturbed_refl with outstanding := ?_, trace := ?_ }
      · simp [outstanding, standing, Acceptor.rearms]
      · simp only
        split
        · exact List.subset_cons_self _ _
        · exact List.Subset.refl _
  · exact daemon.undisturbed_refl

/-- A move of the main loop that changes neither the claim nor the batches: its new
phase carries the rearms of the old one. -/
theorem undisturbed_of_phase {before after : Daemon} (same : before.Undisturbed
      { after with phase := before.phase }) (rearms : after.phase.rearms = before.phase.rearms)
    (stage : after.phase.stage = before.phase.stage ∨ after.phase.stage = .halted) :
    before.Undisturbed after where
  pipe := same.pipe
  acks := same.acks
  arm := same.arm
  child := same.child
  outstanding := by
    have kept := same.outstanding
    simp only [outstanding] at kept ⊢
    rw [rearms]
    exact kept
  stage := stage
  minted := same.minted
  trace := same.trace

/-- Receiving an event leaves coverage where it is. -/
theorem receive_undisturbed (daemon : Daemon) (now : OffsetDateTime) :
    daemon.Undisturbed (daemon.receive now) := by
  unfold receive
  split
  · rename_i standing
    split
    · exact { daemon.undisturbed_refl with
        outstanding := by simp [outstanding, standing, Phase.rearms]
        stage := Or.inr rfl }
    split
    · rename_i next queue waiting
      exact { daemon.undisturbed_refl with
        outstanding := by
          simp [outstanding, standing, waiting, Phase.rearms, DaemonEvent.rearm?,
            List.filterMap_cons]
        stage := Or.inl (by rw [standing]; rfl) }
    · rename_i rearm queue waiting
      exact { daemon.undisturbed_refl with
        outstanding := by
          simp [outstanding, standing, waiting, Phase.rearms, DaemonEvent.rearm?]
        stage := Or.inl (by rw [standing]; rfl) }
    · split
      · exact { daemon.undisturbed_refl with
          outstanding := by simp [outstanding, standing, Phase.rearms]
          stage := Or.inr rfl }
      · exact { daemon.undisturbed_refl with
          outstanding := by simp [outstanding, standing, Phase.rearms]
          stage := Or.inl (by rw [standing]; rfl) }
  · exact daemon.undisturbed_refl

/-- Retaining an attachment leaves coverage where it is. -/
theorem retain_undisturbed (daemon : Daemon) : daemon.Undisturbed daemon.retain := by
  unfold retain
  split
  · rename_i next standing
    split
    · refine undisturbed_of_phase { daemon.undisturbed_refl with } ?_ (Or.inl ?_)
      · rw [standing]
        simp only
        split <;> rfl
      · rw [standing]
        simp only
        split <;> rfl
    · exact undisturbed_of_phase { daemon.undisturbed_refl with } (by rw [standing]; rfl)
        (Or.inl (by rw [standing]; rfl))
  · exact daemon.undisturbed_refl

/-- Setting a lease leaves coverage where it is. -/
theorem lease_undisturbed (daemon : Daemon) (timeoutOk : Bool) :
    daemon.Undisturbed (daemon.lease timeoutOk) := by
  unfold lease
  split
  · rename_i next standing
    refine undisturbed_of_phase { daemon.undisturbed_refl with } ?_ (Or.inl ?_)
    · rw [standing]
      simp only
      split <;> rfl
    · rw [standing]
      simp only
      split <;> rfl
  · exact daemon.undisturbed_refl

/-- Reading the link leaves coverage where it is. -/
theorem readLink_undisturbed (daemon : Daemon) : daemon.Undisturbed daemon.readLink := by
  unfold readLink
  split
  · rename_i resume standing
    exact undisturbed_of_phase { daemon.undisturbed_refl with } (by rw [standing]; rfl)
      (Or.inl (by rw [standing]; rfl))
  · exact daemon.undisturbed_refl

/-- Polling the lease leaves coverage where it is. -/
theorem pollLease_undisturbed (daemon : Daemon) (timeoutOk : Bool) :
    daemon.Undisturbed (daemon.pollLease timeoutOk) := by
  unfold pollLease
  split
  · rename_i standing
    have moved : ∀ phase : Phase, phase.rearms = [] → phase.stage = .steady →
        daemon.Undisturbed { daemon with phase } := fun phase rearms stage =>
      undisturbed_of_phase { daemon.undisturbed_refl with } (by rw [standing, rearms]; rfl)
        (Or.inl (by rw [standing, stage]; rfl))
    split
    · exact moved _ rfl rfl
    · simp only
      split
      · split <;> exact moved _ rfl rfl
      · split <;> exact moved _ rfl rfl
  · exact daemon.undisturbed_refl

/-- Reading the link of the child leaves coverage where it is. -/
theorem readChildLink_undisturbed (daemon : Daemon) :
    daemon.Undisturbed daemon.readChildLink := by
  unfold readChildLink
  split
  · rename_i wait standing
    exact undisturbed_of_phase { daemon.undisturbed_refl with } (by rw [standing]; rfl)
      (Or.inl (by rw [standing]; rfl))
  · exact daemon.undisturbed_refl

/-- Noting a result leaves coverage where it is. -/
theorem note_undisturbed (daemon : Daemon) : daemon.Undisturbed daemon.note := by
  unfold note
  split
  · rename_i result standing
    exact undisturbed_of_phase
      { daemon.undisturbed_refl with acks := updateAckVisibility_alike _ _ }
      (by rw [standing]; rfl) (Or.inl (by rw [standing]; rfl))
  · exact daemon.undisturbed_refl

/-- Posting a message leaves coverage where it is. -/
theorem post_undisturbed (daemon : Daemon) (message : Json) :
    daemon.Undisturbed { daemon with log := daemon.log ++ [message] } :=
  { daemon.undisturbed_refl with }

variable [Rfc3339]

/-- Preparing an attachment leaves coverage where it is. -/
theorem prepare_undisturbed [UlidSupply] (daemon : Daemon) (elapsed : Nat) :
    daemon.Undisturbed (daemon.prepare elapsed) := by
  unfold prepare
  split
  · rename_i request instant arms connection standing
    simp only
    split
    · exact { daemon.undisturbed_refl with
        outstanding := by simp [outstanding, standing, Acceptor.rearms]
        minted := Nat.le_succ _ }
    · exact { daemon.undisturbed_refl with
        outstanding := by simp [outstanding, standing, Acceptor.rearms]
        minted := Nat.le_succ _ }
  · exact daemon.undisturbed_refl

/-- Superseding a link leaves coverage where it is. -/
theorem supersede_undisturbed (daemon : Daemon) : daemon.Undisturbed daemon.supersede := by
  unfold supersede
  split
  · rename_i next old standing
    exact undisturbed_of_phase
      { daemon.undisturbed_refl with pipe := losePipe_kept daemon.pipe daemon.now }
      (by rw [standing]; rfl) (Or.inl (by rw [standing]; rfl))
  · exact daemon.undisturbed_refl

/-- Revoking a link leaves coverage where it is. -/
theorem revoke_undisturbed (daemon : Daemon) : daemon.Undisturbed daemon.revoke := by
  unfold revoke
  split
  · rename_i markLost resume standing
    refine undisturbed_of_phase { daemon.undisturbed_refl with pipe := ?_ } ?_ (Or.inl ?_)
    · simp only
      split
      · exact losePipe_kept daemon.pipe daemon.now
      · exact daemon.pipe.kept_refl
    · rw [standing]
      exact resume.rearms_phase
    · rw [standing]
      exact resume.stage_phase
  · exact daemon.undisturbed_refl

/-- Reading a result leaves coverage where it is. -/
theorem readResult_undisturbed (daemon : Daemon) (read : ReadResult) :
    daemon.Undisturbed (daemon.readResult read) := by
  unfold readResult
  split
  · rename_i standing
    split
    · exact undisturbed_of_phase { daemon.undisturbed_refl with } (by rw [standing]; rfl)
        (Or.inl (by rw [standing]; rfl))
    · exact undisturbed_of_phase { daemon.undisturbed_refl with } (by rw [standing]; rfl)
        (Or.inl (by rw [standing]; rfl))
    · rename_i result
      refine undisturbed_of_phase
        { daemon.undisturbed_refl with
          pipe := applyWaiterResult_kept daemon.pipe result
          trace := List.subset_append_right _ _ } ?_ (Or.inl ?_)
      · rw [standing]
        simp only
        split <;> rfl
      · rw [standing]
        simp only
        split <;> rfl
  · exact daemon.undisturbed_refl

/-! ## Moves that hand coverage over -/

omit [Rfc3339] in
/-- Between two waits no claim is live and nothing is on its way. -/
theorem Sane.clear [UlidSupply] {daemon : Daemon} (sane : daemon.Sane)
    (between : daemon.phase.stage = .between) :
    daemon.Clear ∧ daemon.outstanding = [] ∧ daemon.child = none := by
  cases sane.custody with
  | covering pipe bound closed quiet running vacant =>
      exact ⟨⟨pipe, bound, closed, sane.numbered⟩, quiet, vacant between⟩
  | holding holds => exact absurd between holds.settled
  | handled holds => exact absurd between holds.settled

omit [Rfc3339] in
private theorem quiet_parts {daemon : Daemon} (quiet : daemon.outstanding = []) :
    daemon.phase.rearms = [] ∧ daemon.queue.filterMap DaemonEvent.rearm? = [] ∧
      daemon.acceptor.rearms = [] := by
  simpa only [outstanding, List.append_eq_nil_iff, and_assoc] using quiet

omit [Rfc3339] in
/-- An acceptable request names the batch of the live claim. -/
theorem Custody.acceptable {daemon : Daemon} (custody : daemon.Custody)
    {message : HandledRequest} {arm : KnownArm} {batch : SignalBatch}
    (acceptable : daemon.acks.Acceptable message arm batch) :
    ∃ live, daemon.Holds live ∧ daemon.acks.arm = some daemon.arm ∧
      message.signalId = live.signalId ∧ message.cursor ∈ live.eventRefs ∧
      daemon.Wrote live ∧ daemon.outstanding = [] ∧
      ∀ id other, id ≠ live.signalId → daemon.acks.view id = some other →
        other.closed = true := by
  have viewed : daemon.acks.view message.signalId =
      some ⟨batch.generation, batch.closed, batch.delivered⟩ := by
    simp [AckStore.view, acceptable.stored]
  have unclosed : ¬ daemon.acks.AllClosed := fun closed => by
    have still := closed _ _ acceptable.stored
    rw [acceptable.opened] at still
    cases still
  cases custody with
  | covering _ _ closed => exact absurd closed unclosed
  | handled _ _ closed => exact absurd closed unclosed
  | @holding live delivered holds bound opened others shown quiet =>
      have named : message.signalId = live.signalId := by
        by_contra other
        have still := others _ _ other viewed
        simp only [acceptable.opened] at still
        cases still
      rw [named, opened, Option.some.injEq, AckStore.BatchView.mk.injEq] at viewed
      have member := acceptable.delivered
      rw [← viewed.2.2] at member
      rcases shown with blank | ⟨listed, wrote⟩
      · rw [blank] at member
        cases member
      · rw [listed] at member
        exact ⟨live, holds, bound, named, member, wrote, quiet, others⟩

/-- Accepting an acknowledgement closes the live batch and puts its rearm on the
way. -/
theorem acceptHandled_sane [UlidSupply] {daemon : Daemon} (sane : daemon.Sane)
    (request : HandledCursor) (instant : OffsetDateTime) :
    (daemon.acceptHandled request instant).Sane := by
  rcases acceptHandled_cases sane.remembers request instant with
    same | ⟨standing, acks, arm, signals, remembers, same⟩ |
      ⟨standing, message, arm, batch, acceptable, remembers, same⟩
  · rw [same]
    exact sane
  · rw [same]
    refine Undisturbed.sane { daemon.undisturbed_refl with acks := ?_, outstanding := ?_ } sane
    · exact ⟨arm, fun id => by simp [AckStore.view, signals], fun _ => remembers⟩
    · simp [outstanding, standing, Acceptor.rearms]
  · rw [same]
    obtain ⟨live, holds, bound, named, member, wrote, quiet, others⟩ :=
      sane.custody.acceptable acceptable
    obtain ⟨still, queued, _⟩ := quiet_parts quiet
    have armed : arm = daemon.arm := by
      have present := acceptable.bound
      rw [bound] at present
      cases present
      rfl
    have viewed (id : String) :
        (daemon.acks.accepting message instant arm batch).view id =
          if message.signalId = id then some ⟨batch.generation, true, batch.delivered⟩
          else daemon.acks.view id :=
      AckStore.view_insert daemon.acks message.signalId _ _ _ id
    refine ⟨remembers, ?_, @Custody.handled _ live
      ⟨message.cursor, arm.generation + 1, message.signalId⟩
      ⟨holds.claimed, holds.listed, holds.carries, holds.childless, holds.settled⟩
      ?_ ?_ ?_ ?_ ?_ member⟩
    · intro id present
      simp only [viewed] at present
      split at present
      · rename_i equal
        exact sane.numbered id (by simp [AckStore.view, ← equal, acceptable.stored])
      · exact sane.numbered id present
    · rw [AckStore.accepting, armed]
    · rw [AckStore.allClosed_iff]
      intro id other
      simp only [viewed]
      split
      · intro equal
        cases equal
        rfl
      · rename_i different
        rw [named] at different
        exact others id other (Ne.symm different)
    · simp [viewed, named]
    · simp [outstanding, still, queued, Acceptor.rearms]
    · rw [armed]

omit [Rfc3339] in
/-- A flush or a revoke resumes in a phase without a rearm. -/
private theorem undisturbed_of_resumed {before after : Daemon} (resume : Resume) (lost : Bool)
    (still : before.phase.rearms = []) (steady : before.phase.stage = .steady)
    (same : before.Undisturbed { after with phase := before.phase })
    (resumed : after.phase = if lost then .revoking true resume else resume.phase) :
    before.Undisturbed after := by
  refine undisturbed_of_phase same ?_ (Or.inl ?_)
  · rw [resumed, still]
    split
    · rfl
    · exact resume.rearms_phase
  · rw [resumed, steady]
    split
    · rfl
    · exact resume.stage_phase

omit [Rfc3339] in
/-- A live claim's batch is known to the store. -/
theorem Custody.known {daemon : Daemon} (custody : daemon.Custody) {live : SignalClaim}
    (claimed : daemon.pipe.claim = some live) :
    daemon.Holds live ∧ ∃ batch, daemon.acks.signals[live.signalId]? = some batch := by
  have stored (present : (daemon.acks.view live.signalId).isSome) :
      ∃ batch, daemon.acks.signals[live.signalId]? = some batch := by
    rw [AckStore.view, Option.isSome_map] at present
    exact Option.isSome_iff_exists.1 present
  cases custody with
  | covering pipe =>
      rw [pipe] at claimed
      cases claimed
  | holding holds bound opened =>
      have same := holds.claimed
      rw [claimed] at same
      cases same
      exact ⟨holds, stored (by simp [opened])⟩
  | handled holds bound closed known =>
      have same := holds.claimed
      rw [claimed] at same
      cases same
      exact ⟨holds, stored known⟩

omit [Rfc3339] in
/-- Filling the open batch of the live claim with the events that were written. -/
private theorem filled_sane [UlidSupply] {before after : Daemon} (sane : before.Sane)
    {live : SignalClaim} (holds : after.Holds live) (claimed : before.pipe.claim = some live)
    {existing batch : SignalBatch}
    (stored : before.acks.signals[live.signalId]? = some existing)
    (acks : after.acks = { before.acks with
      signals := before.acks.signals.insert live.signalId batch })
    (unclosed : existing.closed = false) (generation : batch.generation = existing.generation)
    (closed : batch.closed = existing.closed) (delivered : batch.delivered = live.eventRefs)
    (wrote : after.Wrote live) (quiet : after.outstanding = before.outstanding)
    (arm : after.arm = before.arm) (minted : before.minted ≤ after.minted) : after.Sane := by
  have viewed (id : String) : after.acks.view id =
      if live.signalId = id then some ⟨batch.generation, batch.closed, batch.delivered⟩
      else before.acks.view id := by
    rw [acks]
    exact AckStore.view_insert before.acks live.signalId batch _ _ id
  refine ⟨sane.remembers.of_view (by rw [acks]) (by rw [acks]) ?_, ?_, ?_⟩
  · intro id other held still
    by_cases named : live.signalId = id
    · rw [← named, AckStore.view, stored, Option.map_some] at held
      cases held
      rw [unclosed] at still
      cases still
    · exact ⟨other, by rw [viewed, if_neg named]; exact held, still⟩
  · intro id present
    rw [viewed] at present
    split at present
    · rename_i named
      obtain ⟨number, below, same⟩ :=
        sane.numbered id (by rw [← named, AckStore.view, stored]; rfl)
      exact ⟨number, lt_of_lt_of_le below minted, same⟩
    · obtain ⟨number, below, same⟩ := sane.numbered id present
      exact ⟨number, lt_of_lt_of_le below minted, same⟩
  · cases sane.custody with
    | covering pipe =>
        rw [pipe] at claimed
        cases claimed
    | handled _ _ every =>
        have still := every _ _ stored
        rw [unclosed] at still
        cases still
    | holding held bound opened others shown none =>
        have same := held.claimed
        rw [claimed] at same
        cases same
        rw [AckStore.view, stored, Option.map_some, Option.some.injEq,
          AckStore.BatchView.mk.injEq] at opened
        have filled : after.acks.view live.signalId =
            some ⟨after.arm.generation, false, live.eventRefs⟩ := by
          rw [viewed, if_pos rfl, generation, closed, delivered, unclosed, opened.1, arm]
        refine .holding holds ?_ filled ?_ (Or.inr ⟨rfl, wrote⟩) (quiet.trans none)
        · rw [acks, arm]
          exact bound
        · intro id other different held
          rw [viewed, if_neg (Ne.symm different)] at held
          exact others id other different held

/-- Flushing shows the live batch at most, and opens it to acknowledgement. -/
theorem flush_sane [UlidSupply] {daemon : Daemon} (sane : daemon.Sane) (writeOk : Bool) :
    (daemon.flush writeOk).Sane := by
  unfold flush
  split
  · rename_i link resume standing
    have still : daemon.phase.rearms = [] := by rw [standing]; rfl
    have steady : daemon.phase.stage = .steady := by rw [standing]; rfl
    split
    · exact Undisturbed.sane (undisturbed_of_resumed resume false still steady { daemon.undisturbed_refl with } rfl) sane
    · rename_i served attached
      have effect := flushAttached_effect link daemon.pipe daemon.acks daemon.now writeOk
        (UlidSupply.text daemon.minted)
      have kept := flushAttached_kept link daemon.pipe daemon.acks daemon.now writeOk
        (UlidSupply.text daemon.minted)
      generalize flushAttached link daemon.pipe daemon.acks daemon.now writeOk
        (UlidSupply.text daemon.minted) = flushed at effect kept
      have quiet (lost : Bool) (pipe : DaemonPipe) (written : List Observation)
          (kept : daemon.pipe.Kept pipe) :
          ({ daemon with
            pipe
            minted := daemon.minted + 1
            phase := if lost then .revoking true resume else resume.phase
            trace := written ++ daemon.trace } : Daemon).Sane :=
        Undisturbed.sane (undisturbed_of_resumed resume lost still steady
          { daemon.undisturbed_refl with
            pipe := kept
            minted := Nat.le_succ _
            trace := List.subset_append_right _ _ } rfl) sane
      cases effect with
      | resting => exact quiet _ _ _ kept
      | expired => exact quiet _ _ _ kept
      | refused => exact quiet _ _ _ kept
      | already => exact quiet _ _ _ kept
      | unsent => exact quiet _ _ _ kept
      | @written live read message pending attempted claimed present addressed =>
          obtain ⟨holds, existing, stored⟩ := sane.custody.known claimed
          have carried := addressed.carries holds.carries
          have named := carried.signal
          have listed := carried.events
          rw [addressed.message_eq] at named listed
          rcases AckStore.noteDelivered_cases stored
              (message.events.map ProviderEvent.eventRef) live.eventRefs with
            same | ⟨unclosed, _, same⟩
          · simp only [same]
            exact quiet _ _ _ kept
          · simp only [same]
            have resumed : daemon.Undisturbed { daemon with
                pipe := ⟨⟨some pending⟩, daemon.pipe.claim, attempted⟩
                minted := daemon.minted + 1
                phase := if !attempted then .revoking true resume else resume.phase
                trace := .wrote served.connection message :: daemon.trace } :=
              undisturbed_of_resumed resume (!attempted) still steady
                { daemon.undisturbed_refl with
                  pipe := kept
                  minted := Nat.le_succ _
                  trace := List.subset_cons_self _ _ } rfl
            have held := resumed.holds holds
            refine filled_sane sane ⟨held.claimed, held.listed, held.carries, held.childless,
              held.settled⟩ claimed stored rfl unclosed rfl rfl ?_ ?_ resumed.outstanding rfl
              (Nat.le_succ _)
            · rw [holds.listed, listed]
            · exact ⟨served.connection, message, List.mem_cons_self, named, listed⟩
  · exact sane

omit [Rfc3339] in
/-- Polling the child frees its slot at most. -/
theorem tryWait_sane [UlidSupply] {daemon : Daemon} (sane : daemon.Sane) (poll : ChildPoll) :
    (daemon.tryWait poll).Sane := by
  unfold tryWait
  split
  · rename_i standing
    have moved : ∀ phase : Phase, phase.rearms = [] →
        phase.stage = .steady ∨ phase.stage = .halted →
          ({ daemon with phase } : Daemon).Sane := fun phase rearms stage =>
      Undisturbed.sane (undisturbed_of_phase { daemon.undisturbed_refl with }
        (by rw [standing, rearms]; rfl) (by rw [standing]; exact stage)) sane
    split
    · exact moved _ rfl (Or.inl rfl)
    rename_i occupied
    split
    · exact moved _ rfl (Or.inl rfl)
    · refine ⟨sane.remembers, sane.numbered, ?_⟩
      cases sane.custody with
      | covering pipe bound closed quiet =>
          refine .covering pipe bound closed ?_ nofun (fun _ => rfl)
          obtain ⟨_, queued, sent⟩ := quiet_parts quiet
          simp [outstanding, Phase.rearms, queued, sent]
      | holding holds => exact absurd (by rw [holds.childless]; rfl) occupied
      | handled holds => exact absurd (by rw [holds.childless]; rfl) occupied
    · exact moved _ rfl (Or.inr rfl)
  · exact sane

/-- A page claimed between two waits is held by its claim. -/
private theorem claimed_sane [UlidSupply] {before after : Daemon} (sane : before.Sane)
    {request : IngestRequest} {events : List DrainedEvent}
    (clear : before.Clear) (quiet : after.outstanding = [])
    (claimed : before.Claimed request events after.pipe after.acks)
    (armed : request.arm = before.arm) (arm : after.arm = before.arm)
    (minted : after.minted = before.minted + 2) (childless : after.child = none)
    (settled : after.phase.stage ≠ .between) : after.Sane := by
  have fresh := clear.numbered.fresh (le_refl before.minted)
  have unseen : before.acks.view (UlidSupply.text before.minted) = none := by
    simp [AckStore.view, fresh]
  have viewed (id : String) : after.acks.view id =
      if UlidSupply.text before.minted = id then some ⟨request.arm.generation, false, []⟩
      else before.acks.view id := by
    rw [claimed.acks_eq]
    exact AckStore.view_insert before.acks (UlidSupply.text before.minted) _ _ _ id
  refine ⟨sane.remembers.of_view (by rw [claimed.acks_eq]) (by rw [claimed.acks_eq]) ?_, ?_, ?_⟩
  · intro id batch held closed
    refine ⟨batch, ?_, closed⟩
    rw [viewed, if_neg]
    · exact held
    · intro named
      rw [← named, unseen] at held
      cases held
  · intro id present
    rw [viewed] at present
    rw [minted]
    split at present
    · rename_i named
      exact ⟨before.minted, by omega, named⟩
    · obtain ⟨number, below, same⟩ := clear.numbered id present
      exact ⟨number, by omega, same⟩
  · have opened : after.acks.view (UlidSupply.text before.minted) =
        some ⟨after.arm.generation, false, []⟩ := by
      rw [viewed, if_pos rfl, arm, armed]
    have holds : after.Holds (freshClaim request events (UlidSupply.text before.minted)) :=
      ⟨claimed.claim, by simp [freshClaim], claimed.carries, childless, settled⟩
    refine .holding holds ?_ opened ?_ (Or.inl rfl) quiet
    · rw [claimed.acks_eq, arm]
      exact clear.bound
    · intro id batch different held
      have other : UlidSupply.text before.minted ≠ id := Ne.symm different
      rw [viewed, if_neg other] at held
      exact (AckStore.allClosed_iff _).1 clear.closed id batch held

omit [Rfc3339] in
/-- A rearm on its way is the only one, it is the next generation's, and its batch is
closed. -/
theorem Custody.accepted {daemon : Daemon} (custody : daemon.Custody) {rearm : AckRearm}
    (accepted : rearm ∈ daemon.outstanding) :
    ∃ live, daemon.Holds live ∧
      daemon.acks.arm = some { daemon.arm with generation := rearm.generation } ∧
      daemon.acks.AllClosed ∧ rearm.generation = daemon.arm.generation + 1 ∧
      rearm.after ∈ live.eventRefs ∧ daemon.outstanding = [rearm] := by
  cases custody with
  | covering _ _ _ quiet | holding _ _ _ _ _ quiet =>
      rw [quiet] at accepted
      cases accepted
  | handled holds bound closed known sole generation member =>
      rw [sole, List.mem_singleton] at accepted
      subst accepted
      refine ⟨_, holds, ?_, closed, generation, member, sole⟩
      rw [generation]
      exact bound

omit [Rfc3339] in
/-- A rearm that reaches the main loop leaves none behind. -/
theorem Custody.rearming {daemon : Daemon} (custody : daemon.Custody) {rearm : AckRearm}
    (standing : daemon.phase = .rearming rearm) :
    ∃ live, daemon.Holds live ∧
      daemon.acks.arm = some { daemon.arm with generation := rearm.generation } ∧
      daemon.acks.AllClosed ∧ rearm.generation = daemon.arm.generation + 1 ∧
      rearm.after ∈ live.eventRefs ∧ daemon.queue.filterMap DaemonEvent.rearm? = [] ∧
      daemon.acceptor.rearms = [] := by
  have accepted : rearm ∈ daemon.outstanding := by
    simp [outstanding, standing, Phase.rearms]
  obtain ⟨live, holds, bound, closed, generation, member, sole⟩ := custody.accepted accepted
  simp only [outstanding, standing, Phase.rearms, List.cons_append, List.nil_append,
    List.cons.injEq, List.append_eq_nil_iff, true_and] at sole
  exact ⟨live, holds, bound, closed, generation, member, sole⟩

omit [Rfc3339] in
/-- What applying a rearm of another generation leaves. -/
theorem outdate_eq {daemon : Daemon} {rearm : AckRearm}
    (standing : daemon.phase = .rearming rearm)
    (ahead : rearm.generation = daemon.arm.generation + 1) :
    daemon.outdate =
      { daemon with
        spec := { daemon.spec with after := some rearm.after }
        arm := { daemon.arm with generation := rearm.generation }
        pipe := .empty
        served :=
          (revokeOlderGeneration daemon.served daemon.table rearm.generation).1
        table := (revokeOlderGeneration daemon.served daemon.table rearm.generation).2
        phase := .reaping } := by
  have other : ¬ (daemon.arm.generation = rearm.generation ∧
      daemon.spec.after = some rearm.after ∧ daemon.pipe.claim = none ∧
      daemon.pipe.ledger.pending = none) := fun same => by
    have equal := same.1
    omega
  unfold outdate
  simp only [standing, takeCoverageRearm, if_neg other]
  rfl

omit [Rfc3339] in
/-- Applying a rearm that is on its way clears the pipe for its cursor. -/
theorem outdate_sane [UlidSupply] {daemon : Daemon} (sane : daemon.Sane) :
    daemon.outdate.Sane := by
  cases standing : daemon.phase with
  | rearming rearm =>
      obtain ⟨live, holds, bound, closed, generation, _, queued, sent⟩ :=
        sane.custody.rearming standing
      rw [outdate_eq standing generation]
      refine ⟨sane.remembers, sane.numbered, .covering rfl bound closed ?_ nofun
        fun _ => holds.childless⟩
      simp [outstanding, Phase.rearms, queued, sent]
  | _ =>
      rw [outdate, standing]
      exact sane

omit [Rfc3339] in
/-- Draining after a rearm starts the successor, or holds the page between waits. -/
theorem reap_sane [UnicodeSegmentation] [UlidSupply] {daemon : Daemon} (sane : daemon.Sane)
    (reapOk : Bool) (output : ReadOutput) (spawnOk : Bool) :
    (daemon.reap reapOk output spawnOk).Sane := by
  cases standing : daemon.phase with
  | reaping =>
      obtain ⟨clear, quiet, childless⟩ := sane.clear (by rw [standing]; rfl)
      obtain ⟨_, queued, sent⟩ := quiet_parts quiet
      have moved (child : Option WaitOnSpec) (trace : List Observation) (phase : Phase)
          (rearms : phase.rearms = []) (running : phase.stage = .steady → child.isSome)
          (vacant : phase.stage = .between → child = none) :
          ({ daemon with child, trace, phase } : Daemon).Sane :=
        ⟨sane.remembers, sane.numbered, .covering clear.pipe clear.bound clear.closed
          (by simp [outstanding, rearms, queued, sent]) running vacant⟩
      rcases reap_cases daemon reapOk output spawnOk standing with
        same | same | ⟨_, same⟩ | ⟨events, _, _, same⟩
      · rw [same]
        exact moved _ _ _ rfl nofun nofun
      · rw [same]
        exact moved _ _ _ rfl nofun nofun
      · rw [same]
        exact moved _ _ _ rfl (fun _ => rfl) nofun
      · rw [same]
        exact moved _ _ _ rfl nofun fun _ => rfl
  | _ =>
      rw [reap, standing]
      exact sane

/-- Claiming a drained page holds it. -/
theorem claimSuffix_sane [UlidSupply] {daemon : Daemon} (sane : daemon.Sane) :
    daemon.claimSuffix.Sane := by
  cases standing : daemon.phase with
  | claiming events =>
      obtain ⟨clear, quiet, childless⟩ := sane.clear (by rw [standing]; rfl)
      obtain ⟨_, queued, sent⟩ := quiet_parts quiet
      rcases claimSuffix_cases clear standing with same | ⟨pipe, acks, claimed, same⟩
      · rw [same]
        refine ⟨sane.remembers, fun id present => ?_, .covering clear.pipe clear.bound
          clear.closed (by simp [outstanding, Phase.rearms, queued, sent]) nofun nofun⟩
        obtain ⟨number, below, named⟩ := sane.numbered id present
        exact ⟨number, by simp only; omega, named⟩
      · rw [same]
        exact claimed_sane sane clear (by simp [outstanding, Phase.rearms, queued, sent])
          claimed rfl rfl rfl childless nofun
  | _ =>
      rw [claimSuffix, standing]
      exact sane

/-- Ingesting an exited child starts its successor, or holds the page. -/
theorem ingest_sane [UnicodeSegmentation] [UlidSupply] {daemon : Daemon} (sane : daemon.Sane)
    (output : ReadOutput) (instant : OffsetDateTime) (spawnOk : Bool) :
    (daemon.ingest output instant spawnOk).Sane := by
  cases standing : daemon.phase with
  | ingesting wait link =>
      obtain ⟨clear, quiet, childless⟩ := sane.clear (by rw [standing]; rfl)
      obtain ⟨_, queued, sent⟩ := quiet_parts quiet
      have moved (spec : WaitOnSpec) (child : Option WaitOnSpec) (trace : List Observation)
          (phase : Phase) (rearms : phase.rearms = [])
          (running : phase.stage = .steady → child.isSome)
          (settled : phase.stage ≠ .between) :
          ({ daemon with
            spec, child, trace, phase
            minted := daemon.minted + 2 } : Daemon).Sane := by
        refine ⟨sane.remembers, fun id present => ?_, .covering clear.pipe clear.bound
          clear.closed (by simp [outstanding, rearms, queued, sent]) running
          fun between => absurd between settled⟩
        obtain ⟨number, below, named⟩ := sane.numbered id present
        exact ⟨number, by simp only; omega, named⟩
      rcases ingest_cases clear standing output instant spawnOk with
        ⟨spec, observed, _, _, same⟩ | ⟨_, same⟩ | ⟨events, pipe, acks, _, _, claimed, same⟩
      · rw [same]
        exact moved _ _ _ _ rfl nofun nofun
      · rw [same]
        exact moved _ _ _ _ rfl (fun _ => rfl) nofun
      · rw [same]
        exact claimed_sane sane clear (by simp [outstanding, Phase.rearms, queued, sent])
          claimed rfl rfl rfl childless nofun
  | _ =>
      rw [ingest, standing]
      exact sane

/-! ## Runs -/

omit [Rfc3339] in
/-- The daemon that just started its first wait. -/
theorem start_sane [UlidSupply] (armId seatId : String) (coverageUntil : OffsetDateTime)
    (spec : WaitOnSpec) (initial : String) (log : List Json) :
    (Daemon.start armId seatId coverageUntil spec initial log).Sane where
  remembers := AckStore.remembers_withArm rfl
  numbered id present := by simp [Daemon.start, AckStore.withArm, AckStore.view] at present
  custody := by
    refine .covering rfl rfl (fun id batch stored => ?_) rfl (fun _ => rfl) (by intros; contradiction)
    simp [Daemon.start, AckStore.withArm] at stored

/-- Every move keeps a sane daemon sane. -/
theorem step_sane [UnicodeSegmentation] [UlidSupply] {daemon : Daemon} (sane : daemon.Sane)
    (move : Move) : (daemon.step move).Sane := by
  cases move with
  | acceptWaiter request instant => exact (daemon.acceptWaiter_undisturbed request instant).sane sane
  | prepare elapsed => exact (daemon.prepare_undisturbed elapsed).sane sane
  | commit writeOk => exact (daemon.commit_undisturbed writeOk).sane sane
  | acceptHandled request instant => exact acceptHandled_sane sane request instant
  | send => exact daemon.send_undisturbed.sane sane
  | stop => exact daemon.stop_undisturbed.sane sane
  | receive now => exact (daemon.receive_undisturbed now).sane sane
  | retain => exact daemon.retain_undisturbed.sane sane
  | supersede => exact daemon.supersede_undisturbed.sane sane
  | lease timeoutOk => exact (daemon.lease_undisturbed timeoutOk).sane sane
  | readLink => exact daemon.readLink_undisturbed.sane sane
  | flush writeOk => exact flush_sane sane writeOk
  | revoke => exact daemon.revoke_undisturbed.sane sane
  | pollLease timeoutOk => exact (daemon.pollLease_undisturbed timeoutOk).sane sane
  | readResult read => exact (daemon.readResult_undisturbed read).sane sane
  | note => exact daemon.note_undisturbed.sane sane
  | tryWait poll => exact tryWait_sane sane poll
  | readChildLink => exact daemon.readChildLink_undisturbed.sane sane
  | ingest output instant spawnOk => exact ingest_sane sane output instant spawnOk
  | outdate => exact outdate_sane sane
  | reap reapOk output spawnOk => exact reap_sane sane reapOk output spawnOk
  | claim => exact claimSuffix_sane sane
  | post message => exact (daemon.post_undisturbed message).sane sane

/-- Every run keeps a sane daemon sane. -/
theorem run_sane [UnicodeSegmentation] [UlidSupply] {daemon : Daemon} (sane : daemon.Sane)
    (moves : List Move) : (Transition.run step daemon moves).Sane :=
  Transition.invariant_run Sane (fun _ move held => step_sane held move) sane moves

omit [Rfc3339] in
/-- At the top of the loop exactly one of a running wait and a live claim covers. -/
theorem Sane.exactly_one [UlidSupply] {daemon : Daemon} (sane : daemon.Sane)
    (standing : daemon.phase = .top) :
    (daemon.child.isSome ∧ daemon.pipe.claim = none) ∨
      (daemon.child = none ∧ daemon.pipe.claim.isSome) := by
  cases sane.custody with
  | covering pipe bound closed quiet running =>
      exact Or.inl ⟨running (by rw [standing]; rfl), by rw [pipe]; rfl⟩
  | holding holds => exact Or.inr ⟨holds.childless, by rw [holds.claimed]; rfl⟩
  | handled holds => exact Or.inr ⟨holds.childless, by rw [holds.claimed]; rfl⟩

end Daemon
end Waiter
end Gearwit
