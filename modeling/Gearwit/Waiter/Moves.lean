import Gearwit.Waiter.Effects

/-!
# What each move leaves behind

The moves that change the claim, the batches or the outside world are inverted
once: each lemma lists the daemons the move can leave.  Everything proved about
runs goes through these lists.
-/

namespace Gearwit
namespace Waiter

/-- Every identifier the store has a batch for was minted. -/
def AckStore.Numbered [UlidSupply] (store : AckStore) (minted : Nat) : Prop :=
  ∀ id, (store.view id).isSome → ∃ number < minted, UlidSupply.text number = id

/-- An identifier that is not minted yet has no batch. -/
theorem AckStore.Numbered.fresh [UlidSupply] {store : AckStore} {minted : Nat}
    (numbered : store.Numbered minted) {number : Nat} (later : minted ≤ number) :
    store.signals[UlidSupply.text number]? = none := by
  cases stored : store.signals[UlidSupply.text number]? with
  | none => rfl
  | some batch =>
      obtain ⟨earlier, below, same⟩ :=
        numbered (UlidSupply.text number) (by simp [AckStore.view, stored])
      have equal := UlidSupply.injective same
      omega

namespace Daemon

/-- No claim is live and no batch is open, under the arm the main loop covers. -/
structure Clear [UlidSupply] (daemon : Daemon) : Prop where
  pipe : daemon.pipe = .empty
  bound : daemon.acks.arm = some daemon.arm
  closed : daemon.acks.AllClosed
  numbered : daemon.acks.Numbered daemon.minted

/-- Starting a wait halts, or fills the empty child slot. -/
theorem spawnWait_cases (daemon : Daemon) (spawnOk : Bool) (next : Phase) :
    daemon.spawnWait spawnOk next = { daemon with phase := .halted } ∨
      (daemon.child = none ∧ spawnOk = true ∧ daemon.spawnWait spawnOk next =
        { daemon with
          child := some daemon.spec
          phase := next
          trace := .spawned daemon.spec :: daemon.trace }) := by
  unfold spawnWait
  cases child : daemon.child with
  | some spec => exact Or.inl (by simp)
  | none =>
      cases spawnOk with
      | false => exact Or.inl (by simp)
      | true => exact Or.inr ⟨rfl, rfl, by simp⟩

variable [Rfc3339]

/-! ## Acknowledgements -/

/-- Recording an acknowledgement leaves the batches, or closes the accepted one and
keeps its rearm for the main loop. -/
theorem acceptHandled_cases {daemon : Daemon} (sane : daemon.acks.Remembers)
    (request : HandledCursor) (instant : OffsetDateTime) :
    daemon.acceptHandled request instant = daemon ∨
      (daemon.acceptor = .idle ∧
        ∃ acks, acks.arm = daemon.acks.arm ∧ acks.signals = daemon.acks.signals ∧
          acks.Remembers ∧ daemon.acceptHandled request instant =
            { daemon with acks, acceptor := .idle }) ∨
      (daemon.acceptor = .idle ∧
        ∃ message arm batch, daemon.acks.Acceptable message arm batch ∧
          (daemon.acks.accepting message instant arm batch).Remembers ∧
          daemon.acceptHandled request instant =
            { daemon with
              acks := daemon.acks.accepting message instant arm batch
              acceptor := .sending (.coverageRearm
                ⟨message.cursor, arm.generation + 1, message.signalId⟩)
              trace := .accepted message.signalId message.cursor :: daemon.trace }) := by
  unfold acceptHandled
  cases standing : daemon.acceptor with
  | idle =>
      refine Or.inr ?_
      have effect := AckStore.recordAck_effect sane request instant
      simp only
      rcases recorded : daemon.acks.recordAck request instant with ⟨outcome, acks⟩
      rw [recorded] at effect
      cases effect with
      | unchanged unarmed unaccepted arm signals remembers =>
          refine Or.inl ⟨trivial, acks, arm, signals, remembers, ?_⟩
          rw [unaccepted]
          cases outcome with
          | error error => rfl
          | ok serve =>
              have none := unarmed serve rfl
              cases serve with
              | mk reply rearm =>
                  cases none
                  rfl
      | accepted named acceptable observed remembers =>
          refine Or.inr ⟨trivial, _, _, _, acceptable, remembers, ?_⟩
          rw [observed]
          rfl
  | arming | replying | sending | stopped => exact Or.inl rfl

/-! ## Coverage -/

variable [UnicodeSegmentation]

/-- The reply of the provider to a drain from the daemon's cursor. -/
abbrev drain (daemon : Daemon) (output : ReadOutput) :
    Except DrainError (List DrainedEvent) :=
  chanvoyDrain output daemon.spec

omit [Rfc3339] in
/-- Reaping and draining halts, starts the successor of an empty page, or holds the
page for its claim. -/
theorem reap_cases (daemon : Daemon) (reapOk : Bool) (output : ReadOutput)
    (spawnOk : Bool) (standing : daemon.phase = .reaping) :
    daemon.reap reapOk output spawnOk = { daemon with phase := .halted } ∨
      daemon.reap reapOk output spawnOk =
        { daemon with
          child := none
          trace := .drained daemon.spec :: daemon.trace
          phase := .halted } ∨
      (daemon.drain output = .ok [] ∧ daemon.reap reapOk output spawnOk =
        { daemon with
          child := some daemon.spec
          trace := .spawned daemon.spec :: .drained daemon.spec :: daemon.trace
          phase := .polling }) ∨
      (∃ events, daemon.drain output = .ok events ∧ events ≠ [] ∧
        daemon.reap reapOk output spawnOk =
          { daemon with
            child := none
            trace := .drained daemon.spec :: daemon.trace
            phase := .claiming events }) := by
  unfold reap
  simp only [standing]
  split
  · exact Or.inl rfl
  refine Or.inr ?_
  rcases drained : chanvoyDrain output daemon.spec with error | events
  · exact Or.inl (by simp)
  · cases events with
    | nil =>
        rcases spawnWait_cases
            { daemon with child := none, trace := .drained daemon.spec :: daemon.trace }
            spawnOk .polling with same | ⟨_, _, same⟩
        · exact Or.inl same
        · exact Or.inr (Or.inl ⟨drained, same⟩)
    | cons event rest =>
        exact Or.inr (Or.inr ⟨event :: rest, drained, List.cons_ne_nil _ _, by simp⟩)

variable [UlidSupply]

/-- What a claimed page leaves in the daemon, besides its trace and its phase. -/
structure Claimed (before : Daemon) (request : IngestRequest) (events : List DrainedEvent)
    (pipe : DaemonPipe) (acks : AckStore) : Prop where
  claim : pipe.claim = some (freshClaim request events (UlidSupply.text before.minted))
  unattempted : pipe.attempted = false
  carries : pipe.ledger.Carries (freshClaim request events (UlidSupply.text before.minted))
  unlinked : request.link = none → pipe.ledger = .empty
  unsettled : pipe.ledger.isTerminal = false
  acks_eq : acks = { before.acks with
    signals := before.acks.signals.insert (UlidSupply.text before.minted)
      { AckStore.claimedBatch request.arm with
        requireReturnCompleted := events.any fun event => event.localLoss.isSome } }

omit [UnicodeSegmentation] in
private theorem claimed_of_step {daemon : Daemon} {request : IngestRequest}
    {events : List DrainedEvent} {step : PipeStep}
    (claimed : step.Claimed request events daemon.acks (UlidSupply.text daemon.minted)) :
    daemon.Claimed request events step.pipe step.acks where
  claim := claimed.claim
  unattempted := claimed.unattempted
  carries := claimed.carries
  unlinked := claimed.unlinked
  unsettled := claimed.unsettled
  acks_eq := claimed.acks_eq

/-- The specification after a timeout: the cursor it already had. -/
def rebased (daemon : Daemon) : WaitOnSpec :=
  { daemon.spec with after := some (daemon.spec.after.getD "") }

/-- Ingesting an exited child without a live claim halts, starts the wait again from
the same cursor, or claims the page. -/
theorem ingest_cases {daemon : Daemon} (clear : daemon.Clear) {wait : WaitResult}
    {link : Option AdmittedLink} (standing : daemon.phase = .ingesting wait link)
    (output : ReadOutput) (instant : OffsetDateTime) (spawnOk : Bool) :
    (∃ spec observed, (spec = daemon.spec ∨ spec = daemon.rebased) ∧
      (observed = [] ∨ observed = [.drained daemon.spec]) ∧
      daemon.ingest output instant spawnOk =
        { daemon with
          spec
          minted := daemon.minted + 2
          trace := observed ++ daemon.trace
          phase := .halted }) ∨
    (daemon.child = none ∧ daemon.ingest output instant spawnOk =
      { daemon with
        spec := daemon.rebased
        minted := daemon.minted + 2
        child := some daemon.rebased
        trace := .spawned daemon.rebased :: daemon.trace
        phase := .top }) ∨
    (∃ events pipe acks, daemon.drain output = .ok events ∧ events ≠ [] ∧
      daemon.Claimed (childRequest daemon wait link output instant) events pipe acks ∧
      daemon.ingest output instant spawnOk =
        { daemon with
          pipe, acks
          minted := daemon.minted + 2
          trace :=
            .claimed
                (freshClaim (childRequest daemon wait link output instant) events
                  (UlidSupply.text daemon.minted))
                (events.any fun event => event.localLoss.isSome) ::
              .drained daemon.spec :: daemon.trace
          phase := .linking .top }) := by
  have fresh := ingestMatch_fresh (childRequest daemon wait link output instant)
    clear.bound clear.closed (clear.numbered.fresh le_rfl)
    (UlidSupply.text (daemon.minted + 1))
  rw [← clear.pipe] at fresh
  unfold ingest
  simp only [standing]
  generalize ingestMatch (childRequest daemon wait link output instant) daemon.pipe
    daemon.acks none (UlidSupply.text daemon.minted) (UlidSupply.text (daemon.minted + 1)) =
      step at fresh
  rcases fresh with stopped | ⟨events, matched, drained, nonempty, claimed⟩
  · have unclaimed : claimObserved daemon.pipe step.pipe
        (drainLossy (chanvoyDrain output daemon.spec)) = [] := by
      simp [claimObserved, stopped.pipe_eq, clear.pipe, DaemonPipe.empty]
    rw [unclaimed, stopped.pipe_eq, stopped.acks_eq]
    cases wait with
    | matched =>
        rw [stopped.refused rfl]
        exact Or.inl ⟨daemon.spec, [.drained daemon.spec], Or.inl rfl, Or.inr rfl, rfl⟩
    | timeout =>
        rw [stopped.unmatched (by intro same; cases same)]
        simp only [daemonCoverage]
        rcases spawnWait_cases
            { daemon with
              spec := daemon.rebased
              minted := daemon.minted + 2 } spawnOk .top with same | ⟨vacant, _, same⟩
        · exact Or.inl ⟨daemon.rebased, [], Or.inr rfl, Or.inl rfl, same⟩
        · exact Or.inr (Or.inl ⟨vacant, same⟩)
    | error =>
        rw [stopped.unmatched (by intro same; cases same)]
        exact Or.inl ⟨daemon.spec, [], Or.inl rfl, Or.inl rfl, rfl⟩
  · refine Or.inr (Or.inr ⟨events, step.pipe, step.acks, drained, nonempty,
      claimed_of_step claimed, ?_⟩)
    have observed : claimObserved daemon.pipe step.pipe
        (drainLossy (chanvoyDrain output daemon.spec)) =
          [.claimed (freshClaim (childRequest daemon wait link output instant) events
              (UlidSupply.text daemon.minted))
            (events.any fun event => event.localLoss.isSome)] := by
      have given : chanvoyDrain output daemon.spec = .ok events := drained
      simp [claimObserved, claimed.claim, clear.pipe, DaemonPipe.empty, given, drainLossy]
    rw [observed, claimed.coverage_eq]
    cases matched
    rfl

omit [UnicodeSegmentation] in
/-- Claiming a drained page halts, or claims it. -/
theorem claimSuffix_cases {daemon : Daemon} (clear : daemon.Clear)
    {events : List DrainedEvent} (standing : daemon.phase = .claiming events) :
    daemon.claimSuffix = { daemon with minted := daemon.minted + 2, phase := .halted } ∨
      ∃ pipe acks, daemon.Claimed (suffixRequest daemon events) events pipe acks ∧
        daemon.claimSuffix =
          { daemon with
            pipe, acks
            minted := daemon.minted + 2
            trace :=
              .claimed
                  (freshClaim (suffixRequest daemon events) events
                    (UlidSupply.text daemon.minted))
                  (events.any fun event => event.localLoss.isSome) :: daemon.trace
            phase := .polling } := by
  have fresh := ingestMatch_fresh (suffixRequest daemon events)
    clear.bound clear.closed (clear.numbered.fresh le_rfl)
    (UlidSupply.text (daemon.minted + 1))
  rw [← clear.pipe] at fresh
  unfold claimSuffix
  simp only [standing]
  generalize ingestMatch (suffixRequest daemon events) daemon.pipe daemon.acks none
    (UlidSupply.text daemon.minted) (UlidSupply.text (daemon.minted + 1)) = step at fresh
  rcases fresh with stopped | ⟨others, matched, drained, nonempty, claimed⟩
  · refine Or.inl ?_
    have unclaimed : claimObserved daemon.pipe step.pipe (drainLossy (.ok events)) = [] := by
      simp [claimObserved, stopped.pipe_eq, clear.pipe, DaemonPipe.empty]
    rw [unclaimed, stopped.pipe_eq, stopped.acks_eq, stopped.refused rfl]
    rfl
  · cases drained
    refine Or.inr ⟨step.pipe, step.acks, claimed_of_step claimed, ?_⟩
    have observed : claimObserved daemon.pipe step.pipe (drainLossy (.ok events)) =
        [.claimed (freshClaim (suffixRequest daemon events) events
            (UlidSupply.text daemon.minted))
          (events.any fun event => event.localLoss.isSome)] := by
      simp [claimObserved, claimed.claim, clear.pipe, DaemonPipe.empty, drainLossy]
    rw [observed, claimed.coverage_eq]
    rfl

end Daemon
end Waiter
end Gearwit
