import Gearwit.Waiter.Custody

/-!
# What each move does

Every move of the daemon is of one of a few kinds: it passes the main loop by, takes it
on, reads the link, writes a frame, records or accepts an acknowledgement, notes a result
or claims a page.  What each kind leaves to the loop, the batches and the trace is listed
here once, for everything that is proved about runs.
-/

namespace Gearwit
namespace Waiter

/-- Moves of the accept thread and of the provider. -/
def Move.outer : Move → Bool
  | .acceptWaiter _ _ | .prepare _ | .commit _ | .acceptHandled _ _ | .send | .stop
  | .post _ => true
  | _ => false

/-- The main loop is about to flush. -/
def Phase.isFlushing : Phase → Bool
  | .flushing _ _ => true
  | _ => false

/-- What is resumed is not flushing. -/
@[simp] theorem Resume.isFlushing_phase (resume : Resume) : resume.phase.isFlushing = false := by
  cases resume <;> rfl

/-- Observations that concern neither a frame nor a batch. -/
def Observation.plain : Observation → Bool
  | .spawned _ | .drained _ | .recorded _ | .admitted _ _ => true
  | .claimed _ _ | .accepted _ _ | .wrote _ _ => false

/-- A recorded result is plain to see. -/
theorem resultRecorded_plain [Rfc3339] {ledger : DeliveryLedger} {result : WaiterLink}
    {observation : Observation} (member : observation ∈ resultRecorded ledger result) :
    observation.plain = true := by
  unfold resultRecorded at member
  split at member
  · rw [List.mem_singleton.1 member]
    rfl
  · cases member

namespace Daemon

/-- The main loop stands where it stood, with the pipe and the connection it had. -/
structure LoopKept (before after : Daemon) : Prop where
  phase : after.phase = before.phase
  served : after.served = before.served
  pipe : after.pipe = before.pipe
  now : after.now = before.now

variable [Rfc3339] [UlidSupply]

/-- What a move does to the main loop, the batches and the trace. -/
inductive Effect (before : Daemon) (move : Move) (after : Daemon) : Prop
  | aside (recent : List Observation) (loop : before.LoopKept after)
      (acks : after.acks = before.acks) (trace : after.trace = recent ++ before.trace)
      (plain : ∀ observation ∈ recent, observation.plain = true)
  | moved (recent : List Observation) (inner : move.outer = false)
      (elsewhere : after.phase.isFlushing = false) (acks : after.acks = before.acks)
      (trace : after.trace = recent ++ before.trace)
      (plain : ∀ observation ∈ recent, observation.plain = true)
  | linked {resume : Resume} (read : move = .readLink)
      (standing : before.phase = .linking resume)
      (same : after = { before with phase := .flushing before.table.current resume })
  | wrote {writeOk : Bool} {connection : Nat} {message : DeliverEvents} {live : SignalClaim}
      {delivered : List String} (flushed : move = .flush writeOk)
      (elsewhere : after.phase.isFlushing = false) (claimed : before.pipe.claim = some live)
      (acks : after.acks =
        (before.acks.noteDelivered live.signalId delivered live.eventRefs).2)
      (trace : after.trace = .wrote connection message :: before.trace)
  | recorded (loop : before.LoopKept after) (arm : after.acks.arm = before.acks.arm)
      (signals : after.acks.signals = before.acks.signals) (trace : after.trace = before.trace)
  | accepted {message : HandledRequest} {instant : OffsetDateTime} {arm : KnownArm}
      {batch : SignalBatch} (loop : before.LoopKept after)
      (acceptable : before.acks.Acceptable message arm batch)
      (acks : after.acks = before.acks.accepting message instant arm batch)
      (trace : after.trace = .accepted message.signalId message.cursor :: before.trace)
  | noted {result : WaiterLink} (noting : move = .note)
      (standing : before.phase = .noting result) (elsewhere : after.phase.isFlushing = false)
      (acks : after.acks = updateAckVisibilityAfterResult before.acks result)
      (trace : after.trace = before.trace)
  | claimed {request : IngestRequest} {events : List DrainedEvent} {pipe : DaemonPipe}
      (older : List Observation) (inner : move.outer = false)
      (elsewhere : after.phase.isFlushing = false) (clear : before.Clear)
      (claimed : before.Claimed request events pipe after.acks)
      (trace : after.trace =
        .claimed (freshClaim request events (UlidSupply.text before.minted))
          (events.any fun event => event.localLoss.isSome) :: older ++ before.trace)
      (plain : ∀ observation ∈ older, observation.plain = true)

namespace Effect

variable {before after : Daemon} {move : Move}

/-- A move that passes the main loop by and shows nothing. -/
theorem still (loop : before.LoopKept after) (acks : after.acks = before.acks)
    (trace : after.trace = before.trace) : before.Effect move after :=
  .aside [] loop acks trace (List.forall_mem_nil _)

/-- A move that takes the main loop on and shows nothing. -/
theorem turned (inner : move.outer = false) (elsewhere : after.phase.isFlushing = false)
    (acks : after.acks = before.acks) (trace : after.trace = before.trace) :
    before.Effect move after :=
  .moved [] inner elsewhere acks trace (List.forall_mem_nil _)

/-- Where the thread of a move stands elsewhere nothing happens. -/
theorem refl (daemon : Daemon) (move : Move) : daemon.Effect move daemon :=
  .still ⟨rfl, rfl, rfl, rfl⟩ rfl rfl

/-- A move adds to the trace, and only a flush adds a frame. -/
theorem shown (effect : before.Effect move after) :
    ∃ recent, after.trace = recent ++ before.trace ∧
      ((∀ writeOk, move ≠ .flush writeOk) →
        ∀ connection message, Observation.wrote connection message ∉ recent) := by
  have unwritten {recent : List Observation}
      (plain : ∀ observation ∈ recent, observation.plain = true) (connection : Nat)
      (message : DeliverEvents) : Observation.wrote connection message ∉ recent := by
    intro member
    cases plain _ member
  cases effect with
  | aside recent _ _ trace plain | moved recent _ _ _ trace plain =>
      exact ⟨recent, trace, fun _ => unwritten plain⟩
  | linked _ _ same => exact ⟨[], by rw [same]; rfl, fun _ _ _ => List.not_mem_nil⟩
  | wrote flushed _ _ _ trace =>
      exact ⟨[_], trace, fun other => absurd flushed (other _)⟩
  | recorded _ _ _ trace | noted _ _ _ _ trace =>
      exact ⟨[], trace, fun _ _ _ => List.not_mem_nil⟩
  | accepted _ _ _ trace => exact ⟨[_], trace, fun _ _ _ => by simp⟩
  | claimed older _ _ _ _ trace plain =>
      exact ⟨_ :: older, trace, fun _ connection message => by
        simp [unwritten plain connection message]⟩

end Effect

/-! ## The accept thread -/

private theorem commit_effect (daemon : Daemon) (writeOk : Bool) :
    daemon.Effect (.commit writeOk) (daemon.commit writeOk) := by
  unfold commit
  split
  · simp only
    split
    · exact .still ⟨rfl, rfl, rfl, rfl⟩ rfl rfl
    · rename_i served _
      cases served.session with
      | none => exact .still ⟨rfl, rfl, rfl, rfl⟩ rfl rfl
      | some session =>
          exact .aside [.admitted _ session] ⟨rfl, rfl, rfl, rfl⟩ rfl rfl
            (by simp [Observation.plain])
  · exact .refl _ _

private theorem acceptHandled_effect {daemon : Daemon} (sane : daemon.Sane)
    (request : HandledCursor) (instant : OffsetDateTime) :
    daemon.Effect (.acceptHandled request instant) (daemon.acceptHandled request instant) := by
  rcases acceptHandled_cases sane.remembers request instant with
    same | ⟨_, acks, arm, signals, _, same⟩ | ⟨_, message, arm, batch, acceptable, _, same⟩
  · rw [same]
    exact .refl _ _
  · rw [same]
    exact .recorded ⟨rfl, rfl, rfl, rfl⟩ arm signals rfl
  · rw [same]
    exact .accepted ⟨rfl, rfl, rfl, rfl⟩ acceptable rfl rfl

/-! ## The main loop -/

private theorem receive_effect (daemon : Daemon) (now : OffsetDateTime) :
    daemon.Effect (.receive now) (daemon.receive now) := by
  unfold receive
  split
  · split
    · exact .turned rfl rfl rfl rfl
    split
    · exact .turned rfl rfl rfl rfl
    · exact .turned rfl rfl rfl rfl
    · split <;> exact .turned rfl rfl rfl rfl
  · exact .refl _ _

private theorem retain_effect (daemon : Daemon) : daemon.Effect .retain daemon.retain := by
  unfold retain
  split
  · split
    · refine .turned rfl ?_ rfl rfl
      simp only
      split <;> rfl
    · exact .turned rfl rfl rfl rfl
  · exact .refl _ _

private theorem lease_effect (daemon : Daemon) (timeoutOk : Bool) :
    daemon.Effect (.lease timeoutOk) (daemon.lease timeoutOk) := by
  unfold lease
  split
  · refine .turned rfl ?_ rfl rfl
    simp only
    split <;> rfl
  · exact .refl _ _

private theorem flush_effect (daemon : Daemon) (writeOk : Bool) :
    daemon.Effect (.flush writeOk) (daemon.flush writeOk) := by
  unfold flush
  split
  · rename_i link resume standing
    have elsewhere (lost : Bool) :
        (if lost then Phase.revoking true resume else resume.phase).isFlushing = false := by
      cases lost
      · exact resume.isFlushing_phase
      · rfl
    split
    · exact .turned rfl resume.isFlushing_phase rfl rfl
    · rename_i served present
      have effect := flushAttached_effect link daemon.pipe daemon.acks daemon.now writeOk
        (UlidSupply.text daemon.minted)
      generalize flushAttached link daemon.pipe daemon.acks daemon.now writeOk
        (UlidSupply.text daemon.minted) = flushed at effect
      cases effect with
      | resting | expired | refused | already | unsent =>
          refine .turned rfl ?_ rfl rfl
          dsimp only
          exact elsewhere _
      | written claimed =>
          refine .wrote rfl ?_ claimed rfl rfl
          dsimp only
          exact elsewhere _
  · exact .refl _ _

private theorem pollLease_effect (daemon : Daemon) (timeoutOk : Bool) :
    daemon.Effect (.pollLease timeoutOk) (daemon.pollLease timeoutOk) := by
  unfold pollLease
  split
  · split
    · exact .turned rfl rfl rfl rfl
    · simp only
      split
      · split <;> exact .turned rfl rfl rfl rfl
      · split <;> exact .turned rfl rfl rfl rfl
  · exact .refl _ _

private theorem readResult_effect (daemon : Daemon) (read : ReadResult) :
    daemon.Effect (.readResult read) (daemon.readResult read) := by
  unfold readResult
  split
  · split
    · exact .turned rfl rfl rfl rfl
    · exact .turned rfl rfl rfl rfl
    · rename_i result
      refine .moved (resultRecorded daemon.pipe.ledger result) rfl ?_ rfl rfl
        fun observation member => resultRecorded_plain member
      simp only
      split <;> rfl
  · exact .refl _ _

private theorem tryWait_effect (daemon : Daemon) (poll : ChildPoll) :
    daemon.Effect (.tryWait poll) (daemon.tryWait poll) := by
  unfold tryWait
  split
  · split
    · exact .turned rfl rfl rfl rfl
    · split <;> exact .turned rfl rfl rfl rfl
  · exact .refl _ _

private theorem outdate_effect (daemon : Daemon) : daemon.Effect .outdate daemon.outdate := by
  unfold outdate
  split
  · simp only
    split <;> exact .turned rfl rfl rfl rfl
  · exact .refl _ _

variable [UnicodeSegmentation]

private theorem ingest_effect {daemon : Daemon} (sane : daemon.Sane) (output : ReadOutput)
    (instant : OffsetDateTime) (spawnOk : Bool) :
    daemon.Effect (.ingest output instant spawnOk) (daemon.ingest output instant spawnOk) := by
  cases standing : daemon.phase with
  | ingesting wait link =>
      obtain ⟨clear, _, _⟩ := sane.clear (by rw [standing]; rfl)
      rcases ingest_cases clear standing output instant spawnOk with
        ⟨spec, observed, _, noted, same⟩ | ⟨_, same⟩ | ⟨events, pipe, acks, _, _, claimed, same⟩
      · rw [same]
        refine .moved observed rfl rfl rfl rfl ?_
        rcases noted with rfl | rfl <;> simp [Observation.plain]
      · rw [same]
        exact .moved [.spawned daemon.rebased] rfl rfl rfl rfl (by simp [Observation.plain])
      · rw [same]
        exact .claimed [.drained daemon.spec] rfl rfl clear claimed rfl
          (by simp [Observation.plain])
  | _ =>
      rw [ingest, standing]
      exact .refl _ _

private theorem reap_effect (daemon : Daemon) (reapOk : Bool) (output : ReadOutput)
    (spawnOk : Bool) :
    daemon.Effect (.reap reapOk output spawnOk) (daemon.reap reapOk output spawnOk) := by
  cases standing : daemon.phase with
  | reaping =>
      rcases reap_cases daemon reapOk output spawnOk standing with
        same | same | ⟨_, same⟩ | ⟨events, _, _, same⟩
      · rw [same]
        exact .turned rfl rfl rfl rfl
      · rw [same]
        exact .moved [.drained daemon.spec] rfl rfl rfl rfl (by simp [Observation.plain])
      · rw [same]
        exact .moved [.spawned daemon.spec, .drained daemon.spec] rfl rfl rfl rfl
          (by simp [Observation.plain])
      · rw [same]
        exact .moved [.drained daemon.spec] rfl rfl rfl rfl (by simp [Observation.plain])
  | _ =>
      rw [reap, standing]
      exact .refl _ _

omit [UnicodeSegmentation] in
private theorem claimSuffix_effect {daemon : Daemon} (sane : daemon.Sane) :
    daemon.Effect .claim daemon.claimSuffix := by
  cases standing : daemon.phase with
  | claiming events =>
      obtain ⟨clear, _, _⟩ := sane.clear (by rw [standing]; rfl)
      rcases claimSuffix_cases clear standing with same | ⟨pipe, acks, claimed, same⟩
      · rw [same]
        exact .turned rfl rfl rfl rfl
      · rw [same]
        exact .claimed [] rfl rfl clear claimed rfl (List.forall_mem_nil _)
  | _ =>
      rw [claimSuffix, standing]
      exact .refl _ _

/-- Every move has one of the effects. -/
theorem step_effect {daemon : Daemon} (sane : daemon.Sane) (move : Move) :
    daemon.Effect move (daemon.step move) := by
  cases move with
  | acceptWaiter request instant =>
      rw [step, acceptWaiter]
      split <;> exact .still ⟨rfl, rfl, rfl, rfl⟩ rfl rfl
  | prepare elapsed =>
      rw [step, prepare]
      split
      · simp only
        split <;> exact .still ⟨rfl, rfl, rfl, rfl⟩ rfl rfl
      · exact .refl _ _
  | commit writeOk => exact daemon.commit_effect writeOk
  | acceptHandled request instant => exact acceptHandled_effect sane request instant
  | send =>
      rw [step, send]
      split <;> exact .still ⟨rfl, rfl, rfl, rfl⟩ rfl rfl
  | stop =>
      rw [step, stop]
      split <;> exact .still ⟨rfl, rfl, rfl, rfl⟩ rfl rfl
  | receive now => exact daemon.receive_effect now
  | retain => exact daemon.retain_effect
  | supersede =>
      rw [step, supersede]
      split
      · exact .turned rfl rfl rfl rfl
      · exact .refl _ _
  | lease timeoutOk => exact daemon.lease_effect timeoutOk
  | readLink =>
      rw [step, readLink]
      split
      · rename_i resume standing
        exact .linked rfl standing rfl
      · exact .refl _ _
  | flush writeOk => exact daemon.flush_effect writeOk
  | revoke =>
      rw [step, revoke]
      split
      · rename_i markLost resume _
        exact .turned rfl resume.isFlushing_phase rfl rfl
      · exact .refl _ _
  | pollLease timeoutOk => exact daemon.pollLease_effect timeoutOk
  | readResult read => exact daemon.readResult_effect read
  | note =>
      rw [step, note]
      split
      · rename_i result standing
        exact .noted rfl standing rfl rfl rfl
      · exact .refl _ _
  | tryWait poll => exact daemon.tryWait_effect poll
  | readChildLink =>
      rw [step, readChildLink]
      split
      · exact .turned rfl rfl rfl rfl
      · exact .refl _ _
  | ingest output instant spawnOk => exact ingest_effect sane output instant spawnOk
  | outdate => exact daemon.outdate_effect
  | reap reapOk output spawnOk => exact daemon.reap_effect reapOk output spawnOk
  | claim => exact claimSuffix_effect sane
  | post message => exact .still ⟨rfl, rfl, rfl, rfl⟩ rfl rfl

/-- The accept thread and the provider leave the main loop where it stands. -/
theorem step_outer {daemon : Daemon} (sane : daemon.Sane) {move : Move}
    (outer : move.outer = true) : daemon.LoopKept (daemon.step move) := by
  cases step_effect sane move with
  | aside _ loop | recorded loop | accepted loop => exact loop
  | moved _ inner | claimed _ inner =>
      rw [outer] at inner
      cases inner
  | linked same | wrote same | noted same =>
      subst same
      cases outer

/-- The main loop stands in a flush because it stood there before, or because it just
read the link. -/
theorem step_flushing {daemon : Daemon} (sane : daemon.Sane) {move : Move}
    {link : Option AdmittedLink} {resume : Resume}
    (standing : (daemon.step move).phase = .flushing link resume) :
    (daemon.step move).served = daemon.served ∧ (daemon.step move).pipe = daemon.pipe ∧
      (daemon.step move).now = daemon.now ∧
      (daemon.phase = .flushing link resume ∨
        move = .readLink ∧ daemon.phase = .linking resume ∧ link = daemon.table.current) := by
  have effect := step_effect sane move
  generalize daemon.step move = after at effect standing ⊢
  cases effect with
  | aside _ loop | recorded loop | accepted loop =>
      exact ⟨loop.served, loop.pipe, loop.now, Or.inl (loop.phase ▸ standing)⟩
  | linked read linking same =>
      subst same
      cases standing
      exact ⟨rfl, rfl, rfl, Or.inr ⟨read, linking, rfl⟩⟩
  | moved _ _ elsewhere | wrote _ elsewhere | noted _ _ elsewhere | claimed _ _ elsewhere =>
      rw [standing] at elsewhere
      cases elsewhere

end Daemon
end Waiter
end Gearwit
