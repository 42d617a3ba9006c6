import Gearwit.Coordinator.Runs
import Gearwit.Foundations.Tally

/-!
# What a coordinator keeps

The slots of a coordinator agree with the store over whole runs, and every command that was
handed out is concluded, lost in a crash or still pending.
-/

namespace Gearwit

open FakePersist

namespace HostWorld

section Steps

variable [Blake3] [Rfc3339]

/-- What the slots of a coordinator and its commands say about the store. -/
structure Coordinated (host : HostWorld) : Prop where
  single : host.coordinator.probing = none ∨ host.coordinator.writing = none
  followup : host.coordinator.observing = none ∨ host.coordinator.reconciling = none
  probing : ∀ prepared, host.coordinator.probing = some prepared →
    host.store.attemptRows prepared.correlation.attemptId =
      (Phase.dispatched prepared.correlation).rows
  writing : ∀ prepared, host.coordinator.writing = some prepared → ∃ probeId epoch,
    host.store.attemptRows prepared.correlation.attemptId =
      (Phase.reserved ⟨prepared.correlation, probeId, epoch⟩).rows
  observing : ∀ scope, host.coordinator.observing = some scope → ∃ reservation outcome,
    host.store.attemptRows scope.correlation.attemptId =
      (Phase.concluded reservation outcome).rows
  reconciling : ∀ scope, host.coordinator.reconciling = some scope → ∃ reservation outcome,
    host.store.attemptRows scope.correlation.attemptId =
      (Phase.concluded reservation outcome).rows
  once : (host.commands.map fun command => command.correlation.attemptId).Nodup
  reserved : ∀ command ∈ host.commands,
    (host.store.attemptRows command.correlation.attemptId).reservation ≠ none

omit [Blake3] [Rfc3339] in
/-- A coordinator over a tracked authority is coordinated. -/
theorem Under.coordinated {host : HostWorld} {world : AuthorityWorld}
    {phases : AttemptId → Phase} (under : Under host world)
    (tracks : AuthorityWorld.Tracks world phases) : Coordinated host := by
  have stores : host.store = world.store := congrArg DaemonAuthority.store under.authority.symm
  have rows (attemptId : AttemptId) :
      host.store.attemptRows attemptId = (phases attemptId).rows := by
    rw [stores]
    exact tracks.rows attemptId
  have concluded {attemptId : AttemptId} (concluded : (phases attemptId).Concluded) :
      ∃ reservation outcome,
        host.store.attemptRows attemptId = (Phase.concluded reservation outcome).rows := by
    obtain ⟨reservation, outcome, same⟩ := concluded
    exact ⟨reservation, outcome, by rw [rows, same]⟩
  exact
    { single := under.single
      followup := under.followup
      probing := fun prepared kept => by
        rw [rows, (tracks.prepared prepared (under.probing prepared kept)).1]
      writing := fun prepared kept => by
        obtain ⟨authorized, member, rfl⟩ := under.writing prepared kept
        obtain ⟨probeId, epoch, same, _⟩ := tracks.authorized authorized member
        exact ⟨probeId, epoch, by rw [rows, same]⟩
      observing := fun scope kept => concluded (tracks.observing scope (under.observing scope kept))
      reconciling := fun scope kept =>
        concluded (tracks.reconciling scope (under.reconciling scope kept))
      once := by
        rw [← under.commands]
        exact tracks.commandsDistinct
      reserved := fun command member => by
        have crossed := tracks.commands command (under.commands ▸ member)
        rw [rows]
        cases phase : phases command.correlation.attemptId with
        | absent | admitted | dispatched | held =>
            rw [phase] at crossed
            exact absurd crossed id
        | reserved | invalidated | concluded => simp [Phase.rows] }

/-- The slots and the commands of every coordinator agree with its store. -/
theorem coordinated_after (activeMacKey : Bytes32) (now : OffsetDateTime)
    (events : List AuthorityEvent) (operations : List HostEvent) :
    Coordinated (after (AuthorityWorld.after activeMacKey now events) operations) := by
  obtain ⟨more, _, under⟩ := Under.simulates.run
    (Under.takeOver (AuthorityWorld.after activeMacKey now events)) operations
  obtain ⟨phases, tracks⟩ := AuthorityWorld.tracked_after activeMacKey now (events ++ more)
  have whole : AuthorityWorld.after activeMacKey now (events ++ more) =
      Transition.run AuthorityWorld.step (AuthorityWorld.after activeMacKey now events) more :=
    Transition.run_append ..
  rw [whole] at tracks
  exact under.coordinated tracks

/-! ## Every command is accounted for -/

/-- The write that waits for its conclusion. -/
def awaited (host : HostWorld) : Nat := if host.coordinator.writing.isSome then 1 else 0

/-- Commands that an event hands out. -/
def handsOut (host : HostWorld) (event : HostEvent) : Nat :=
  (host.step event).commands.length - host.commands.length

/-- The pending write is concluded, or that is tried. -/
def concludes (host : HostWorld) (event : HostEvent) : Nat :=
  match event.call with
  | .concludeNativeWrite _ _ _ => if host.up then host.awaited else 0
  | _ => 0

/-- The pending write is lost in a crash. -/
def loses (host : HostWorld) (event : HostEvent) : Nat :=
  match event.call with
  | .restart _ _ => host.awaited
  | _ => 0

/-- A coordinator that is down or probes has no pending write. -/
structure Waits (host : HostWorld) : Prop where
  under : ∃ world, Under host world
  down : host.up = false → host.coordinator.writing = none

/-- Only a probe, a conclusion and a restart change the pending write or the commands. -/
private theorem operate_keeps (host : HostWorld) (call : HostCall)
    (probe : ∀ result, call ≠ .authorizeProbe result)
    (conclude : ∀ disposition evidenceDraw factDraw,
      call ≠ .concludeNativeWrite disposition evidenceDraw factDraw)
    (restart : ∀ now draws, call ≠ .restart now draws) :
    (host.operate call).coordinator.writing = host.coordinator.writing ∧
      (host.operate call).commands = host.commands ∧ (host.operate call).up = host.up := by
  cases call with
  | setNow now => exact ⟨rfl, rfl, rfl⟩
  | reserveControllerBirth armText birthDraw createDraw verifierDraw =>
      simp only [operate, HostCoordinator.reserveControllerBirth, HostCoordinator.delegate]
      rcases host.coordinator.authority.reserveControllerBirth armText birthDraw createDraw
        verifierDraw with ⟨refusal | reservation, authority⟩ <;> exact ⟨rfl, rfl, rfl⟩
  | resolveThreadCreate reservation resolution evidenceDraw =>
      simp only [operate, HostCoordinator.resolveThreadCreate, HostCoordinator.delegate]
      split_ifs
      · rcases host.coordinator.authority.resolveThreadCreate reservation resolution
          evidenceDraw with ⟨refusal | ⟨write⟩ | ⟨write, quarantined⟩, authority⟩ <;>
          exact ⟨rfl, rfl, rfl⟩
      · exact ⟨rfl, rfl, rfl⟩
  | resolveQuarantinedThreadCreate reservation resolution evidenceDraw =>
      simp only [operate]
      split_ifs <;> exact ⟨rfl, rfl, rfl⟩
  | admitClaim request verifierDraw payloadDraw =>
      simp only [operate, HostCoordinator.admitClaim, HostCoordinator.delegate]
      rcases host.coordinator.authority.admitClaim request verifierDraw payloadDraw with
        ⟨refusal | result, authority⟩ <;> exact ⟨rfl, rfl, rfl⟩
  | prepare receipt writeDraw probeDraw =>
      simp only [operate, HostCoordinator.prepare]
      split_ifs
      · exact ⟨rfl, rfl, rfl⟩
      · split <;> exact ⟨rfl, rfl, rfl⟩
      · exact ⟨rfl, rfl, rfl⟩
  | authorizeProbe result => exact absurd rfl (probe result)
  | concludeNativeWrite disposition evidenceDraw factDraw =>
      exact absurd rfl (conclude disposition evidenceDraw factDraw)
  | pollAndRecordExact pollExactObservation evidenceDraw =>
      simp only [operate, HostCoordinator.pollAndRecordExact]
      refine ⟨?_, rfl, rfl⟩
      split
      · rfl
      · split
        · rfl
        · split <;> rfl
  | reconcileAndRecord reconcileExact factDraw =>
      simp only [operate, HostCoordinator.reconcileAndRecord]
      refine ⟨?_, rfl, rfl⟩
      split
      · rfl
      · split <;> rfl
  | sealNativeCoordinate scope coordinate draws => exact ⟨rfl, rfl, rfl⟩
  | restart now draws => exact absurd rfl (restart now draws)

/-- A probe hands out a command exactly when it makes the write pending. -/
private theorem authorizeProbe_balance (host : HostWorld)
    (single : host.coordinator.probing = none ∨ host.coordinator.writing = none)
    (result : Except ControllerProbeError IdleProbeResult) :
    (host.operate (.authorizeProbe result)).up = host.up ∧
      host.commands.length ≤ (host.operate (.authorizeProbe result)).commands.length ∧
      (host.operate (.authorizeProbe result)).awaited + host.commands.length =
        host.awaited + (host.operate (.authorizeProbe result)).commands.length := by
  cases probing : host.coordinator.probing with
  | none =>
      have same : host.operate (.authorizeProbe result) = host := by
        simp only [operate, HostCoordinator.authorizeProbe, probing]
        rfl
      rw [same]
      exact ⟨rfl, Nat.le_refl _, rfl⟩
  | some prepared =>
      have free : host.coordinator.writing = none := by
        rcases single with none | free
        · rw [probing] at none
          cases none
        · exact free
      have none : host.awaited = 0 := by simp [awaited, free]
      rw [none]
      rcases answered : host.coordinator.authority.authorizeProbe prepared result with
        ⟨refusal | authorization, authority⟩
      · simp only [operate, HostCoordinator.authorizeProbe, probing, answered, withCoordinator,
          awaited, free]
        simp
      · cases authorization with
        | ready authorized =>
            simp only [operate, HostCoordinator.authorizeProbe, probing, answered,
              withCoordinator, awaited]
            simp [Nat.add_comm]
        | heldBeforeNativeWrite | idleStateUnproven =>
            simp only [operate, HostCoordinator.authorizeProbe, probing, answered,
              withCoordinator, awaited, free]
            simp

/-- After a conclusion no write is pending. -/
private theorem concludeNativeWrite_settles (host : HostWorld)
    (disposition : Except ControllerWriteError NativeWriteDisposition)
    (evidenceDraw factDraw : Option VerifierRef) :
    (host.operate (.concludeNativeWrite disposition evidenceDraw factDraw)).up = host.up ∧
      (host.operate (.concludeNativeWrite disposition evidenceDraw factDraw)).commands =
        host.commands ∧
      (host.operate (.concludeNativeWrite disposition evidenceDraw factDraw)).awaited = 0 := by
  refine ⟨rfl, rfl, ?_⟩
  cases writing : host.coordinator.writing with
  | none => simp [operate, withCoordinator, awaited, HostCoordinator.concludeNativeWrite, writing]
  | some prepared =>
      simp only [operate, withCoordinator, awaited, HostCoordinator.concludeNativeWrite, writing]
      rcases host.coordinator.authority.concludeNativeWrite prepared disposition evidenceDraw
        factDraw with ⟨refusal | conclusion, authority⟩ <;> rfl

omit [Rfc3339] in
/-- After a restart no write is pending. -/
private theorem restart_forgets (host : HostWorld) (now : OffsetDateTime)
    (draws : List VerifierRef) :
    (host.restart now draws).commands = host.commands ∧
      (host.restart now draws).coordinator.writing = none := by
  unfold restart
  split
  · exact ⟨rfl, rfl⟩
  · rename_i coordinator authority recovered
    refine ⟨rfl, ?_⟩
    unfold HostCoordinator.recover at recovered
    split at recovered
    · cases recovered
    · split_ifs at recovered with several
      · cases recovered
      · have same := Except.ok.inj (Prod.mk.inj recovered).1
        rw [← same]
        rfl

/-- One event: the write that waits and those that are settled or lost are the one that
waited and those that are handed out. -/
private theorem Waits.steps {host : HostWorld} (waits : Waits host) (event : HostEvent) :
    Waits (host.step event) ∧
      (host.step event).awaited + (host.concludes event + host.loses event) =
        host.awaited + host.handsOut event := by
  obtain ⟨world, under⟩ := waits.under
  obtain ⟨matched, next⟩ := Under.simulates host world event under
  obtain ⟨call, completes⟩ := event
  have balanced (up : (host.step ⟨call, completes⟩).up = false →
        (host.step ⟨call, completes⟩).coordinator.writing = none)
      (balance : (host.step ⟨call, completes⟩).awaited +
          (host.concludes ⟨call, completes⟩ + host.loses ⟨call, completes⟩) =
        host.awaited + host.handsOut ⟨call, completes⟩) :
      Waits (host.step ⟨call, completes⟩) ∧
        (host.step ⟨call, completes⟩).awaited +
            (host.concludes ⟨call, completes⟩ + host.loses ⟨call, completes⟩) =
          host.awaited + host.handsOut ⟨call, completes⟩ :=
    ⟨⟨⟨_, next⟩, up⟩, balance⟩
  have restarts (now : OffsetDateTime) (draws : List VerifierRef) (same : call = .restart now draws) :
      host.step ⟨call, completes⟩ = (host.allow completes).restart now draws := by
    subst same
    simp only [step, perform, operate]
    split_ifs <;> rfl
  by_cases restart : ∃ now draws, call = .restart now draws
  · obtain ⟨now, draws, rfl⟩ := restart
    have step := restarts now draws rfl
    obtain ⟨commands, writing⟩ := (host.allow completes).restart_forgets now draws
    refine balanced ?_ ?_
    · rw [step]
      exact fun _ => writing
    · have none : (host.step ⟨.restart now draws, completes⟩).awaited = 0 := by
        rw [step, awaited, writing]
        rfl
      have all : (host.step ⟨.restart now draws, completes⟩).commands = host.commands := by
        rw [step, commands]
        rfl
      simp only [none, handsOut, all, concludes, loses]
      omega
  cases up : host.up with
  | false =>
      have still : host.step ⟨call, completes⟩ = host.allow completes := by
        simp only [step, perform, allow, withCoordinator, up]
        cases call with
        | restart now draws => exact absurd ⟨now, draws, rfl⟩ restart
        | _ => rfl
      have none : host.awaited = 0 := by simp [awaited, waits.down up]
      refine balanced ?_ ?_
      · rw [still]
        exact fun _ => waits.down up
      · have same : (host.allow completes).awaited = host.awaited := rfl
        have all : (host.allow completes).commands = host.commands := rfl
        have settled : host.concludes ⟨call, completes⟩ = 0 ∧ host.loses ⟨call, completes⟩ = 0 := by
          cases call with
          | restart now draws => exact absurd ⟨now, draws, rfl⟩ restart
          | concludeNativeWrite => simp [concludes, loses, up]
          | _ => exact ⟨rfl, rfl⟩
        rw [handsOut, still, same, all, settled.1, settled.2]
        omega
  | true =>
      have operates : host.step ⟨call, completes⟩ = (host.allow completes).operate call := by
        simp only [step, perform]
        exact if_pos up
      have same : (host.allow completes).awaited = host.awaited := rfl
      have all : (host.allow completes).commands = host.commands := rfl
      have stays (live : ((host.allow completes).operate call).up = (host.allow completes).up) :
          (host.step ⟨call, completes⟩).up = false →
            (host.step ⟨call, completes⟩).coordinator.writing = none := by
        rw [operates, live]
        exact fun down => absurd (up.symm.trans down) (by decide)
      by_cases probe : ∃ result, call = .authorizeProbe result
      · obtain ⟨result, rfl⟩ := probe
        obtain ⟨live, more, balance⟩ :=
          (host.allow completes).authorizeProbe_balance under.single result
        refine balanced (stays live) ?_
        rw [all] at more
        rw [same, all] at balance
        simp only [concludes, loses, handsOut, operates]
        omega
      by_cases conclude : ∃ disposition evidenceDraw factDraw,
          call = .concludeNativeWrite disposition evidenceDraw factDraw
      · obtain ⟨disposition, evidenceDraw, factDraw, rfl⟩ := conclude
        obtain ⟨live, commands, none⟩ :=
          (host.allow completes).concludeNativeWrite_settles disposition evidenceDraw factDraw
        refine balanced (stays live) ?_
        simp only [concludes, loses, handsOut, operates, commands, none, all, up, if_true]
        omega
      obtain ⟨writing, commands, live⟩ := (host.allow completes).operate_keeps call
        (fun result same => probe ⟨result, same⟩)
        (fun disposition evidenceDraw factDraw same =>
          conclude ⟨disposition, evidenceDraw, factDraw, same⟩)
        (fun now draws same => restart ⟨now, draws, same⟩)
      refine balanced (stays live) ?_
      have kept : ((host.allow completes).operate call).awaited = host.awaited := by
        rw [awaited, writing]
        rfl
      have settled : host.concludes ⟨call, completes⟩ = 0 ∧ host.loses ⟨call, completes⟩ = 0 := by
        cases call with
        | restart now draws => exact absurd ⟨now, draws, rfl⟩ restart
        | concludeNativeWrite disposition evidenceDraw factDraw =>
            exact absurd ⟨disposition, evidenceDraw, factDraw, rfl⟩ conclude
        | _ => exact ⟨rfl, rfl⟩
      rw [handsOut, operates, commands, all, kept, settled.1, settled.2]
      omega

/-- Over every run the commands handed out are those whose conclusion was tried, those lost
in a crash and the one that still waits. -/
theorem commands_accounted (world : AuthorityWorld) (operations : List HostEvent) :
    (after world operations).awaited +
        Transition.tally step (fun host event => host.concludes event + host.loses event)
          (takeOver world) operations =
      Transition.tally step handsOut (takeOver world) operations := by
  have initially : Waits (takeOver world) :=
    ⟨⟨world, .takeOver world⟩, by intro same; cases same⟩
  have balance := Transition.tally_balance Waits
    (fun host event waits => (waits.steps event).1)
    (fun host event waits => (waits.steps event).2) initially operations
  have none : (takeOver world).awaited = 0 := rfl
  rw [none, Nat.zero_add] at balance
  exact balance

end Steps

end HostWorld
end Gearwit
