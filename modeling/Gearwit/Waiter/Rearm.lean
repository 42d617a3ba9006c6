import Gearwit.Waiter.Custody
import Gearwit.Waiter.Deliverable

/-!
# Restarting coverage after an acknowledgement

An accepted acknowledgement moves the cursor, drops the links of the old
generation, reaps the old child and drains after the new cursor.  The contract
starts one successor wait when nothing follows the cursor, and claims what
follows otherwise.  The drain of the daemon refuses the page that lists nothing,
and that page is the one on which the contract fails.
-/

namespace Gearwit
namespace Waiter

/-- What coverage does after an accepted acknowledgement. -/
inductive RearmFollowup
  | unchanged
  | paused
  | waiting
  deriving DecidableEq

/-- The message list of a provider reply that ran and is well formed. -/
def ReadOutput.messages : ReadOutput → Option (List Json)
  | .io | .nonZeroExit => none
  | .stdout json => json.bind pageMessages

variable [Rfc3339] [UnicodeSegmentation] [UlidSupply]

namespace Daemon

/-- Apply cursor and generation, reap the old child, drain, then spawn only if the
drain lists nothing. -/
def restartAfterAck (daemon : Daemon) (rearm : AckRearm) (reapOk : Bool)
    (output : ReadOutput) (spawnOk : Bool) : Except Int RearmFollowup × Daemon :=
  let (taken, spec, arm, pipe) := takeCoverageRearm daemon.spec daemon.arm daemon.pipe rearm
  if !taken then (.ok .unchanged, daemon)
  else
    let (served, table) := revokeOlderGeneration daemon.served daemon.table rearm.generation
    let daemon := { daemon with spec, arm, pipe, served, table }
    if daemon.child.isSome && !reapOk then (.error 2, daemon)
    else
      let daemon := { daemon with child := none, trace := .drained spec :: daemon.trace }
      match chanvoyDrain output daemon.spec with
      | .error _ => (.error 2, daemon)
      | .ok [] =>
          if spawnOk then
            (.ok .waiting,
              { daemon with child := some spec, trace := .spawned spec :: daemon.trace })
          else (.error 2, daemon)
      | .ok events =>
          let step := ingestMatch (suffixRequest daemon events) daemon.pipe daemon.acks none
            (UlidSupply.text daemon.minted) (UlidSupply.text (daemon.minted + 1))
          let daemon :=
            { daemon with
              pipe := step.pipe
              acks := step.acks
              minted := daemon.minted + 2
              trace :=
                claimObserved daemon.pipe step.pipe (drainLossy (.ok events)) ++ daemon.trace }
          match step.outcome.coverage with
          | .halt exit => (.error exit, daemon)
          | _ => (.ok .paused, daemon)

/-- The specification of coverage after a rearm. -/
def successor (daemon : Daemon) (rearm : AckRearm) : WaitOnSpec :=
  { daemon.spec with after := some rearm.after }

/-! ## The contract -/

/-- What restarting promises: one successor wait at the acknowledged cursor when no
message follows it, a claim of exactly the messages that follow otherwise, and an
error only when reaping, reading, parsing or spawning fails. -/
structure RearmContract (daemon : Daemon) (rearm : AckRearm) (reapOk : Bool)
    (output : ReadOutput) (spawnOk : Bool) (result : Except Int RearmFollowup × Daemon) :
    Prop where
  waiting : output.messages = some [] → spawnOk = true →
    result.1 = .ok .waiting ∧ result.2.child = some (daemon.successor rearm) ∧
      result.2.pipe.claim = none ∧
      result.2.trace =
        .spawned (daemon.successor rearm) :: .drained (daemon.successor rearm) :: daemon.trace
  paused : ∀ messages events, output.messages = some messages → messages ≠ [] →
    parseMessages [] messages = .ok events →
      result.1 = .ok .paused ∧ result.2.child = none ∧
        ∃ live, result.2.pipe.claim = some live ∧
          live.eventRefs = events.map DrainedEvent.id ∧
          live.events = providerEventsFromDrain events (observedText daemon.now) ∧
          result.2.trace =
            .claimed live (events.any fun event => event.localLoss.isSome) ::
              .drained (daemon.successor rearm) :: daemon.trace
  failed : ∀ exit, result.1 = .error exit →
    (daemon.child.isSome = true ∧ reapOk = false) ∨ output.messages = none ∨
      (∃ messages error, output.messages = some messages ∧
        parseMessages [] messages = .error error) ∨
      (output.messages = some [] ∧ spawnOk = false)

/-! ## What restarting does -/

omit [Rfc3339] [UlidSupply] in
/-- The daemon's drain after a cursor, by the message list of the reply. -/
theorem chanvoyDrain_eq {spec : WaitOnSpec} (based : spec.after ≠ none) (output : ReadOutput) :
    (output.messages = none ∧ ∃ error, chanvoyDrain output spec = .error error) ∨
      (output.messages = some [] ∧ chanvoyDrain output spec = .error .empty) ∨
      ∃ messages, output.messages = some messages ∧ messages ≠ [] ∧
        chanvoyDrain output spec = parseMessages [] messages := by
  cases after : spec.after with
  | none => exact absurd after based
  | some cursor =>
      cases output with
      | io => exact Or.inl ⟨rfl, _, by simp [chanvoyDrain, after]; rfl⟩
      | nonZeroExit => exact Or.inl ⟨rfl, _, by simp [chanvoyDrain, after]; rfl⟩
      | stdout json =>
          simp only [ReadOutput.messages, chanvoyDrain, after, parseDrainedEvents]
          cases page : json.bind pageMessages with
          | none => exact Or.inl ⟨rfl, _, rfl⟩
          | some messages =>
              cases messages with
              | nil => exact Or.inr (Or.inl ⟨rfl, rfl⟩)
              | cons message rest =>
                  exact Or.inr (Or.inr ⟨_, rfl, List.cons_ne_nil _ _, rfl⟩)

omit [Rfc3339] [UlidSupply] in
/-- A page the daemon's drain gives lists displayable events. -/
theorem chanvoyDrain_displayable {output : ReadOutput} {spec : WaitOnSpec} {events : List DrainedEvent}
    (drained : chanvoyDrain output spec = .ok events) :
    events ≠ [] ∧ ∀ event ∈ events, drainedEventIsDisplayable event = true := by
  obtain ⟨_, json, _, read⟩ := chanvoyDrain_ok drained
  obtain ⟨_, _, _, nonempty, parsed, _⟩ := parseDrainedEvents_ok read
  exact ⟨nonempty, fun event member => (parsed event member).displayable⟩

/-- Applying an accepted rearm: nothing is left to reap, and the drain decides. -/
theorem restartAfterAck_accepted {daemon : Daemon} (sane : daemon.Sane) {rearm : AckRearm}
    (accepted : rearm ∈ daemon.outstanding) (reapOk : Bool) (output : ReadOutput)
    (spawnOk : Bool) :
    (∃ error left, chanvoyDrain output (daemon.successor rearm) = .error error ∧
      daemon.restartAfterAck rearm reapOk output spawnOk = (.error 2, left) ∧
      left.child = none) ∨
    ∃ events left live, chanvoyDrain output (daemon.successor rearm) = .ok events ∧
      daemon.restartAfterAck rearm reapOk output spawnOk = (.ok .paused, left) ∧
      left.child = none ∧ left.pipe.claim = some live ∧
      live.eventRefs = events.map DrainedEvent.id ∧
      live.events = providerEventsFromDrain events (observedText daemon.now) ∧
      left.trace =
        .claimed live (events.any fun event => event.localLoss.isSome) ::
          .drained (daemon.successor rearm) :: daemon.trace := by
  obtain ⟨live, holds, bound, closed, generation, _, _⟩ := sane.custody.accepted accepted
  have other : ¬ (daemon.arm.generation = rearm.generation ∧
      daemon.spec.after = some rearm.after ∧ daemon.pipe.claim = none ∧
      daemon.pipe.ledger.pending = none) := fun same => by
    have equal := same.1
    omega
  unfold restartAfterAck
  simp only [takeCoverageRearm, if_neg other, Bool.not_true, Bool.false_eq_true, if_false,
    holds.childless, Option.isSome_none, Bool.false_and]
  rw [show ({ daemon.spec with after := some rearm.after } : WaitOnSpec) =
    daemon.successor rearm from rfl]
  rcases drained : chanvoyDrain output (daemon.successor rearm) with error | events
  · exact Or.inl ⟨error, _, rfl, rfl, rfl⟩
  · refine Or.inr ?_
    obtain ⟨nonempty, shown⟩ := chanvoyDrain_displayable drained
    have claimed (request : IngestRequest) (armed : daemon.acks.arm = some request.arm)
        (matched : request.wait = .matched) (based : request.spec.after ≠ none)
        (owned : request.drain = ownedDrain events) :
        (ingestMatch request .empty daemon.acks none (UlidSupply.text daemon.minted)
          (UlidSupply.text (daemon.minted + 1))).Claimed request events daemon.acks
            (UlidSupply.text daemon.minted) := by
      rw [ingestMatch_of_drained matched based (by rw [owned]; rfl) nonempty shown]
      exact claimDrained_fresh armed closed (sane.numbered.fresh le_rfl) events _
    cases events with
    | nil => exact absurd rfl nonempty
    | cons event rest =>
        simp only [suffixRequest]
        have page := claimed ⟨daemon.successor rearm, .matched, ownedDrain (event :: rest),
          { daemon.arm with generation := rearm.generation }, none, daemon.now⟩ bound rfl (by intro same; cases same)
          rfl
        generalize ingestMatch _ _ _ _ _ _ = ingested at page
        rw [page.coverage_eq]
        refine ⟨event :: rest, _, _, rfl, rfl, rfl, page.claim, rfl, rfl, ?_⟩
        simp only [claimObserved, DaemonPipe.empty, page.claim, drainLossy]
        rfl

/-- In every run, restarting after an accepted acknowledgement meets the contract
exactly when the provider's page is not the empty list, or no successor could have
been spawned anyway. -/
theorem restart_contract_iff (armId seatId : String) (coverageUntil : OffsetDateTime)
    (spec : WaitOnSpec) (initial : String) (log : List Json) (moves : List Move)
    {rearm : AckRearm}
    (accepted : rearm ∈ (Transition.run step
      (Daemon.start armId seatId coverageUntil spec initial log) moves).outstanding)
    (reapOk : Bool) (output : ReadOutput) (spawnOk : Bool) :
    RearmContract
        (Transition.run step (Daemon.start armId seatId coverageUntil spec initial log) moves)
        rearm reapOk output spawnOk
        ((Transition.run step (Daemon.start armId seatId coverageUntil spec initial log)
          moves).restartAfterAck rearm reapOk output spawnOk) ↔
      ¬ (output.messages = some [] ∧ spawnOk = true) := by
  have sane := run_sane (start_sane armId seatId coverageUntil spec initial log) moves
  generalize Transition.run step (Daemon.start armId seatId coverageUntil spec initial log)
    moves = daemon at accepted sane
  have restarted := restartAfterAck_accepted sane accepted reapOk output spawnOk
  have drains := @chanvoyDrain_eq _ (daemon.successor rearm) nofun output
  generalize daemon.restartAfterAck rearm reapOk output spawnOk = result at restarted
  constructor
  · rintro contract ⟨blank, spawned⟩
    have promised := (contract.waiting blank spawned).1
    rcases restarted with ⟨error, left, _, rfl, _⟩ | ⟨events, left, live, drained, rfl, _⟩
    · cases promised
    · cases promised
  · intro listed
    rcases restarted with ⟨error, left, refused, rfl, _⟩ | ⟨events, left, live, drained, rfl, rest⟩
    · refine ⟨fun blank spawned => absurd ⟨blank, spawned⟩ listed, ?_, fun exit _ => ?_⟩
      · intro messages events page nonempty parsed
        rcases drains with ⟨absent, _⟩ | ⟨blank, _⟩ | ⟨others, same, _, drained⟩
        · rw [page] at absent
          cases absent
        · rw [page, Option.some.injEq] at blank
          exact absurd blank nonempty
        · rw [page, Option.some.injEq] at same
          rw [← same, parsed, refused] at drained
          cases drained
      · refine Or.inr ?_
        rcases drains with ⟨absent, _⟩ | ⟨blank, _⟩ | ⟨messages, page, _, drained⟩
        · exact Or.inl absent
        · refine Or.inr (Or.inr ⟨blank, ?_⟩)
          cases spawnOk with
          | true => exact absurd ⟨blank, rfl⟩ listed
          | false => rfl
        · exact Or.inr (Or.inl ⟨messages, error, page, drained.symm.trans refused⟩)
    · refine ⟨fun blank spawned => absurd ⟨blank, spawned⟩ listed, ?_, nofun⟩
      intro messages others page nonempty parsed
      rcases drains with ⟨absent, _⟩ | ⟨blank, _⟩ | ⟨named, same, _, given⟩
      · rw [page] at absent
        cases absent
      · rw [page, Option.some.injEq] at blank
        exact absurd blank nonempty
      · rw [page, Option.some.injEq] at same
        rw [← same, parsed, drained, Except.ok.injEq] at given
        subst given
        obtain ⟨childless, claim, refs, claimed, trace⟩ := rest
        exact ⟨rfl, childless, live, claim, refs, claimed, trace⟩

end Daemon
end Waiter

/-! ## A page that lists nothing -/

namespace Waiter
namespace Sample

/-- Identifiers of the samples: the count, padded with zeros. -/
scoped instance supply : UlidSupply where
  text number := String.ofList
    (List.replicate (26 - (Nat.toDigits 10 number).length) '0' ++ Nat.toDigits 10 number)
  injective := by
    intro first second same
    have listed := String.ofList_injective same
    have read := congrArg (fun digits => Nat.ofDigitChars 10 digits 0) listed
    simpa [Nat.ofDigitChars_append] using read

/-- The daemon that covers the samples' channel. -/
def daemon : Daemon := .start arm.armId arm.seatId arm.coverageUntil spec "post00" []

/-- An acknowledgement of the first claim at a cursor. -/
def handled (cursor : String) : HandledCursor :=
  .request {
    schema := handledSchemaId
    requestId := "01J00000000000000000000051"
    armId := arm.armId
    generation := 1
    seatId := arm.seatId
    signalId := UlidSupply.text 2
    cursor
    observedAt := "1970-01-01T00:00:01Z" }

/-- A waiter attaches and the main loop adopts it. -/
def attaching : List Move :=
  [.acceptWaiter (.attachWaiter (attach "01J00000000000000000000041" 1)) (second 0),
    .prepare 0, .commit true, .send, .receive (second 1), .retain, .lease true, .readLink,
    .flush true]

/-- The child matches, and its page is claimed and delivered. -/
def delivering : List Move :=
  [.pollLease true, .readResult .idle, .tryWait (.exited 0), .readChildLink,
    .ingest plainPage (second 1) true, .readLink, .flush true]

/-- The page is acknowledged and the rearm reaches the main loop. -/
def acknowledging : List Move :=
  [.acceptHandled (handled "post-1") (second 1), .send, .receive (second 1)]

/-- The daemon once the acknowledgement of its page reaches the main loop. -/
def acknowledged : Daemon :=
  Transition.run Daemon.step daemon (attaching ++ delivering ++ acknowledging)

/-- The rearm of that acknowledgement. -/
def rearm : AckRearm := ⟨"post-1", 2, UlidSupply.text 2⟩

/-- The provider's answer when nothing follows the cursor. -/
def emptyPage : ReadOutput := .stdout (some (.array []))

private theorem rearm_outstanding : acknowledged.outstanding = [rearm] := by decide +kernel

/-- Nothing follows the acknowledged cursor and a successor could be spawned, yet the
restart is an error and no wait is left. -/
theorem empty_page_uncovered :
    rearm ∈ acknowledged.outstanding ∧ emptyPage.messages = some [] ∧
      (acknowledged.restartAfterAck rearm true emptyPage true).1 = .error 2 ∧
      (acknowledged.restartAfterAck rearm true emptyPage true).2.child = none ∧
      ¬ Daemon.RearmContract acknowledged rearm true emptyPage true
        (acknowledged.restartAfterAck rearm true emptyPage true) := by
  have sane : acknowledged.Sane := Daemon.run_sane (Daemon.start_sane _ _ _ _ _ _) _
  have accepted : rearm ∈ acknowledged.outstanding := by
    rw [rearm_outstanding]
    exact List.mem_singleton_self _
  rcases Daemon.restartAfterAck_accepted sane accepted true emptyPage true with
    ⟨error, left, refused, result, childless⟩ | ⟨events, left, live, drained, _⟩
  · rw [result]
    exact ⟨accepted, rfl, rfl, childless, fun contract => by cases (contract.waiting rfl rfl).1⟩
  · cases drained

/-- The page that follows the acknowledged cursor. -/
def nextPage : ReadOutput := .stdout (some (.array [post "post-2" "anna" "hello"]))

/-- A page that lists a message is claimed after the acknowledgement. -/
theorem next_page_claimed :
    Daemon.RearmContract acknowledged rearm true nextPage true
      (acknowledged.restartAfterAck rearm true nextPage true) := by
  have accepted : rearm ∈ acknowledged.outstanding := by
    rw [rearm_outstanding]
    exact List.mem_singleton_self _
  exact (Daemon.restart_contract_iff arm.armId arm.seatId arm.coverageUntil spec "post00" []
    (attaching ++ delivering ++ acknowledging) accepted true nextPage true).2
    fun blank => by cases blank.1

end Sample
end Waiter
end Gearwit
