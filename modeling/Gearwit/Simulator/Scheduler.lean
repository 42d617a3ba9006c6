import Mathlib

/-!
# The scheduler of the simulator

Stimuli wait until they are due and their causal parent has completed, are admitted to a
bounded queue, and are executed against an adapter whose behaviour is a parameter.  Ticks
are 64-bit numbers, and a plain addition that overflows ends the run.
-/

namespace Gearwit
namespace Simulator

/-! ## Envelopes -/

/-- Version of artifacts and observations. -/
def artifactVersion : String := "gearwit.sim/v2"

/-- Actions of a scenario. -/
inductive Action
  | arm
  | offer (event : String)
  | admitEvent (event : String)
  | retrieve (request : String)
  | staleRetrieve (request : String)
  | acknowledge (request : String)
  | terminal
  | rearm
  | revoke
  | restart
  | omitRearm
  deriving DecidableEq

/-- Actions of the host's store stream. -/
inductive StoreStreamAction
  | arm
  | offer (event : String)
  | admitEvent (event : String)
  | retrieve (request : String)
  | staleRetrieve (request : String)
  | acknowledge (request : String)
  | terminal
  | rearm
  | revoke
  | restart
  | omitRearm
  deriving DecidableEq

/-- The store action of an action. -/
def storeAction : Action → StoreStreamAction
  | .arm => .arm
  | .offer event => .offer event
  | .admitEvent event => .admitEvent event
  | .retrieve request => .retrieve request
  | .staleRetrieve request => .staleRetrieve request
  | .acknowledge request => .acknowledge request
  | .terminal => .terminal
  | .rearm => .rearm
  | .revoke => .revoke
  | .restart => .restart
  | .omitRearm => .omitRearm

/-- One stimulus of a scenario. -/
structure Stimulus where
  dueTick : UInt64
  sequence : UInt64
  operationId : String
  causalParent : Option String
  action : Action
  deriving DecidableEq

/-- Limits of a run. -/
structure RunLimits where
  queueCapacity : Nat
  maxEvents : Nat
  maxVirtualTick : UInt64

/-- Stores a scenario can run against. -/
inductive SimulatorStore
  | fake
  | sqlite
  deriving DecidableEq

/-- What of a scenario the scheduler reads. -/
structure ScenarioEnvelope where
  caseId : String
  store : SimulatorStore
  limits : RunLimits
  stimuli : List Stimulus

/-- What the store answered to one stimulus. -/
structure Observation where
  version : String
  operationId : String
  outcome : String
  logicalEffects : UInt64
  authorityRevision : UInt64
  deriving DecidableEq

/-- Accounting of the queue. -/
structure QueueAccounting where
  offered : Nat
  admitted : Nat
  rejected : Nat
  completed : Nat
  delivered : Nat
  duplicated : Nat
  dropped : Nat
  maxDepth : Nat
  deriving DecidableEq

/-- Outcome of one host check. -/
structure HostCheck where
  store : SimulatorStore
  check : String
  passed : Bool
  detail : String
  deriving DecidableEq

/-! ## The adapter -/

/-- Receipt of a store step. -/
structure StoreStreamReceipt where
  outcome : String
  logicalEffects : UInt64
  authorityRevision : UInt64
  deriving DecidableEq

/-- A store stream: each call succeeds with a receipt or fails with a text. -/
class StoreStreamAdapter (A : Type) where
  apply : String → StoreStreamAction → A → Except String StoreStreamReceipt × A

/-! ## Faults -/

/-- Faults a case injects into receipts. -/
inductive FaultMode
  | none
  | duplicateAdmission
  | loseAcknowledgment
  | resurrectRevokedGrant
  | falsePublication
  deriving DecidableEq

/-- The part of a text after its last dash. -/
def lastPart (text : String) : List Char :=
  (text.toList.reverse.takeWhile fun character => character != '-').reverse

/-- The fault of a case. -/
def FaultMode.forCase (caseId : String) : FaultMode :=
  if "ORACLE".toList <:+: caseId.toList then
    if lastPart caseId = ['0', '1'] then .duplicateAdmission
    else if lastPart caseId = ['0', '2'] then .loseAcknowledgment
    else if lastPart caseId = ['0', '3'] then .resurrectRevokedGrant
    else if lastPart caseId = ['0', '4'] then .falsePublication
    else .none
  else .none

/-- The largest 64-bit number. -/
def maxTick : UInt64 := 18446744073709551615

/-- Addition that stops at the largest number. -/
def saturatingAdd (left right : UInt64) : UInt64 :=
  if left.toNat + right.toNat < UInt64.size then left + right else maxTick

/-- Subtraction that stops at zero. -/
def saturatingSub (left right : UInt64) : UInt64 :=
  if right ≤ left then left - right else 0

/-- Change an observation as a fault does. -/
def injectReceiptFault (fault : FaultMode) (action : Action) (observation : Observation) :
    Observation :=
  match fault, action with
  | .duplicateAdmission, .admitEvent _ =>
      { observation with logicalEffects := saturatingAdd observation.logicalEffects 1 }
  | .loseAcknowledgment, .restart =>
      { observation with authorityRevision := saturatingSub observation.authorityRevision 1 }
  | .resurrectRevokedGrant, .retrieve _ | .resurrectRevokedGrant, .staleRetrieve _ =>
      { observation with outcome := "retrieved" }
  | .falsePublication, .acknowledge _ =>
      { observation with authorityRevision := saturatingAdd observation.authorityRevision 1 }
  | _, _ => observation

/-! ## The state of the loop -/

/-- One call of the adapter: when it was made, for which stimulus, and whether it
succeeded. -/
structure Served where
  tick : UInt64
  stimulus : Stimulus
  succeeded : Bool
  deriving DecidableEq

/-- Variables of the loop, and the calls of the adapter, newest first, by which its
history is judged. -/
structure Scheduler (A : Type) where
  scheduled : List Stimulus
  ready : List Stimulus
  inFlight : Option (UInt64 × Stimulus)
  completedIds : List String
  offered : Nat
  admitted : Nat
  rejected : Nat
  maxDepth : Nat
  observations : List Observation
  executed : List Stimulus
  adapter : A
  errors : List String
  tick : UInt64
  resourceLimited : Bool
  served : List Served

/-- Order of the schedule: by due tick, then by sequence. -/
def keyLe (left right : Stimulus) : Bool :=
  decide (left.dueTick < right.dueTick ∨
    left.dueTick = right.dueTick ∧ left.sequence ≤ right.sequence)

/-- Ticks one service takes. -/
def serviceTicks (caseId : String) : UInt64 := if caseId = "SIM-QUEUE-01" then 2 else 0

namespace Scheduler

variable {A : Type}

/-- The loop before its first turn. -/
def start (envelope : ScenarioEnvelope) (adapter : A) : Scheduler A where
  scheduled := envelope.stimuli.mergeSort keyLe
  ready := []
  inFlight := none
  completedIds := []
  offered := 0
  admitted := 0
  rejected := 0
  maxDepth := 0
  observations := []
  executed := []
  adapter := adapter
  errors := []
  tick := 0
  resourceLimited := false
  served := []

/-- Stimuli given to the adapter, newest first. -/
def called (scheduler : Scheduler A) : List Stimulus :=
  scheduler.served.map Served.stimulus

/-- Stimuli in the queue or in flight. -/
def occupied (scheduler : Scheduler A) : Nat :=
  scheduler.ready.length + (if scheduler.inFlight.isSome then 1 else 0)

/-- Whether a stimulus is due and its parent has completed. -/
def dueNow (scheduler : Scheduler A) (stimulus : Stimulus) : Bool :=
  decide (stimulus.dueTick ≤ scheduler.tick) &&
    stimulus.causalParent.all fun parent => scheduler.completedIds.contains parent

/-- Loop of `admitDue`: the stimuli still to look at. -/
def admitLoop (capacity : Nat) : List Stimulus → Scheduler A → Scheduler A
  | [], scheduler => scheduler
  | stimulus :: rest, scheduler =>
      if !scheduler.dueNow stimulus then
        admitLoop capacity rest
          { scheduler with scheduled := scheduler.scheduled ++ [stimulus] }
      else if capacity ≤ scheduler.occupied then
        admitLoop capacity rest
          { scheduler with
            offered := scheduler.offered + 1, rejected := scheduler.rejected + 1 }
      else
        admitLoop capacity rest
          { scheduler with
            offered := scheduler.offered + 1
            ready := scheduler.ready ++ [stimulus]
            admitted := scheduler.admitted + 1
            maxDepth := max scheduler.maxDepth (scheduler.occupied + 1) }

/-- Offer every stimulus that is due to the queue. -/
def admitDue (capacity : Nat) (scheduler : Scheduler A) : Scheduler A :=
  admitLoop capacity scheduler.scheduled { scheduler with scheduled := [] }

variable [StoreStreamAdapter A]

/-- Execute a stimulus. -/
def completeStoreStep (caseId : String) (stimulus : Stimulus) (scheduler : Scheduler A) :
    Scheduler A :=
  match StoreStreamAdapter.apply stimulus.operationId (storeAction stimulus.action)
    scheduler.adapter with
  | (.ok receipt, adapter) =>
      { scheduler with
        adapter
        completedIds := stimulus.operationId :: scheduler.completedIds
        executed := scheduler.executed ++ [stimulus]
        observations := scheduler.observations ++
          [injectReceiptFault (.forCase caseId) stimulus.action
            ⟨artifactVersion, stimulus.operationId, receipt.outcome, receipt.logicalEffects,
              receipt.authorityRevision⟩]
        served := ⟨scheduler.tick, stimulus, true⟩ :: scheduler.served }
  | (.error error, adapter) =>
      { scheduler with
        adapter
        errors := scheduler.errors ++ [stimulus.operationId ++ ": " ++ error]
        served := ⟨scheduler.tick, stimulus, false⟩ :: scheduler.served }

/-- Complete what is in flight if it is due. -/
def completeDue (caseId : String) (scheduler : Scheduler A) : Scheduler A :=
  match scheduler.inFlight with
  | some (completeAt, stimulus) =>
      if completeAt ≤ scheduler.tick then
        completeStoreStep caseId stimulus { scheduler with inFlight := none }
      else scheduler
  | none => scheduler

/-- Loop of `serve` without service time: the queue.  A stimulus that is taken off the
queue when the events are used up is dropped. -/
def serveLoop (caseId : String) (maxEvents : Nat) :
    List Stimulus → Scheduler A → Scheduler A
  | [], scheduler => { scheduler with ready := [] }
  | stimulus :: rest, scheduler =>
      if maxEvents ≤ scheduler.observations.length then
        { scheduler with ready := rest, resourceLimited := true }
      else serveLoop caseId maxEvents rest (completeStoreStep caseId stimulus scheduler)

/-- Serve the queue. -/
def serve (envelope : ScenarioEnvelope) (scheduler : Scheduler A) : Scheduler A :=
  if serviceTicks envelope.caseId = 0 then
    serveLoop envelope.caseId envelope.limits.maxEvents scheduler.ready scheduler
  else
    match scheduler.inFlight, scheduler.ready with
    | none, stimulus :: rest =>
        { scheduler with
          ready := rest
          inFlight :=
            some (saturatingAdd scheduler.tick (serviceTicks envelope.caseId), stimulus) }
    | _, _ => scheduler

/-- What one turn of the loop leads to. -/
inductive Turn (A : Type)
  | again (scheduler : Scheduler A)
  | ended (scheduler : Scheduler A)
  | overflowed

/-- The least due tick of the schedule. -/
def nextScheduled (scheduler : Scheduler A) : Option UInt64 :=
  (scheduler.scheduled.map Stimulus.dueTick).min?

/-- A later tick that is at least another one. -/
def later (scheduler : Scheduler A) (tick : UInt64) : Turn A :=
  if scheduler.tick = maxTick then .overflowed
  else .again { scheduler with tick := max tick (scheduler.tick + 1) }

/-- Advance the clock. -/
def advance (scheduler : Scheduler A) : Turn A :=
  match scheduler.nextScheduled, scheduler.inFlight, scheduler.ready with
  | _, _, _ :: _ => .again { scheduler with tick := saturatingAdd scheduler.tick 1 }
  | some scheduled, some (completion, _), [] => scheduler.later (min scheduled completion)
  | some scheduled, none, [] => scheduler.later scheduled
  | none, some (completion, _), [] => scheduler.later completion
  | none, none, [] => .ended scheduler

/-- Whether nothing is left to do. -/
def idle (scheduler : Scheduler A) : Bool :=
  scheduler.scheduled.isEmpty && scheduler.ready.isEmpty && scheduler.inFlight.isNone

/-- Whether a limit of the run is used up. -/
def exhausted (limits : RunLimits) (scheduler : Scheduler A) : Bool :=
  decide (limits.maxVirtualTick < scheduler.tick) ||
    decide (limits.maxEvents ≤ scheduler.observations.length)

/-- What a turn does before the clock advances. -/
def work (envelope : ScenarioEnvelope) (scheduler : Scheduler A) : Scheduler A :=
  serve envelope
    (admitDue envelope.limits.queueCapacity (completeDue envelope.caseId scheduler))

/-- One turn of the loop. -/
def turn (envelope : ScenarioEnvelope) (scheduler : Scheduler A) : Turn A :=
  if scheduler.idle then .ended scheduler
  else if scheduler.exhausted envelope.limits then
    .ended { scheduler with resourceLimited := true }
  else
    let scheduler := work envelope scheduler
    if scheduler.resourceLimited then .ended scheduler else scheduler.advance

/-- A bounded number of turns. -/
def loop (envelope : ScenarioEnvelope) : Nat → Scheduler A → Turn A
  | 0, scheduler => .again scheduler
  | fuel + 1, scheduler =>
      match turn envelope scheduler with
      | .again scheduler => loop envelope fuel scheduler
      | outcome => outcome

/-- Run the scheduler for a bounded number of turns. -/
def executeStream (fuel : Nat) (envelope : ScenarioEnvelope) (adapter : A) : Turn A :=
  loop envelope fuel (start envelope adapter)

/-- A run goes on from where its first turn leads. -/
theorem loop_again {envelope : ScenarioEnvelope} {scheduler next : Scheduler A}
    (again : turn envelope scheduler = .again next) (fuel : Nat) :
    loop envelope (fuel + 1) scheduler = loop envelope fuel next := by
  rw [loop, again]

/-- A run ends where its first turn ends. -/
theorem loop_ended {envelope : ScenarioEnvelope} {scheduler last : Scheduler A}
    (ended : turn envelope scheduler = .ended last) (fuel : Nat) :
    loop envelope (fuel + 1) scheduler = .ended last := by
  rw [loop, ended]

/-- A run overflows when its first turn does. -/
theorem loop_overflowed {envelope : ScenarioEnvelope} {scheduler : Scheduler A}
    (overflowed : turn envelope scheduler = .overflowed) (fuel : Nat) :
    loop envelope (fuel + 1) scheduler = .overflowed := by
  rw [loop, overflowed]

/-! ## The clock -/

section Clock

omit [StoreStreamAdapter A]

/-- The number of the last tick. -/
theorem toNat_maxTick : maxTick.toNat = 18446744073709551615 := rfl

/-- No tick is behind the last one. -/
theorem le_maxTick (tick : UInt64) : tick ≤ maxTick := by
  have bound := tick.toNat_lt
  rw [UInt64.le_iff_toNat_le, toNat_maxTick]
  omega

private theorem lt_next {tick : UInt64} (room : tick ≠ maxTick) : tick < tick + 1 := by
  have small : tick.toNat ≠ maxTick.toNat := fun same => room (UInt64.toNat_inj.1 same)
  have bound := tick.toNat_lt
  have one : (1 : UInt64).toNat = 1 := rfl
  rw [toNat_maxTick] at small
  rw [UInt64.lt_iff_toNat_lt, UInt64.toNat_add]
  omega

private theorem right_le_max (left right : UInt64) : right ≤ max left right := by
  change right ≤ if left ≤ right then right else left
  split_ifs with below
  · exact UInt64.le_refl _
  · exact (UInt64.le_total left right).resolve_left below

/-- The clock stops at the last tick. -/
theorem saturatingAdd_one (tick : UInt64) :
    saturatingAdd tick 1 = if tick = maxTick then maxTick else tick + 1 := by
  have bound := tick.toNat_lt
  have one : (1 : UInt64).toNat = 1 := rfl
  have size : UInt64.size = 18446744073709551616 := rfl
  unfold saturatingAdd
  split_ifs with fits last last
  · rw [last, toNat_maxTick] at fits
    omega
  · rfl
  · rfl
  · have small : tick.toNat ≠ maxTick.toNat := fun same => last (UInt64.toNat_inj.1 same)
    rw [toNat_maxTick] at small
    omega

private theorem later_again {scheduler next : Scheduler A} {tick : UInt64}
    (again : scheduler.later tick = .again next) :
    ∃ tick, next = { scheduler with tick } ∧ scheduler.tick < tick := by
  unfold later at again
  split_ifs at again with last
  cases again
  exact ⟨_, rfl, UInt64.lt_of_lt_of_le (lt_next last) (right_le_max _ _)⟩

private theorem later_unended {scheduler last : Scheduler A} {tick : UInt64} :
    scheduler.later tick ≠ .ended last := by
  unfold later
  split_ifs <;> simp

/-- The clock only stands still at the last tick, while the queue is not empty. -/
theorem advance_again {scheduler next : Scheduler A}
    (again : scheduler.advance = .again next) :
    ∃ tick, next = { scheduler with tick } ∧
      (scheduler.tick < tick ∨
        scheduler.tick = maxTick ∧ tick = maxTick ∧ scheduler.ready ≠ []) := by
  unfold advance at again
  split at again
  · rename_i waiting
    cases again
    refine ⟨_, rfl, ?_⟩
    rw [saturatingAdd_one]
    split_ifs with last
    · exact .inr ⟨last, rfl, by rw [waiting]; exact List.cons_ne_nil _ _⟩
    · exact .inl (lt_next last)
  · obtain ⟨tick, same, forward⟩ := later_again again
    exact ⟨tick, same, .inl forward⟩
  · obtain ⟨tick, same, forward⟩ := later_again again
    exact ⟨tick, same, .inl forward⟩
  · obtain ⟨tick, same, forward⟩ := later_again again
    exact ⟨tick, same, .inl forward⟩
  · cases again

/-- Ending changes nothing. -/
theorem advance_ended {scheduler last : Scheduler A}
    (ended : scheduler.advance = .ended last) : last = scheduler := by
  unfold advance at ended
  split at ended
  · cases ended
  · exact absurd ended later_unended
  · exact absurd ended later_unended
  · exact absurd ended later_unended
  · cases ended
    rfl

/-- The clock overflows at the last tick, when the queue is empty and something is left. -/
theorem advance_overflowed_iff {scheduler : Scheduler A} :
    scheduler.advance = .overflowed ↔
      scheduler.tick = maxTick ∧ scheduler.ready = [] ∧ scheduler.idle = false := by
  have later_iff (tick : UInt64) :
      scheduler.later tick = .overflowed ↔ scheduler.tick = maxTick := by
    unfold later
    split_ifs with last <;> simp [last]
  unfold advance idle nextScheduled
  split
  · rename_i waiting
    simp [waiting]
  · rename_i scheduled completion stimulus dues flying empty
    rw [later_iff]
    simp [flying, empty]
  · rename_i scheduled dues flying empty
    have left : scheduler.scheduled ≠ [] := by
      intro none
      simp [none] at dues
    rw [later_iff]
    simp [flying, empty, left]
  · rename_i completion stimulus dues flying empty
    rw [later_iff]
    simp [flying, empty]
  · rename_i dues flying empty
    have none : scheduler.scheduled = [] := by simpa using dues
    simp [flying, empty, none]

end Clock

/-! ## The report -/

/-- Whether the run was cut short by a limit. -/
def limited (scheduler : Scheduler A) : Bool :=
  scheduler.resourceLimited || !scheduler.idle

/-- Accounting of a run that ended. -/
def accounting (scheduler : Scheduler A) : QueueAccounting where
  offered := scheduler.offered
  admitted := scheduler.admitted
  rejected := scheduler.rejected
  completed := scheduler.observations.length
  delivered := scheduler.observations.length
  duplicated := 0
  dropped := 0
  maxDepth := scheduler.maxDepth

/-- The host check of a run that ended. -/
def hostCheck (store : SimulatorStore) (scheduler : Scheduler A) : HostCheck where
  store := store
  check := "resolved-store-stream"
  passed := scheduler.errors.isEmpty && !scheduler.observations.isEmpty
  detail :=
    if scheduler.observations.isEmpty && scheduler.errors.isEmpty then
      "no resolved operations reached the store"
    else if scheduler.errors.isEmpty then
      toString scheduler.observations.length ++
        " resolved operations executed against one stateful store"
    else "; ".intercalate scheduler.errors

namespace Sample

/-- An adapter that accepts every call. -/
scoped instance obliging : StoreStreamAdapter Unit where
  apply _ _ adapter := (.ok ⟨"accepted", 1, 1⟩, adapter)

end Sample

end Scheduler
end Simulator
end Gearwit
