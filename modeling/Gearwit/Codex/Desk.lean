import Gearwit.Codex.Effects
import Gearwit.Foundations.Transition

/-!
# Runs of a controller

A desk has at most one child at a time: its creation may be quarantined, and then a
controller owns its thread.  Commands and lanes are handed over once.  The store is
shared, so it may move between any two operations.
-/

namespace Gearwit
namespace Codex

open Transport

/-- Who holds the child: nobody, with the log of the last one, a quarantined creation, or
the controller of its thread. -/
inductive Party (P : Type)
  | vacant (persist : P) (log : List WireEvent)
  | quarantined (quarantine : QuarantinedCreate P)
  | owned (controller : CodexController P)

/-- A probe that issued a lane. -/
structure ProbeRecord where
  binding : ProbeBinding
  lane : ControllerIdleGuard
  deriving DecidableEq

/-- The party with what its history is judged by: the turns asked for, newest first, the
probe whose lane was not used since, and the lanes handed out. -/
structure CodexDesk (P : Type) where
  party : Party P
  asked : List (PersistedTurnCorrelation × Nat)
  record : Option ProbeRecord
  lanes : List ControllerIdleGuard

/-- One operation of a creation or a controller, or a move of the shared store. -/
inductive CodexOp (P : Type)
  | create (surroundings : Surroundings) (reservation : ControllerBirthReservation)
      (draws : List PrivateNativeRef)
  | resume (surroundings : Surroundings) (birth : ControllerBirthBinding)
      (createAttemptId : RequestNonce) (threadRef : PrivateNativeRef)
  | late (reservation : QuarantinedBirthReservation) (draws : List PrivateNativeRef)
  | probe (scope : IdleProbeScope) (observedAt : OffsetDateTime)
  | write (lane : ControllerIdleGuard) (command : ControllerCommand)
      (finalNow : OffsetDateTime) (draws : List PrivateNativeRef)
  | poll (scope : ObservationScope)
  | reconcile (scope : ReconciliationScope) (verifiers : List VerifierRef)
      (draws : List PrivateNativeRef)
  | elsewhere (persist : P)

/-- What a creation reports. -/
inductive CreateReport
  | owned (threadRef : PrivateNativeRef)
  | provenNotAccepted
  | unknown
  | notReserved
  deriving DecidableEq

/-- What an operation reports. -/
inductive CodexReply
  | created (report : CreateReport)
  | resumed (succeeded : Bool)
  | probed (result : Except ControllerProbeError IdleProbeResult)
  | wrote (result : Except ControllerWriteError NativeWriteDisposition)
  | polled (fact : Option NativeTurnFact)
  | reconciled (result : Except ControllerReconcileError ReconciliationDisposition)
  | nothing
  deriving DecidableEq

/-- Identifiers of the requests of one kind, newest first. -/
def idsOf (kind : RequestKind) (log : List WireEvent) : List Nat :=
  ((requests log).filter fun request => decide (request.2 = kind)).map Prod.fst

/-- Turn frames offered since an older log, newest first. -/
def turnsSince (older log : List WireEvent) : List Nat :=
  (idsOf .turnStart log).take
    ((idsOf .turnStart log).length - (idsOf .turnStart older).length)

namespace CodexDesk

variable {P : Type}

/-- A desk without a child. -/
def start (persist : P) : CodexDesk P := ⟨.vacant persist [], [], none, []⟩

/-- A desk with a party that has asked for nothing yet. -/
def seat (party : Party P) : CodexDesk P := ⟨party, [], none, []⟩

/-- What passed over the wire of the child. -/
def log (desk : CodexDesk P) : List WireEvent :=
  match desk.party with
  | .vacant _ log => log
  | .quarantined quarantine => quarantine.transport.wire.pipes.log
  | .owned controller => controller.wire.pipes.log

/-- Requests that await their response. -/
def pending (desk : CodexDesk P) : List Pending :=
  match desk.party with
  | .vacant _ _ => []
  | .quarantined quarantine => quarantine.transport.wire.state.pending
  | .owned controller => controller.wire.state.pending

/-- Replace the controller. -/
def hand (desk : CodexDesk P) (controller : CodexController P) : CodexDesk P :=
  { desk with party := .owned controller }

variable [Persist P] [SerdeJson] [Blake3]

/-- Perform one operation.  An operation the party does not have is not possible, and
neither is a lane of this birth that was not handed out. -/
def perform (desk : CodexDesk P) : CodexOp P → CodexReply × CodexDesk P
  | .create surroundings reservation draws =>
      match desk.party with
      | .vacant persist _ =>
          match CodexController.createOwned persist surroundings reservation draws with
          | (.owned _ controller, _) =>
              (.created (.owned controller.threadRef), seat (.owned controller))
          | (.provenNotAccepted _ persist, log) =>
              (.created .provenNotAccepted, seat (.vacant persist log))
          | (.unknown _ quarantine, _) => (.created .unknown, seat (.quarantined quarantine))
          | (.notReserved _ persist, log) => (.created .notReserved, seat (.vacant persist log))
      | _ => (.nothing, desk)
  | .resume surroundings birth createAttemptId threadRef =>
      match desk.party with
      | .vacant persist _ =>
          match CodexController.resumeOwned persist surroundings birth createAttemptId
            threadRef with
          | .ok controller => (.resumed true, seat (.owned controller))
          | .error _ => (.resumed false, seat (.vacant persist []))
      | _ => (.nothing, desk)
  | .late reservation draws =>
      match desk.party with
      | .quarantined quarantine =>
          match quarantine.receiveLate reservation draws with
          | (.owned _ controller, _) =>
              (.created (.owned controller.threadRef), seat (.owned controller))
          | (.provenNotAccepted _ persist, log) =>
              (.created .provenNotAccepted, seat (.vacant persist log))
          | (.stillUnknown _ quarantine, _) =>
              (.created .unknown, seat (.quarantined quarantine))
      | _ => (.nothing, desk)
  | .probe scope observedAt =>
      match desk.party with
      | .owned controller =>
          let (result, controller) := controller.probeIdle scope observedAt
          (.probed result,
            match result with
            | .ok (.idle _ lane) =>
                { desk.hand controller with
                  record := some ⟨scope.binding, lane⟩, lanes := lane :: desk.lanes }
            | _ => desk.hand controller)
      | _ => (.nothing, desk)
  | .write lane command finalNow draws =>
      match desk.party with
      | .owned controller =>
          if lane.epoch.birthId = controller.birth.birthId ∧ lane ∉ desk.lanes then
            (.nothing, desk)
          else
            let (result, after) := controller.writeReservedTurn lane command finalNow draws
            (.wrote result,
              { party := .owned after
                asked := (turnsSince controller.wire.pipes.log after.wire.pipes.log).map
                  (fun id => (command.correlation, id)) ++ desk.asked
                record := none
                lanes := desk.lanes.erase lane })
      | _ => (.nothing, desk)
  | .poll scope =>
      match desk.party with
      | .owned controller =>
          let (fact, controller) := controller.pollExactObservation scope
          (.polled fact, desk.hand controller)
      | _ => (.nothing, desk)
  | .reconcile scope verifiers draws =>
      match desk.party with
      | .owned controller =>
          let (result, controller) := controller.reconcileExact scope verifiers draws
          (.reconciled result, desk.hand controller)
      | _ => (.nothing, desk)
  | .elsewhere persist =>
      match desk.party with
      | .vacant _ log => (.nothing, { desk with party := .vacant persist log })
      | .quarantined quarantine =>
          (.nothing, { desk with party := .quarantined { quarantine with persist } })
      | .owned controller => (.nothing, desk.hand { controller with persist })

/-- The desk after one operation. -/
def step (desk : CodexDesk P) (op : CodexOp P) : CodexDesk P := (desk.perform op).2

/-- What an operation reports. -/
def reply (desk : CodexDesk P) (op : CodexOp P) : CodexReply := (desk.perform op).1

end CodexDesk

/-! ## Identifiers by kind -/

/-- The requests of a longer log are those of its parts. -/
theorem idsOf_append (kind : RequestKind) (newer older : List WireEvent) :
    idsOf kind (newer ++ older) = idsOf kind newer ++ idsOf kind older := by
  simp [idsOf, requests_append]

/-- Events without a request add no identifier. -/
theorem idsOf_unrequested {kind : RequestKind} {newer : List WireEvent}
    (unrequested : requests newer = []) (older : List WireEvent) :
    idsOf kind (newer ++ older) = idsOf kind older := by
  rw [idsOf_append, idsOf, unrequested]
  rfl

/-- A request of another kind adds no identifier. -/
theorem idsOf_other {kind other : RequestKind} (different : other ≠ kind) (id : Nat)
    (frame : List UInt8) (accepted : Nat) (log : List WireEvent) :
    idsOf kind (.offered (.request id other) frame accepted :: log) = idsOf kind log := by
  simp [idsOf, different]

@[simp] theorem idsOf_same (kind : RequestKind) (id : Nat) (frame : List UInt8)
    (accepted : Nat) (log : List WireEvent) :
    idsOf kind (.offered (.request id kind) frame accepted :: log) = id :: idsOf kind log := by
  simp [idsOf]

/-- The identifiers of a kind are those of its requests. -/
theorem mem_idsOf {kind : RequestKind} {id : Nat} {log : List WireEvent} :
    id ∈ idsOf kind log ↔ (id, kind) ∈ requests log := by
  simp [idsOf]

/-- Only what is new is new. -/
theorem turnsSince_append (newer older : List WireEvent) :
    turnsSince older (newer ++ older) = idsOf .turnStart newer := by
  simp [turnsSince, idsOf_append]

end Codex
end Gearwit
