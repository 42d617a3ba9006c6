import Gearwit.Controller.Identifiers

/-!
# Controller products

The values that cross the seam between the host and a native controller: scopes,
correlations, probe results, permits, commands and the closed sets of answers.
Move-only products of the source are plain values here; their linearity belongs
to the systems that pass them around.
-/

namespace Gearwit

/-! ## Native coordinates -/

/-- Closed authority scope for private native coordinates. -/
inductive NativeCoordinateScope
  | thread (birthId : ControllerBirthId) (createAttemptId : RequestNonce)
  | turn
      (birthId : ControllerBirthId) (attemptId : AttemptId)
      (signalId : SignalId) (turnWriteId : RequestNonce)
  deriving DecidableEq

/-- Kinds of native coordinate. -/
inductive NativeCoordinateKind
  | thread
  | turn
  deriving DecidableEq, Repr

/-- Kind of coordinate a scope may hold. -/
def NativeCoordinateScope.kind : NativeCoordinateScope → NativeCoordinateKind
  | .thread _ _ => .thread
  | .turn _ _ _ _ => .turn

/-- Transient native coordinate: one to 1024 bytes of one kind. -/
structure SecretNativeCoordinate where
  kind : NativeCoordinateKind
  plaintext : List UInt8
  bounds : plaintext ≠ [] ∧ plaintext.length ≤ 1024
  deriving DecidableEq

/-- Checked constructor of a native coordinate. -/
def SecretNativeCoordinate.new (kind : NativeCoordinateKind) (value : String) :
    Except String SecretNativeCoordinate :=
  if bounds : value.toByteArray.data.toList ≠ [] ∧
      value.toByteArray.data.toList.length ≤ 1024 then
    .ok ⟨kind, value.toByteArray.data.toList, bounds⟩
  else .error "invalid native coordinate"

/-! ## Capability and attachment -/

/-- The only managed native capability. -/
inductive ManagedCapability
  | handleClaimedSignal
  deriving DecidableEq, Repr

instance : Subsingleton ManagedCapability :=
  ⟨fun left right => by cases left; cases right; rfl⟩

/-- Durable controller attachment rehydrated by daemon authority. -/
structure ControllerAttachment where
  attemptId : AttemptId
  birthId : ControllerBirthId
  armId : ArmId
  generation : UInt64
  seatId : SeatId
  capability : ManagedCapability
  leaseUntil : OffsetDateTime
  verifierRef : VerifierRef
  deriving DecidableEq

/-- Controller half of a birth reservation. -/
structure ControllerBirthBinding where
  birthId : ControllerBirthId
  seatId : SeatId
  armId : ArmId
  generation : UInt64
  capability : ManagedCapability
  leaseUntil : OffsetDateTime
  verifierRef : VerifierRef
  deriving DecidableEq

/-- Mutation generation for one owned controller birth. -/
structure NativeMutationEpoch where
  birthId : ControllerBirthId
  sequence : UInt64
  deriving DecidableEq

/-- Exact private turn correlation persisted before native input or output. -/
structure PersistedTurnCorrelation where
  attemptId : AttemptId
  signalId : SignalId
  birthId : ControllerBirthId
  threadRef : PrivateNativeRef
  turnWriteId : RequestNonce
  turnRef : Option PrivateNativeRef
  deriving DecidableEq

namespace PersistedTurnCorrelation

/-- The correlation with its native turn named. -/
def withTurnRef (correlation : PersistedTurnCorrelation) (turnRef : PrivateNativeRef) :
    PersistedTurnCorrelation :=
  { correlation with turnRef := some turnRef }

/-- Coordinate scope of the correlated turn. -/
def turnScope (correlation : PersistedTurnCorrelation) : NativeCoordinateScope :=
  .turn correlation.birthId correlation.attemptId correlation.signalId
    correlation.turnWriteId

@[simp] theorem withTurnRef_attemptId
    (correlation : PersistedTurnCorrelation) (turnRef : PrivateNativeRef) :
    (correlation.withTurnRef turnRef).attemptId = correlation.attemptId := rfl

@[simp] theorem withTurnRef_turnRef
    (correlation : PersistedTurnCorrelation) (turnRef : PrivateNativeRef) :
    (correlation.withTurnRef turnRef).turnRef = some turnRef := rfl

@[simp] theorem withTurnRef_withTurnRef
    (correlation : PersistedTurnCorrelation) (first second : PrivateNativeRef) :
    (correlation.withTurnRef first).withTurnRef second =
      correlation.withTurnRef second := rfl

@[simp] theorem turnScope_withTurnRef
    (correlation : PersistedTurnCorrelation) (turnRef : PrivateNativeRef) :
    (correlation.withTurnRef turnRef).turnScope = correlation.turnScope := rfl

end PersistedTurnCorrelation

/-! ## Probes -/

/-- Complete immutable authority binding consumed by exactly one probe. -/
structure ProbeBinding where
  attachment : ControllerAttachment
  signalId : SignalId
  threadRef : PrivateNativeRef
  challengeId : RequestNonce
  deriving DecidableEq

/-- Sealed one-shot complete binding for an idle probe. -/
structure IdleProbeScope where
  binding : ProbeBinding
  deriving DecidableEq

/-- Controller-local single-flight lane retained from probe through write. -/
structure ControllerIdleGuard where
  probeId : RequestNonce
  epoch : NativeMutationEpoch
  deriving DecidableEq

/-- Exact-active evidence product. -/
structure ActiveObservationProof where
  birthId : ControllerBirthId
  createAttemptId : RequestNonce
  threadRef : PrivateNativeRef
  seatId : SeatId
  armId : ArmId
  generation : UInt64
  capability : ManagedCapability
  attachmentVerifierRef : VerifierRef
  leaseUntil : OffsetDateTime
  attemptId : AttemptId
  signalId : SignalId
  probeId : RequestNonce
  mutationEpoch : NativeMutationEpoch
  observedAt : OffsetDateTime
  prehash : Bytes32
  producerVersion : String
  producerDialect : String
  deriving DecidableEq

/-- A proof carries over every field of the binding it was observed under. -/
def ActiveObservationProof.fromBinding
    (binding : ProbeBinding) (createAttemptId : RequestNonce)
    (mutationEpoch : NativeMutationEpoch) (observedAt : OffsetDateTime)
    (prehash : Bytes32) (producerVersion producerDialect : String) :
    ActiveObservationProof where
  birthId := binding.attachment.birthId
  createAttemptId := createAttemptId
  threadRef := binding.threadRef
  seatId := binding.attachment.seatId
  armId := binding.attachment.armId
  generation := binding.attachment.generation
  capability := binding.attachment.capability
  attachmentVerifierRef := binding.attachment.verifierRef
  leaseUntil := binding.attachment.leaseUntil
  attemptId := binding.attachment.attemptId
  signalId := binding.signalId
  probeId := binding.challengeId
  mutationEpoch := mutationEpoch
  observedAt := observedAt
  prehash := prehash
  producerVersion := producerVersion
  producerDialect := producerDialect

/-- Exact controller observation. -/
inductive IdleProbeObservation
  | idle
      (binding : ProbeBinding) (probeId : RequestNonce)
      (epoch : NativeMutationEpoch) (observedAt : OffsetDateTime)
  | unproven
      (binding : ProbeBinding) (probeId : RequestNonce)
      (observedAt : OffsetDateTime)
  deriving DecidableEq

/-- Idle probe result.  Only exact idle retains the write lane. -/
inductive IdleProbeResult
  | idle (observation : IdleProbeObservation) (lane : ControllerIdleGuard)
  | active (proof : ActiveObservationProof)
  | unproven (observation : IdleProbeObservation)
  deriving DecidableEq

/-- Refusals of a probe. -/
inductive ControllerProbeError
  | bindingRejected
  | epochInvalidated
  deriving DecidableEq, Repr

/-! ## Reservation and command -/

/-- Single-use permit minted after complete authority validation. -/
structure ValidatedIdlePermit where
  attemptId : AttemptId
  signalId : SignalId
  birthId : ControllerBirthId
  threadRef : PrivateNativeRef
  armId : ArmId
  generation : UInt64
  capability : ManagedCapability
  verifierRef : VerifierRef
  mutationEpoch : NativeMutationEpoch
  probeId : RequestNonce
  observedAt : OffsetDateTime
  validUntil : OffsetDateTime
  deriving DecidableEq

/-- Result of the durable native-write reservation. -/
structure NativeWriteReservation where
  correlation : PersistedTurnCorrelation
  probeId : RequestNonce
  expectedEpoch : NativeMutationEpoch
  deriving DecidableEq

/-- Closed action: the signal to handle and nothing else. -/
structure SignalAction where
  signalId : SignalId
  deriving DecidableEq

/-- The only native-write command. -/
structure ControllerCommand where
  attachment : ControllerAttachment
  action : SignalAction
  correlation : PersistedTurnCorrelation
  expectedProbeId : RequestNonce
  expectedEpoch : NativeMutationEpoch
  deriving DecidableEq

/-- A command is minted from a reservation. -/
def ControllerCommand.fromReservation
    (attachment : ControllerAttachment) (action : SignalAction)
    (reservation : NativeWriteReservation) : ControllerCommand where
  attachment := attachment
  action := action
  correlation := reservation.correlation
  expectedProbeId := reservation.probeId
  expectedEpoch := reservation.expectedEpoch

/-! ## Turn facts, dispositions and scopes -/

/-- Recognized exact native terminal classes. -/
inductive TerminalClass
  | succeeded
  | failed
  | nativeInterrupted
  deriving DecidableEq, Repr

/-- Exact fact for only the reserved thread and turn. -/
inductive NativeTurnFact
  | accepted (turnRef : PrivateNativeRef)
  | started (turnRef : PrivateNativeRef)
  | terminal (turnRef : PrivateNativeRef) (terminalClass : TerminalClass)
  | degradedTerminalObservation
  | controllerLost
  | unknown
  deriving DecidableEq

/-- Turn named by a fact. -/
def NativeTurnFact.turnRef : NativeTurnFact → Option PrivateNativeRef
  | .accepted turnRef | .started turnRef | .terminal turnRef _ => some turnRef
  | .degradedTerminalObservation | .controllerLost | .unknown => none

/-- Facts of a recognized terminal turn. -/
def NativeTurnFact.isTerminal : NativeTurnFact → Bool
  | .terminal _ _ => true
  | _ => false

/-- Facts that lose sight of the turn. -/
def NativeTurnFact.isDegraded : NativeTurnFact → Bool
  | .degradedTerminalObservation | .controllerLost | .unknown => true
  | _ => false

/-- Facts that lose sight of the turn are the ones that name none. -/
theorem NativeTurnFact.isDegraded_iff (fact : NativeTurnFact) :
    fact.isDegraded = true ↔ fact.turnRef = none := by
  cases fact <;> simp [NativeTurnFact.isDegraded, NativeTurnFact.turnRef]

/-- Native write boundary result. -/
inductive NativeWriteDisposition
  | provenNotAccepted
  | accepted (turnRef : PrivateNativeRef)
  | exactResponse (fact : NativeTurnFact)
  | unknown
  | idleEpochInvalidated
      (probeId : RequestNonce)
      (expectedEpoch observedEpoch : NativeMutationEpoch)
  deriving DecidableEq

/-- Refusal of a native write. -/
inductive ControllerWriteError
  | bindingRejected
  deriving DecidableEq, Repr

/-- Exact reconciliation result for a durable unknown correlation. -/
inductive ReconciliationDisposition
  | provenNotAccepted
  | accepted (turnRef : PrivateNativeRef)
  | terminal (turnRef : PrivateNativeRef) (terminalClass : TerminalClass)
  | unknown
  deriving DecidableEq

/-- Refusal of a reconciliation. -/
inductive ControllerReconcileError
  | bindingRejected
  deriving DecidableEq, Repr

/-- Sealed exact turn binding for observation. -/
structure ObservationScope where
  correlation : PersistedTurnCorrelation
  evidenceRef : VerifierRef
  deriving DecidableEq

/-- Sealed durable unknown binding for reconciliation. -/
structure ReconciliationScope where
  correlation : PersistedTurnCorrelation
  nativeWriteEvidenceRef : VerifierRef
  deriving DecidableEq

end Gearwit
