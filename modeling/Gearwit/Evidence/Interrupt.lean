import Mathlib

/-!
# Interrupt lifecycle receipts

A receipt proves one fact, from a source that can observe it.  The log takes receipts in the
order of their numbers and at most one for a phase, and shows a phase from its own receipt
only.
-/

namespace Gearwit
namespace Evidence

/-- How a matching interrupt should return attention to a seat. -/
inductive DeliveryRoute
  | returnForeground
  | completeBackgroundTool
  | controllerAttached
  | notifyOperator
  deriving DecidableEq

/-- One independently observable phase of an interrupt. -/
inductive InterruptPhase
  | waitArmed
  | signalMatched
  | waiterCompleted
  | eventsDrained
  | turnStarted
  | modelObserved
  | seatActed
  | handledCursorRecorded
  | coverageRearmed
  | coverageEnded
  deriving DecidableEq

/-- Terminal result of a waiter that started. -/
inductive WaiterCompletion
  | matched
  | deadmanExpired
  | failed
  | replaced
  deriving DecidableEq

/-- Why intended coverage ended. -/
inductive CoverageEndReason
  | runnerNotStarted
  | deadmanExpired
  | providerFailed
  | cancelled
  | replaced
  deriving DecidableEq

/-- Exact fact a lifecycle receipt carries. -/
inductive LifecycleFact
  | waitArmed
  | signalMatched
  | waiterCompleted (completion : WaiterCompletion)
  | eventsDrained (eventCount : Nat)
  | turnStarted
  | modelObserved
  | seatActed
  | handledCursorRecorded
  | coverageRearmed
  | coverageEnded (reason : CoverageEndReason)
  deriving DecidableEq

/-- Phase the fact proves. -/
def LifecycleFact.phase : LifecycleFact → InterruptPhase
  | .waitArmed => .waitArmed
  | .signalMatched => .signalMatched
  | .waiterCompleted _ => .waiterCompleted
  | .eventsDrained _ => .eventsDrained
  | .turnStarted => .turnStarted
  | .modelObserved => .modelObserved
  | .seatActed => .seatActed
  | .handledCursorRecorded => .handledCursorRecorded
  | .coverageRearmed => .coverageRearmed
  | .coverageEnded _ => .coverageEnded

/-- Producer that observed the fact. -/
inductive ReceiptSource
  | controlPlane
  | provider
  | waiterProcess
  | harness
  | controller
  | seat
  | operator
  deriving DecidableEq

/-- Phases the source can observe. -/
def ReceiptSource.supports : ReceiptSource → InterruptPhase → Bool
  | .controlPlane, .waitArmed | .controlPlane, .signalMatched
  | .controlPlane, .waiterCompleted | .controlPlane, .eventsDrained
  | .controlPlane, .handledCursorRecorded | .controlPlane, .coverageRearmed
  | .controlPlane, .coverageEnded => true
  | .provider, .signalMatched | .provider, .eventsDrained => true
  | .waiterProcess, .waitArmed | .waiterProcess, .waiterCompleted
  | .waiterProcess, .coverageRearmed | .waiterProcess, .coverageEnded => true
  | .harness, .turnStarted | .harness, .modelObserved => true
  | .controller, .turnStarted | .controller, .modelObserved => true
  | .seat, .modelObserved | .seat, .seatActed | .seat, .handledCursorRecorded
  | .seat, .coverageRearmed => true
  | .operator, .seatActed => true
  | _, _ => false

/-- Invalid receipt or append. -/
inductive ReceiptError
  | zeroSequence
  | unsupportedEvidence (source : ReceiptSource) (phase : InterruptPhase)
  | unexpectedSequence (expected actual : Nat)
  | duplicatePhase (phase : InterruptPhase)
  deriving DecidableEq

/-- One fact with its number and its observer, which supports it. -/
structure LifecycleReceipt where
  sequence : Nat
  fact : LifecycleFact
  source : ReceiptSource
  positive : sequence ≠ 0
  supported : source.supports fact.phase = true

/-- A receipt for a fact its source can support. -/
def LifecycleReceipt.tryNew (sequence : Nat) (fact : LifecycleFact) (source : ReceiptSource) :
    Except ReceiptError LifecycleReceipt :=
  if positive : sequence = 0 then .error .zeroSequence
  else if supported : source.supports fact.phase = true then
    .ok ⟨sequence, fact, source, positive, supported⟩
  else .error (.unsupportedEvidence source fact.phase)

/-- Number of the receipt after so many others; the count saturates at 64 bits. -/
def nextSequence (count : Nat) : Nat :=
  min (min count (2 ^ 64 - 1) + 1) (2 ^ 64 - 1)

/-- Short of its bound the sequence counts up. -/
theorem nextSequence_eq {count : Nat} (short : count < 2 ^ 64 - 1) :
    nextSequence count = count + 1 := by
  unfold nextSequence
  omega

/-- What the log shows of one phase. -/
inductive PhaseObservation
  | observed (fact : LifecycleFact) (source : ReceiptSource)
  | unknown
  deriving DecidableEq

/-- Receipts of one interrupt, in the order they were appended. -/
structure ReceiptLog where
  receipts : List LifecycleReceipt := []

namespace ReceiptLog

/-- Append the next receipt; a refused one leaves the log as it was. -/
def append (log : ReceiptLog) (receipt : LifecycleReceipt) : Except ReceiptError ReceiptLog :=
  let expected := nextSequence log.receipts.length
  if receipt.sequence ≠ expected then
    .error (.unexpectedSequence expected receipt.sequence)
  else if log.receipts.any fun existing => existing.fact.phase == receipt.fact.phase then
    .error (.duplicatePhase receipt.fact.phase)
  else .ok ⟨log.receipts ++ [receipt]⟩

/-- Show one phase, without inferring it from other receipts. -/
def observe (log : ReceiptLog) (phase : InterruptPhase) : PhaseObservation :=
  match log.receipts.find? fun receipt => receipt.fact.phase == phase with
  | some receipt => .observed receipt.fact receipt.source
  | none => .unknown

end ReceiptLog
end Evidence
end Gearwit
