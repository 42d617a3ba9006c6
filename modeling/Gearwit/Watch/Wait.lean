import Gearwit.Evidence.Interrupt
import Gearwit.Waiter.Drain

/-!
# One wait interval

A wait runs the provider's wait command, drains the provider when the command reports a
match, and records in a receipt log what it may claim of the interrupt.
-/

namespace Gearwit
namespace Watch

open Evidence
open Waiter (WaitResult ReadOutput chanvoyDrain pasteToken maxId)

/-! ## Data -/

/-- Maximum length of a timeout token. -/
def maxTimeout : Nat := 16

/-- Arguments of an in-process wait. -/
structure WaitOnSpec extends Waiter.WaitOnSpec where
  source : String
  returnRoute : DeliveryRoute
  follow : Bool

/-- Whether a waiter child started. -/
inductive WaiterState
  | notStarted
  | completed
  deriving DecidableEq

/-- Outcome of an in-process wait. -/
structure WaitOutcome extends Waiter.WaitOutcome where
  waiter : WaiterState
  chanvoyExit : Option Int

/-- What running the provider's wait command gave; a child ended by a signal has no code. -/
inductive RunStatus
  | missing
  | exited (code : Option Int)

/-- What the provider's commands give in one interval. -/
structure Interval where
  runner : List String → RunStatus
  output : ReadOutput

/-! ## Waiting -/

/-- Every field of the arguments can be pasted. -/
def specIsPasteSafe (spec : WaitOnSpec) : Bool :=
  (pasteToken spec.channel maxId).isSome &&
    (spec.after.any fun after => (pasteToken after maxId).isSome) &&
    (pasteToken spec.timeout maxTimeout).isSome &&
    spec.team.all fun team => (pasteToken team maxId).isSome

/-- Arguments of the wait command. -/
def chanvoyWaitArgs (spec : WaitOnSpec) : List String :=
  ["wait"] ++ spec.team.elim [] (fun team => ["--team", team]) ++ [spec.channel] ++
    spec.after.elim [] (fun after => ["--after", after]) ++ ["--timeout", spec.timeout, "--json"]

/-- A wait whose child did not start. -/
def WaitOutcome.notStarted : WaitOutcome where
  waiter := .notStarted
  result := .error
  chanvoyExit := none
  processExit := 2
  drainedEvents := []
  newestObserved := none
  drainError := none

/-- A wait whose child ended. -/
def WaitOutcome.completed (code : Option Int) : WaitOutcome :=
  let processExit := if code = some 0 then 0 else if code = some 1 then 1 else 2
  { waiter := .completed
    result := .fromCode processExit
    chanvoyExit := code
    processExit
    drainedEvents := []
    newestObserved := none
    drainError := none }

/-- The code of the child decides the result. -/
theorem completed_result (code : Option Int) :
    (WaitOutcome.completed code).result =
      if code = some 0 then .matched else if code = some 1 then .timeout else .error := by
  unfold WaitOutcome.completed
  split_ifs <;> rfl

/-- A wait that neither matched nor expired is shown as failed. -/
theorem completed_failed {code : Option Int} (unmatched : code ≠ some 0) (early : code ≠ some 1) :
    WaitOutcome.completed code =
      { WaitOutcome.notStarted with waiter := .completed, chanvoyExit := code } := by
  unfold WaitOutcome.completed
  rw [if_neg unmatched, if_neg early]
  rfl

/-- Execute a wait with the runner. -/
def executeWaitOn (spec : WaitOnSpec) (runner : List String → RunStatus) : WaitOutcome :=
  if specIsPasteSafe spec = false then .notStarted
  else
    match runner (chanvoyWaitArgs spec) with
    | .exited code => .completed code
    | .missing => .notStarted

/-- Fill the drain fields after a matched wait. -/
def attachDrain (outcome : WaitOutcome) (spec : WaitOnSpec)
    (drain : Waiter.WaitOnSpec → Except Waiter.DrainError (List Waiter.DrainedEvent)) :
    WaitOutcome :=
  { outcome with
    toWaitOutcome := Waiter.attachDrain outcome.toWaitOutcome spec.toWaitOnSpec drain }

/-- Run one wait interval. -/
def runWaitOnOnce [UnicodeSegmentation] (spec : WaitOnSpec) (interval : Interval) : WaitOutcome :=
  attachDrain (executeWaitOn spec interval.runner) spec (chanvoyDrain interval.output)

/-! ## Receipts -/

/-- Append one fact under its number. -/
def appendFact (log : ReceiptLog) (sequence : Nat) (fact : LifecycleFact)
    (source : ReceiptSource) : Except ReceiptError (ReceiptLog × Nat) := do
  let receipt ← LifecycleReceipt.tryNew sequence fact source
  let log ← log.append receipt
  return (log, sequence + 1)

/-- Receipts of one wait. -/
def waiterReceiptLog (outcome : WaitOutcome) : Except ReceiptError ReceiptLog :=
  if outcome.waiter = .notStarted then do
    let (log, _) ← appendFact {} 1 (.coverageEnded .runnerNotStarted) .controlPlane
    return log
  else
    match outcome.result with
    | .matched => do
        let (log, sequence) ← appendFact {} 1 .waitArmed .waiterProcess
        let (log, _) ← appendFact log sequence (.waiterCompleted .matched) .waiterProcess
        return log
    | .timeout => do
        let (log, sequence) ← appendFact {} 1 .waitArmed .waiterProcess
        let (log, sequence) ←
          appendFact log sequence (.waiterCompleted .deadmanExpired) .waiterProcess
        let (log, _) ← appendFact log sequence (.coverageEnded .deadmanExpired) .waiterProcess
        return log
    | .error => do
        let (log, sequence) ← appendFact {} 1 (.waiterCompleted .failed) .waiterProcess
        let (log, _) ← appendFact log sequence (.coverageEnded .providerFailed) .waiterProcess
        return log

/-- Receipts of one wait and of its drain; the count of events saturates at 32 bits. -/
def lifecycleLog (outcome : WaitOutcome) : Except ReceiptError ReceiptLog := do
  let log ← waiterReceiptLog outcome
  let sequence := nextSequence log.receipts.length
  if outcome.drainError.isSome then
    let (log, _) ← appendFact log sequence (.coverageEnded .providerFailed) .controlPlane
    return log
  else if outcome.result = .matched ∧ outcome.drainedEvents ≠ [] then
    let eventCount := min outcome.drainedEvents.length (2 ^ 32 - 1)
    let (log, _) ← appendFact log sequence (.eventsDrained eventCount) .provider
    return log
  else return log

/-! ## How an interval ends -/

/-- How an interval ends, with what the provider's commands gave. -/
inductive Ends [UnicodeSegmentation] (spec : WaitOnSpec) (interval : Interval) :
    WaitOutcome → Prop
  | notStarted (never : specIsPasteSafe spec = true →
      interval.runner (chanvoyWaitArgs spec) = .missing) : Ends spec interval .notStarted
  | failed {code : Option Int} (safe : specIsPasteSafe spec = true)
      (ran : interval.runner (chanvoyWaitArgs spec) = .exited code)
      (unmatched : code ≠ some 0) (early : code ≠ some 1) :
      Ends spec interval (.completed code)
  | expired (safe : specIsPasteSafe spec = true)
      (ran : interval.runner (chanvoyWaitArgs spec) = .exited (some 1)) :
      Ends spec interval (.completed (some 1))
  | drained {events : List Waiter.DrainedEvent} (safe : specIsPasteSafe spec = true)
      (ran : interval.runner (chanvoyWaitArgs spec) = .exited (some 0))
      (drained : chanvoyDrain interval.output spec.toWaitOnSpec = .ok events) :
      Ends spec interval
        { WaitOutcome.completed (some 0) with
          drainedEvents := events
          newestObserved := events.getLast?.map Waiter.DrainedEvent.id }
  | refused {error : Waiter.DrainError} (safe : specIsPasteSafe spec = true)
      (ran : interval.runner (chanvoyWaitArgs spec) = .exited (some 0))
      (refused : chanvoyDrain interval.output spec.toWaitOnSpec = .error error) :
      Ends spec interval
        { WaitOutcome.completed (some 0) with
          processExit := 2
          drainError := some error }

/-- Arguments that can be pasted name a cursor. -/
theorem after_isSome {spec : WaitOnSpec} (safe : specIsPasteSafe spec = true) :
    ∃ after, spec.after = some after := by
  cases named : spec.after with
  | none => simp [specIsPasteSafe, named] at safe
  | some after => exact ⟨after, rfl⟩

/-- What one interval can do. -/
theorem runWaitOnOnce_ends [UnicodeSegmentation] (spec : WaitOnSpec) (interval : Interval) :
    Ends spec interval (runWaitOnOnce spec interval) := by
  unfold runWaitOnOnce executeWaitOn
  split_ifs with rejected
  · exact .notStarted fun safe => by rw [safe] at rejected; cases rejected
  · have safe : specIsPasteSafe spec = true := by simpa using rejected
    cases ran : interval.runner (chanvoyWaitArgs spec) with
    | missing => exact .notStarted fun _ => ran
    | exited code =>
        by_cases matched : code = some 0
        · subst matched
          obtain ⟨after, named⟩ := after_isSome safe
          cases drained : chanvoyDrain interval.output spec.toWaitOnSpec with
          | ok events =>
              have attached : attachDrain (.completed (some 0)) spec
                  (chanvoyDrain interval.output) =
                  { WaitOutcome.completed (some 0) with
                    drainedEvents := events
                    newestObserved := events.getLast?.map Waiter.DrainedEvent.id } := by
                simp [attachDrain, Waiter.attachDrain, WaitOutcome.completed, WaitResult.fromCode,
                  named, drained]
              rw [attached]
              exact .drained safe ran drained
          | error error =>
              have attached : attachDrain (.completed (some 0)) spec
                  (chanvoyDrain interval.output) =
                  { WaitOutcome.completed (some 0) with
                    processExit := 2
                    drainError := some error } := by
                simp [attachDrain, Waiter.attachDrain, WaitOutcome.completed, WaitResult.fromCode,
                  named, drained]
              rw [attached]
              exact .refused safe ran drained
        · have left : attachDrain (.completed code) spec (chanvoyDrain interval.output) =
              .completed code := by
            have unmatched : (WaitOutcome.completed code).result ≠ .matched := by
              rw [completed_result, if_neg matched]
              split_ifs <;> decide
            rw [attachDrain, Waiter.attachDrain, if_pos unmatched]
          rw [left]
          by_cases late : code = some 1
          · subst late
            exact .expired safe ran
          · exact .failed safe ran matched late

end Watch
end Gearwit
