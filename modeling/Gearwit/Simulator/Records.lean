import Gearwit.Foundations.Transition
import Gearwit.Simulator.Scheduler

/-!
# The record of a run

The adapter, what it was called with, what was executed and what was observed change with
the calls of the adapter and with nothing else the scheduler does.  What a run of the scheduler records is what a run
of calls records.
-/

namespace Gearwit
namespace Simulator
namespace Scheduler

open Transition

variable {A : Type}

/-- What the calls of the adapter leave behind. -/
structure Record (A : Type) where
  adapter : A
  calls : List Stimulus
  executed : List Stimulus
  observations : List Observation
  errors : List String

/-- What the calls of a run left behind. -/
def record (scheduler : Scheduler A) : Record A :=
  ⟨scheduler.adapter, scheduler.called.reverse, scheduler.executed, scheduler.observations,
    scheduler.errors⟩

private theorem admitLoop_record (capacity : Nat) (stimuli : List Stimulus)
    (scheduler : Scheduler A) :
    (admitLoop capacity stimuli scheduler).record = scheduler.record := by
  induction stimuli generalizing scheduler with
  | nil => rfl
  | cons stimulus rest inductionHypothesis =>
      unfold admitLoop
      split_ifs
      · exact inductionHypothesis _
      · exact inductionHypothesis _
      · exact inductionHypothesis _

variable [StoreStreamAdapter A]

/-- One call of the adapter. -/
def Record.call (caseId : String) (record : Record A) (stimulus : Stimulus) : Record A :=
  match StoreStreamAdapter.apply stimulus.operationId (storeAction stimulus.action)
    record.adapter with
  | (.ok receipt, adapter) =>
      { record with
        adapter
        calls := record.calls ++ [stimulus]
        executed := record.executed ++ [stimulus]
        observations := record.observations ++
          [injectReceiptFault (.forCase caseId) stimulus.action
            ⟨artifactVersion, stimulus.operationId, receipt.outcome, receipt.logicalEffects,
              receipt.authorityRevision⟩] }
  | (.error error, adapter) =>
      { record with
        adapter
        calls := record.calls ++ [stimulus]
        errors := record.errors ++ [stimulus.operationId ++ ": " ++ error] }

/-- A record lists its calls. -/
theorem run_calls (caseId : String) (record : Record A) (stimuli : List Stimulus) :
    (run (Record.call caseId) record stimuli).calls = record.calls ++ stimuli := by
  induction stimuli generalizing record with
  | nil => simp
  | cons stimulus rest inductionHypothesis =>
      have called : (record.call caseId stimulus).calls = record.calls ++ [stimulus] := by
        unfold Record.call
        split <;> rfl
      rw [run_cons, inductionHypothesis, called, List.append_assoc, List.singleton_append]

/-- Completing a step records a call. -/
theorem completeStoreStep_record (caseId : String) (stimulus : Stimulus)
    (scheduler : Scheduler A) :
    (completeStoreStep caseId stimulus scheduler).record =
      scheduler.record.call caseId stimulus := by
  unfold completeStoreStep
  split <;> next answered =>
    simp only [Record.call, record, answered, called, List.map_cons, List.reverse_cons]

private theorem completeDue_record (caseId : String) (scheduler : Scheduler A) :
    ∃ stimuli, (completeDue caseId scheduler).record =
      run (Record.call caseId) scheduler.record stimuli := by
  unfold completeDue
  split
  · rename_i completeAt stimulus _
    split_ifs
    · exact ⟨[stimulus], completeStoreStep_record caseId stimulus _⟩
    · exact ⟨[], rfl⟩
  · exact ⟨[], rfl⟩

private theorem serveLoop_record (caseId : String) (maxEvents : Nat) (queue : List Stimulus)
    (scheduler : Scheduler A) :
    ∃ stimuli, (serveLoop caseId maxEvents queue scheduler).record =
      run (Record.call caseId) scheduler.record stimuli := by
  induction queue generalizing scheduler with
  | nil => exact ⟨[], rfl⟩
  | cons stimulus rest inductionHypothesis =>
      unfold serveLoop
      split_ifs
      · exact ⟨[], rfl⟩
      · obtain ⟨stimuli, served⟩ :=
          inductionHypothesis (completeStoreStep caseId stimulus scheduler)
        rw [completeStoreStep_record] at served
        exact ⟨stimulus :: stimuli, served⟩

private theorem serve_record (envelope : ScenarioEnvelope) (scheduler : Scheduler A) :
    ∃ stimuli, (serve envelope scheduler).record =
      run (Record.call envelope.caseId) scheduler.record stimuli := by
  unfold serve
  split_ifs
  · exact serveLoop_record envelope.caseId envelope.limits.maxEvents scheduler.ready scheduler
  · split
    · exact ⟨[], rfl⟩
    · exact ⟨[], rfl⟩

private theorem work_record (envelope : ScenarioEnvelope) (scheduler : Scheduler A) :
    ∃ stimuli, (work envelope scheduler).record =
      run (Record.call envelope.caseId) scheduler.record stimuli := by
  obtain ⟨completed, completes⟩ := completeDue_record envelope.caseId scheduler
  obtain ⟨served, serves⟩ := serve_record envelope
    (admitDue envelope.limits.queueCapacity (completeDue envelope.caseId scheduler))
  refine ⟨completed ++ served, ?_⟩
  rw [work, serves, admitDue, admitLoop_record, run_append, ← completes]
  rfl

/-- A turn records what some calls record, whether it goes on or ends the run. -/
theorem turn_record {envelope : ScenarioEnvelope} {scheduler next : Scheduler A}
    (moved : turn envelope scheduler = .again next ∨ turn envelope scheduler = .ended next) :
    ∃ stimuli, next.record = run (Record.call envelope.caseId) scheduler.record stimuli := by
  obtain ⟨stimuli, worked⟩ := work_record envelope scheduler
  unfold turn at moved
  simp only at moved
  split_ifs at moved with idle exhausted limited
  · rcases moved with moved | moved <;> cases moved
    exact ⟨[], rfl⟩
  · rcases moved with moved | moved <;> cases moved
    exact ⟨[], rfl⟩
  · rcases moved with moved | moved <;> cases moved
    exact ⟨stimuli, worked⟩
  · rcases moved with again | ended
    · obtain ⟨tick, rfl, _⟩ := advance_again again
      exact ⟨stimuli, worked⟩
    · rw [advance_ended ended]
      exact ⟨stimuli, worked⟩

/-- A loop that ends records what some calls record. -/
theorem loop_record {envelope : ScenarioEnvelope} {fuel : Nat} {scheduler last : Scheduler A}
    (ended : loop envelope fuel scheduler = .ended last) :
    ∃ stimuli, last.record = run (Record.call envelope.caseId) scheduler.record stimuli := by
  induction fuel generalizing scheduler with
  | zero => cases ended
  | succ fuel inductionHypothesis =>
      cases moved : turn envelope scheduler with
      | again next =>
          rw [loop_again moved] at ended
          obtain ⟨first, now⟩ := turn_record (.inl moved)
          obtain ⟨rest, later⟩ := inductionHypothesis ended
          exact ⟨first ++ rest, by rw [later, now, run_append]⟩
      | ended final =>
          rw [loop_ended moved] at ended
          cases ended
          exact turn_record (.inr moved)
      | overflowed =>
          rw [loop_overflowed moved] at ended
          cases ended

/-- A run that ends records what its calls record. -/
theorem executeStream_record {envelope : ScenarioEnvelope} {fuel : Nat} {adapter : A}
    {last : Scheduler A} (ended : executeStream fuel envelope adapter = .ended last) :
    last.record = run (Record.call envelope.caseId) (start envelope adapter).record
      last.called.reverse := by
  obtain ⟨stimuli, recorded⟩ := loop_record ended
  have calls := run_calls envelope.caseId (start envelope adapter).record stimuli
  rw [← recorded] at calls
  have same : last.called.reverse = stimuli := calls
  rw [same, recorded]

end Scheduler
end Simulator
end Gearwit
