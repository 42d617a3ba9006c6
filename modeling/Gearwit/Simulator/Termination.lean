import Gearwit.Simulator.Scheduler

/-!
# Termination of the scheduler

The clock moves forward with every turn until the last tick there is.  At that tick it
stands still while the queue is not empty, and then every turn takes a stimulus off the
queue.  Once the queue is empty, something that is left makes the clock overflow.
-/

namespace Gearwit
namespace Simulator
namespace Scheduler

variable {A : Type}

/-- Stimuli that are scheduled or wait in the queue. -/
def pending (scheduler : Scheduler A) : Nat :=
  scheduler.scheduled.length + scheduler.ready.length

private theorem admitLoop_frame (capacity : Nat) (stimuli : List Stimulus)
    (scheduler : Scheduler A) :
    (admitLoop capacity stimuli scheduler).tick = scheduler.tick ∧
      (admitLoop capacity stimuli scheduler).inFlight = scheduler.inFlight ∧
      (admitLoop capacity stimuli scheduler).pending ≤ scheduler.pending + stimuli.length := by
  induction stimuli generalizing scheduler with
  | nil => exact ⟨rfl, rfl, le_rfl⟩
  | cons stimulus rest hypothesis =>
      unfold admitLoop
      split_ifs
      · obtain ⟨tick, flying, bound⟩ :=
          hypothesis { scheduler with scheduled := scheduler.scheduled ++ [stimulus] }
        refine ⟨tick, flying, bound.trans ?_⟩
        simp only [pending, List.length_append, List.length_cons, List.length_nil]
        omega
      · obtain ⟨tick, flying, bound⟩ :=
          hypothesis { scheduler with
            offered := scheduler.offered + 1, rejected := scheduler.rejected + 1 }
        refine ⟨tick, flying, bound.trans ?_⟩
        simp only [pending, List.length_cons]
        omega
      · obtain ⟨tick, flying, bound⟩ :=
          hypothesis { scheduler with
            offered := scheduler.offered + 1
            ready := scheduler.ready ++ [stimulus]
            admitted := scheduler.admitted + 1
            maxDepth := max scheduler.maxDepth (scheduler.occupied + 1) }
        refine ⟨tick, flying, bound.trans ?_⟩
        simp only [pending, List.length_append, List.length_cons, List.length_nil]
        omega

private theorem admitDue_frame (capacity : Nat) (scheduler : Scheduler A) :
    (admitDue capacity scheduler).tick = scheduler.tick ∧
      (admitDue capacity scheduler).inFlight = scheduler.inFlight ∧
      (admitDue capacity scheduler).pending ≤ scheduler.pending := by
  obtain ⟨tick, flying, bound⟩ :=
    admitLoop_frame capacity scheduler.scheduled { scheduler with scheduled := [] }
  refine ⟨tick, flying, bound.trans ?_⟩
  simp only [pending, List.length_nil]
  omega

section Turns

variable [StoreStreamAdapter A]

private theorem completeStoreStep_frame (caseId : String) (stimulus : Stimulus)
    (scheduler : Scheduler A) :
    (completeStoreStep caseId stimulus scheduler).tick = scheduler.tick ∧
      (completeStoreStep caseId stimulus scheduler).inFlight = scheduler.inFlight ∧
      (completeStoreStep caseId stimulus scheduler).pending = scheduler.pending := by
  unfold completeStoreStep
  split <;> exact ⟨rfl, rfl, rfl⟩

/-- At the last tick nothing stays in flight. -/
private theorem completeDue_frame (caseId : String) (scheduler : Scheduler A) :
    (completeDue caseId scheduler).tick = scheduler.tick ∧
      (scheduler.tick = maxTick → (completeDue caseId scheduler).inFlight = none) ∧
      (completeDue caseId scheduler).pending = scheduler.pending := by
  unfold completeDue
  split
  · rename_i completeAt stimulus flying
    split_ifs with due
    · obtain ⟨tick, landed, same⟩ :=
        completeStoreStep_frame caseId stimulus { scheduler with inFlight := none }
      exact ⟨tick, fun _ => landed, same⟩
    · refine ⟨rfl, fun last => ?_, rfl⟩
      rw [last] at due
      exact absurd (le_maxTick completeAt) due
  · rename_i still
    exact ⟨rfl, fun _ => still, rfl⟩

private theorem serveLoop_frame (caseId : String) (maxEvents : Nat) (queue : List Stimulus)
    (scheduler : Scheduler A) :
    (serveLoop caseId maxEvents queue scheduler).tick = scheduler.tick ∧
      ((serveLoop caseId maxEvents queue scheduler).ready = [] ∨
        (serveLoop caseId maxEvents queue scheduler).resourceLimited = true) := by
  induction queue generalizing scheduler with
  | nil => exact ⟨rfl, .inl rfl⟩
  | cons stimulus rest hypothesis =>
      unfold serveLoop
      split_ifs
      · exact ⟨rfl, .inr rfl⟩
      · obtain ⟨tick, emptied⟩ := hypothesis (completeStoreStep caseId stimulus scheduler)
        exact ⟨tick.trans (completeStoreStep_frame caseId stimulus scheduler).1, emptied⟩

/-- A service that leaves a queue and nothing was in flight before took one off it. -/
private theorem serve_frame (envelope : ScenarioEnvelope) (scheduler : Scheduler A) :
    (serve envelope scheduler).tick = scheduler.tick ∧
      (scheduler.inFlight = none → (serve envelope scheduler).resourceLimited = false →
        (serve envelope scheduler).ready ≠ [] →
          (serve envelope scheduler).pending < scheduler.pending) := by
  unfold serve
  split_ifs
  · obtain ⟨tick, emptied⟩ := serveLoop_frame envelope.caseId envelope.limits.maxEvents
      scheduler.ready scheduler
    refine ⟨tick, fun _ unlimited left => ?_⟩
    rcases emptied with empty | limited
    · exact absurd empty left
    · rw [limited] at unlimited
      cases unlimited
  · split
    · rename_i stimulus rest still queue
      refine ⟨rfl, fun _ _ _ => ?_⟩
      simp only [pending, queue, List.length_cons]
      omega
    · rename_i other
      refine ⟨rfl, fun still _ left => ?_⟩
      obtain ⟨stimulus, rest, queue⟩ := List.exists_cons_of_ne_nil left
      exact absurd queue (other stimulus rest still)

variable {envelope : ScenarioEnvelope} {scheduler : Scheduler A}

private theorem work_tick : (work envelope scheduler).tick = scheduler.tick :=
  (serve_frame _ _).1.trans ((admitDue_frame _ _).1.trans (completeDue_frame _ _).1)

private theorem work_pending (last : scheduler.tick = maxTick)
    (unlimited : (work envelope scheduler).resourceLimited = false)
    (left : (work envelope scheduler).ready ≠ []) :
    (work envelope scheduler).pending < scheduler.pending := by
  obtain ⟨_, landed, same⟩ := completeDue_frame envelope.caseId scheduler
  obtain ⟨_, flying, bound⟩ := admitDue_frame envelope.limits.queueCapacity
    (completeDue envelope.caseId scheduler)
  have served := (serve_frame envelope (admitDue envelope.limits.queueCapacity
    (completeDue envelope.caseId scheduler))).2 (flying.trans (landed last)) unlimited left
  exact Nat.lt_of_lt_of_le served (bound.trans_eq same)

/-- A turn that goes on moves the clock forward, or takes a stimulus off the queue at the
last tick. -/
private theorem turn_moves {next : Scheduler A}
    (again : turn envelope scheduler = .again next) :
    scheduler.tick < next.tick ∨
      next.tick = scheduler.tick ∧ next.pending < scheduler.pending := by
  unfold turn at again
  simp only at again
  split_ifs at again with idle exhausted limited
  obtain ⟨tick, rfl, forward | ⟨last, same, left⟩⟩ := advance_again again
  · rw [work_tick] at forward
    exact .inl forward
  · rw [work_tick] at last
    exact .inr ⟨same.trans last.symm, work_pending last (Bool.eq_false_iff.2 limited) left⟩

/-! ## The end of the loop -/

/-- Every run comes to an end or to an overflow. -/
theorem loop_stops (envelope : ScenarioEnvelope) (scheduler : Scheduler A) :
    ∃ fuel, ∀ next, loop envelope fuel scheduler ≠ .again next := by
  cases moved : turn envelope scheduler with
  | again next =>
      obtain ⟨fuel, stops⟩ := loop_stops envelope next
      refine ⟨fuel + 1, fun other => ?_⟩
      rw [loop_again moved]
      exact stops other
  | ended last =>
      refine ⟨1, fun other => ?_⟩
      rw [loop_ended moved]
      simp
  | overflowed =>
      refine ⟨1, fun other => ?_⟩
      rw [loop_overflowed moved]
      simp
termination_by (maxTick.toNat - scheduler.tick.toNat, scheduler.pending)
decreasing_by
  rcases turn_moves moved with forward | ⟨same, fewer⟩
  · refine Prod.Lex.left _ _ ?_
    have bound := next.tick.toNat_lt
    rw [UInt64.lt_iff_toNat_lt] at forward
    rw [toNat_maxTick]
    omega
  · rw [same]
    exact Prod.Lex.right _ fewer

/-- A turn at the last tick empties the queue and leaves something scheduled or in
flight. -/
def Strands (envelope : ScenarioEnvelope) (scheduler : Scheduler A) : Prop :=
  scheduler.tick = maxTick ∧ scheduler.idle = false ∧
    scheduler.exhausted envelope.limits = false ∧
    (work envelope scheduler).resourceLimited = false ∧
    (work envelope scheduler).ready = [] ∧ (work envelope scheduler).idle = false

private theorem turn_overflowed_iff :
    turn envelope scheduler = .overflowed ↔ Strands envelope scheduler := by
  unfold turn Strands
  simp only
  split_ifs with idle exhausted limited
  · simp [idle]
  · simp [exhausted]
  · simp [limited]
  · rw [advance_overflowed_iff, work_tick]
    simp [idle, exhausted, limited]

private theorem spared_of_ended {fuel turns : Nat} {last reached : Scheduler A}
    (ended : loop envelope fuel scheduler = .ended last)
    (run : loop envelope turns scheduler = .again reached) : ¬ Strands envelope reached := by
  induction fuel generalizing turns scheduler with
  | zero => cases ended
  | succ fuel hypothesis =>
      rw [← turn_overflowed_iff]
      intro overflowed
      cases turns with
      | zero =>
          cases run
          rw [loop_overflowed overflowed] at ended
          cases ended
      | succ turns =>
          cases moved : turn envelope scheduler with
          | again next =>
              rw [loop_again moved] at ended run
              exact hypothesis ended run (turn_overflowed_iff.1 overflowed)
          | ended final =>
              rw [loop_ended moved] at run
              cases run
          | overflowed =>
              rw [loop_overflowed moved] at run
              cases run

private theorem strands_of_overflowed {fuel : Nat}
    (overflowed : loop envelope fuel scheduler = .overflowed) :
    ∃ turns reached, loop envelope turns scheduler = .again reached ∧
      Strands envelope reached := by
  induction fuel generalizing scheduler with
  | zero => cases overflowed
  | succ fuel hypothesis =>
      cases moved : turn envelope scheduler with
      | again next =>
          rw [loop_again moved] at overflowed
          obtain ⟨turns, reached, run, strands⟩ := hypothesis overflowed
          exact ⟨turns + 1, reached, (loop_again moved turns).trans run, strands⟩
      | ended final =>
          rw [loop_ended moved] at overflowed
          cases overflowed
      | overflowed => exact ⟨0, scheduler, rfl, turn_overflowed_iff.1 moved⟩

/-- A run comes to an end, and no addition of its clock overflows. -/
def Terminates (envelope : ScenarioEnvelope) (adapter : A) : Prop :=
  ∃ fuel last, executeStream fuel envelope adapter = .ended last

private theorem terminates_of_spared {adapter : A}
    (spared : ∀ turns reached, executeStream turns envelope adapter = .again reached →
      ¬ Strands envelope reached) : Terminates envelope adapter := by
  obtain ⟨fuel, stops⟩ := loop_stops envelope (start envelope adapter)
  cases outcome : loop envelope fuel (start envelope adapter) with
  | again next => exact absurd outcome (stops next)
  | ended last => exact ⟨fuel, last, outcome⟩
  | overflowed =>
      obtain ⟨turns, reached, run, strands⟩ := strands_of_overflowed outcome
      exact absurd strands (spared turns reached run)

/-- A limit below the last tick is enough. -/
theorem terminates_of_limit {adapter : A} (limited : envelope.limits.maxVirtualTick < maxTick) :
    Terminates envelope adapter := by
  refine terminates_of_spared fun turns reached _ strands => ?_
  obtain ⟨last, _, unspent, _⟩ := strands
  simp [exhausted, last, limited] at unspent

/-- A run terminates without an overflow exactly if no turn it reaches at the last tick
empties the queue and leaves something scheduled or in flight. -/
theorem executeStream_terminates_iff (envelope : ScenarioEnvelope) (adapter : A) :
    Terminates envelope adapter ↔
      ∀ turns reached, executeStream turns envelope adapter = .again reached →
        ¬ Strands envelope reached := by
  refine ⟨?_, terminates_of_spared⟩
  rintro ⟨fuel, last, ended⟩ turns reached run
  exact spared_of_ended ended run

end Turns

namespace Sample

/-- A stimulus that is due at the last tick, after a parent that is not listed. -/
def orphan : Stimulus := ⟨maxTick, 0, "offer", some "arm", .offer "event"⟩

/-- The orphan alone, with no limit on the clock. -/
def endless : ScenarioEnvelope := ⟨"SIM-SMOKE-01", .fake, ⟨4, 16, maxTick⟩, [orphan]⟩

/-- The clock reaches the last tick and overflows while the orphan waits. -/
theorem orphan_overflows :
    executeStream 2 endless () = .overflowed ∧ ¬ Terminates endless () := by
  have started : start endless () = { start endless () with scheduled := [orphan] } := by
    rw [start, endless, List.mergeSort_singleton]
  have overflows (fuel : Nat) : executeStream (fuel + 2) endless () = .overflowed := by
    rw [executeStream, started]
    rfl
  have unended (last : Scheduler Unit) : executeStream 1 endless () ≠ .ended last := by
    rw [executeStream, started]
    intro ended
    cases ended
  refine ⟨overflows 0, ?_⟩
  rintro ⟨fuel, last, ended⟩
  rcases fuel with _ | _ | fuel
  · cases ended
  · exact unended last ended
  · rw [overflows] at ended
    cases ended

end Sample

end Scheduler
end Simulator
end Gearwit
