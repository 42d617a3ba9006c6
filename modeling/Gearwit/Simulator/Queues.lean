import Gearwit.Simulator.Accounting
import Gearwit.Simulator.Reports
import Gearwit.Simulator.Termination

/-!
# Queues with service time

Stimuli that wait for nothing but their tick go through a bounded queue that is served one
at a time.  The server never rests while the queue is not empty, which bounds the tick at
which the last stimulus is through.
-/

namespace Gearwit
namespace Simulator
namespace Scheduler

open Transition

variable {A : Type}

/-- An envelope of stimuli without parents, due by a tick, with limits that leave time to
serve them all. -/
structure Unhurried (envelope : ScenarioEnvelope) (latest : Nat) : Prop where
  slow : serviceTicks envelope.caseId = 2
  capacity : 0 < envelope.limits.queueCapacity
  events : envelope.stimuli.length < envelope.limits.maxEvents
  orphans : ∀ stimulus ∈ envelope.stimuli,
    stimulus.causalParent = none ∧ stimulus.dueTick.toNat ≤ latest
  ticks : latest + 2 + 2 * envelope.stimuli.length ≤ envelope.limits.maxVirtualTick.toNat

/-- Stimuli that were not executed yet but were not turned away. -/
def waiting (scheduler : Scheduler A) : Nat :=
  scheduler.ready.length + scheduler.flight.length

/-- What every phase of a turn keeps of the account of a queue. -/
structure Tended (envelope : ScenarioEnvelope) (latest : Nat) (scheduler : Scheduler A) :
    Prop where
  counted : scheduler.scheduled.length + scheduler.rejected + scheduler.waiting +
    scheduler.observations.length = envelope.stimuli.length
  orphans : ∀ stimulus ∈ scheduler.scheduled,
    stimulus.causalParent = none ∧ stimulus.dueTick.toNat ≤ latest
  started : 0 < scheduler.rejected → 0 < scheduler.waiting + scheduler.observations.length
  executed : scheduler.executed.length = scheduler.observations.length
  unlimited : scheduler.resourceLimited = false

/-- When the server is free, or when it will be. -/
def Punctual (latest : Nat) (scheduler : Scheduler A) : Prop :=
  match scheduler.inFlight with
  | some (completeAt, _) =>
      scheduler.tick.toNat ≤ completeAt.toNat ∧
        completeAt.toNat ≤ latest + 2 + 2 * scheduler.observations.length
  | none => scheduler.tick.toNat ≤ latest ∧ scheduler.ready = []

/-- Admission sorts what is scheduled into what is not due, what waits, and what is turned
away. -/
private theorem admitLoop_tended {envelope : ScenarioEnvelope} {latest capacity : Nat}
    (room : 0 < capacity) (pending : List Stimulus) (scheduler : Scheduler A)
    (tended : Tended envelope latest
      { scheduler with scheduled := scheduler.scheduled ++ pending })
    (later : ∀ stimulus ∈ scheduler.scheduled, scheduler.tick < stimulus.dueTick) :
    Tended envelope latest (admitLoop capacity pending scheduler) ∧
      (∀ stimulus ∈ (admitLoop capacity pending scheduler).scheduled,
        scheduler.tick < stimulus.dueTick) ∧
      (admitLoop capacity pending scheduler).inFlight = scheduler.inFlight ∧
      (admitLoop capacity pending scheduler).tick = scheduler.tick ∧
      (admitLoop capacity pending scheduler).observations = scheduler.observations := by
  induction pending generalizing scheduler with
  | nil =>
      rw [List.append_nil] at tended
      exact ⟨tended, later, rfl, rfl, rfl⟩
  | cons stimulus rest inductionHypothesis =>
      obtain ⟨counted, orphans, started, executed, unlimited⟩ := tended
      have orphan := orphans stimulus (by simp)
      have others : ∀ other ∈ scheduler.scheduled ++ rest,
          other.causalParent = none ∧ other.dueTick.toNat ≤ latest := by
        intro other member
        refine orphans other ?_
        rw [List.mem_append] at member ⊢
        exact member.imp_right (List.mem_cons_of_mem stimulus)
      have due : scheduler.dueNow stimulus = decide (stimulus.dueTick ≤ scheduler.tick) := by
        rw [dueNow, orphan.1]
        simp
      simp only [waiting, flight, List.length_append, List.length_cons] at counted started
      unfold admitLoop
      split_ifs with early full
      · refine inductionHypothesis _ ⟨?_, ?_, started, executed, unlimited⟩ ?_
        · simp only [waiting, flight, List.length_append, List.length_cons, List.length_nil]
          omega
        · simpa using orphans
        · intro other member
          rcases List.mem_append.1 member with before | now
          · exact later other before
          · obtain rfl := List.mem_singleton.1 now
            rw [due] at early
            simpa using early
      · refine inductionHypothesis _ ⟨?_, others, ?_, executed, unlimited⟩ later
        · simp only [waiting, flight, List.length_append]
          omega
        · intro _
          have occupied : capacity ≤ scheduler.ready.length + scheduler.flight.length := by
            rw [length_flight]
            exact full
          simp only [waiting, flight] at occupied ⊢
          omega
      · refine inductionHypothesis _ ⟨?_, others, ?_, executed, unlimited⟩ later
        · simp only [waiting, flight, List.length_append, List.length_cons, List.length_nil]
          omega
        · intro _
          simp only [waiting, flight, List.length_append, List.length_cons]
          omega

variable [StoreStreamAdapter A]

/-- The adapter accepts these stimuli, one after the other. -/
def Accepts : A → List Stimulus → Prop
  | _, [] => True
  | adapter, stimulus :: rest =>
      let answered :=
        StoreStreamAdapter.apply stimulus.operationId (storeAction stimulus.action) adapter
      answered.1.isOk = true ∧ Accepts answered.2 rest

/-- The adapter accepts whatever it is asked of some stimuli. -/
def Willing (stimuli : List Stimulus) (adapter : A) : Prop :=
  ∀ calls : List Stimulus, (∀ stimulus ∈ calls, stimulus ∈ stimuli) → Accepts adapter calls

/-- A willing adapter accepts a stimulus and stays willing. -/
theorem Willing.call {stimuli : List Stimulus} {adapter : A} (willing : Willing stimuli adapter)
    {stimulus : Stimulus} (known : stimulus ∈ stimuli) :
    ∃ receipt after, StoreStreamAdapter.apply stimulus.operationId
        (storeAction stimulus.action) adapter = (.ok receipt, after) ∧
      Willing stimuli after := by
  have accepted := (willing [stimulus] (by simpa using known)).1
  have onward : Willing stimuli (StoreStreamAdapter.apply stimulus.operationId
      (storeAction stimulus.action) adapter).2 := fun calls listed =>
    (willing (stimulus :: calls) (List.forall_mem_cons.2 ⟨known, listed⟩)).2
  generalize StoreStreamAdapter.apply stimulus.operationId (storeAction stimulus.action)
    adapter = answered at accepted onward
  obtain ⟨reply, after⟩ := answered
  cases reply with
  | error refusal => cases accepted
  | ok receipt => exact ⟨receipt, after, rfl, onward⟩

/-- The adapter is willing, refused nothing, and all stimuli that are left are known. -/
structure Manned (stimuli : List Stimulus) (scheduler : Scheduler A) : Prop where
  willing : Willing stimuli scheduler.adapter
  errors : scheduler.errors = []
  scheduled : ∀ stimulus ∈ scheduler.scheduled, stimulus ∈ stimuli
  ready : ∀ stimulus ∈ scheduler.ready, stimulus ∈ stimuli
  flight : ∀ stimulus ∈ scheduler.flight, stimulus ∈ stimuli

private theorem completeDue_manned {caseId : String} {stimuli : List Stimulus}
    {scheduler : Scheduler A} (manned : Manned stimuli scheduler) :
    Manned stimuli (completeDue caseId scheduler) := by
  unfold completeDue
  split
  · next completeAt stimulus flying =>
    split_ifs
    · have known : stimulus ∈ stimuli := manned.flight stimulus (by simp [flight, flying])
      obtain ⟨receipt, after, answered, onward⟩ := manned.willing.call known
      rw [completeStoreStep, answered]
      exact { manned with willing := onward, flight := List.forall_mem_nil _ }
    · exact manned
  · exact manned

private theorem admitLoop_manned {capacity : Nat} {stimuli : List Stimulus}
    (pending : List Stimulus) {scheduler : Scheduler A} (manned : Manned stimuli scheduler)
    (known : ∀ stimulus ∈ pending, stimulus ∈ stimuli) :
    Manned stimuli (admitLoop capacity pending scheduler) := by
  induction pending generalizing scheduler with
  | nil => exact manned
  | cons stimulus rest inductionHypothesis =>
      have here := known stimulus List.mem_cons_self
      have others : ∀ other ∈ rest, other ∈ stimuli :=
        fun other member => known other (List.mem_cons_of_mem _ member)
      unfold admitLoop
      split_ifs
      · exact inductionHypothesis { manned with
          scheduled := List.forall_mem_append.2 ⟨manned.scheduled, by simpa using here⟩ } others
      · exact inductionHypothesis { manned with } others
      · exact inductionHypothesis { manned with
          ready := List.forall_mem_append.2 ⟨manned.ready, by simpa using here⟩ } others

private theorem serve_manned {envelope : ScenarioEnvelope} {stimuli : List Stimulus}
    {scheduler : Scheduler A} (slow : serviceTicks envelope.caseId = 2)
    (manned : Manned stimuli scheduler) : Manned stimuli (serve envelope scheduler) := by
  unfold serve
  rw [slow, if_neg (by decide)]
  split
  · next stimulus rest grounded queue =>
    have ready := manned.ready
    rw [queue] at ready
    exact { manned with
      ready := fun other member => ready other (List.mem_cons_of_mem _ member)
      flight := by simpa [flight] using ready stimulus List.mem_cons_self }
  · exact manned

/-- The work of a turn keeps the adapter willing. -/
private theorem work_manned {envelope : ScenarioEnvelope} {scheduler : Scheduler A}
    (slow : serviceTicks envelope.caseId = 2) (manned : Manned envelope.stimuli scheduler) :
    Manned envelope.stimuli (work envelope scheduler) := by
  have completed : Manned envelope.stimuli (completeDue envelope.caseId scheduler) :=
    completeDue_manned manned
  exact serve_manned slow (admitLoop_manned _
    { completed with scheduled := List.forall_mem_nil _ } completed.scheduled)

/-- What holds of the server once it completed what was due. -/
def Freed (latest : Nat) (scheduler : Scheduler A) : Prop :=
  match scheduler.inFlight with
  | some (completeAt, _) =>
      scheduler.tick.toNat < completeAt.toNat ∧
        completeAt.toNat ≤ latest + 2 + 2 * scheduler.observations.length
  | none => scheduler.tick.toNat ≤ latest + 2 * scheduler.observations.length

private theorem completeDue_tended {envelope : ScenarioEnvelope} {latest : Nat}
    {scheduler : Scheduler A} (tended : Tended envelope latest scheduler)
    (punctual : Punctual latest scheduler) (manned : Manned envelope.stimuli scheduler) :
    Tended envelope latest (completeDue envelope.caseId scheduler) ∧
      Freed latest (completeDue envelope.caseId scheduler) ∧
      (completeDue envelope.caseId scheduler).tick = scheduler.tick := by
  obtain ⟨counted, orphans, started, executed, unlimited⟩ := tended
  unfold Punctual at punctual
  unfold completeDue
  rcases flying : scheduler.inFlight with _ | ⟨completeAt, stimulus⟩
  · simp only [flying] at punctual ⊢
    refine ⟨⟨counted, orphans, started, executed, unlimited⟩, ?_, trivial⟩
    simp only [Freed, flying]
    omega
  · simp only [flying] at punctual ⊢
    obtain ⟨ahead, bound⟩ := punctual
    split_ifs with due
    · obtain ⟨receipt, after, answered, _⟩ :=
        manned.willing.call (manned.flight stimulus (by simp [flight, flying]))
      simp only [waiting, flight, flying, Option.toList, List.map_cons, List.map_nil,
        List.length_cons, List.length_nil] at counted started
      rw [completeStoreStep, answered]
      refine ⟨⟨?_, orphans, fun _ => ?_, ?_, unlimited⟩, ?_, rfl⟩
      · simp only [waiting, flight, Option.toList, List.map_nil, List.length_nil,
          List.length_append, List.length_cons]
        omega
      · simp only [List.length_append, List.length_cons]
        omega
      · simp only [List.length_append, List.length_cons, List.length_nil, executed]
      · rw [UInt64.le_iff_toNat_le] at due
        simp only [Freed, List.length_append, List.length_cons, List.length_nil]
        omega
    · refine ⟨⟨counted, orphans, started, executed, unlimited⟩, ?_, rfl⟩
      rw [UInt64.le_iff_toNat_le] at due
      simp only [Freed, flying]
      omega

/-- What holds of the server when its turn is over: it is busy or the queue is empty. -/
def Busy (latest : Nat) (scheduler : Scheduler A) : Prop :=
  match scheduler.inFlight with
  | some (completeAt, _) =>
      scheduler.tick.toNat < completeAt.toNat ∧
        completeAt.toNat ≤ latest + 2 + 2 * scheduler.observations.length
  | none => scheduler.ready = []

omit [StoreStreamAdapter A] in
private theorem admitDue_tended {envelope : ScenarioEnvelope} {latest capacity : Nat}
    {scheduler : Scheduler A} (room : 0 < capacity)
    (tended : Tended envelope latest scheduler) (freed : Freed latest scheduler) :
    Tended envelope latest (admitDue capacity scheduler) ∧
      Freed latest (admitDue capacity scheduler) ∧
      ∀ stimulus ∈ (admitDue capacity scheduler).scheduled,
        (admitDue capacity scheduler).tick < stimulus.dueTick := by
  obtain ⟨admitted, later, flying, tick, observations⟩ :=
    @admitLoop_tended A envelope latest capacity room scheduler.scheduled
      { scheduler with scheduled := [] } tended
      (fun stimulus member => absurd member List.not_mem_nil)
  refine ⟨admitted, ?_, fun stimulus member => ?_⟩
  · rw [admitDue, Freed, flying, tick, observations]
    exact freed
  · rw [admitDue, tick]
    exact later stimulus member

private theorem serve_tended {envelope : ScenarioEnvelope} {latest : Nat}
    {scheduler : Scheduler A} (unhurried : Unhurried envelope latest)
    (tended : Tended envelope latest scheduler) (free : Freed latest scheduler) :
    Tended envelope latest (serve envelope scheduler) ∧
      Busy latest (serve envelope scheduler) ∧
      (serve envelope scheduler).tick = scheduler.tick ∧
      (serve envelope scheduler).scheduled = scheduler.scheduled := by
  obtain ⟨counted, orphans, started, executed, unlimited⟩ := tended
  have ticks := unhurried.ticks
  have limit := envelope.limits.maxVirtualTick.toNat_lt
  unfold serve
  rw [unhurried.slow, if_neg (by decide)]
  unfold Freed at free
  split
  · rename_i stimulus rest grounded queue
    simp only [grounded] at free
    simp only [waiting, flight, grounded, queue, Option.toList, List.map_nil, List.length_nil,
      List.length_cons] at counted started
    have two : (2 : UInt64).toNat = 2 := rfl
    have size : UInt64.size = 18446744073709551616 := rfl
    have added : (saturatingAdd scheduler.tick 2).toNat = scheduler.tick.toNat + 2 := by
      rw [saturatingAdd, if_pos (by omega), UInt64.toNat_add, two, Nat.mod_eq_of_lt (by omega)]
    refine ⟨⟨?_, orphans, fun _ => ?_, executed, unlimited⟩, ?_, rfl, rfl⟩
    · simp only [waiting, flight, Option.toList, List.map_cons, List.map_nil, List.length_cons,
        List.length_nil]
      omega
    · simp only [waiting, flight, Option.toList, List.map_cons, List.map_nil, List.length_cons,
        List.length_nil]
      omega
    · simp only [Busy, added]
      omega
  · rename_i idle
    refine ⟨⟨counted, orphans, started, executed, unlimited⟩, ?_, rfl, rfl⟩
    unfold Busy
    split at free
    · exact free
    · rename_i grounded
      cases queue : scheduler.ready with
      | nil => rfl
      | cons stimulus rest => exact absurd queue (idle stimulus rest grounded)

private theorem work_tended {envelope : ScenarioEnvelope} {latest : Nat}
    {scheduler : Scheduler A} (unhurried : Unhurried envelope latest)
    (tended : Tended envelope latest scheduler) (punctual : Punctual latest scheduler)
    (manned : Manned envelope.stimuli scheduler) :
    Tended envelope latest (work envelope scheduler) ∧
      Busy latest (work envelope scheduler) ∧
      ∀ stimulus ∈ (work envelope scheduler).scheduled,
        (work envelope scheduler).tick < stimulus.dueTick := by
  obtain ⟨completed, freed, _⟩ := completeDue_tended tended punctual manned
  obtain ⟨admitted, free, later⟩ := admitDue_tended unhurried.capacity completed freed
  obtain ⟨served, busy, tick, scheduled⟩ := serve_tended unhurried admitted free
  refine ⟨served, busy, fun stimulus member => ?_⟩
  rw [work, scheduled] at member
  rw [work, tick]
  exact later stimulus member

private theorem toNat_min (left right : UInt64) :
    (min left right).toNat = min left.toNat right.toNat := by
  have choice : min left right = if left ≤ right then left else right := rfl
  rw [choice]
  split_ifs with below <;> rw [UInt64.le_iff_toNat_le] at below <;> omega

omit [StoreStreamAdapter A] in
/-- The clock of a busy server moves no further than to its next event. -/
private theorem advance_tended {envelope : ScenarioEnvelope} {latest : Nat}
    {scheduler : Scheduler A} (tended : Tended envelope latest scheduler)
    (busy : Busy latest scheduler)
    (later : ∀ stimulus ∈ scheduler.scheduled, scheduler.tick < stimulus.dueTick) :
    (∃ tick, scheduler.advance = .again { scheduler with tick } ∧
        Tended envelope latest { scheduler with tick } ∧
        Punctual latest { scheduler with tick }) ∨
      scheduler.advance = .ended scheduler ∧ scheduler.idle = true := by
  have onward (tick : UInt64) (ahead : scheduler.tick < tick)
      (punctual : Punctual latest { scheduler with tick }) :
      ∃ reached, scheduler.later tick = .again { scheduler with tick := reached } ∧
        Tended envelope latest { scheduler with tick := reached } ∧
        Punctual latest { scheduler with tick := reached } :=
    ⟨tick, later_punctual ahead, { tended with }, punctual⟩
  have coming {tick : UInt64} (next : scheduler.nextScheduled = some tick) :
      scheduler.tick < tick ∧ tick.toNat ≤ latest := by
    obtain ⟨stimulus, member, rfl⟩ := List.mem_map.1 (List.min?_mem next)
    exact ⟨later stimulus member, (tended.orphans stimulus member).2⟩
  unfold Busy at busy
  unfold advance
  split
  · rename_i stimulus rest queue
    split at busy
    · rename_i completeAt served flying
      refine .inl ⟨_, rfl, { tended with }, ?_⟩
      have bound := completeAt.toNat_lt
      have one : (1 : UInt64).toNat = 1 := rfl
      have size : UInt64.size = 18446744073709551616 := rfl
      have added : (saturatingAdd scheduler.tick 1).toNat = scheduler.tick.toNat + 1 := by
        rw [saturatingAdd, if_pos (by omega), UInt64.toNat_add, one,
          Nat.mod_eq_of_lt (by omega)]
      simp only [Punctual, flying, added]
      omega
    · rw [busy] at queue
      cases queue
  · rename_i due completion served next flying queue
    simp only [flying] at busy
    obtain ⟨ahead, _⟩ := coming next
    have earlier := toNat_min due completion
    rw [UInt64.lt_iff_toNat_lt] at ahead
    refine .inl (onward (min due completion) (UInt64.lt_iff_toNat_lt.2 (by omega)) ?_)
    simp only [Punctual, flying]
    omega
  · rename_i due next grounded queue
    obtain ⟨ahead, bound⟩ := coming next
    refine .inl (onward due ahead ?_)
    simp only [Punctual, grounded]
    exact ⟨bound, queue⟩
  · rename_i completion served next flying queue
    simp only [flying] at busy
    refine .inl (onward completion (UInt64.lt_iff_toNat_lt.2 busy.1) ?_)
    simp only [Punctual, flying]
    exact ⟨le_rfl, busy.2⟩
  · rename_i next grounded queue
    have empty : scheduler.scheduled = [] := by simpa [nextScheduled] using next
    exact .inr ⟨rfl, by simp [idle, empty, grounded, queue]⟩

/-- A turn keeps the account, and only an idle scheduler ends. -/
private theorem turn_tended {envelope : ScenarioEnvelope} {latest : Nat}
    {scheduler : Scheduler A} (unhurried : Unhurried envelope latest)
    (tended : Tended envelope latest scheduler) (punctual : Punctual latest scheduler)
    (manned : Manned envelope.stimuli scheduler) :
    (∃ next, turn envelope scheduler = .again next ∧ Tended envelope latest next ∧
        Punctual latest next ∧ Manned envelope.stimuli next) ∨
      ∃ last, turn envelope scheduler = .ended last ∧ Tended envelope latest last ∧
        last.errors = [] ∧ last.idle = true := by
  cases busy : scheduler.idle with
  | true =>
      refine .inr ⟨scheduler, ?_, tended, manned.errors, busy⟩
      rw [turn, if_pos busy]
  | false =>
      have fresh : scheduler.exhausted envelope.limits = false := by
        have counted := tended.counted
        have ticks := unhurried.ticks
        have events := unhurried.events
        have early : scheduler.tick.toNat ≤
            latest + 2 + 2 * scheduler.observations.length := by
          unfold Punctual at punctual
          split at punctual <;> omega
        rw [exhausted, decide_eq_false, decide_eq_false (by omega)]
        · rfl
        · rw [UInt64.lt_iff_toNat_lt]
          omega
      obtain ⟨worked, occupied, later⟩ := work_tended unhurried tended punctual manned
      have kept := work_manned unhurried.slow manned
      rw [turn_advances busy fresh worked.unlimited]
      rcases advance_tended worked occupied later with
        ⟨tick, again, onward, punctual⟩ | ⟨ended, idle⟩
      · exact .inl ⟨_, again, onward, punctual, { kept with }⟩
      · exact .inr ⟨_, ended, worked, kept.errors, idle⟩

/-- A run keeps the account until the scheduler is idle. -/
private theorem loop_tended {envelope : ScenarioEnvelope} {latest : Nat}
    (unhurried : Unhurried envelope latest) (fuel : Nat) {scheduler : Scheduler A} (tended : Tended envelope latest scheduler)
    (punctual : Punctual latest scheduler) (manned : Manned envelope.stimuli scheduler) :
    (∃ next, loop envelope fuel scheduler = .again next) ∨
      ∃ last, loop envelope fuel scheduler = .ended last ∧ Tended envelope latest last ∧
        last.errors = [] ∧ last.idle = true := by
  induction fuel generalizing scheduler with
  | zero => exact .inl ⟨scheduler, rfl⟩
  | succ fuel inductionHypothesis =>
      rcases turn_tended unhurried tended punctual manned with
        ⟨next, again, onward, punctual, manned⟩ | ⟨last, ended, final⟩
      · rw [loop_again again]
        exact inductionHypothesis onward punctual manned
      · rw [loop_ended ended]
        exact .inr ⟨last, rfl, final⟩

/-- The run of a queue ends idle, with every stimulus executed or turned away. -/
theorem queue_ends {adapter : A} {envelope : ScenarioEnvelope} {latest : Nat}
    (willing : Willing envelope.stimuli adapter) (unhurried : Unhurried envelope latest) :
    ∃ fuel last, executeStream fuel envelope adapter = .ended last ∧ last.limited = false ∧
      last.executed.length + last.rejected = envelope.stimuli.length ∧ last.errors = [] ∧
      (last.observations ≠ [] ↔ envelope.stimuli ≠ []) := by
  have tended : Tended envelope latest (start envelope adapter) := by
    refine ⟨?_, ?_, fun none => absurd none (lt_irrefl _), rfl, rfl⟩
    · simp [start, waiting, flight]
    · intro stimulus member
      exact unhurried.orphans stimulus ((List.mergeSort_perm _ _).mem_iff.1 member)
  have punctual : Punctual latest (start envelope adapter) := ⟨Nat.zero_le _, rfl⟩
  have manned : Manned envelope.stimuli (start envelope adapter) :=
    ⟨willing, rfl, fun _ => (List.mergeSort_perm _ _).mem_iff.1, List.forall_mem_nil _,
      List.forall_mem_nil _⟩
  obtain ⟨fuel, stops⟩ := loop_stops envelope (start envelope adapter)
  rcases loop_tended unhurried fuel tended punctual manned with
    ⟨next, again⟩ | ⟨last, ended, final, errors, idle⟩
  · exact absurd again (stops next)
  · obtain ⟨counted, _, started, executed, unlimited⟩ := final
    obtain ⟨⟨scheduled, ready⟩, grounded⟩ :
        (last.scheduled = [] ∧ last.ready = []) ∧ last.inFlight = none := by
      simpa [Scheduler.idle] using idle
    have none : last.waiting = 0 := by simp [waiting, flight, ready, grounded]
    rw [scheduled, List.length_nil, none] at counted
    rw [none] at started
    refine ⟨fuel, last, ended, by rw [limited, unlimited, idle]; rfl, by omega, errors, ?_⟩
    rw [← List.length_pos_iff, ← List.length_pos_iff]
    omega

end Scheduler

open Scheduler

variable {A : Type}

/-- A queue passes when something was observed. -/
theorem queue_status {envelope : ScenarioEnvelope} {last : Scheduler A}
    (slow : serviceTicks envelope.caseId = 2) (unlimited : last.limited = false)
    (errors : last.errors = []) :
    (report envelope last).status = .passed ↔ last.observations ≠ [] := by
  have queue : envelope.caseId = "SIM-QUEUE-01" := by
    by_contra other
    rw [serviceTicks, if_neg other] at slow
    exact absurd slow (by decide)
  have undemanding := validateObservations_undemanding
    (show "SIM-QUEUE-01" ∉ demanding by decide) last.observations
  have faultless : FaultMode.forCase "SIM-QUEUE-01" = .none := by decide
  have found : findings envelope last = [] := by
    rw [findings, queue, undemanding]
    rfl
  have checked : (hostChecks envelope last).all HostCheck.passed = true ↔
      last.observations ≠ [] := by
    simp [hostChecks, Scheduler.hostCheck, queue, faultless, errors]
  have status : (report envelope last).status = runStatus envelope last := rfl
  rw [status, ← checked, runStatus, unlimited, found, queue, undemanding, faultless]
  generalize (hostChecks envelope last).all HostCheck.passed = accepted
  cases accepted <;> simp

/-- A queue with service time drains: over an adapter that accepts its stimuli, within the
limits, every stimulus is executed or turned away at a full queue, no limit cuts the run
short, and the run passes if there is anything to execute. -/
theorem queue_drains [StoreStreamAdapter A] {adapter : A} {envelope : ScenarioEnvelope}
    {latest : Nat} (willing : Willing envelope.stimuli adapter)
    (unhurried : Unhurried envelope latest) :
    ∃ fuel last, executeStream fuel envelope adapter = .ended last ∧ last.limited = false ∧
      last.executed.length + last.rejected = envelope.stimuli.length ∧
      ((report envelope last).status = .passed ↔ envelope.stimuli ≠ []) := by
  obtain ⟨fuel, last, ended, unlimited, counted, errors, occupied⟩ :=
    queue_ends willing unhurried
  exact ⟨fuel, last, ended, unlimited, counted,
    (queue_status unhurried.slow unlimited errors).trans occupied⟩

namespace Sample

open scoped Gearwit.Sample

/-- Two offers that meet at a queue of one. -/
def crowded : ScenarioEnvelope :=
  ⟨"SIM-QUEUE-01", .fake, ⟨1, 8, 64⟩,
    [⟨0, 0, "queue-0", none, .offer "event-0"⟩, ⟨0, 1, "queue-1", none, .offer "event-1"⟩]⟩

/-- The simulator's own adapter takes offers for as long as its store is recovered. -/
theorem stream_willing : Willing crowded.stimuli stream := by
  have offers (calls : List Stimulus) (listed : ∀ call ∈ calls, call ∈ crowded.stimuli)
      (driver : StreamDriver) (key : Bytes32) (empty : driver.store = some (.default key))
      (drawn : driver.draws = streamDraws) : Accepts driver calls := by
    induction calls generalizing driver with
    | nil => trivial
    | cons stimulus rest inductionHypothesis =>
        obtain ⟨event, offers⟩ : ∃ event, stimulus.action = .offer event := by
          have here := listed stimulus List.mem_cons_self
          simp only [crowded, List.mem_cons, List.not_mem_nil, or_false] at here
          rcases here with rfl | rfl <;> exact ⟨_, rfl⟩
        have recovers : (FakePersist.default key).recoverAuthorityState
            (driver.draws driver.calls).closing =
              (.ok (FakePersist.default key).snapshot, .default key) := by
          rw [drawn]
          rfl
        obtain ⟨receipt, next, taken, kept, same⟩ :=
          StreamDriver.offer_taken empty recovers stimulus.operationId event
        have answered : StoreStreamAdapter.apply stimulus.operationId
            (storeAction stimulus.action) driver = (.ok receipt, next) := by
          rw [offers]
          exact taken
        rw [Accepts, answered]
        exact ⟨rfl, inductionHypothesis
          (fun call member => listed call (List.mem_cons_of_mem _ member)) next kept
          (same.trans drawn)⟩
  intro calls listed
  obtain ⟨empty, drawn⟩ := StreamDriver.new_opens new_stream
  exact offers calls listed stream _ empty drawn

/-- A queue of one turns the second offer away and drains. -/
theorem crowded_queue_drains :
    ∃ fuel last, executeStream fuel crowded stream = .ended last ∧
      last.limited = false ∧
      last.executed.length + last.rejected = crowded.stimuli.length ∧
      ((report crowded last).status = .passed ↔ crowded.stimuli ≠ []) :=
  @queue_drains _ _ stream crowded 0 stream_willing
    ⟨rfl, by decide, by decide, by decide, by decide⟩

end Sample

end Simulator
end Gearwit
