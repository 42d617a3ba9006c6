import Gearwit.Simulator.Findings

/-!
# Chains of stimuli

In a chain every stimulus is due after the one before and waits for it.  Within its limits
the scheduler executes a chain completely and in order.
-/

namespace Gearwit
namespace Simulator

open Transition

/-- A stimulus is due after another and waits for it. -/
def Awaits (previous next : Stimulus) : Prop :=
  previous.dueTick < next.dueTick ∧ next.causalParent = some previous.operationId

instance (previous next : Stimulus) : Decidable (Awaits previous next) :=
  inferInstanceAs (Decidable (_ ∧ _))

/-- A list of stimuli of which each awaits the one before. -/
structure Chain (stimuli : List Stimulus) : Prop where
  root : ∀ first ∈ stimuli.head?, first.causalParent = none
  linked : stimuli.IsChain Awaits

/-- The limits of an envelope leave room for its stimuli, one at a time. -/
structure Roomy (envelope : ScenarioEnvelope) : Prop where
  prompt : serviceTicks envelope.caseId = 0
  capacity : 0 < envelope.limits.queueCapacity
  events : envelope.stimuli.length ≤ envelope.limits.maxEvents
  ticks : ∀ stimulus ∈ envelope.stimuli, stimulus.dueTick ≤ envelope.limits.maxVirtualTick

/-- Of a chain every stimulus is due before all that follow it. -/
theorem awaits_pairwise {stimuli : List Stimulus} (linked : stimuli.IsChain Awaits) :
    stimuli.Pairwise fun left right => left.dueTick < right.dueTick := by
  have increasing : stimuli.IsChain fun left right => left.dueTick < right.dueTick :=
    linked.imp fun _ _ awaits => awaits.1
  have : Trans (fun left right : Stimulus => left.dueTick < right.dueTick)
      (fun left right : Stimulus => left.dueTick < right.dueTick)
      (fun left right : Stimulus => left.dueTick < right.dueTick) :=
    ⟨fun first second => UInt64.lt_trans first second⟩
  exact List.isChain_iff_pairwise.1 increasing

namespace Scheduler

variable {A : Type}

private theorem admitLoop_waits (capacity : Nat) (stimuli : List Stimulus)
    (scheduler : Scheduler A)
    (early : ∀ stimulus ∈ stimuli, scheduler.tick < stimulus.dueTick) :
    admitLoop capacity stimuli scheduler =
      { scheduler with scheduled := scheduler.scheduled ++ stimuli } := by
  induction stimuli generalizing scheduler with
  | nil => simp [admitLoop]
  | cons stimulus rest inductionHypothesis =>
      have now : scheduler.dueNow stimulus = false := by
        rw [dueNow, decide_eq_false (UInt64.not_le.2 (early stimulus List.mem_cons_self))]
        rfl
      rw [admitLoop, if_pos (by rw [now]; rfl), inductionHypothesis]
      · simp
      · exact fun other member => early other (List.mem_cons_of_mem _ member)

private theorem nextScheduled_head {scheduler : Scheduler A} {stimulus : Stimulus}
    {rest : List Stimulus} (scheduled : scheduler.scheduled = stimulus :: rest)
    (linked : (stimulus :: rest).IsChain Awaits) :
    scheduler.nextScheduled = some stimulus.dueTick := by
  have least := (List.pairwise_cons.1 (awaits_pairwise linked)).1
  rw [nextScheduled, scheduled, List.map_cons, List.min?_cons']
  refine congrArg some ?_
  clear linked scheduled
  induction rest with
  | nil => rfl
  | cons next rest inductionHypothesis =>
      have smaller : min stimulus.dueTick next.dueTick = stimulus.dueTick :=
        if_pos (UInt64.le_of_lt (least next List.mem_cons_self))
      rw [List.map_cons, List.foldl_cons, smaller]
      exact inductionHypothesis fun other member => least other (List.mem_cons_of_mem _ member)

/-- A later tick is reached exactly. -/
theorem later_punctual {scheduler : Scheduler A} {tick : UInt64}
    (ahead : scheduler.tick < tick) : scheduler.later tick = .again { scheduler with tick } := by
  have forward : scheduler.tick.toNat < tick.toNat := ahead
  have bound := tick.toNat_lt
  have unfinished : scheduler.tick ≠ maxTick := by
    intro last
    rw [last, toNat_maxTick] at forward
    omega
  have next : scheduler.tick + 1 ≤ tick := by
    have one : (1 : UInt64).toNat = 1 := rfl
    rw [UInt64.le_iff_toNat_le, UInt64.toNat_add]
    omega
  have latest : max tick (scheduler.tick + 1) = tick := by
    change (if tick ≤ scheduler.tick + 1 then scheduler.tick + 1 else tick) = tick
    split_ifs with below
    · exact UInt64.le_antisymm next below
    · rfl
  rw [Scheduler.later, if_neg unfinished, latest]

/-- The clock moves to the first stimulus of a chain. -/
private theorem advance_waits {scheduler : Scheduler A} {stimulus : Stimulus}
    {rest : List Stimulus} (scheduled : scheduler.scheduled = stimulus :: rest)
    (linked : (stimulus :: rest).IsChain Awaits) (ready : scheduler.ready = [])
    (grounded : scheduler.inFlight = none) (ahead : scheduler.tick < stimulus.dueTick) :
    scheduler.advance = .again { scheduler with tick := stimulus.dueTick } := by
  unfold advance
  simp only [nextScheduled_head scheduled linked, ready, grounded, later_punctual ahead]

/-- What is counted while a chain is executed. -/
structure Exact (scheduler : Scheduler A) : Prop where
  offered : scheduler.offered = scheduler.executed.length
  admitted : scheduler.admitted = scheduler.executed.length
  rejected : scheduler.rejected = 0
  depth : scheduler.maxDepth ≤ 1
  unlimited : scheduler.resourceLimited = false

/-- The scheduler is about to take up a chain. -/
structure Facing (envelope : ScenarioEnvelope) (stimulus : Stimulus) (rest : List Stimulus)
    (scheduler : Scheduler A) : Prop where
  scheduled : scheduler.scheduled = stimulus :: rest
  ready : scheduler.ready = []
  grounded : scheduler.inFlight = none
  linked : (stimulus :: rest).IsChain Awaits
  parent : ∀ parent ∈ stimulus.causalParent, parent ∈ scheduler.completedIds
  events : scheduler.observations.length + (rest.length + 1) ≤ envelope.limits.maxEvents
  ticks : ∀ other ∈ stimulus :: rest, other.dueTick ≤ envelope.limits.maxVirtualTick
  exact : Exact scheduler

variable [StoreStreamAdapter A]

private theorem work_waits {envelope : ScenarioEnvelope} {scheduler : Scheduler A}
    (prompt : serviceTicks envelope.caseId = 0) (ready : scheduler.ready = [])
    (grounded : scheduler.inFlight = none)
    (early : ∀ stimulus ∈ scheduler.scheduled, scheduler.tick < stimulus.dueTick) :
    work envelope scheduler = scheduler := by
  have completed : completeDue envelope.caseId scheduler = scheduler := by
    rw [completeDue, grounded]
  have admitted : admitDue envelope.limits.queueCapacity scheduler = scheduler := by
    rw [admitDue, admitLoop_waits]
    · rw [List.nil_append]
    · exact early
  rw [work, completed, admitted, serve, if_pos prompt]
  cases scheduler
  cases ready
  rfl

/-- A turn on time calls the adapter for the first stimulus of the chain. -/
private theorem work_serves {envelope : ScenarioEnvelope} {scheduler : Scheduler A}
    {stimulus : Stimulus} {rest : List Stimulus} (roomy : Roomy envelope)
    (facing : Facing envelope stimulus rest scheduler)
    (punctual : scheduler.tick = stimulus.dueTick) :
    work envelope scheduler =
      { completeStoreStep envelope.caseId stimulus
          { scheduler with
            scheduled := rest
            offered := scheduler.offered + 1
            admitted := scheduler.admitted + 1
            ready := [stimulus]
            maxDepth := max scheduler.maxDepth 1 } with
        ready := [] } := by
  obtain ⟨scheduled, ready, grounded, linked, parent, events, _, _⟩ := facing
  have completed : completeDue envelope.caseId scheduler = scheduler := by
    rw [completeDue, grounded]
  have later : ∀ other ∈ rest, scheduler.tick < other.dueTick := by
    rw [punctual]
    exact (List.pairwise_cons.1 (awaits_pairwise linked)).1
  have now : ({ scheduler with scheduled := [] } : Scheduler A).dueNow stimulus = true := by
    rw [dueNow, Bool.and_eq_true, decide_eq_true_iff]
    refine ⟨by rw [punctual]; exact UInt64.le_refl _, ?_⟩
    rw [Option.all_eq_true]
    intro waited member
    exact List.contains_iff_mem.2 (parent waited member)
  have free : ¬ envelope.limits.queueCapacity ≤
      ({ scheduler with scheduled := [] } : Scheduler A).occupied := by
    have room := roomy.capacity
    simp only [occupied, ready, grounded, List.length_nil, Option.isSome_none,
      Bool.false_eq_true, if_false]
    omega
  have unspent : ¬ envelope.limits.maxEvents ≤ scheduler.observations.length := by omega
  have depth : ({ scheduler with scheduled := [] } : Scheduler A).occupied + 1 = 1 := by
    simp [occupied, ready, grounded]
  rw [work, completed, admitDue, scheduled, admitLoop, if_neg (by rw [now]; decide),
    if_neg free, admitLoop_waits, serve, if_pos roomy.prompt, depth]
  · simp only [ready, List.nil_append]
    rw [serveLoop, if_neg unspent, serveLoop]
  · exact later

/-- A turn that is not over works and advances the clock. -/
theorem turn_advances {envelope : ScenarioEnvelope} {scheduler : Scheduler A}
    (busy : scheduler.idle = false) (fresh : scheduler.exhausted envelope.limits = false)
    (unlimited : (work envelope scheduler).resourceLimited = false) :
    turn envelope scheduler = (work envelope scheduler).advance := by
  rw [turn, busy, fresh]
  simp [unlimited]

/-- A turn before a chain is due moves the clock to it. -/
private theorem turn_waits {envelope : ScenarioEnvelope} {scheduler : Scheduler A}
    {stimulus : Stimulus} {rest : List Stimulus} (roomy : Roomy envelope)
    (facing : Facing envelope stimulus rest scheduler)
    (ahead : scheduler.tick < stimulus.dueTick) :
    turn envelope scheduler = .again { scheduler with tick := stimulus.dueTick } := by
  obtain ⟨scheduled, ready, grounded, linked, _, events, ticks, exact⟩ := facing
  have busy : scheduler.idle = false := by simp [idle, scheduled]
  have fresh : scheduler.exhausted envelope.limits = false := by
    have early := UInt64.le_trans (UInt64.le_of_lt ahead) (ticks stimulus List.mem_cons_self)
    rw [exhausted, decide_eq_false (UInt64.not_lt.2 early), decide_eq_false (by omega)]
    rfl
  have early : ∀ other ∈ scheduler.scheduled, scheduler.tick < other.dueTick := by
    rw [scheduled]
    intro other member
    rcases List.mem_cons.1 member with rfl | later
    · exact ahead
    · exact UInt64.lt_trans ahead ((List.pairwise_cons.1 (awaits_pairwise linked)).1 other later)
  have worked := work_waits roomy.prompt ready grounded early
  rw [turn_advances busy fresh (by rw [worked]; exact exact.unlimited), worked]
  exact advance_waits scheduled linked ready grounded ahead

/-- A turn on time executes the first stimulus of the chain and faces the next. -/
private theorem turn_serves {envelope : ScenarioEnvelope} {scheduler : Scheduler A}
    {stimulus : Stimulus} {rest : List Stimulus} (roomy : Roomy envelope)
    (facing : Facing envelope stimulus rest scheduler)
    (punctual : scheduler.tick = stimulus.dueTick)
    (succeeds : ∃ receipt after, StoreStreamAdapter.apply stimulus.operationId
      (storeAction stimulus.action) scheduler.adapter = (.ok receipt, after)) :
    ∃ next : Scheduler A, next.executed = scheduler.executed ++ [stimulus] ∧
      next.record = scheduler.record.call envelope.caseId stimulus ∧ Exact next ∧
      match rest with
      | [] => turn envelope scheduler = .ended next ∧ next.idle = true
      | following :: others =>
          turn envelope scheduler = .again next ∧ next.tick = following.dueTick ∧
            Facing envelope following others next := by
  obtain ⟨receipt, after, answered⟩ := succeeds
  have worked := work_serves roomy facing punctual
  generalize taken : work envelope scheduler = next at worked
  have served := completeStoreStep_record envelope.caseId stimulus
    { scheduler with
      scheduled := rest
      offered := scheduler.offered + 1
      admitted := scheduler.admitted + 1
      ready := [stimulus]
      maxDepth := max scheduler.maxDepth 1 }
  rw [completeStoreStep, answered] at worked
  obtain ⟨scheduled, ready, grounded, linked, parent, events, ticks, exact⟩ := facing
  have busy : scheduler.idle = false := by simp [idle, scheduled]
  have fresh : scheduler.exhausted envelope.limits = false := by
    have early := ticks stimulus List.mem_cons_self
    rw [exhausted, punctual, decide_eq_false (UInt64.not_lt.2 early),
      decide_eq_false (by omega)]
    rfl
  have unlimited : next.resourceLimited = false := by rw [worked]; exact exact.unlimited
  have turned : turn envelope scheduler = next.advance := by
    rw [turn_advances busy fresh (by rw [taken]; exact unlimited), taken]
  rw [completeStoreStep, answered] at served
  have counted : Exact next := by
    rw [worked]
    refine ⟨?_, ?_, exact.rejected, max_le exact.depth le_rfl, exact.unlimited⟩
    · rw [List.length_append, List.length_singleton, exact.offered]
    · rw [List.length_append, List.length_singleton, exact.admitted]
  have executed : next.executed = scheduler.executed ++ [stimulus] := by rw [worked]
  have recorded : next.record = scheduler.record.call envelope.caseId stimulus := by
    rw [worked]
    exact served
  have left : next.scheduled = rest := by rw [worked]
  have empty : next.ready = [] := by rw [worked]
  have landed : next.inFlight = none := by
    rw [worked]
    exact grounded
  cases rest with
  | nil =>
      refine ⟨next, executed, recorded, counted, ?_, by simp [idle, left, empty, landed]⟩
      rw [turned, advance, nextScheduled, left, empty, landed]
      rfl
  | cons following others =>
      obtain ⟨awaits, onward⟩ := List.isChain_cons_cons.1 linked
      have ahead : next.tick < following.dueTick := by
        rw [worked]
        exact punctual ▸ awaits.1
      refine ⟨{ next with tick := following.dueTick }, executed, recorded, { counted with },
        turned.trans (advance_waits left onward empty landed ahead), rfl, ?_⟩
      refine ⟨left, empty, landed, onward, ?_, ?_, ?_, { counted with }⟩
      · intro parent member
        rw [worked]
        rw [awaits.2, Option.mem_some] at member
        exact List.mem_cons.2 (.inl member.symm)
      · have more : next.observations.length = scheduler.observations.length + 1 := by
          rw [worked, List.length_append, List.length_singleton]
        rw [List.length_cons] at events
        exact (congrArg (· + (others.length + 1)) more).le.trans (by omega)
      · exact fun other member => ticks other (List.mem_cons_of_mem _ member)

/-- A chain that is faced on time and answered as the oracle does is executed completely and
in order. -/
private theorem loop_chain
    {envelope : ScenarioEnvelope} (roomy : Roomy envelope) {scheduler : Scheduler A}
    {stimulus : Stimulus} {rest : List Stimulus}
    (facing : Facing envelope stimulus rest scheduler)
    (punctual : scheduler.tick = stimulus.dueTick)
    (conformed : Conformed envelope.caseId scheduler.record)
    (answers : AnswersAs scheduler.adapter (run Oracle.step .default scheduler.executed)
      (stimulus :: rest)) :
    ∃ fuel last, loop envelope fuel scheduler = .ended last ∧
      last.executed = scheduler.executed ++ stimulus :: rest ∧ last.idle = true ∧
      Exact last ∧ Conformed envelope.caseId last.record := by
  have called := call_conformed conformed answers
  have succeeds : ∃ receipt after, StoreStreamAdapter.apply stimulus.operationId
      (storeAction stimulus.action) scheduler.adapter = (.ok receipt, after) :=
    ⟨_, _, Prod.ext answers.1 rfl⟩
  induction rest generalizing stimulus scheduler with
  | nil =>
      obtain ⟨last, executed, recorded, counted, ended, idle⟩ :=
        turn_serves roomy facing punctual succeeds
      exact ⟨1, last, loop_ended ended 0, executed, idle, counted, recorded ▸ called.1⟩
  | cons following others inductionHypothesis =>
      obtain ⟨next, executed, recorded, _, again, tick, onward⟩ :=
        turn_serves roomy facing punctual succeeds
      rw [← recorded] at called
      obtain ⟨kept, answers⟩ := called
      obtain ⟨fuel, last, ended, all, idle, counted, final⟩ :=
        inductionHypothesis onward tick kept answers (call_conformed kept answers)
          ⟨_, _, Prod.ext answers.1 rfl⟩
      refine ⟨fuel + 1, last, ?_, ?_, idle, counted, final⟩
      · rw [loop_again again]
        exact ended
      · rw [all, executed, List.append_assoc, List.singleton_append]

/-- A chain with room that is answered as the oracle does is executed completely and in
order. -/
theorem chain_ends {adapter : A} {envelope : ScenarioEnvelope}
    (answers : AnswersAs adapter .default envelope.stimuli)
    (chain : Chain envelope.stimuli) (roomy : Roomy envelope) :
    ∃ fuel last, executeStream fuel envelope adapter = .ended last ∧
      last.executed = envelope.stimuli ∧ last.idle = true ∧ Exact last ∧
      Conformed envelope.caseId last.record := by
  have sorted : envelope.stimuli.mergeSort keyLe = envelope.stimuli :=
    List.mergeSort_of_pairwise ((awaits_pairwise chain.linked).imp fun before =>
      decide_eq_true (.inl before))
  have scheduled : (start envelope adapter).scheduled = envelope.stimuli := sorted
  have none : Exact (start envelope adapter) := ⟨rfl, rfl, rfl, Nat.zero_le _, rfl⟩
  cases stimuli : envelope.stimuli with
  | nil =>
      have idle : (start envelope adapter).idle = true := by
        simp [idle, stimuli, start]
      exact ⟨1, _, loop_ended (by rw [turn, if_pos idle]) 0, rfl, idle, none, rfl, rfl, rfl⟩
  | cons first rest =>
      have linked : (first :: rest).IsChain Awaits := stimuli ▸ chain.linked
      have root : first.causalParent = Option.none := chain.root first (by rw [stimuli]; rfl)
      have events : (first :: rest).length ≤ envelope.limits.maxEvents := stimuli ▸ roomy.events
      have ticks := roomy.ticks
      rw [stimuli] at ticks scheduled answers
      have facing (tick : UInt64) :
          Facing envelope first rest { start envelope adapter with tick } := by
        refine ⟨scheduled, rfl, rfl, linked, ?_, ?_, ticks, { none with }⟩
        · intro parent member
          rw [root] at member
          cases member
        · exact (Nat.zero_add _).le.trans events
      obtain ⟨fuel, last, ended, rest⟩ := loop_chain roomy (facing first.dueTick) rfl
        ⟨rfl, rfl, rfl⟩ answers
      by_cases prompt : first.dueTick = 0
      · have same : { start envelope adapter with tick := first.dueTick } =
            start envelope adapter := by rw [prompt]; rfl
        rw [same] at ended
        exact ⟨fuel, last, ended, rest⟩
      · have ahead : (start envelope adapter).tick < first.dueTick := by
          rw [UInt64.lt_iff_toNat_lt]
          exact Nat.pos_of_ne_zero fun zero => prompt (UInt64.toNat_inj.1 zero)
        have waits : turn envelope (start envelope adapter) =
            .again { start envelope adapter with tick := first.dueTick } :=
          turn_waits roomy (facing 0) ahead
        refine ⟨fuel + 1, last, ?_, rest⟩
        rw [executeStream, loop_again waits]
        exact ended

end Scheduler
end Simulator
end Gearwit
