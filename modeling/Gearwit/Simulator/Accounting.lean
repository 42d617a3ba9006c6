import Gearwit.Simulator.Scheduler

/-!
# What the scheduler accounts for

Every stimulus of an envelope stands in one place: it is still scheduled, was rejected,
waits in the queue, is in flight, or was given to the adapter once.  The one exception is
the stimulus that is taken off the queue when the events are used up, which no container
holds afterwards and no counter counts.
-/

namespace Gearwit
namespace Simulator
namespace Scheduler

variable {A : Type}

/-! ## The law of the calls -/

/-- A successful call for the parent of a stimulus is among the calls. -/
def Follows (stimulus : Stimulus) (earlier : List Served) : Prop :=
  ∀ parent ∈ stimulus.causalParent, ∃ previous ∈ earlier,
    previous.succeeded = true ∧ previous.stimulus.operationId = parent

/-- Of the calls, newest first, each was made when its stimulus was due, after a
successful call for its parent. -/
def Timely : List Served → Prop
  | [] => True
  | call :: earlier =>
      call.stimulus.dueTick ≤ call.tick ∧ Follows call.stimulus earlier ∧ Timely earlier

/-- The stimulus in flight. -/
def flight (scheduler : Scheduler A) : List Stimulus :=
  scheduler.inFlight.toList.map Prod.snd

/-- At most one stimulus is in flight. -/
theorem length_flight (scheduler : Scheduler A) :
    scheduler.flight.length = if scheduler.inFlight.isSome then 1 else 0 := by
  rw [flight]
  cases scheduler.inFlight <;> rfl

/-! ## The invariant -/

/-- A scheduler keeps the account of an envelope's stimuli, of which some were refused and
some are held in no container. -/
structure Kept (envelope : ScenarioEnvelope) (refused held : List Stimulus)
    (scheduler : Scheduler A) : Prop where
  counted : ∀ stimulus, envelope.stimuli.count stimulus =
    scheduler.scheduled.count stimulus + refused.count stimulus +
      scheduler.ready.count stimulus + scheduler.flight.count stimulus +
      scheduler.called.count stimulus + held.count stimulus
  rejected : scheduler.rejected = refused.length
  offered : scheduler.offered = scheduler.admitted + scheduler.rejected
  admitted : scheduler.admitted = scheduler.served.length + scheduler.ready.length +
    scheduler.flight.length + held.length
  answered : scheduler.served.length =
    scheduler.observations.length + scheduler.errors.length
  executed : scheduler.executed =
    ((scheduler.served.filter Served.succeeded).map Served.stimulus).reverse
  completed : ∀ id ∈ scheduler.completedIds, ∃ previous ∈ scheduler.served,
    previous.succeeded = true ∧ previous.stimulus.operationId = id
  depth : scheduler.maxDepth ≤ envelope.limits.queueCapacity
  timely : Timely scheduler.served
  due : ∀ stimulus ∈ scheduler.ready ++ scheduler.flight ++ held,
    stimulus.dueTick ≤ scheduler.tick ∧ Follows stimulus scheduler.served

private theorem start_kept (envelope : ScenarioEnvelope) (adapter : A) :
    Kept envelope [] [] (start envelope adapter) where
  counted stimulus := by
    have same := (List.mergeSort_perm envelope.stimuli keyLe).count_eq stimulus
    simp [start, flight, called, same]
  rejected := rfl
  offered := rfl
  admitted := rfl
  answered := rfl
  executed := rfl
  completed id member := by simp [start] at member
  depth := Nat.zero_le _
  timely := trivial
  due stimulus member := by simp [start, flight] at member

namespace Kept

variable {envelope : ScenarioEnvelope} {refused held : List Stimulus}
  {scheduler : Scheduler A}

/-- A stimulus leaves the queue. -/
private theorem popped {stimulus : Stimulus} {rest : List Stimulus}
    (kept : Kept envelope refused [] { scheduler with ready := stimulus :: rest }) :
    Kept envelope refused [stimulus] { scheduler with ready := rest } :=
  { kept with
    counted := fun other => by
      have counted := kept.counted other
      simp only [flight, called, List.count_cons, List.count_nil] at counted ⊢
      omega
    admitted := by
      have admitted := kept.admitted
      simp only [flight, List.length_cons, List.length_nil] at admitted ⊢
      omega
    due := fun other member => kept.due other (by
      simp only [flight, List.append_nil, List.cons_append, List.mem_append, List.mem_cons,
        List.not_mem_nil, or_false] at member ⊢
      tauto) }

/-- The stimulus in flight is taken. -/
private theorem landed {completeAt : UInt64} {stimulus : Stimulus}
    (kept : Kept envelope refused [] scheduler)
    (flying : scheduler.inFlight = some (completeAt, stimulus)) :
    Kept envelope refused [stimulus] { scheduler with inFlight := none } :=
  { kept with
    counted := fun other => by
      have counted := kept.counted other
      simp only [flight, flying, called, Option.toList, List.map_cons, List.map_nil,
        List.count_nil] at counted ⊢
      omega
    admitted := by
      have admitted := kept.admitted
      simp only [flight, flying, Option.toList, List.map_cons, List.map_nil, List.length_cons,
        List.length_nil] at admitted ⊢
      omega
    due := fun other member => kept.due other (by
      simpa [flight, flying] using member) }

/-- The held stimulus takes off. -/
private theorem launched {completeAt : UInt64} {stimulus : Stimulus}
    (kept : Kept envelope refused [stimulus] scheduler) (still : scheduler.inFlight = none) :
    Kept envelope refused [] { scheduler with inFlight := some (completeAt, stimulus) } :=
  { kept with
    counted := fun other => by
      have counted := kept.counted other
      simp only [flight, still, called, Option.toList, List.map_cons, List.map_nil,
        List.count_nil] at counted ⊢
      omega
    admitted := by
      have admitted := kept.admitted
      simp only [flight, still, Option.toList, List.map_cons, List.map_nil, List.length_cons,
        List.length_nil] at admitted ⊢
      omega
    due := fun other member => kept.due other (by
      simpa [flight, still] using member) }

/-- The clock moves forward. -/
private theorem later {tick : UInt64} (kept : Kept envelope refused held scheduler)
    (forward : scheduler.tick ≤ tick) :
    Kept envelope refused held { scheduler with tick } :=
  { kept with
    due := fun stimulus member =>
      ⟨UInt64.le_trans (kept.due stimulus member).1 forward, (kept.due stimulus member).2⟩ }

private theorem limited (kept : Kept envelope refused held scheduler) (limit : Bool) :
    Kept envelope refused held { scheduler with resourceLimited := limit } :=
  { kept with }

end Kept

/-! ## Calls of the adapter -/

section Calls

variable [StoreStreamAdapter A] {envelope : ScenarioEnvelope}
  {refused : List Stimulus} {scheduler : Scheduler A}

private theorem Follows.mono {stimulus : Stimulus} {earlier : List Served} {call : Served}
    (follows : Follows stimulus earlier) : Follows stimulus (call :: earlier) := by
  intro parent member
  obtain ⟨previous, listed, succeeded⟩ := follows parent member
  exact ⟨previous, List.mem_cons_of_mem _ listed, succeeded⟩

omit [StoreStreamAdapter A] in
/-- The stimulus in hand is called, whatever the call answers. -/
private theorem Kept.answer {stimulus : Stimulus} {ids : List String}
    {executed : List Stimulus} {observations : List Observation} {errors : List String}
    {adapter : A} (succeeded : Bool) (kept : Kept envelope refused [stimulus] scheduler)
    (answers : observations.length + errors.length =
      scheduler.observations.length + scheduler.errors.length + 1)
    (executes : executed =
      scheduler.executed ++ (if succeeded = true then [stimulus] else []))
    (completes : ∀ id ∈ ids,
      id ∈ scheduler.completedIds ∨ succeeded = true ∧ stimulus.operationId = id) :
    Kept envelope refused []
      { scheduler with
        adapter, executed, observations, errors
        completedIds := ids
        served := ⟨scheduler.tick, stimulus, succeeded⟩ :: scheduler.served } := by
  obtain ⟨ripe, follows⟩ := kept.due stimulus (by simp)
  exact
    { rejected := kept.rejected
      offered := kept.offered
      depth := kept.depth
      counted := fun other => by
        have counted := kept.counted other
        simp only [called, flight, List.map_cons, List.count_cons, List.count_nil]
          at counted ⊢
        omega
      admitted := by
        have admitted := kept.admitted
        simp only [flight, List.length_cons, List.length_nil] at admitted ⊢
        omega
      answered := by
        have answered := kept.answered
        simp only [List.length_cons]
        omega
      executed := by
        rw [executes, kept.executed]
        cases succeeded <;> simp
      completed := by
        intro id member
        rcases completes id member with earlier | now
        · obtain ⟨previous, listed, done⟩ := kept.completed id earlier
          exact ⟨previous, List.mem_cons_of_mem _ listed, done⟩
        · exact ⟨_, List.mem_cons_self, now⟩
      timely := ⟨ripe, follows, kept.timely⟩
      due := by
        intro other member
        obtain ⟨ripe, follows⟩ := kept.due other (by
          rw [List.append_nil] at member
          exact List.mem_append_left _ member)
        exact ⟨ripe, follows.mono⟩ }

private theorem completeStoreStep_kept {stimulus : Stimulus} (caseId : String)
    (kept : Kept envelope refused [stimulus] scheduler) :
    Kept envelope refused [] (completeStoreStep caseId stimulus scheduler) := by
  unfold completeStoreStep
  split
  · refine Kept.answer true kept ?_ rfl ?_
    · rw [List.length_append, List.length_singleton]
      omega
    · intro id member
      rcases List.mem_cons.1 member with rfl | earlier
      · exact .inr ⟨rfl, rfl⟩
      · exact .inl earlier
  · refine Kept.answer false kept ?_ (by simp) (fun id earlier => .inl earlier)
    rw [List.length_append, List.length_singleton]
    omega

private theorem completeDue_kept (caseId : String) (kept : Kept envelope refused [] scheduler) :
    Kept envelope refused [] (completeDue caseId scheduler) := by
  unfold completeDue
  split
  · rename_i completeAt stimulus flying
    split_ifs
    · exact completeStoreStep_kept caseId (kept.landed flying)
    · exact kept
  · exact kept

end Calls

/-! ## Admission -/

private theorem follows_of_dueNow {scheduler : Scheduler A} {stimulus : Stimulus}
    {envelope : ScenarioEnvelope} {refused held : List Stimulus}
    (kept : Kept envelope refused held scheduler) (now : scheduler.dueNow stimulus = true) :
    stimulus.dueTick ≤ scheduler.tick ∧ Follows stimulus scheduler.served := by
  obtain ⟨ripe, parents⟩ := (Bool.and_eq_true _ _).mp now
  refine ⟨of_decide_eq_true ripe, fun parent member => ?_⟩
  rw [Option.mem_def.1 member, Option.all_some, List.contains_iff_mem] at parents
  exact kept.completed parent parents

/-- Admission moves each stimulus it looks at back to the schedule, to the refused ones or
to the queue. -/
private theorem admitLoop_kept {envelope : ScenarioEnvelope} {refused pending : List Stimulus}
    {scheduler : Scheduler A}
    (kept : Kept envelope refused []
      { scheduler with scheduled := scheduler.scheduled ++ pending }) :
    ∃ refused, Kept envelope refused []
      (admitLoop envelope.limits.queueCapacity pending scheduler) := by
  induction pending generalizing refused scheduler with
  | nil =>
      rw [List.append_nil] at kept
      exact ⟨refused, kept⟩
  | cons stimulus rest hypothesis =>
      have counted (other : Stimulus) := kept.counted other
      unfold admitLoop
      split_ifs with later full
      · refine @hypothesis refused _ ?_
        rw [List.append_assoc]
        exact kept
      · refine @hypothesis (stimulus :: refused) _ ?_
        exact
          { kept with
            counted := fun other => by
              have counted := counted other
              simp only [called, flight, List.count_append, List.count_cons, List.count_nil]
                at counted ⊢
              omega
            rejected := congrArg (· + 1) kept.rejected
            offered := congrArg (· + 1) kept.offered }
      · obtain ⟨ripe, follows⟩ := follows_of_dueNow kept
          (by simpa using later : scheduler.dueNow stimulus = true)
        refine @hypothesis refused _ ?_
        exact
          { kept with
            counted := fun other => by
              have counted := counted other
              simp only [called, flight, List.count_append, List.count_cons, List.count_nil]
                at counted ⊢
              omega
            offered := by
              have offered := kept.offered
              simp only at offered ⊢
              omega
            admitted := by
              have admitted := kept.admitted
              simp only [flight, List.length_append, List.length_cons, List.length_nil]
                at admitted ⊢
              omega
            depth := max_le kept.depth (Nat.lt_of_not_le full)
            due := by
              intro other member
              simp only [flight, List.append_nil, List.mem_append, List.mem_singleton] at member
              rcases member with (queued | rfl) | flying
              · exact kept.due other (by simp [queued])
              · exact ⟨ripe, follows⟩
              · exact kept.due other (by simp [flight, flying]) }

private theorem admitDue_kept {envelope : ScenarioEnvelope} {refused : List Stimulus}
    {scheduler : Scheduler A} (kept : Kept envelope refused [] scheduler) :
    ∃ refused, Kept envelope refused []
      (admitDue envelope.limits.queueCapacity scheduler) :=
  admitLoop_kept (by
    rw [List.nil_append]
    exact kept)

/-! ## Service -/

section Service

variable [StoreStreamAdapter A]

/-- Calls that succeed when a queue is served. -/
def successes : List Stimulus → A → Nat
  | [], _ => 0
  | stimulus :: rest, adapter =>
      match StoreStreamAdapter.apply stimulus.operationId (storeAction stimulus.action)
        adapter with
      | (.ok _, adapter) => successes rest adapter + 1
      | (.error _, adapter) => successes rest adapter

/-- The events are used up before a queue is empty. -/
def CutShort (maxEvents : Nat) (queue : List Stimulus) (scheduler : Scheduler A) : Prop :=
  ∃ front stimulus rest, queue = front ++ stimulus :: rest ∧
    maxEvents ≤ scheduler.observations.length + successes front scheduler.adapter

/-- The scheduler that a turn serves. -/
def admitting (envelope : ScenarioEnvelope) (scheduler : Scheduler A) : Scheduler A :=
  admitDue envelope.limits.queueCapacity (completeDue envelope.caseId scheduler)

/-- A turn without service time uses up the events before its queue is empty. -/
def Cuts (envelope : ScenarioEnvelope) (scheduler : Scheduler A) : Prop :=
  scheduler.idle = false ∧ scheduler.exhausted envelope.limits = false ∧
    serviceTicks envelope.caseId = 0 ∧
    CutShort envelope.limits.maxEvents (admitting envelope scheduler).ready
      (admitting envelope scheduler)

private theorem cutShort_cons (caseId : String) {maxEvents : Nat} {stimulus : Stimulus}
    {rest : List Stimulus} {scheduler : Scheduler A}
    (unspent : ¬ maxEvents ≤ scheduler.observations.length) :
    CutShort maxEvents (stimulus :: rest) scheduler ↔
      CutShort maxEvents rest (completeStoreStep caseId stimulus scheduler) := by
  have moved (front : List Stimulus) :
      scheduler.observations.length + successes (stimulus :: front) scheduler.adapter =
        (completeStoreStep caseId stimulus scheduler).observations.length +
          successes front (completeStoreStep caseId stimulus scheduler).adapter := by
    rw [completeStoreStep, successes]
    rcases StoreStreamAdapter.apply stimulus.operationId (storeAction stimulus.action)
      scheduler.adapter with ⟨refusal | receipt, after⟩
    · rfl
    · simp only [List.length_append, List.length_singleton]
      omega
  constructor
  · rintro ⟨front, cut, others, same, used⟩
    cases front with
    | nil => exact absurd used unspent
    | cons first front =>
        rw [List.cons_append, List.cons.injEq] at same
        obtain ⟨rfl, same⟩ := same
        exact ⟨front, cut, others, same, by rwa [← moved]⟩
  · rintro ⟨front, cut, others, rfl, used⟩
    exact ⟨stimulus :: front, cut, others, rfl, by rwa [moved]⟩

private theorem completeStoreStep_ready (caseId : String) (stimulus : Stimulus)
    (queue : List Stimulus) (scheduler : Scheduler A) :
    { completeStoreStep caseId stimulus scheduler with ready := queue } =
      completeStoreStep caseId stimulus { scheduler with ready := queue } := by
  unfold completeStoreStep
  split <;> rename_i answered <;> simp only [answered]

/-- Serving the queue loses nothing, unless the events are used up first: then it loses
the stimulus it took off. -/
private theorem serveLoop_kept {envelope : ScenarioEnvelope} {refused queue : List Stimulus}
    {scheduler : Scheduler A}
    (kept : Kept envelope refused [] { scheduler with ready := queue }) :
    ∃ held, held.length ≤ 1 ∧
      Kept envelope refused held
        (serveLoop envelope.caseId envelope.limits.maxEvents queue scheduler) ∧
      (held ≠ [] ↔ CutShort envelope.limits.maxEvents queue scheduler) ∧
      (held ≠ [] →
        (serveLoop envelope.caseId envelope.limits.maxEvents queue
          scheduler).resourceLimited = true) := by
  induction queue generalizing scheduler with
  | nil =>
      refine ⟨[], by simp, kept, ⟨fun other => absurd rfl other, ?_⟩, fun other =>
        absurd rfl other⟩
      rintro ⟨front, stimulus, rest, same, _⟩
      simp at same
  | cons stimulus rest hypothesis =>
      unfold serveLoop
      split_ifs with used
      · refine ⟨[stimulus], le_rfl, kept.popped.limited true, ⟨fun _ => ?_, fun _ => by simp⟩,
          fun _ => rfl⟩
        exact ⟨[], stimulus, rest, rfl, by simpa [successes] using used⟩
      · rw [cutShort_cons envelope.caseId used]
        refine hypothesis ?_
        rw [completeStoreStep_ready]
        exact completeStoreStep_kept _ kept.popped

private theorem serve_kept {envelope : ScenarioEnvelope} {refused : List Stimulus}
    {scheduler : Scheduler A} (kept : Kept envelope refused [] scheduler) :
    ∃ held, held.length ≤ 1 ∧ Kept envelope refused held (serve envelope scheduler) ∧
      (held ≠ [] ↔ serviceTicks envelope.caseId = 0 ∧
        CutShort envelope.limits.maxEvents scheduler.ready scheduler) ∧
      (held ≠ [] → (serve envelope scheduler).resourceLimited = true) := by
  unfold serve
  split_ifs with prompt
  · obtain ⟨held, short, served, cut, limited⟩ := serveLoop_kept kept
    exact ⟨held, short, served, cut.trans (iff_and_self.2 fun _ => prompt), limited⟩
  · refine ⟨[], Nat.zero_le _, ?_, ⟨fun other => absurd rfl other, fun cut => absurd cut.1 prompt⟩,
      fun other => absurd rfl other⟩
    split
    · rename_i stimulus rest still queue
      have standing : Kept envelope refused [] { scheduler with ready := stimulus :: rest } := by
        rw [← queue]
        exact kept
      exact standing.popped.launched still
    · exact kept

private theorem work_kept {envelope : ScenarioEnvelope} {refused : List Stimulus}
    {scheduler : Scheduler A} (kept : Kept envelope refused [] scheduler) :
    ∃ refused held, held.length ≤ 1 ∧ Kept envelope refused held (work envelope scheduler) ∧
      (held ≠ [] ↔ serviceTicks envelope.caseId = 0 ∧
        CutShort envelope.limits.maxEvents (admitting envelope scheduler).ready
          (admitting envelope scheduler)) ∧
      (held ≠ [] → (work envelope scheduler).resourceLimited = true) := by
  obtain ⟨refused, admitted⟩ := admitDue_kept (completeDue_kept envelope.caseId kept)
  exact ⟨refused, serve_kept admitted⟩

end Service

/-! ## Turns -/

section Turns

variable [StoreStreamAdapter A] {envelope : ScenarioEnvelope} {refused : List Stimulus}
  {scheduler : Scheduler A}

/-- A turn that goes on keeps the account, and was not cut short. -/
private theorem turn_again {next : Scheduler A} (kept : Kept envelope refused [] scheduler)
    (again : turn envelope scheduler = .again next) :
    (∃ refused, Kept envelope refused [] next) ∧ ¬ Cuts envelope scheduler := by
  unfold turn at again
  simp only at again
  split_ifs at again with idle exhausted limited
  obtain ⟨refused, held, _, worked, cut, limits⟩ := work_kept kept
  obtain rfl : held = [] := by
    by_contra other
    exact limited (limits other)
  obtain ⟨tick, rfl, forward | ⟨last, same, _⟩⟩ := advance_again again
  · exact ⟨⟨refused, worked.later (UInt64.le_of_lt forward)⟩, fun cuts => cut.2 cuts.2.2 rfl⟩
  · exact ⟨⟨refused, worked.later (by rw [last, same]; exact UInt64.le_refl _)⟩,
      fun cuts => cut.2 cuts.2.2 rfl⟩

/-- A turn that ends holds a stimulus nowhere exactly if it was cut short. -/
private theorem turn_ended {last : Scheduler A} (kept : Kept envelope refused [] scheduler)
    (ended : turn envelope scheduler = .ended last) :
    ∃ refused held, held.length ≤ 1 ∧ Kept envelope refused held last ∧
      (held ≠ [] ↔ Cuts envelope scheduler) := by
  unfold turn at ended
  simp only at ended
  split_ifs at ended with idle exhausted limited
  · cases ended
    refine ⟨refused, [], Nat.zero_le _, kept, fun other => absurd rfl other, fun cuts => ?_⟩
    rw [cuts.1] at idle
    cases idle
  · cases ended
    refine ⟨refused, [], Nat.zero_le _, kept.limited true, fun other => absurd rfl other,
      fun cuts => ?_⟩
    rw [cuts.2.1] at exhausted
    cases exhausted
  all_goals
    obtain ⟨refused, held, short, worked, cut, _⟩ := work_kept kept
    have cuts : held ≠ [] ↔ Cuts envelope scheduler :=
      cut.trans ⟨fun cut => ⟨Bool.eq_false_iff.2 idle, Bool.eq_false_iff.2 exhausted, cut⟩,
        fun cuts => cuts.2.2⟩
  · cases ended
    exact ⟨refused, held, short, worked, cuts⟩
  · rw [advance_ended ended]
    exact ⟨refused, held, short, worked, cuts⟩

/-- A run that ends holds a stimulus nowhere exactly if one of its turns was cut short. -/
private theorem loop_kept {fuel : Nat} {last : Scheduler A}
    (kept : Kept envelope refused [] scheduler)
    (ended : loop envelope fuel scheduler = .ended last) :
    ∃ refused held, held.length ≤ 1 ∧ Kept envelope refused held last ∧
      (held = [] ↔ ∀ turns reached, loop envelope turns scheduler = .again reached →
        ¬ Cuts envelope reached) := by
  induction fuel generalizing refused scheduler with
  | zero => cases ended
  | succ fuel hypothesis =>
      cases moved : turn envelope scheduler with
      | again next =>
          rw [loop_again moved] at ended
          obtain ⟨⟨refused, onward⟩, uncut⟩ := turn_again kept moved
          obtain ⟨refused, held, short, final, spared⟩ := hypothesis onward ended
          refine ⟨refused, held, short, final, spared.trans ⟨fun law turns reached run => ?_,
            fun law turns reached run => law (turns + 1) reached ?_⟩⟩
          · cases turns with
            | zero =>
                cases run
                exact uncut
            | succ turns =>
                rw [loop_again moved] at run
                exact law turns reached run
          · rw [loop_again moved]
            exact run
      | ended final =>
          rw [loop_ended moved] at ended
          cases ended
          obtain ⟨refused, held, short, final, cut⟩ := turn_ended kept moved
          refine ⟨refused, held, short, final, ?_⟩
          rw [← not_iff_not]
          refine cut.trans ⟨fun cuts law => law 0 scheduler rfl cuts, fun law => ?_⟩
          by_contra uncut
          refine law fun turns reached run => ?_
          cases turns with
          | zero =>
              cases run
              exact uncut
          | succ turns =>
              rw [loop_ended moved] at run
              cases run
      | overflowed =>
          rw [loop_overflowed moved] at ended
          cases ended

/-- What a run goes on with keeps the account. -/
private theorem loop_again_kept {fuel : Nat} {reached : Scheduler A}
    (kept : Kept envelope refused [] scheduler)
    (again : loop envelope fuel scheduler = .again reached) :
    ∃ refused, Kept envelope refused [] reached := by
  induction fuel generalizing refused scheduler with
  | zero =>
      cases again
      exact ⟨refused, kept⟩
  | succ fuel hypothesis =>
      cases moved : turn envelope scheduler with
      | again next =>
          rw [loop_again moved] at again
          obtain ⟨⟨refused, onward⟩, _⟩ := turn_again kept moved
          exact hypothesis onward again
      | ended final =>
          rw [loop_ended moved] at again
          cases again
      | overflowed =>
          rw [loop_overflowed moved] at again
          cases again

private theorem successes_le (queue : List Stimulus) (adapter : A) :
    successes queue adapter ≤ queue.length := by
  induction queue generalizing adapter with
  | nil => exact le_rfl
  | cons stimulus rest hypothesis =>
      rw [successes, List.length_cons]
      split
      · exact Nat.succ_le_succ (hypothesis _)
      · exact (hypothesis _).trans (Nat.le_succ _)

/-- With an event for every stimulus a turn is not cut short. -/
private theorem Kept.uncut (kept : Kept envelope refused [] scheduler)
    (plenty : envelope.stimuli.length ≤ envelope.limits.maxEvents) :
    ¬ Cuts envelope scheduler := by
  rintro ⟨_, _, _, front, stimulus, rest, queue, used⟩
  obtain ⟨others, admitted⟩ := admitDue_kept (completeDue_kept envelope.caseId kept)
  have placed : envelope.stimuli.length =
      ((admitting envelope scheduler).scheduled ++ others ++ (admitting envelope scheduler).ready ++
        (admitting envelope scheduler).flight ++
        (admitting envelope scheduler).called).length := by
    refine (List.perm_iff_count.2 fun other => ?_).length_eq
    have counted := admitted.counted other
    rw [List.count_nil, Nat.add_zero] at counted
    simp only [List.count_append]
    exact counted
  have answered : (admitting envelope scheduler).served.length =
      (admitting envelope scheduler).observations.length +
        (admitting envelope scheduler).errors.length := admitted.answered
  have few := successes_le front (admitting envelope scheduler).adapter
  simp only [queue, called, List.length_append, List.length_cons, List.length_map] at placed
  omega

/-- With an event for every stimulus no turn of a run is cut short. -/
theorem uncut_of_length_le {adapter : A}
    (plenty : envelope.stimuli.length ≤ envelope.limits.maxEvents) :
    ∀ turns reached, executeStream turns envelope adapter = .again reached →
      ¬ Cuts envelope reached := by
  intro turns reached run
  obtain ⟨_, kept⟩ := loop_again_kept (start_kept envelope adapter) run
  exact kept.uncut plenty

end Turns

/-! ## The account of a run -/

/-- The place of a stimulus in the order of the schedule. -/
def key (stimulus : Stimulus) : UInt64 × UInt64 := (stimulus.dueTick, stimulus.sequence)

/-- A run that ended accounts for every stimulus of its envelope.  Stimuli are counted by
their places in the list, so that equal ones are told apart. -/
structure Accounted (envelope : ScenarioEnvelope) (last : Scheduler A) : Prop where
  offered : last.accounting.offered = last.accounting.admitted + last.accounting.rejected
  unoffered : ∃ gone : List Stimulus, gone.length = last.accounting.offered ∧
    envelope.stimuli.Perm (last.scheduled ++ gone)
  admitted : last.accounting.admitted = last.accounting.completed + last.errors.length +
    (last.ready.length + last.flight.length) + last.accounting.dropped
  once : last.called.Subperm envelope.stimuli
  executed : last.executed = ((last.served.filter Served.succeeded).map Served.stimulus).reverse
  timely : Timely last.served
  depth : last.accounting.maxDepth ≤ envelope.limits.queueCapacity

/-- Another order of the stimuli, in which no two have the same key, changes nothing. -/
def OrderFree [StoreStreamAdapter A] (envelope : ScenarioEnvelope) (adapter : A) : Prop :=
  ∀ stimuli : List Stimulus, stimuli.Perm envelope.stimuli → (stimuli.map key).Nodup →
    ∀ fuel, executeStream fuel { envelope with stimuli } adapter =
      executeStream fuel envelope adapter

private theorem keyLe_iff {left right : Stimulus} :
    keyLe left right = true ↔ left.dueTick.toNat < right.dueTick.toNat ∨
      left.dueTick.toNat = right.dueTick.toNat ∧
        left.sequence.toNat ≤ right.sequence.toNat := by
  rw [keyLe, decide_eq_true_iff, UInt64.lt_iff_toNat_lt, UInt64.le_iff_toNat_le,
    ← UInt64.toNat_inj]

private theorem keyLe_trans (first middle last : Stimulus)
    (before : keyLe first middle = true) (after : keyLe middle last = true) :
    keyLe first last = true := by
  rw [keyLe_iff] at before after ⊢
  omega

private theorem keyLe_total (left right : Stimulus) :
    (keyLe left right || keyLe right left) = true := by
  rw [Bool.or_eq_true, keyLe_iff, keyLe_iff]
  omega

private theorem sorted_unique {left right : List Stimulus} (same : left.Perm right)
    (distinct : (left.map key).Nodup) : left.mergeSort keyLe = right.mergeSort keyLe := by
  have permuted : (left.mergeSort keyLe).Perm (right.mergeSort keyLe) :=
    ((List.mergeSort_perm left keyLe).trans same).trans (List.mergeSort_perm right keyLe).symm
  refine permuted.eq_of_pairwise ?_ (List.pairwise_mergeSort keyLe_trans keyLe_total left)
    (List.pairwise_mergeSort keyLe_trans keyLe_total right)
  intro first second listed member before after
  have present : first ∈ left := (List.mergeSort_perm left keyLe).mem_iff.1 listed
  have another : second ∈ left :=
    same.mem_iff.2 ((List.mergeSort_perm right keyLe).mem_iff.1 member)
  refine List.inj_on_of_nodup_map distinct present another ?_
  rw [keyLe_iff] at before after
  refine Prod.ext (UInt64.toNat_inj.1 ?_) (UInt64.toNat_inj.1 ?_)
  · change first.dueTick.toNat = second.dueTick.toNat
    omega
  · change first.sequence.toNat = second.sequence.toNat
    omega

private theorem loop_stimuli [StoreStreamAdapter A] (envelope : ScenarioEnvelope)
    (stimuli : List Stimulus) (fuel : Nat) (scheduler : Scheduler A) :
    loop { envelope with stimuli } fuel scheduler = loop envelope fuel scheduler := by
  induction fuel generalizing scheduler with
  | zero => rfl
  | succ fuel hypothesis =>
      have same : turn { envelope with stimuli } scheduler = turn envelope scheduler := rfl
      unfold loop
      rw [same]
      cases turn envelope scheduler with
      | again next => exact hypothesis next
      | ended last => rfl
      | overflowed => rfl

/-- A run does not depend on the order of stimuli with distinct keys. -/
theorem orderFree [StoreStreamAdapter A] (envelope : ScenarioEnvelope) (adapter : A) :
    OrderFree envelope adapter := by
  intro stimuli same distinct fuel
  have started : start { envelope with stimuli } adapter = start envelope adapter := by
    unfold start
    rw [sorted_unique same distinct]
  rw [executeStream, executeStream, started, loop_stimuli]

namespace Kept

variable {envelope : ScenarioEnvelope} {refused held : List Stimulus} {last : Scheduler A}

/-- The account of a scheduler is closed exactly if it holds no stimulus elsewhere. -/
private theorem accounted_iff (kept : Kept envelope refused held last) :
    Accounted envelope last ↔ held = [] := by
  have answered := kept.answered
  have admitted := kept.admitted
  constructor
  · intro accounted
    have closed := accounted.admitted
    simp only [accounting] at closed
    exact List.length_eq_zero_iff.1 (by omega)
  · rintro rfl
    exact
      { offered := kept.offered
        unoffered := by
          refine ⟨refused ++ (last.ready ++ (last.flight ++ last.called)), ?_, ?_⟩
          · have offered := kept.offered
            have rejected := kept.rejected
            simp only [accounting, List.length_append, List.length_nil, called,
              List.length_map] at admitted ⊢
            omega
          · rw [List.perm_iff_count]
            intro stimulus
            have counted := kept.counted stimulus
            simp only [List.count_append, List.count_nil] at counted ⊢
            omega
        admitted := by
          simp only [accounting, List.length_nil] at admitted ⊢
          omega
        once := by
          rw [List.subperm_ext_iff]
          intro stimulus _
          have counted := kept.counted stimulus
          omega
        executed := kept.executed
        timely := kept.timely
        depth := kept.depth }

end Kept

/-- A run that ends accounts for every stimulus, in whatever order they are listed,
exactly if no turn it reaches uses up the events before its queue is empty. -/
theorem executeStream_accounted_iff [StoreStreamAdapter A] {envelope : ScenarioEnvelope}
    {adapter : A} {fuel : Nat} {last : Scheduler A}
    (ended : executeStream fuel envelope adapter = .ended last) :
    Accounted envelope last ∧ OrderFree envelope adapter ↔
      ∀ turns reached, executeStream turns envelope adapter = .again reached →
        ¬ Cuts envelope reached := by
  obtain ⟨refused, held, _, final, spared⟩ := loop_kept (start_kept envelope adapter) ended
  rw [and_iff_left (orderFree envelope adapter), final.accounted_iff, spared]
  rfl

namespace Sample

/-- An arm that is due at once. -/
def arming : Stimulus := ⟨0, 0, "arm", none, .arm⟩

/-- An offer that is due at once. -/
def offering : Stimulus := ⟨0, 1, "offer", none, .offer "event"⟩

/-- An envelope without service time. -/
def envelope (maxEvents : Nat) (stimuli : List Stimulus) : ScenarioEnvelope :=
  ⟨"SIM-SMOKE-01", .fake, ⟨4, maxEvents, 16⟩, stimuli⟩

private theorem start_sorted {stimuli : List Stimulus} {maxEvents : Nat}
    (sorted : stimuli.Pairwise fun left right => keyLe left right = true) :
    start (envelope maxEvents stimuli) () =
      { start (envelope maxEvents stimuli) () with scheduled := stimuli } := by
  rw [start, envelope, List.mergeSort_of_pairwise sorted]

/-- A run with one event for two stimuli loses the second. -/
theorem second_stimulus_lost :
    ∃ last, executeStream 1 (envelope 1 [arming, offering]) () = .ended last ∧
      ¬ Accounted (envelope 1 [arming, offering]) last := by
  rw [executeStream, start_sorted (by decide)]
  refine ⟨_, rfl, fun accounted => ?_⟩
  exact absurd accounted.admitted (by decide)

/-- An offer that is due at once and finds the queue full. -/
def crowding : Stimulus := ⟨0, 2, "crowd", none, .offer "other"⟩

/-- A claim that waits for the offer. -/
def claiming : Stimulus := ⟨2, 3, "claim", some "offer", .admitEvent "event"⟩

/-- Four stimuli at a queue of two, with events to spare. -/
def spared : ScenarioEnvelope :=
  ⟨"SIM-SMOKE-01", .fake, ⟨2, 4, 16⟩, [arming, offering, crowding, claiming]⟩

/-- A run with events to spare accounts for what it executes, after its parent or not, and
for what it turns away. -/
theorem spared_accounted :
    ∃ last, executeStream 2 spared () = .ended last ∧ last.rejected = 1 ∧
      last.executed = [arming, offering, claiming] ∧
      Accounted spared last ∧ OrderFree spared () := by
  have sorted : spared.stimuli.mergeSort keyLe = spared.stimuli :=
    List.mergeSort_of_pairwise (by decide)
  obtain ⟨last, ended, rejected, executed⟩ : ∃ last,
      executeStream 2 spared () = .ended last ∧ last.rejected = 1 ∧
        last.executed = [arming, offering, claiming] := by
    rw [executeStream, start, sorted]
    exact ⟨_, rfl, rfl, rfl⟩
  exact ⟨last, ended, rejected, executed,
    (executeStream_accounted_iff ended).2 (uncut_of_length_le (by decide))⟩

end Sample

end Scheduler
end Simulator
end Gearwit
