import Gearwit.Foundations.Transition
import Gearwit.Waiter.Cursors
import Gearwit.Watch.Wait

/-!
# Coverage of a watch

A watch repeats wait intervals.  After a match it goes on from the newest event it observed,
after a deadman from the same cursor, and it stops at the first interval whose receipts show
that coverage was lost.
-/

namespace Gearwit
namespace Watch

open Evidence
open Waiter (DrainedEvent ReadOutput chanvoyDrain pasteToken maxId)
open Transition (Along)

/-! ## What an interval's receipts show -/

/-- What the outcome of an interval lets its receipts show. -/
def shows (outcome : WaitOutcome) : InterruptPhase → PhaseObservation
  | .waitArmed =>
      if outcome.result = .error then .unknown else .observed .waitArmed .waiterProcess
  | .waiterCompleted =>
      if outcome.waiter = .notStarted then .unknown
      else
        .observed (.waiterCompleted
          (match outcome.result with
            | .matched => .matched
            | .timeout => .deadmanExpired
            | .error => .failed)) .waiterProcess
  | .eventsDrained =>
      if outcome.drainedEvents = [] then .unknown
      else .observed (.eventsDrained (min outcome.drainedEvents.length (2 ^ 32 - 1))) .provider
  | .coverageEnded =>
      if outcome.waiter = .notStarted then
        .observed (.coverageEnded .runnerNotStarted) .controlPlane
      else
        match outcome.result, outcome.drainError with
        | .error, _ => .observed (.coverageEnded .providerFailed) .waiterProcess
        | .timeout, _ => .observed (.coverageEnded .deadmanExpired) .waiterProcess
        | .matched, some _ => .observed (.coverageEnded .providerFailed) .controlPlane
        | .matched, none => .unknown
  | .signalMatched | .turnStarted | .modelObserved | .seatActed | .handledCursorRecorded
  | .coverageRearmed => .unknown

/-- The receipts of an interval are recorded, and show each phase as they may. -/
theorem lifecycleLog_shows [UnicodeSegmentation] {spec : WaitOnSpec} {interval : Interval}
    {outcome : WaitOutcome} (ends : Ends spec interval outcome) :
    ∃ log, lifecycleLog outcome = .ok log ∧ ∀ phase, log.observe phase = shows outcome phase := by
  cases ends with
  | notStarted never =>
      refine ⟨_, rfl, fun phase => ?_⟩
      cases phase <;> rfl
  | @failed code safe ran unmatched early =>
      rw [completed_failed unmatched early]
      refine ⟨_, rfl, fun phase => ?_⟩
      cases phase <;> rfl
  | expired safe ran =>
      refine ⟨_, rfl, fun phase => ?_⟩
      cases phase <;> rfl
  | @drained events safe ran drained =>
      cases events with
      | nil =>
          refine ⟨_, rfl, fun phase => ?_⟩
          cases phase <;> rfl
      | cons event rest =>
          refine ⟨_, rfl, fun phase => ?_⟩
          cases phase <;> rfl
  | refused safe ran refused =>
      refine ⟨_, rfl, fun phase => ?_⟩
      cases phase <;> rfl

/-! ## The loop -/

/-- How coverage goes on after one interval. -/
inductive CoverageAdvance
  | continueFrom (after : String)
  | stop (exit : Int)

/-- The transition of coverage after one interval. -/
def coverageAdvance (outcome : WaitOutcome) (currentAfter : String) : CoverageAdvance :=
  match outcome.result with
  | .matched =>
      match outcome.newestObserved with
      | some newest => .continueFrom newest
      | none => .stop 2
  | .timeout => .continueFrom currentAfter
  | .error => .stop (if outcome.processExit = 0 then 2 else outcome.processExit)

/-- A watch: its arguments, the exit it stopped with and the outcomes of its intervals. -/
structure WatchLoop where
  spec : WaitOnSpec
  exit : Option Int
  outcomes : List WaitOutcome

namespace WatchLoop

/-- A watch before its first interval. -/
def start (spec : WaitOnSpec) : WatchLoop where
  spec := { spec with follow := true, returnRoute := .notifyOperator }
  exit := none
  outcomes := []

/-- Go on or stop after an interval. -/
def advance (watch : WatchLoop) (outcome : WaitOutcome) : CoverageAdvance → WatchLoop
  | .continueFrom after =>
      { spec := { watch.spec with after := some after }
        exit := none
        outcomes := watch.outcomes ++ [outcome] }
  | .stop exit =>
      { watch with
        exit := some exit
        outcomes := watch.outcomes ++ [outcome] }

variable [UnicodeSegmentation]

/-- The loop's body: one interval and the transition of coverage after it. -/
def body (watch : WatchLoop) (interval : Interval) : WatchLoop :=
  let currentAfter := watch.spec.after.getD ""
  let outcome := runWaitOnOnce watch.spec interval
  watch.advance outcome (coverageAdvance outcome currentAfter)

/-- The watch after one more interval, if it has not stopped. -/
def step (watch : WatchLoop) (interval : Interval) : WatchLoop :=
  if watch.exit.isSome then watch else watch.body interval

/-- The watch after so many intervals. -/
def after (spec : WaitOnSpec) (intervals : List Interval) : WatchLoop :=
  Transition.run step (start spec) intervals

/-- The events the watch printed, in order. -/
def printed (watch : WatchLoop) : List DrainedEvent :=
  watch.outcomes.flatMap fun outcome => outcome.drainedEvents

end WatchLoop

/-! ## What an interval does to coverage -/

/-- The receipts of the interval show that coverage was lost. -/
def Lost (outcome : WaitOutcome) : Prop :=
  ∃ log reason source, lifecycleLog outcome = .ok log ∧
    log.observe .coverageEnded = .observed (.coverageEnded reason) source ∧
    reason ≠ .deadmanExpired

/-- The provider's commands fail: the wait does not start, it ends neither with a match nor
in time, or what it matched cannot be drained. -/
def Fails [UnicodeSegmentation] (spec : WaitOnSpec) (interval : Interval) : Prop :=
  match interval.runner (chanvoyWaitArgs spec) with
  | .missing => True
  | .exited code =>
      if code = some 0 then
        ∃ error, chanvoyDrain interval.output spec.toWaitOnSpec = .error error
      else code ≠ some 1

/-- What one interval does to coverage. -/
inductive Turn [UnicodeSegmentation] (spec : WaitOnSpec) (interval : Interval)
    (outcome : WaitOutcome) : CoverageAdvance → Prop
  | lost (lost : Lost outcome) (fails : specIsPasteSafe spec = true → Fails spec interval)
      (blank : outcome.drainedEvents = []) : Turn spec interval outcome (.stop 2)
  | waited (kept : ¬ Lost outcome) (safe : specIsPasteSafe spec = true)
      (runs : ¬ Fails spec interval) (blank : outcome.drainedEvents = []) :
      Turn spec interval outcome (.continueFrom (spec.after.getD ""))
  | moved {before : List DrainedEvent} {newest : DrainedEvent} (kept : ¬ Lost outcome)
      (safe : specIsPasteSafe spec = true) (runs : ¬ Fails spec interval)
      (drained : chanvoyDrain interval.output spec.toWaitOnSpec = .ok outcome.drainedEvents)
      (events : outcome.drainedEvents = before ++ [newest]) :
      Turn spec interval outcome (.continueFrom newest.id)

/-- Coverage was lost exactly if the outcome shows that it ended. -/
theorem lost_iff [UnicodeSegmentation] {spec : WaitOnSpec} {interval : Interval}
    {outcome : WaitOutcome} (ends : Ends spec interval outcome) :
    Lost outcome ↔ ∃ reason source,
      shows outcome .coverageEnded = .observed (.coverageEnded reason) source ∧
        reason ≠ .deadmanExpired := by
  obtain ⟨log, recorded, shown⟩ := lifecycleLog_shows ends
  constructor
  · rintro ⟨other, reason, source, same, observed, lost⟩
    rw [recorded] at same
    cases same
    exact ⟨reason, source, by rw [← shown, observed], lost⟩
  · rintro ⟨reason, source, observed, lost⟩
    exact ⟨log, reason, source, recorded, by rw [shown, observed], lost⟩

/-- A page that was read has events. -/
theorem drained_ne_nil [UnicodeSegmentation] {output : ReadOutput} {spec : Waiter.WaitOnSpec}
    {events : List DrainedEvent} (drained : chanvoyDrain output spec = .ok events) :
    events ≠ [] ∧ ∀ event ∈ events, event.Parsed := by
  obtain ⟨_, json, _, read⟩ := Waiter.chanvoyDrain_ok drained
  obtain ⟨_, _, _, nonempty, parsed, _⟩ := Waiter.parseDrainedEvents_ok read
  exact ⟨nonempty, parsed⟩

/-- An interval takes its turn. -/
theorem turns [UnicodeSegmentation] {spec : WaitOnSpec} {interval : Interval}
    {outcome : WaitOutcome} (ends : Ends spec interval outcome) :
    Turn spec interval outcome (coverageAdvance outcome (spec.after.getD "")) := by
  have lost := lost_iff ends
  cases ends with
  | notStarted never =>
      refine .lost (lost.2 ⟨_, _, rfl, by decide⟩) (fun safe => ?_) rfl
      rw [Fails, never safe]
      trivial
  | @failed code safe ran unmatched early =>
      rw [completed_failed unmatched early] at lost ⊢
      refine .lost (lost.2 ⟨_, _, rfl, by decide⟩) (fun _ => ?_) rfl
      simp only [Fails, ran, if_neg unmatched]
      exact early
  | expired safe ran =>
      refine .waited (fun gone => ?_) safe (fun fails => ?_) rfl
      · obtain ⟨reason, source, same, late⟩ := lost.1 gone
        cases same
        exact late rfl
      · simp only [Fails, ran] at fails
        exact fails rfl
  | @drained events safe ran drained =>
      obtain ⟨before, newest, rfl⟩ :=
        (List.eq_nil_or_concat' events).resolve_left (drained_ne_nil drained).1
      have advance : coverageAdvance
          { WaitOutcome.completed (some 0) with
            drainedEvents := before ++ [newest]
            newestObserved := (before ++ [newest]).getLast?.map DrainedEvent.id }
          (spec.after.getD "") = .continueFrom newest.id := by
        simp [coverageAdvance, completed_result]
      rw [advance]
      refine .moved (fun gone => ?_) safe (fun fails => ?_) drained rfl
      · obtain ⟨reason, source, same, _⟩ := lost.1 gone
        cases same
      · simp only [Fails, ran, if_true, drained] at fails
        obtain ⟨error, refused⟩ := fails
        cases refused
  | @refused error safe ran refused =>
      refine .lost (lost.2 ⟨_, _, rfl, by decide⟩) (fun _ => ?_) rfl
      simp only [Fails, ran, if_true]
      exact ⟨error, refused⟩

/-! ## Whole watches -/

namespace WatchLoop

variable [UnicodeSegmentation]

/-- A watch that has stopped stays as it is. -/
theorem step_stopped {watch : WatchLoop} (stopped : watch.exit ≠ none) (interval : Interval) :
    watch.step interval = watch := by
  rw [step, if_pos (Option.isSome_iff_ne_none.2 stopped)]

/-- What one interval does to a watch that goes on. -/
theorem step_turns {watch : WatchLoop} (running : watch.exit = none) (interval : Interval) :
    ∃ outcome advance, Ends watch.spec interval outcome ∧
      Turn watch.spec interval outcome advance ∧
      watch.step interval = watch.advance outcome advance := by
  have ends := runWaitOnOnce_ends watch.spec interval
  refine ⟨_, _, ends, turns ends, ?_⟩
  rw [step, running]
  rfl

/-- The receipts of a watch: every interval's are recorded and show each phase as they may, and
the watch stopped exactly at the first interval that lost coverage. -/
structure Receipted (watch : WatchLoop) : Prop where
  recorded : ∀ outcome ∈ watch.outcomes, ∃ log, lifecycleLog outcome = .ok log ∧
    ∀ phase, log.observe phase = shows outcome phase
  stopped : (watch.exit = none ∧ ∀ outcome ∈ watch.outcomes, ¬ Lost outcome) ∨
    (watch.exit = some 2 ∧ ∃ earlier last, watch.outcomes = earlier ++ [last] ∧ Lost last ∧
      ∀ outcome ∈ earlier, ¬ Lost outcome)

private theorem Receipted.step {watch : WatchLoop} (receipted : Receipted watch)
    (interval : Interval) : Receipted (watch.step interval) := by
  rcases receipted.stopped with ⟨running, kept⟩ | ⟨stopped, _⟩
  · obtain ⟨outcome, advance, ends, turn, same⟩ := step_turns running interval
    have recorded : ∀ other ∈ watch.outcomes ++ [outcome], ∃ log,
        lifecycleLog other = .ok log ∧ ∀ phase, log.observe phase = shows other phase := by
      intro other member
      rcases List.mem_append.1 member with earlier | last
      · exact receipted.recorded other earlier
      · rw [List.mem_singleton.1 last]
        exact lifecycleLog_shows ends
    have kept' (still : ¬ Lost outcome) : ∀ other ∈ watch.outcomes ++ [outcome], ¬ Lost other := by
      intro other member
      rcases List.mem_append.1 member with earlier | last
      · exact kept other earlier
      · rwa [List.mem_singleton.1 last]
    rw [same]
    cases turn with
    | lost lost _ _ => exact ⟨recorded, .inr ⟨rfl, watch.outcomes, outcome, rfl, lost, kept⟩⟩
    | waited still _ _ _ => exact ⟨recorded, .inl ⟨rfl, kept' still⟩⟩
    | moved still _ _ _ _ => exact ⟨recorded, .inl ⟨rfl, kept' still⟩⟩
  · rwa [step_stopped (by rw [stopped]; exact Option.some_ne_none 2)]

/-- In every watch the receipts of each interval are recorded, claim nothing the interval did
not show, and tell where the watch stopped. -/
theorem watch_receipts (spec : WaitOnSpec) (intervals : List Interval) :
    Receipted (after spec intervals) := by
  refine Transition.invariant_run Receipted (fun _ interval receipted => receipted.step interval)
    ⟨?_, .inl ⟨rfl, ?_⟩⟩ intervals
  · rintro outcome member
    cases member
  · rintro outcome member
    cases member

/-! ## Where a watch stops -/

/-- A watch that has stopped stays stopped. -/
theorem run_stopped {watch : WatchLoop} (stopped : watch.exit ≠ none)
    (intervals : List Interval) : Transition.run step watch intervals = watch := by
  induction intervals with
  | nil => rfl
  | cons interval rest inductionHypothesis =>
      rw [Transition.run_cons, step_stopped stopped, inductionHypothesis]

omit [UnicodeSegmentation] in
/-- An event that was read can be a cursor. -/
theorem pasteToken_of_parsed {event : DrainedEvent} (parsed : event.Parsed) :
    pasteToken event.id maxId = some event.id := by
  have bounded : ¬ (event.id = "" ∨ maxId < event.id.utf8ByteSize) := by
    rintro (blank | long)
    · exact parsed.idBytes.1 blank
    · exact Nat.not_lt.2 parsed.idBytes.2 long
  have clear : event.id.toList.any Waiter.isControl = false := by
    simpa using parsed.idClear
  rw [pasteToken, if_neg bounded, clear]
  rfl

omit [UnicodeSegmentation] in
/-- Only the cursor decides whether the arguments of a rearmed wait can be pasted. -/
theorem specIsPasteSafe_rearm {spec : WaitOnSpec} (safe : specIsPasteSafe spec = true)
    {cursor : String} (token : (pasteToken cursor maxId).isSome = true) :
    specIsPasteSafe { spec with after := some cursor } = true := by
  simp only [specIsPasteSafe, Bool.and_eq_true] at safe ⊢
  exact ⟨⟨⟨safe.1.1.1, token⟩, safe.1.2⟩, safe.2⟩

/-- An interval lets a watch go on exactly if the provider's commands do not fail, and then the
arguments of the rearmed wait can be pasted. -/
private theorem step_exit {watch : WatchLoop} (running : watch.exit = none)
    (safe : specIsPasteSafe watch.spec = true) (interval : Interval) :
    (watch.step interval).exit = none ∧ ¬ Fails watch.spec interval ∧
        specIsPasteSafe (watch.step interval).spec = true ∨
      (watch.step interval).exit ≠ none ∧ Fails watch.spec interval := by
  obtain ⟨outcome, advance, ends, turn, same⟩ := step_turns running interval
  rw [same]
  cases turn with
  | lost _ fails _ => exact .inr ⟨Option.some_ne_none 2, fails safe⟩
  | waited _ _ runs _ =>
      obtain ⟨cursor, based⟩ := after_isSome safe
      refine .inl ⟨rfl, runs, specIsPasteSafe_rearm safe ?_⟩
      simp only [specIsPasteSafe, Bool.and_eq_true, based, Option.any_some] at safe
      rw [based]
      exact safe.1.1.2
  | @moved before newest _ _ runs drained events =>
      have parsed : newest.Parsed := (drained_ne_nil drained).2 newest (by rw [events]; simp)
      refine .inl ⟨rfl, runs, specIsPasteSafe_rearm safe ?_⟩
      rw [pasteToken_of_parsed parsed]
      rfl

/-- A watch whose arguments can be pasted goes on exactly as long as the provider's commands do
not fail: it never stops over a cursor it rearmed from. -/
theorem watch_goes_on_iff {spec : WaitOnSpec} (safe : specIsPasteSafe spec = true)
    (intervals : List Interval) :
    (after spec intervals).exit = none ↔
      Along step (fun watch interval => ¬ Fails watch.spec interval) (start spec) intervals := by
  have goes (watch : WatchLoop) (running : watch.exit = none)
      (safe : specIsPasteSafe watch.spec = true) :
      (Transition.run step watch intervals).exit = none ↔
        Along step (fun watch interval => ¬ Fails watch.spec interval) watch intervals := by
    induction intervals generalizing watch with
    | nil => exact iff_of_true running trivial
    | cons interval rest inductionHypothesis =>
        rw [Transition.run_cons, Transition.along_cons]
        rcases step_exit running safe interval with ⟨still, runs, kept⟩ | ⟨stopped, fails⟩
        · rw [inductionHypothesis _ still kept, and_iff_right runs]
        · rw [run_stopped stopped]
          exact iff_of_false stopped fun along => along.1 fails
  exact goes (start spec) rfl safe

end WatchLoop

namespace Sample

open scoped Waiter.Sample
open Waiter.Sample (plainPage)

/-- The wait of the samples, watched. -/
def spec : WaitOnSpec := ⟨Waiter.Sample.spec, "chanvoy", .notifyOperator, true⟩

/-- An interval without a match. -/
def quiet : Interval := ⟨fun _ => .exited (some 1), .io⟩

/-- An interval that matches the page of the samples. -/
def matched : Interval := ⟨fun _ => .exited (some 0), plainPage⟩

/-- A watch goes on over a match and a deadman. -/
theorem matched_watch_goes_on :
    (WatchLoop.after spec [matched, quiet]).exit = none ↔
      Along WatchLoop.step (fun watch interval => ¬ Fails watch.spec interval)
        (WatchLoop.start spec) [matched, quiet] :=
  WatchLoop.watch_goes_on_iff (by decide +kernel) [matched, quiet]

end Sample

/-! ## What a watch prints -/

/-- A watched channel: the watch and the provider's log. -/
structure WatchedChannel where
  watch : WatchLoop
  log : List Json

/-- What happens in one interval: messages arrive, then the provider's commands answer. -/
structure Round where
  arrived : List Json
  interval : Interval

namespace WatchedChannel

/-- Identifiers of the channel's messages. -/
abbrev ids (channel : WatchedChannel) : List (Option String) := Waiter.messageIds channel.log

/-- The messages that arrive are new, and what is read follows the cursor of the wait. -/
def Honest (channel : WatchedChannel) (round : Round) : Prop :=
  (Waiter.messageIds (channel.log ++ round.arrived)).Nodup ∧
    round.interval.output.Follows (channel.log ++ round.arrived) channel.watch.spec.after

instance (channel : WatchedChannel) (round : Round) : Decidable (channel.Honest round) :=
  inferInstanceAs (Decidable (_ ∧ _))

variable [UnicodeSegmentation]

/-- The channel after one more interval. -/
def step (channel : WatchedChannel) (round : Round) : WatchedChannel where
  watch := channel.watch.step round.interval
  log := channel.log ++ round.arrived

/-- The watch printed what it consumed of the log, from the first cursor to the current one. -/
structure Consumes (cursor : String) (channel : WatchedChannel) : Prop where
  distinct : channel.ids.Nodup
  based : channel.watch.spec.after ≠ none
  consumed : CursorLog.Consumed channel.ids (some cursor) channel.watch.spec.after
    ((channel.watch.printed.map DrainedEvent.id).map some)

omit [UnicodeSegmentation] in
private theorem printed_append (watch : WatchLoop) {after : WatchLoop} {outcome : WaitOutcome}
    (outcomes : after.outcomes = watch.outcomes ++ [outcome]) :
    after.printed = watch.printed ++ outcome.drainedEvents := by
  simp [WatchLoop.printed, outcomes]

private theorem Consumes.step {cursor : String} {channel : WatchedChannel} {round : Round}
    (consumes : Consumes cursor channel) (honest : channel.Honest round) :
    Consumes cursor (channel.step round) := by
  obtain ⟨distinct, follows⟩ := honest
  have ids : (channel.step round).ids = channel.ids ++ Waiter.messageIds round.arrived :=
    List.map_append
  have grown := consumes.consumed.grow (Waiter.messageIds round.arrived)
  rw [← ids] at grown
  by_cases running : channel.watch.exit = none
  · obtain ⟨outcome, advance, ends, turn, same⟩ :=
      WatchLoop.step_turns running round.interval
    have watch : (channel.step round).watch = channel.watch.advance outcome advance := same
    cases turn with
    | lost _ _ blank =>
        refine ⟨distinct, by rw [watch]; exact consumes.based, ?_⟩
        rw [watch, printed_append channel.watch rfl, blank, List.append_nil]
        exact grown
    | waited _ _ _ blank =>
        obtain ⟨current, named⟩ := Option.ne_none_iff_exists'.1 consumes.based
        have still : (channel.step round).watch.spec.after = channel.watch.spec.after := by
          rw [watch, named]
          rfl
        refine ⟨distinct, by rw [still]; exact consumes.based, ?_⟩
        rw [still, watch, printed_append channel.watch rfl, blank, List.append_nil]
        exact grown
    | @moved before newest _ _ _ drained events =>
        obtain ⟨current, named⟩ := Option.ne_none_iff_exists'.1 consumes.based
        have page := Waiter.page_of_drained named follows drained
        refine ⟨distinct, by rw [watch]; exact Option.some_ne_none _, ?_⟩
        rw [watch, printed_append channel.watch rfl, events]
        rw [events, List.map_append, List.map_append] at page
        rw [List.map_append, List.map_append, List.map_append, List.map_append]
        rw [named] at grown
        exact grown.accept page
  · have watch : (channel.step round).watch = channel.watch :=
      WatchLoop.step_stopped running round.interval
    exact ⟨distinct, by rw [watch]; exact consumes.based, by rw [watch]; exact grown⟩

/-- A watch skips nothing and repeats nothing: against a provider that lists its log honestly,
the events printed over all its intervals, in their order, are what follows the first cursor in
the log, up to the cursor the watch stands at. -/
theorem printed_contiguous {spec : WaitOnSpec} {cursor : String} (based : spec.after = some cursor)
    {log : List Json} (distinct : (Waiter.messageIds log).Nodup) {rounds : List Round}
    (honest : Along step Honest ⟨.start spec, log⟩ rounds) :
    let channel := Transition.run step ⟨.start spec, log⟩ rounds
    let printed := channel.watch.printed.map DrainedEvent.id
    printed.Nodup ∧
      ((printed = [] ∧ channel.watch.spec.after = some cursor) ∨
        ∃ before newest, printed = before ++ [newest] ∧
          channel.watch.spec.after = some newest ∧
          CursorLog.Page channel.ids (some cursor) (printed.map some)) := by
  have initially : Consumes cursor ⟨.start spec, log⟩ := by
    refine ⟨distinct, ?_, ?_⟩
    · rw [WatchLoop.start, based]
      exact Option.some_ne_none cursor
    · rw [WatchLoop.start, based]
      exact .start
  obtain ⟨distinct, _, consumed⟩ := Transition.invariant_along (Consumes cursor)
    (fun _ _ honest consumes => consumes.step honest) initially honest
  generalize Transition.run step _ rounds = channel at distinct consumed ⊢
  intro channel printed
  rcases consumed.page distinct with ⟨same, blank⟩ | ⟨between, shown, page⟩
  · have none : printed = [] := List.map_eq_nil_iff.1 blank
    exact ⟨by rw [none]; exact List.nodup_nil, .inl ⟨none, same⟩⟩
  · obtain ⟨before, last, split, moved, single⟩ := List.map_eq_append_iff.1 shown
    obtain ⟨newest, rest, rfl, named, blank⟩ := List.map_eq_cons_iff.1 single
    obtain rfl : rest = [] := List.map_eq_nil_iff.1 blank
    refine ⟨?_, .inr ⟨before, newest, split, named.symm, page⟩⟩
    obtain ⟨earlier, later, whole⟩ := page
    rw [whole] at distinct
    have tail := (List.nodup_cons.1 (List.nodup_append.1 distinct).2.1).2
    exact (List.nodup_append.1 tail).1.of_map

end WatchedChannel

namespace Sample

open scoped Waiter.Sample
open Waiter.Sample (post)

/-- A page posted while a watch waits is printed once. -/
theorem posted_page_printed :
    let channel := Transition.run WatchedChannel.step
      ⟨.start spec, [post "post00" "anna" "first"]⟩
      [⟨[], quiet⟩, ⟨[post "post-1" "anna" "hello"], matched⟩]
    let printed := channel.watch.printed.map DrainedEvent.id
    printed.Nodup ∧
      ((printed = [] ∧ channel.watch.spec.after = some "post00") ∨
        ∃ before newest, printed = before ++ [newest] ∧
          channel.watch.spec.after = some newest ∧
          CursorLog.Page channel.ids (some "post00") (printed.map some)) :=
  WatchedChannel.printed_contiguous rfl (by decide +kernel)
    ⟨by decide +kernel, by decide +kernel, trivial⟩

end Sample
end Watch
end Gearwit
