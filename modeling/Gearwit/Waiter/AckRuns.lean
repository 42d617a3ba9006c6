import Gearwit.Waiter.AckCalls
import Gearwit.Waiter.Deliverable

/-!
# Runs of the acknowledgement store

The contract of the store over a run adds to its order what each call promises.
Two calls break it: the replay, when it is applied, of a request that was recorded
without a rearm, and an acceptance in the last generation of the 64-bit counter.
Every other run keeps it.
-/

namespace Gearwit
namespace Waiter
namespace AckStore

variable [Rfc3339]

/-! ## The contract -/

/-- Signals rearmed along a run, in order. -/
def rearmed : AckStore → List Call → List String
  | _, [] => []
  | store, call :: rest =>
      (call.rearms (store.answer call)).toList ++ rearmed (store.after call) rest

/-- The call presents a request again. -/
def Call.Presents (call : Call) (message : HandledRequest) : Prop :=
  ∃ now, call = .recordHandled (.request message) now ∨
    call = .applyHandledRequest (.request message) now

/-- The answer carries the reply and no rearm. -/
def Answer.Repeats (answer : Answer) (reply : HandledCursor) : Prop :=
  answer = .recorded reply ∨ answer = .served ⟨reply, none⟩

/-- What one call promises besides the order of the store: a failure changes nothing,
the generation counts the rearms, a rearm continues after the recorded cursor, the
reply of a request is remembered, and the replay of an accepted request repeats its
reply without a rearm. -/
structure Lawful (store : AckStore) (call : Call) : Prop where
  failed : ∀ error, store.answer call = .failed error → store.after call = store
  counted : (store.after call).arm =
    match call.rearms (store.answer call) with
    | none => store.arm
    | some _ => store.arm.map fun arm => { arm with generation := arm.generation + 1 }
  rearm : ∀ serve rearm, store.answer call = .served serve → serve.rearm = some rearm →
    ∃ batch, (store.after call).signals[rearm.signalId]? = some batch ∧
      batch.handled = some rearm.after
  recorded : ∀ message, call.Presents message → ∀ reply rearm,
    store.answer call = .recorded reply ∨ store.answer call = .served ⟨reply, rearm⟩ →
      (store.after call).history[message.requestId]? = some ⟨.request message, reply⟩
  replayed : ∀ message reply, call.Presents message →
    store.history[message.requestId]? = some ⟨.request message, .accepted reply⟩ →
      (store.answer call).Repeats (.accepted reply) ∧ (store.after call).arm = store.arm

/-- The contract of the store over a run. -/
structure RunLaw (store : AckStore) (calls : List Call) : Prop where
  orderly : ∀ performed rest, calls = performed ++ rest →
    (Transition.run after store performed).Orderly
  onward : ∀ performed between rest, calls = performed ++ between ++ rest →
    (Transition.run after store performed).Onward
      (Transition.run after store (performed ++ between))
  once : (rearmed store calls).Nodup
  lawful : Transition.Along after Lawful store calls

/-- A request that the history accepted is applied again while its batch is open. -/
def Late (store : AckStore) (call : Call) : Prop :=
  ∃ message reply batch now,
    call = .applyHandledRequest (.request message) now ∧
    store.history[message.requestId]? = some ⟨.request message, .accepted reply⟩ ∧
    store.signals[reply.signalId]? = some batch ∧ batch.closed = false

/-- A new request that passes every check is applied in the last generation. -/
def Exhausted (store : AckStore) (call : Call) : Prop :=
  ∃ message arm batch now,
    call = .applyHandledRequest (.request message) now ∧
    validateHandled (.request message) = .ok () ∧
    store.history[message.requestId]? = none ∧ store.history.size < historyCap ∧
    store.Passes message arm batch ∧ 2 ^ 64 ≤ arm.generation + 1

/-! ## Rearming once -/

/-- A rearm that a request caused: the reply accepted it and its signal was rearmed. -/
theorem applyHandledRequest_rearm {store last : AckStore} {request : HandledCursor}
    {now : OffsetDateTime} {serve : HandledServe} {rearm : AckRearm}
    (applied : store.applyHandledRequest request now = (.ok serve, last))
    (caused : serve.rearm = some rearm) :
    ∃ reply middle cursor, store.recordHandled request now = (.ok (.accepted reply), middle) ∧
      middle.rearmFromHandled reply.signalId = (.ok cursor, last) ∧
      rearm.signalId = reply.signalId := by
  unfold applyHandledRequest at applied
  rcases recorded : store.recordHandled request now with ⟨outcome, middle⟩
  rw [recorded] at applied
  cases outcome with
  | error error => cases applied
  | ok reply =>
  cases reply with
  | request other =>
      cases applied
      cases caused
  | rejected other =>
      cases applied
      cases caused
  | accepted reply =>
  dsimp only at applied
  rcases rearmed : middle.rearmFromHandled reply.signalId with ⟨outcome, final⟩
  rw [rearmed] at applied
  cases outcome with
  | error error =>
      dsimp only at applied
      split at applied
      · cases applied
        cases caused
      · cases applied
  | ok cursor =>
      dsimp only at applied
      split at applied
      · cases applied
      · cases applied
        cases caused
        exact ⟨reply, middle, cursor, rfl, rearmed, rfl⟩

omit [Rfc3339] in
/-- A signal that was rearmed had an open batch, which is closed now. -/
theorem rearmFromHandled_closes {store last : AckStore} {signalId cursor : String}
    (rearmed : store.rearmFromHandled signalId = (.ok cursor, last)) :
    (∃ batch, store.signals[signalId]? = some batch ∧ batch.closed = false) ∧
      ∃ batch, last.signals[signalId]? = some batch ∧ batch.closed = true := by
  rcases store.rearmFromHandled_cases signalId with
    ⟨error, refused⟩ | ⟨arm, batch, handled, _, stored, _, _, opened, _, done⟩
  · rw [refused] at rearmed
    cases rearmed
  · rw [done] at rearmed
    cases rearmed
    exact ⟨⟨batch, stored, opened⟩, _, BTreeMap.getElem?_insert_same _ _ _, rfl⟩

/-- A call that rearms a signal closes its batch, which was not closed before. -/
theorem rearms_closes {store : AckStore} (orderly : store.Orderly) {call : Call}
    {signalId : String} (rearms : call.rearms (store.answer call) = some signalId) :
    (∀ batch, store.signals[signalId]? = some batch → batch.closed = false) ∧
      ∃ batch, (store.after call).signals[signalId]? = some batch ∧ batch.closed = true := by
  cases call with
  | noteClaimed => cases rearms
  | noteDelivered => cases rearms
  | requireReturnCompletedBeforeHandled => cases rearms
  | noteReturnCompleted => cases rearms
  | recordHandled => cases rearms
  | rearmFromHandled named =>
      simp only [answer, after, perform] at rearms ⊢
      rcases rearmed : store.rearmFromHandled named with ⟨outcome, last⟩
      rw [rearmed] at rearms
      cases outcome with
      | error error => cases rearms
      | ok cursor =>
          cases rearms
          obtain ⟨⟨batch, stored, opened⟩, closes⟩ := rearmFromHandled_closes rearmed
          refine ⟨fun other present => ?_, closes⟩
          rw [stored] at present
          cases present
          exact opened
  | applyHandledRequest request now =>
      simp only [answer, after, perform] at rearms ⊢
      rcases applied : store.applyHandledRequest request now with ⟨outcome, last⟩
      rw [applied] at rearms
      cases outcome with
      | error error => cases rearms
      | ok serve =>
          obtain ⟨rearm, caused, named⟩ := Option.map_eq_some_iff.1 rearms
          obtain ⟨reply, middle, cursor, recorded, rearmed, same⟩ :=
            applyHandledRequest_rearm applied caused
          obtain ⟨⟨batch, stored, opened⟩, closes⟩ := rearmFromHandled_closes rearmed
          rw [← named, same]
          refine ⟨fun other present => ?_, closes⟩
          have change := (store.recordHandled_effect request now).change
          rw [recorded] at change
          by_contra shut
          obtain ⟨later, found, kept⟩ :=
            (change.onward orderly).closed _ other present (by simpa using shut)
          rw [stored] at found
          cases found
          rw [opened] at kept
          cases kept

/-- A closed batch is never rearmed later. -/
theorem not_mem_rearmed {store : AckStore} (orderly : store.Orderly) {signalId : String}
    {batch : SignalBatch} (stored : store.signals[signalId]? = some batch)
    (closed : batch.closed = true) (calls : List Call) : signalId ∉ rearmed store calls := by
  induction calls generalizing store batch with
  | nil => exact List.not_mem_nil
  | cons call rest inductionHypothesis =>
      simp only [rearmed, List.mem_append, not_or]
      constructor
      · intro member
        have opened := (rearms_closes orderly (Option.mem_toList.1 member)).1 batch stored
        rw [closed] at opened
        cases opened
      · obtain ⟨later, found, shut⟩ := (after_onward orderly call).closed _ batch stored closed
        exact inductionHypothesis (after_orderly orderly call) found shut

/-- Each signal is rearmed at most once in every run. -/
theorem rearmed_nodup {store : AckStore} (orderly : store.Orderly) (calls : List Call) :
    (rearmed store calls).Nodup := by
  induction calls generalizing store with
  | nil => exact List.nodup_nil
  | cons call rest inductionHypothesis =>
      have later := inductionHypothesis (after_orderly orderly call)
      cases rearms : call.rearms (store.answer call) with
      | none => simpa [rearmed, rearms] using later
      | some signalId =>
          obtain ⟨_, batch, found, shut⟩ := rearms_closes orderly rearms
          simp only [rearmed, rearms, Option.toList_some, List.cons_append, List.nil_append]
          exact List.nodup_cons.2
            ⟨not_mem_rearmed (after_orderly orderly call) found shut rest, later⟩

/-! ## Applying a request in time -/

/-- What applying a request does when it is neither late nor exhausted. -/
inductive ApplyEffect (store : AckStore) (request : HandledCursor) (now : OffsetDateTime) :
    Except HandledCursorError HandledServe × AckStore → Prop
  | refused (error : HandledCursorError) : ApplyEffect store request now (.error error, store)
  | replayed {message : HandledRequest} {reply : HandledCursor}
      (named : request = .request message)
      (remembered : store.history[message.requestId]? = some ⟨request, reply⟩) :
      ApplyEffect store request now (.ok ⟨reply, none⟩, store)
  | rejected {message : HandledRequest} {code : String} (named : request = .request message)
      (unknown : store.history[message.requestId]? = none) :
      ApplyEffect store request now
        (.ok ⟨rejected message code now, none⟩, { store with
          history := store.history.insert message.requestId
            ⟨request, rejected message code now⟩ })
  | accepted {message : HandledRequest} {arm : KnownArm} {batch : SignalBatch}
      (named : request = .request message) (bound : store.arm = some arm)
      (unknown : store.history[message.requestId]? = none) :
      ApplyEffect store request now
        (.ok ⟨acceptance message now,
            some ⟨message.cursor, arm.generation + 1, message.signalId⟩⟩,
          store.accepting message now arm batch)

/-- The replay of an accepted request whose batch is closed repeats the reply. -/
theorem applyHandledRequest_replay {store : AckStore} (orderly : store.Orderly)
    {message : HandledRequest} {reply : HandledAccepted} {now : OffsetDateTime}
    (remembered : store.history[message.requestId]? = some ⟨.request message, .accepted reply⟩)
    (timely : ¬ store.Late (.applyHandledRequest (.request message) now)) :
    store.applyHandledRequest (.request message) now = (.ok ⟨.accepted reply, none⟩, store) := by
  have valid := orderly.valid _ _ remembered
  obtain ⟨batch, handled, stored, recorded, _⟩ := orderly.accepted _ _ reply remembered rfl
  obtain ⟨arm, bound, _⟩ := orderly.current _ batch stored
  have closed : batch.closed = true := by
    by_contra opened
    exact timely ⟨message, reply, batch, now, rfl, remembered, stored, by simpa using opened⟩
  have stale := rearmFromHandled_stale bound stored recorded closed
  simp [applyHandledRequest, recordHandled_replay valid remembered, stale]

/-- Applying a request that is neither late nor exhausted is one of these effects. -/
theorem applyHandledRequest_effect {store : AckStore} (orderly : store.Orderly)
    {request : HandledCursor} {now : OffsetDateTime}
    (timely : ¬ store.Late (.applyHandledRequest request now))
    (spare : ¬ store.Exhausted (.applyHandledRequest request now)) :
    ApplyEffect store request now (store.applyHandledRequest request now) := by
  have effect := store.recordHandled_effect request now
  rcases recorded : store.recordHandled request now with ⟨outcome, middle⟩
  rw [recorded] at effect
  cases effect with
  | refused error =>
      rw [show store.applyHandledRequest request now = (.error error, store) by
        simp [applyHandledRequest, recorded]]
      exact .refused error
  | @replayed message entry named remembered same =>
      subst named
      obtain ⟨presented, reply⟩ := entry
      obtain rfl : presented = .request message := same
      cases reply with
      | accepted reply =>
          rw [applyHandledRequest_replay orderly remembered timely]
          exact .replayed rfl remembered
      | request other =>
          rw [show store.applyHandledRequest (.request message) now =
            (.ok ⟨.request other, none⟩, store) by simp [applyHandledRequest, recorded]]
          exact .replayed rfl remembered
      | rejected other =>
          rw [show store.applyHandledRequest (.request message) now =
            (.ok ⟨.rejected other, none⟩, store) by simp [applyHandledRequest, recorded]]
          exact .replayed rfl remembered
  | @rejected message code named valid unknown =>
      rw [show store.applyHandledRequest request now =
        (.ok ⟨rejected message code now, none⟩, { store with
          history := store.history.insert message.requestId
            ⟨request, rejected message code now⟩ }) by
        simp [applyHandledRequest, recorded, rejected]]
      exact .rejected named unknown
  | @accepted message arm batch named valid unknown room passes =>
      subst named
      have small : ¬ 2 ^ 64 ≤ arm.generation + 1 := fun last =>
        spare ⟨message, arm, batch, now, rfl, valid, unknown, room, passes, last⟩
      have rearmed : (⟨store.arm, _, _⟩ : AckStore).rearmFromHandled _ =
          (.ok message.cursor, store.accepting message now arm batch) :=
        rearm_of_decided passes.toAcceptable small
      rw [show store.applyHandledRequest (.request message) now =
          (.ok ⟨acceptance message now,
              some ⟨message.cursor, arm.generation + 1, message.signalId⟩⟩,
            store.accepting message now arm batch) by
        simp only [applyHandledRequest, recorded]
        simp only [acceptance] at rearmed ⊢
        simp [rearmed, accepting, acceptance]]
      exact .accepted rfl passes.bound unknown

/-- A late request is not given its reply alone. -/
theorem Late.unlawful {store : AckStore} (orderly : store.Orderly) {call : Call}
    (late : store.Late call) : ¬ store.Lawful call := by
  intro lawful
  obtain ⟨message, reply, batch, now, rfl, remembered, stored, opened⟩ := late
  obtain ⟨other, handled, found, recorded, _⟩ := orderly.accepted _ _ reply remembered rfl
  rw [stored] at found
  cases found
  obtain ⟨arm, bound, current⟩ := orderly.current _ batch stored
  have replay := recordHandled_replay (orderly.valid _ _ remembered) remembered now
  obtain ⟨repeats, unbumped⟩ := lawful.replayed message reply ⟨now, Or.inr rfl⟩ remembered
  by_cases last : 2 ^ 64 ≤ arm.generation + 1
  · have overflow := rearmFromHandled_overflow bound stored (current opened) recorded opened last
    simp [Answer.Repeats, answer, perform, applyHandledRequest, replay, overflow] at repeats
  · have rearmed := rearmFromHandled_open bound stored (current opened) recorded opened
      (by omega)
    have raised : { arm with generation := arm.generation + 1 } = arm := by
      simpa [after, perform, applyHandledRequest, replay, rearmed, bound] using unbumped
    simpa using congrArg KnownArm.generation raised

/-- An exhausted request fails after it was recorded. -/
theorem Exhausted.unlawful {store : AckStore} {call : Call}
    (exhausted : store.Exhausted call) : ¬ store.Lawful call := by
  intro lawful
  obtain ⟨message, arm, batch, now, rfl, valid, unknown, room, passes, last⟩ := exhausted
  have accepts := recordHandled_accepts valid unknown room passes now
  have overflow : (⟨store.arm, _, _⟩ : AckStore).rearmFromHandled message.signalId =
      (.error (.semantic "generation overflow"), _) :=
    @rearmFromHandled_overflow
      ⟨store.arm,
        store.signals.insert message.signalId { batch with handled := some message.cursor },
        store.history.insert message.requestId
          ⟨.request message, acceptance message now⟩⟩
      _ _ _ _ passes.bound (BTreeMap.getElem?_insert_same _ _ _) passes.current rfl
      passes.opened last
  have applied : store.perform (.applyHandledRequest (.request message) now) =
      (.failed (.semantic "generation overflow"),
        ⟨store.arm,
          store.signals.insert message.signalId { batch with handled := some message.cursor },
          store.history.insert message.requestId
            ⟨.request message, acceptance message now⟩⟩) := by
    simp only [perform, applyHandledRequest, accepts]
    simp only [acceptance] at overflow ⊢
    simp [overflow]
  have same := congrArg AckStore.history
    (lawful.failed (.semantic "generation overflow") (by rw [answer, applied]))
  simp only [after, applied] at same
  have present : (store.history.insert message.requestId
      ⟨.request message, acceptance message now⟩)[message.requestId]? = none := by
    rw [same, unknown]
  simp at present

/-! ## The contract of a call -/

/-- Noting a fact about a signal is lawful. -/
private theorem lawful_of_note {store : AckStore} {call : Call}
    {result : Except HandledCursorError Unit × AckStore} (effect : NoteEffect store result)
    (performed : store.perform call = result.map (Answer.of fun _ => .noted) id)
    (silent : ∀ message, ¬ call.Presents message)
    (unarmed : ∀ answer, call.rearms answer = none) : store.Lawful call where
  failed error failed := by
    rw [answer, performed] at failed
    rw [after, performed]
    cases effect with
    | failed => rfl
    | noted => cases failed
  counted := by
    rw [unarmed, after, performed]
    cases effect <;> rfl
  rearm serve rearm served := by
    rw [answer, performed] at served
    cases effect <;> cases served
  recorded message presents := (silent message presents).elim
  replayed message _ presents := (silent message presents).elim

/-- Recording a request is lawful. -/
private theorem lawful_recordHandled {store : AckStore} (orderly : store.Orderly)
    (request : HandledCursor) (now : OffsetDateTime) :
    store.Lawful (.recordHandled request now) where
  failed error failed := by
    have effect := store.recordHandled_effect request now
    simp only [answer, after, perform] at failed ⊢
    generalize store.recordHandled request now = result at effect failed
    cases effect with
    | refused => rfl
    | replayed => cases failed
    | rejected => cases failed
    | accepted => cases failed
  counted := by
    have effect := store.recordHandled_effect request now
    simp only [Call.rearms, after, perform]
    generalize store.recordHandled request now = result at effect
    cases effect <;> rfl
  rearm serve rearm served := by
    simp only [answer, perform] at served
    generalize store.recordHandled request now = result at served
    obtain ⟨outcome, last⟩ := result
    cases outcome <;> cases served
  recorded message presents reply rearm answered := by
    obtain ⟨instant, same | same⟩ := presents
    swap
    · cases same
    cases same
    have effect := store.recordHandled_effect (.request message) now
    simp only [answer, after, perform] at answered ⊢
    generalize store.recordHandled (.request message) now = result at effect answered
    cases effect with
    | refused => simp at answered
    | @replayed other entry named remembered same =>
        cases named
        obtain ⟨presented, recorded⟩ := entry
        obtain rfl : presented = .request message := same
        obtain rfl : recorded = reply := by simpa using answered
        exact remembered
    | @rejected other code named =>
        cases named
        obtain rfl : AckStore.rejected message code now = reply := by simpa using answered
        exact BTreeMap.getElem?_insert_same _ _ _
    | accepted named =>
        cases named
        obtain rfl : acceptance message now = reply := by simpa using answered
        exact BTreeMap.getElem?_insert_same _ _ _
  replayed message reply presents remembered := by
    obtain ⟨instant, same | same⟩ := presents
    swap
    · cases same
    cases same
    have replay := recordHandled_replay (orderly.valid _ _ remembered) remembered now
    simp [Answer.Repeats, answer, after, perform, replay]

/-- Rearming a signal is lawful. -/
private theorem lawful_rearmFromHandled (store : AckStore) (signalId : String) :
    store.Lawful (.rearmFromHandled signalId) := by
  have silent : ∀ message, ¬ (Call.rearmFromHandled signalId).Presents message := by
    rintro message ⟨now, same | same⟩ <;> cases same
  rcases store.rearmFromHandled_cases signalId with
    ⟨error, refused⟩ | ⟨arm, batch, cursor, bound, stored, _, _, opened, _, rearmed⟩
  · exact {
      failed := fun _ _ => by simp [after, perform, refused]
      counted := by simp [Call.rearms, answer, after, perform, refused]
      rearm := fun serve rearm served => by simp [answer, perform, refused] at served
      recorded := fun message presents => (silent message presents).elim
      replayed := fun message _ presents => (silent message presents).elim }
  · exact {
      failed := fun error failed => by simp [answer, perform, rearmed] at failed
      counted := by simp [Call.rearms, answer, after, perform, rearmed, bound]
      rearm := fun serve rearm served => by simp [answer, perform, rearmed] at served
      recorded := fun message presents => (silent message presents).elim
      replayed := fun message _ presents => (silent message presents).elim }

/-- Applying a request that is neither late nor exhausted is lawful. -/
private theorem lawful_applyHandledRequest {store : AckStore} (orderly : store.Orderly)
    {request : HandledCursor} {now : OffsetDateTime}
    (timely : ¬ store.Late (.applyHandledRequest request now))
    (spare : ¬ store.Exhausted (.applyHandledRequest request now)) :
    store.Lawful (.applyHandledRequest request now) where
  failed error failed := by
    have effect := applyHandledRequest_effect orderly timely spare
    simp only [answer, after, perform] at failed ⊢
    generalize store.applyHandledRequest request now = result at effect failed
    cases effect with
    | refused => rfl
    | replayed => cases failed
    | rejected => cases failed
    | accepted => cases failed
  counted := by
    have effect := applyHandledRequest_effect orderly timely spare
    simp only [answer, after, perform]
    generalize store.applyHandledRequest request now = result at effect
    cases effect with
    | refused => rfl
    | replayed => rfl
    | rejected => rfl
    | accepted named bound => simp [Call.rearms, accepting, bound]
  rearm serve rearm served caused := by
    have effect := applyHandledRequest_effect orderly timely spare
    simp only [answer, after, perform] at served ⊢
    generalize store.applyHandledRequest request now = result at effect served
    cases effect with
    | refused => cases served
    | replayed =>
        cases served
        cases caused
    | rejected =>
        cases served
        cases caused
    | accepted =>
        cases served
        cases caused
        exact ⟨_, BTreeMap.getElem?_insert_same _ _ _, rfl⟩
  recorded message presents reply rearm answered := by
    obtain ⟨instant, same | same⟩ := presents
    · cases same
    cases same
    have effect := applyHandledRequest_effect orderly timely spare
    simp only [answer, after, perform] at answered ⊢
    generalize store.applyHandledRequest (.request message) now = result at effect answered
    cases effect with
    | refused => simp at answered
    | @replayed other recorded named remembered =>
        cases named
        obtain rfl : recorded = reply := by
          have served : (⟨recorded, none⟩ : HandledServe) = ⟨reply, rearm⟩ := by
            simpa using answered
          exact congrArg HandledServe.reply served
        exact remembered
    | @rejected other code named =>
        cases named
        obtain rfl : AckStore.rejected message code now = reply := by
          have served : (⟨AckStore.rejected message code now, none⟩ : HandledServe) =
              ⟨reply, rearm⟩ := by simpa using answered
          exact congrArg HandledServe.reply served
        exact BTreeMap.getElem?_insert_same _ _ _
    | @accepted other arm batch named =>
        cases named
        obtain rfl : acceptance message now = reply := by
          have served : (⟨acceptance message now,
              some ⟨message.cursor, arm.generation + 1, message.signalId⟩⟩ : HandledServe) =
              ⟨reply, rearm⟩ := by simpa using answered
          exact congrArg HandledServe.reply served
        exact BTreeMap.getElem?_insert_same _ _ _
  replayed message reply presents remembered := by
    obtain ⟨instant, same | same⟩ := presents
    · cases same
    cases same
    have replay := applyHandledRequest_replay orderly remembered timely
    simp [Answer.Repeats, answer, after, perform, replay]

/-- A call of an orderly store is lawful exactly when it is neither a late request nor
an exhausted one. -/
theorem lawful_iff {store : AckStore} (orderly : store.Orderly) (call : Call) :
    store.Lawful call ↔ ¬ store.Late call ∧ ¬ store.Exhausted call := by
  constructor
  · exact fun lawful =>
      ⟨fun late => late.unlawful orderly lawful, fun exhausted => exhausted.unlawful lawful⟩
  rintro ⟨timely, spare⟩
  cases call with
  | noteClaimed signalId =>
      exact lawful_of_note (store.noteClaimed_effect signalId) rfl
        (by rintro message ⟨now, same | same⟩ <;> cases same) fun _ => rfl
  | noteDelivered signalId delivered drainSnapshot =>
      exact lawful_of_note (store.noteDelivered_effect signalId delivered drainSnapshot) rfl
        (by rintro message ⟨now, same | same⟩ <;> cases same) fun _ => rfl
  | requireReturnCompletedBeforeHandled signalId =>
      exact lawful_of_note (store.requireReturnCompleted_effect signalId) rfl
        (by rintro message ⟨now, same | same⟩ <;> cases same) fun _ => rfl
  | noteReturnCompleted signalId =>
      exact lawful_of_note (store.noteReturnCompleted_effect signalId) rfl
        (by rintro message ⟨now, same | same⟩ <;> cases same) fun _ => rfl
  | recordHandled request now => exact lawful_recordHandled orderly request now
  | rearmFromHandled signalId => exact lawful_rearmFromHandled store signalId
  | applyHandledRequest request now => exact lawful_applyHandledRequest orderly timely spare

/-- A run is lawful throughout exactly when none of its calls is late or exhausted. -/
private theorem along_lawful_iff {store : AckStore} (orderly : store.Orderly)
    (calls : List Call) :
    Transition.Along after Lawful store calls ↔
      Transition.Along after (fun store call => ¬ store.Late call ∧ ¬ store.Exhausted call)
        store calls := by
  induction calls generalizing store with
  | nil => exact Iff.rfl
  | cons call rest inductionHypothesis =>
      rw [Transition.along_cons, Transition.along_cons, lawful_iff orderly,
        inductionHypothesis (after_orderly orderly call)]

/-- Every run from an empty store keeps the contract exactly when no call applies again
an accepted request whose batch is still open, and none is accepted in the last
generation. -/
theorem runLaw_iff (arm : Option KnownArm) (calls : List Call) :
    RunLaw (fresh arm) calls ↔
      Transition.Along after (fun store call => ¬ store.Late call ∧ ¬ store.Exhausted call)
        (fresh arm) calls := by
  have orderly := fresh_orderly arm
  rw [← along_lawful_iff orderly]
  refine ⟨RunLaw.lawful, fun lawful => ⟨?_, ?_, rearmed_nodup orderly calls, lawful⟩⟩
  · intro performed rest _
    exact run_orderly orderly performed
  · intro performed between rest _
    rw [Transition.run_append]
    exact run_onward (run_orderly orderly performed) between

end AckStore

/-! ## A replay of a request that was only recorded -/

namespace Sample

/-- An acknowledgement of the sampled signal. -/
def acknowledgement (requestId cursor : String) : HandledCursor :=
  .request {
    schema := handledSchemaId
    requestId
    armId := arm.armId
    generation := 1
    seatId := arm.seatId
    signalId := "01J00000000000000000000021"
    cursor
    observedAt := "1970-01-01T00:00:01Z" }

/-- Two cursors are recorded, and the request of the first is applied after that. -/
def lateCalls : List AckStore.Call :=
  [.noteDelivered "01J00000000000000000000021" ["post-1", "post-2"] ["post-1", "post-2"],
    .recordHandled (acknowledgement "01J00000000000000000000051" "post-1") (second 1),
    .recordHandled (acknowledgement "01J00000000000000000000052" "post-2") (second 1),
    .applyHandledRequest (acknowledgement "01J00000000000000000000051" "post-1") (second 1)]

/-- The store before the replay. -/
def beforeReplay : AckStore :=
  Transition.run AckStore.after (AckStore.fresh (some arm)) (lateCalls.take 3)

/-- What the replay does. -/
def replay : Except HandledCursorError HandledServe × AckStore :=
  beforeReplay.applyHandledRequest (acknowledgement "01J00000000000000000000051" "post-1")
    (second 1)

private theorem replay_rearms :
    replay.1.toOption.map HandledServe.rearm =
      some (some ⟨"post-1", 2, "01J00000000000000000000021"⟩) := by
  decide +kernel

private theorem replay_handled :
    replay.2.signals["01J00000000000000000000021"]?.map SignalBatch.handled =
      some (some "post-2") := by
  decide +kernel

/-- The signal is handled up to the second event, yet the replay bumps the generation
and continues after the first. -/
theorem late_replay_rearms :
    replay.1.toOption.map HandledServe.rearm =
        some (some ⟨"post-1", 2, "01J00000000000000000000021"⟩) ∧
      replay.2.signals["01J00000000000000000000021"]?.map SignalBatch.handled =
        some (some "post-2") ∧
      ¬ AckStore.RunLaw (AckStore.fresh (some arm)) lateCalls := by
  refine ⟨replay_rearms, replay_handled, fun law => ?_⟩
  have lawful : beforeReplay.Lawful (.applyHandledRequest
      (acknowledgement "01J00000000000000000000051" "post-1") (second 1)) :=
    law.lawful.2.2.2.1
  obtain ⟨serve, served, caused⟩ := Option.map_eq_some_iff.1 replay_rearms
  have answered : beforeReplay.answer (.applyHandledRequest
      (acknowledgement "01J00000000000000000000051" "post-1") (second 1)) = .served serve := by
    rcases same : replay with ⟨outcome, last⟩
    rw [same] at served
    cases outcome with
    | error error => cases served
    | ok found =>
        cases served
        exact congrArg (fun result => AckStore.Answer.of .served result.1) same
  obtain ⟨batch, stored, recorded⟩ := lawful.rearm serve _ answered caused
  have found : replay.2.signals["01J00000000000000000000021"]? = some batch := stored
  have handled := replay_handled
  rw [found, Option.map_some, recorded] at handled
  exact absurd handled (by decide)

end Sample
end Waiter
end Gearwit
