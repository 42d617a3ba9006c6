import Gearwit.Foundations.Transition
import Gearwit.Waiter.Batches

/-!
# Calls of the acknowledgement store

Every public operation of the store is a call that answers and leaves the store
after it.  A call changes the store in at most two small changes, and each of them
keeps one open batch of the current generation, cursors that were delivered, and
handled positions that only move forward.
-/

namespace Gearwit
namespace Waiter
namespace AckStore

/-- One call of the public interface. -/
inductive Call
  | noteClaimed (signalId : String)
  | noteDelivered (signalId : String) (delivered drainSnapshot : List String)
  | requireReturnCompletedBeforeHandled (signalId : String)
  | noteReturnCompleted (signalId : String)
  | recordHandled (request : HandledCursor) (now : OffsetDateTime)
  | rearmFromHandled (signalId : String)
  | applyHandledRequest (request : HandledCursor) (now : OffsetDateTime)
  deriving DecidableEq

/-- What a call answers. -/
inductive Answer
  | failed (error : HandledCursorError)
  | noted
  | recorded (reply : HandledCursor)
  | rearmed (cursor : String)
  | served (serve : HandledServe)
  deriving DecidableEq

/-- The answer of a result. -/
def Answer.of {α : Type} (answer : α → Answer) : Except HandledCursorError α → Answer
  | .error error => .failed error
  | .ok value => answer value

@[simp] theorem Answer.of_error {α : Type} (answer : α → Answer) (error : HandledCursorError) :
    Answer.of answer (.error error) = .failed error := rfl

@[simp] theorem Answer.of_ok {α : Type} (answer : α → Answer) (value : α) :
    Answer.of answer (.ok value) = answer value := rfl

/-- The signal that a call rearmed. -/
def Call.rearms : Call → Answer → Option String
  | .rearmFromHandled signalId, .rearmed _ => some signalId
  | .applyHandledRequest _ _, .served serve => serve.rearm.map AckRearm.signalId
  | _, _ => none

variable [Rfc3339]

/-- Perform one call. -/
def perform (store : AckStore) : Call → Answer × AckStore
  | .noteClaimed signalId =>
      (store.noteClaimed signalId).map (Answer.of fun _ => .noted) id
  | .noteDelivered signalId delivered drainSnapshot =>
      (store.noteDelivered signalId delivered drainSnapshot).map (Answer.of fun _ => .noted) id
  | .requireReturnCompletedBeforeHandled signalId =>
      (store.requireReturnCompletedBeforeHandled signalId).map (Answer.of fun _ => .noted) id
  | .noteReturnCompleted signalId =>
      (store.noteReturnCompleted signalId).map (Answer.of fun _ => .noted) id
  | .recordHandled request now =>
      (store.recordHandled request now).map (Answer.of .recorded) id
  | .rearmFromHandled signalId =>
      (store.rearmFromHandled signalId).map (Answer.of .rearmed) id
  | .applyHandledRequest request now =>
      (store.applyHandledRequest request now).map (Answer.of .served) id

/-- Answer of a call. -/
def answer (store : AckStore) (call : Call) : Answer := (store.perform call).1

/-- Store after a call. -/
def after (store : AckStore) (call : Call) : AckStore := (store.perform call).2

/-- The store before any call, with or without an arm. -/
def fresh (arm : Option KnownArm) : AckStore := ⟨arm, ∅, ∅⟩

/-! ## The order of the store -/

/-- What holds of the store between calls: one open batch of the current generation,
handled cursors among the delivered ones, every accepted cursor delivered and not
beyond the handled one, and valid remembered requests. -/
structure Orderly (store : AckStore) : Prop where
  single : ∀ (first second : String) batch other, store.signals[first]? = some batch →
    store.signals[second]? = some other → batch.closed = false → other.closed = false →
    first = second
  current : ∀ (id : String) batch, store.signals[id]? = some batch →
    ∃ arm, store.arm = some arm ∧ (batch.closed = false → batch.generation = arm.generation)
  handled : ∀ (id : String) batch cursor, store.signals[id]? = some batch →
    batch.handled = some cursor → cursor ∈ batch.delivered
  accepted : ∀ (key : String) entry reply, store.history[key]? = some entry →
    entry.reply = .accepted reply →
      ∃ batch handled, store.signals[reply.signalId]? = some batch ∧
        batch.handled = some handled ∧ reply.cursor ∈ batch.delivered ∧
        batch.delivered.idxOf reply.cursor ≤ batch.delivered.idxOf handled
  valid : ∀ (key : String) entry, store.history[key]? = some entry →
    validateHandled entry.request = .ok ()

/-- Nothing is taken back: a handled position moves forward over the same delivered
events, a closed batch stays closed and a remembered reply is kept. -/
structure Onward (before after : AckStore) : Prop where
  handled : ∀ (id : String) batch cursor, before.signals[id]? = some batch →
    batch.handled = some cursor →
      ∃ later next, after.signals[id]? = some later ∧ later.handled = some next ∧
        later.delivered = batch.delivered ∧
        batch.delivered.idxOf cursor ≤ batch.delivered.idxOf next
  closed : ∀ (id : String) batch, before.signals[id]? = some batch → batch.closed = true →
    ∃ later, after.signals[id]? = some later ∧ later.closed = true
  remembered : ∀ (key : String) entry, before.history[key]? = some entry →
    after.history[key]? = some entry

/-! ## One request -/

/-- What recording a request does. -/
inductive RecordEffect (store : AckStore) (request : HandledCursor) (now : OffsetDateTime) :
    Except HandledCursorError HandledCursor × AckStore → Prop
  | refused (error : HandledCursorError) : RecordEffect store request now (.error error, store)
  | replayed {message : HandledRequest} {entry : HistoryEntry}
      (named : request = .request message)
      (remembered : store.history[message.requestId]? = some entry)
      (same : entry.request = request) : RecordEffect store request now (.ok entry.reply, store)
  | rejected {message : HandledRequest} {code : String} (named : request = .request message)
      (valid : validateHandled request = .ok ())
      (unknown : store.history[message.requestId]? = none) :
      RecordEffect store request now
        (.ok (rejected message code now), { store with
          history := store.history.insert message.requestId
            ⟨request, rejected message code now⟩ })
  | accepted {message : HandledRequest} {arm : KnownArm} {batch : SignalBatch}
      (named : request = .request message) (valid : validateHandled request = .ok ())
      (unknown : store.history[message.requestId]? = none)
      (room : store.history.size < historyCap) (passes : store.Passes message arm batch) :
      RecordEffect store request now
        (.ok (acceptance message now),
          ⟨store.arm,
            store.signals.insert message.signalId { batch with handled := some message.cursor },
            store.history.insert message.requestId ⟨request, acceptance message now⟩⟩)

/-- Recording a request is one of these effects. -/
theorem recordHandled_effect (store : AckStore) (request : HandledCursor)
    (now : OffsetDateTime) :
    RecordEffect store request now (store.recordHandled request now) := by
  unfold recordHandled
  cases valid : validateHandled request with
  | error error => exact .refused error
  | ok value =>
  cases request with
  | accepted other => exact .refused _
  | rejected other => exact .refused _
  | request message =>
  cases remembered : store.history[message.requestId]? with
  | some entry =>
      simp only [remembered]
      split_ifs with same
      · exact .replayed rfl remembered same
      · exact .refused _
  | none =>
      simp only [remembered]
      split_ifs with full
      · exact .refused _
      rcases decide_outcome (rfl : store.decide message now = _) with
        ⟨_, code, decided⟩ | ⟨arm, batch, passes, decided⟩
      · rw [decided]
        exact .rejected rfl valid remembered
      · rw [decided]
        exact .accepted rfl valid remembered (by omega) passes

/-- A remembered valid request is given its reply again. -/
theorem recordHandled_replay {store : AckStore} {message : HandledRequest}
    {reply : HandledCursor} (valid : validateHandled (.request message) = .ok ())
    (remembered : store.history[message.requestId]? = some ⟨.request message, reply⟩)
    (now : OffsetDateTime) :
    store.recordHandled (.request message) now = (.ok reply, store) := by
  simp [recordHandled, valid, remembered]

/-- A new request that passes every check is accepted. -/
theorem recordHandled_accepts {store : AckStore} {message : HandledRequest} {arm : KnownArm}
    {batch : SignalBatch} (valid : validateHandled (.request message) = .ok ())
    (unknown : store.history[message.requestId]? = none)
    (room : store.history.size < historyCap) (passes : store.Passes message arm batch)
    (now : OffsetDateTime) :
    store.recordHandled (.request message) now =
      (.ok (acceptance message now),
        ⟨store.arm,
          store.signals.insert message.signalId { batch with handled := some message.cursor },
          store.history.insert message.requestId
            ⟨.request message, acceptance message now⟩⟩) := by
  rcases decide_outcome (rfl : store.decide message now = _) with
    ⟨blocked, _⟩ | ⟨other, found, accepted, decided⟩
  · exact absurd passes (blocked arm batch)
  · have same : found = batch := by simpa [accepted.stored] using passes.stored
    have full : ¬ historyCap ≤ store.history.size := by omega
    simp [recordHandled, valid, unknown, full, decided, same]

omit [Rfc3339] in
/-- What rearming does: it fails without an effect, or it closes an open handled batch
of the current generation and bumps the generation. -/
theorem rearmFromHandled_cases (store : AckStore) (signalId : String) :
    (∃ error, store.rearmFromHandled signalId = (.error error, store)) ∨
      ∃ arm batch cursor, store.arm = some arm ∧ store.signals[signalId]? = some batch ∧
        batch.generation = arm.generation ∧ batch.handled = some cursor ∧
        batch.closed = false ∧ arm.generation + 1 < 2 ^ 64 ∧
        store.rearmFromHandled signalId =
          (.ok cursor, { store with
            arm := some { arm with generation := arm.generation + 1 }
            signals := store.signals.insert signalId { batch with closed := true } }) := by
  unfold rearmFromHandled
  cases bound : store.arm with
  | none => exact Or.inl ⟨_, rfl⟩
  | some arm =>
  cases stored : store.signals[signalId]? with
  | none => exact Or.inl ⟨_, rfl⟩
  | some batch =>
  by_cases current : batch.generation = arm.generation
  case neg => exact Or.inl ⟨.semantic "stale_generation", by simp [current]⟩
  cases recorded : batch.handled with
  | none => exact Or.inl ⟨.semantic "ack_before_delivery", by simp [current, recorded]⟩
  | some cursor =>
  cases closed : batch.closed with
  | true =>
      exact Or.inl ⟨.semantic "stale_generation", by simp [current, recorded, closed]⟩
  | false =>
  by_cases last : 2 ^ 64 ≤ arm.generation + 1
  · refine Or.inl ⟨.semantic "generation overflow", ?_⟩
    simp only [current, recorded, closed, ne_eq, not_true_eq_false, if_false,
      Bool.false_eq_true, if_pos last]
  · refine Or.inr ⟨arm, batch, cursor, rfl, rfl, current, recorded, closed, by omega, ?_⟩
    simp only [current, recorded, closed, ne_eq, not_true_eq_false, if_false,
      Bool.false_eq_true, if_neg last]

omit [Rfc3339] in
/-- A handled batch that is closed is stale. -/
theorem rearmFromHandled_stale {store : AckStore} {signalId : String} {arm : KnownArm}
    {batch : SignalBatch} {cursor : String} (bound : store.arm = some arm)
    (stored : store.signals[signalId]? = some batch) (recorded : batch.handled = some cursor)
    (closed : batch.closed = true) :
    store.rearmFromHandled signalId = (.error (.semantic "stale_generation"), store) := by
  simp [rearmFromHandled, bound, stored, recorded, closed]

omit [Rfc3339] in
/-- An open handled batch of the last generation cannot be rearmed. -/
theorem rearmFromHandled_overflow {store : AckStore} {signalId : String} {arm : KnownArm}
    {batch : SignalBatch} {cursor : String} (bound : store.arm = some arm)
    (stored : store.signals[signalId]? = some batch)
    (current : batch.generation = arm.generation) (recorded : batch.handled = some cursor)
    (opened : batch.closed = false) (last : 2 ^ 64 ≤ arm.generation + 1) :
    store.rearmFromHandled signalId =
      (.error (.semantic "generation overflow"), store) := by
  simp only [rearmFromHandled, bound, stored, current, recorded, opened, ne_eq,
    not_true_eq_false, if_false, Bool.false_eq_true, if_pos last]

omit [Rfc3339] in
/-- An open handled batch is closed and the generation rises. -/
theorem rearmFromHandled_open {store : AckStore} {signalId : String} {arm : KnownArm}
    {batch : SignalBatch} {cursor : String} (bound : store.arm = some arm)
    (stored : store.signals[signalId]? = some batch)
    (current : batch.generation = arm.generation) (recorded : batch.handled = some cursor)
    (opened : batch.closed = false) (room : arm.generation + 1 < 2 ^ 64) :
    store.rearmFromHandled signalId =
      (.ok cursor, { store with
        arm := some { arm with generation := arm.generation + 1 }
        signals := store.signals.insert signalId { batch with closed := true } }) := by
  have small : ¬ 2 ^ 64 ≤ arm.generation + 1 := by omega
  simp only [rearmFromHandled, bound, stored, current, recorded, opened, ne_eq,
    not_true_eq_false, if_false, Bool.false_eq_true, if_neg small]

/-! ## Changes of the store -/

/-- How a call changes the store, one change at a time. -/
inductive Change (store : AckStore) : AckStore → Prop
  | same : Change store store
  | claimed {arm : KnownArm} {signalId : String} {batch : SignalBatch}
      (bound : store.arm = some arm) (alone : store.conflicting arm signalId = false)
      (unknown : store.signals[signalId]? = none) (current : batch.generation = arm.generation)
      (unhandled : batch.handled = none) :
      Change store { store with signals := store.signals.insert signalId batch }
  | filled {signalId : String} {batch : SignalBatch} (delivered drainSnapshot : List String)
      (afterBound : List String) (stored : store.signals[signalId]? = some batch)
      (unhandled : batch.handled = none) :
      Change store { store with
        signals := store.signals.insert signalId
          { batch with delivered, drainSnapshot, afterBound } }
  | flagged {signalId : String} {batch : SignalBatch} (required completed : Bool)
      (stored : store.signals[signalId]? = some batch) :
      Change store { store with
        signals := store.signals.insert signalId
          { batch with requireReturnCompleted := required, returnCompleted := completed } }
  | rejected {message : HandledRequest} (code : String) (now : OffsetDateTime)
      (valid : validateHandled (.request message) = .ok ())
      (unknown : store.history[message.requestId]? = none) :
      Change store { store with
        history := store.history.insert message.requestId
          ⟨.request message, AckStore.rejected message code now⟩ }
  | accepted {message : HandledRequest} {arm : KnownArm} {batch : SignalBatch}
      (now : OffsetDateTime) (valid : validateHandled (.request message) = .ok ())
      (unknown : store.history[message.requestId]? = none)
      (passes : store.Passes message arm batch) :
      Change store ⟨store.arm,
        store.signals.insert message.signalId { batch with handled := some message.cursor },
        store.history.insert message.requestId ⟨.request message, acceptance message now⟩⟩
  | rearmed {arm : KnownArm} {signalId : String} {batch : SignalBatch}
      (bound : store.arm = some arm) (stored : store.signals[signalId]? = some batch)
      (opened : batch.closed = false) :
      Change store { store with
        arm := some { arm with generation := arm.generation + 1 }
        signals := store.signals.insert signalId { batch with closed := true } }

omit [Rfc3339] in
/-- A store that does not change goes onward. -/
theorem onward_refl (store : AckStore) : store.Onward store where
  handled _ batch cursor stored recorded := ⟨batch, cursor, stored, recorded, rfl, le_rfl⟩
  closed _ batch stored shut := ⟨batch, stored, shut⟩
  remembered _ _ stored := stored

omit [Rfc3339] in
/-- Going onward composes. -/
theorem Onward.trans {first second third : AckStore} (early : first.Onward second)
    (late : second.Onward third) : first.Onward third where
  handled id batch cursor stored recorded := by
    obtain ⟨middle, next, found, kept, delivered, within⟩ :=
      early.handled id batch cursor stored recorded
    obtain ⟨last, final, reached, settled, same, beyond⟩ :=
      late.handled id middle next found kept
    rw [delivered] at same beyond
    exact ⟨last, final, reached, settled, same, within.trans beyond⟩
  closed id batch stored shut := by
    obtain ⟨middle, found, kept⟩ := early.closed id batch stored shut
    exact late.closed id middle found kept
  remembered key entry stored := late.remembered key entry (early.remembered key entry stored)

omit [Rfc3339] in
/-- Rewriting one batch takes nothing back when the batch itself does not. -/
private theorem onward_rewrite {store : AckStore} {signalId : String}
    {batch next : SignalBatch} (arm : Option KnownArm) {history : BTreeMap String HistoryEntry}
    (stored : store.signals[signalId]? = some batch)
    (closed : batch.closed = true → next.closed = true)
    (handled : ∀ cursor, batch.handled = some cursor →
      ∃ later, next.handled = some later ∧ next.delivered = batch.delivered ∧
        batch.delivered.idxOf cursor ≤ batch.delivered.idxOf later)
    (remembered : ∀ (key : String) entry, store.history[key]? = some entry →
      history[key]? = some entry) :
    store.Onward ⟨arm, store.signals.insert signalId next, history⟩ where
  handled id other cursor present recorded := by
    simp only [BTreeMap.getElem?_insert_eq]
    split_ifs with same
    · subst same
      obtain rfl : other = batch := by simpa [stored, eq_comm] using present
      obtain ⟨later, kept, delivered, within⟩ := handled cursor recorded
      exact ⟨next, later, rfl, kept, delivered, within⟩
    · exact ⟨other, cursor, present, recorded, rfl, le_rfl⟩
  closed id other present shut := by
    simp only [BTreeMap.getElem?_insert_eq]
    split_ifs with same
    · subst same
      obtain rfl : other = batch := by simpa [stored, eq_comm] using present
      exact ⟨next, rfl, closed shut⟩
    · exact ⟨other, present, shut⟩
  remembered := remembered

omit [Rfc3339] in
/-- A new key leaves every stored entry readable. -/
private theorem stored_of_insert {history : BTreeMap String HistoryEntry} {key : String}
    (unknown : history[key]? = none) (fresh : HistoryEntry) (probe : String)
    (entry : HistoryEntry) (stored : history[probe]? = some entry) :
    (history.insert key fresh)[probe]? = some entry := by
  rw [BTreeMap.getElem?_insert_ne]
  · exact stored
  · rintro rfl
    rw [unknown] at stored
    cases stored

/-- A change takes nothing back. -/
theorem Change.onward {store after : AckStore} (change : Change store after)
    (orderly : store.Orderly) : store.Onward after := by
  cases change with
  | same => exact onward_refl store
  | claimed bound alone unknown =>
      rename_i arm signalId _ _ _
      have kept : ∀ (id : String) other, store.signals[id]? = some other →
          ∀ batch, (store.signals.insert signalId batch)[id]? = some other := by
        intro id other stored batch
        rw [BTreeMap.getElem?_insert_ne]
        · exact stored
        · rintro rfl
          rw [unknown] at stored
          cases stored
      exact {
        handled := fun id batch cursor stored recorded =>
          ⟨batch, cursor, kept id batch stored _, recorded, rfl, le_rfl⟩
        closed := fun id batch stored shut => ⟨batch, kept id batch stored _, shut⟩
        remembered := fun _ _ stored => stored }
  | filled delivered drainSnapshot afterBound stored unhandled =>
      refine onward_rewrite _ stored id (fun cursor recorded => ?_) fun _ _ present => present
      rw [unhandled] at recorded
      cases recorded
  | flagged required completed stored =>
      exact onward_rewrite _ stored id (fun cursor recorded => ⟨cursor, recorded, rfl, le_rfl⟩)
        fun _ _ present => present
  | rejected code now valid unknown =>
      exact {
        handled := fun _ batch cursor stored recorded =>
          ⟨batch, cursor, stored, recorded, rfl, le_rfl⟩
        closed := fun _ batch stored shut => ⟨batch, stored, shut⟩
        remembered := stored_of_insert unknown _ }
  | accepted now valid unknown passes =>
      refine onward_rewrite _ passes.stored id (fun cursor recorded => ?_)
        (stored_of_insert unknown _)
      exact ⟨_, rfl, rfl, passes.forward cursor recorded
        (orderly.handled _ _ cursor passes.stored recorded)⟩
  | rearmed bound stored opened =>
      exact onward_rewrite _ stored (fun _ => rfl)
        (fun cursor recorded => ⟨cursor, recorded, rfl, le_rfl⟩) fun _ _ present => present

/-- What was accepted stays delivered and handled. -/
theorem Orderly.accepted_onward {before after : AckStore} (orderly : before.Orderly)
    (onward : before.Onward after) {key : String} {entry : HistoryEntry}
    {reply : HandledAccepted} (stored : before.history[key]? = some entry)
    (replied : entry.reply = .accepted reply) :
    ∃ batch handled, after.signals[reply.signalId]? = some batch ∧
      batch.handled = some handled ∧ reply.cursor ∈ batch.delivered ∧
      batch.delivered.idxOf reply.cursor ≤ batch.delivered.idxOf handled := by
  obtain ⟨batch, handled, present, recorded, member, within⟩ :=
    orderly.accepted key entry reply stored replied
  obtain ⟨later, next, found, kept, delivered, beyond⟩ :=
    onward.handled _ batch handled present recorded
  rw [← delivered] at member within beyond
  exact ⟨later, next, found, kept, member, within.trans beyond⟩

/-- When no other signal conflicts, an open batch is the signal's own. -/
theorem Orderly.alone {store : AckStore} (orderly : store.Orderly) {arm : KnownArm}
    {signalId : String} (bound : store.arm = some arm)
    (alone : store.conflicting arm signalId = false) {id : String} {batch : SignalBatch}
    (stored : store.signals[id]? = some batch) (opened : batch.closed = false) :
    id = signalId := by
  obtain ⟨other, same, current⟩ := orderly.current id batch stored
  obtain rfl : other = arm := by simpa [bound, eq_comm] using same
  have listed := Std.ExtTreeMap.mem_toList_iff_getElem?_eq_some.2 stored
  cases found : store.openSignal other with
  | none =>
      have missed := List.find?_eq_none.1 found _ listed
      simp [current opened, opened] at missed
  | some entry =>
      obtain ⟨first, held⟩ := entry
      have counted := List.find?_some found
      have stored' := Std.ExtTreeMap.mem_toList_iff_getElem?_eq_some.1
        (List.mem_of_find?_eq_some found)
      simp only [Bool.and_eq_true, Bool.not_eq_true'] at counted
      simp only [conflicting, found, Option.any_some, bne_eq_false_iff_eq] at alone
      rw [← alone]
      exact orderly.single id first batch held stored stored' opened counted.2

/-- Rewriting one batch without opening it or moving it to another generation keeps
one open batch of the current generation. -/
private theorem orderly_rewrite {store : AckStore} (orderly : store.Orderly)
    {signalId : String} {batch next : SignalBatch} {history : BTreeMap String HistoryEntry}
    (stored : store.signals[signalId]? = some batch)
    (generation : next.generation = batch.generation) (closed : next.closed = batch.closed)
    (handled : ∀ cursor, next.handled = some cursor → cursor ∈ next.delivered)
    (accepted : ∀ (key : String) entry reply, history[key]? = some entry →
      entry.reply = .accepted reply →
        ∃ other handled, (store.signals.insert signalId next)[reply.signalId]? = some other ∧
          other.handled = some handled ∧ reply.cursor ∈ other.delivered ∧
          other.delivered.idxOf reply.cursor ≤ other.delivered.idxOf handled)
    (valid : ∀ (key : String) entry, history[key]? = some entry →
      validateHandled entry.request = .ok ()) :
    (⟨store.arm, store.signals.insert signalId next, history⟩ : AckStore).Orderly where
  single first second one two present found opened ajar := by
    simp only [BTreeMap.getElem?_insert_eq] at present found
    split_ifs at present with left
    · split_ifs at found with right
      · exact left.symm.trans right
      · cases present
        exact left.symm.trans
          (orderly.single _ _ _ _ stored found (closed ▸ opened) ajar)
    · split_ifs at found with right
      · cases found
        exact (orderly.single _ _ _ _ present stored opened (closed ▸ ajar)).trans right
      · exact orderly.single _ _ _ _ present found opened ajar
  current id other present := by
    simp only [BTreeMap.getElem?_insert_eq] at present
    split_ifs at present with same
    · cases present
      obtain ⟨arm, bound, current⟩ := orderly.current _ _ stored
      exact ⟨arm, bound, fun opened => generation.trans (current (closed ▸ opened))⟩
    · exact orderly.current id other present
  handled id other cursor present recorded := by
    simp only [BTreeMap.getElem?_insert_eq] at present
    split_ifs at present with same
    · cases present
      exact handled cursor recorded
    · exact orderly.handled id other cursor present recorded
  accepted := accepted
  valid := valid

/-- A change keeps the store in order. -/
theorem Change.orderly {store after : AckStore} (change : Change store after)
    (orderly : store.Orderly) : after.Orderly := by
  have onward := change.onward orderly
  cases change with
  | same => exact orderly
  | claimed bound alone unknown current unhandled =>
      rename_i arm signalId batch
      exact {
        single := fun first second one two present found opened ajar => by
          have own : ∀ {id : String} {other : SignalBatch},
              (store.signals.insert signalId batch)[id]? = some other →
                other.closed = false → id = signalId := by
            intro id other stored opened
            rw [BTreeMap.getElem?_insert_eq] at stored
            split_ifs at stored with same
            · exact same.symm
            · exact orderly.alone bound alone stored opened
          exact (own present opened).trans (own found ajar).symm
        current := fun id other present => by
          simp only [BTreeMap.getElem?_insert_eq] at present
          split_ifs at present with same
          · cases present
            exact ⟨arm, bound, fun _ => current⟩
          · exact orderly.current id other present
        handled := fun id other cursor present recorded => by
          simp only [BTreeMap.getElem?_insert_eq] at present
          split_ifs at present with same
          · cases present
            rw [unhandled] at recorded
            cases recorded
          · exact orderly.handled id other cursor present recorded
        accepted := fun key entry reply stored replied =>
          orderly.accepted_onward onward stored replied
        valid := orderly.valid }
  | filled delivered drainSnapshot afterBound stored unhandled =>
      refine orderly_rewrite orderly stored rfl rfl (fun cursor recorded => ?_)
        (fun key entry reply present replied => orderly.accepted_onward onward present replied)
        orderly.valid
      rw [unhandled] at recorded
      cases recorded
  | flagged required completed stored =>
      rename_i signalId batch
      exact orderly_rewrite orderly stored rfl rfl
        (fun cursor recorded => orderly.handled signalId batch cursor stored recorded)
        (fun key entry reply present replied => orderly.accepted_onward onward present replied)
        orderly.valid
  | rejected code now valid unknown =>
      rename_i message
      have known : ∀ {key : String} {entry : HistoryEntry},
          (store.history.insert message.requestId
            ⟨.request message, AckStore.rejected message code now⟩)[key]? = some entry →
              entry = ⟨.request message, AckStore.rejected message code now⟩ ∨
                store.history[key]? = some entry := by
        intro key entry stored
        rw [BTreeMap.getElem?_insert_eq] at stored
        split_ifs at stored
        · exact Or.inl (Option.some.inj stored).symm
        · exact Or.inr stored
      exact {
        single := orderly.single
        current := orderly.current
        handled := orderly.handled
        accepted := fun key entry reply stored replied => by
          rcases known stored with rfl | before
          · cases replied
          · exact orderly.accepted key entry reply before replied
        valid := fun key entry stored => by
          rcases known stored with rfl | before
          · exact valid
          · exact orderly.valid key entry before }
  | accepted now valid unknown passes =>
      refine orderly_rewrite orderly passes.stored rfl rfl (fun cursor recorded => ?_)
        (fun key entry reply stored replied => ?_) fun key entry stored => ?_
      · cases recorded
        exact passes.delivered
      · rw [BTreeMap.getElem?_insert_eq] at stored
        split_ifs at stored
        · cases stored
          cases replied
          exact ⟨_, _, BTreeMap.getElem?_insert_same _ _ _, rfl, passes.delivered, le_rfl⟩
        · exact orderly.accepted_onward onward stored replied
      · rw [BTreeMap.getElem?_insert_eq] at stored
        split_ifs at stored
        · cases stored
          exact valid
        · exact orderly.valid key entry stored
  | rearmed bound stored opened =>
      rename_i arm signalId batch
      have shut : ∀ {id : String} {other : SignalBatch},
          (store.signals.insert signalId { batch with closed := true })[id]? = some other →
            other.closed = true := by
        intro id other present
        rw [BTreeMap.getElem?_insert_eq] at present
        split_ifs at present with same
        · cases present
          rfl
        · by_contra ajar
          exact same (orderly.single _ _ _ _ stored present opened (by simpa using ajar))
      exact {
        single := fun first second one two present found ajar _ => by
          rw [shut present] at ajar
          cases ajar
        current := fun id other present => ⟨_, rfl, fun ajar => by
          rw [shut present] at ajar
          cases ajar⟩
        handled := fun id other cursor present recorded => by
          simp only [BTreeMap.getElem?_insert_eq] at present
          split_ifs at present with same
          · cases present
            exact orderly.handled _ batch cursor stored recorded
          · exact orderly.handled id other cursor present recorded
        accepted := fun key entry reply before replied =>
          orderly.accepted_onward onward before replied
        valid := orderly.valid }

/-! ## What a call does -/

/-- What noting a fact about a signal does: it fails without an effect, or changes one
batch. -/
inductive NoteEffect (store : AckStore) : Except HandledCursorError Unit × AckStore → Prop
  | failed (error : HandledCursorError) : NoteEffect store (.error error, store)
  | noted {signals : BTreeMap String SignalBatch} (change : Change store { store with signals }) :
      NoteEffect store (.ok (), { store with signals })

/-- What noting a claim does. -/
theorem noteClaimed_effect (store : AckStore) (signalId : String) :
    NoteEffect store (store.noteClaimed signalId) := by
  unfold noteClaimed
  cases bound : store.arm with
  | none => exact .failed _
  | some arm =>
  dsimp only
  split
  · exact .failed _
  rename_i alone
  split
  · split
    · exact .noted .same
    · exact .failed _
  · rename_i unknown
    have change : Change store { store with
        signals := store.signals.insert signalId (claimedBatch arm) } :=
      .claimed bound (by simpa using alone) unknown rfl rfl
    exact bound ▸ .noted change

/-- What noting a delivery does. -/
theorem noteDelivered_effect (store : AckStore) (signalId : String)
    (delivered drainSnapshot : List String) :
    NoteEffect store (store.noteDelivered signalId delivered drainSnapshot) := by
  unfold noteDelivered
  cases bound : store.arm with
  | none => exact .failed _
  | some arm =>
  dsimp only
  split
  · exact .failed _
  split
  · exact .failed _
  split
  · exact .failed _
  rename_i alone
  split
  · rename_i existing stored
    split
    · rename_i unfilled
      simp only [Bool.and_eq_true, Option.isNone_iff_eq_none] at unfilled
      have change : Change store { store with
          signals := store.signals.insert signalId
            { existing with
              delivered, drainSnapshot
              afterBound := drainSnapshot.drop delivered.length } } :=
        .filled _ _ _ stored unfilled.2
      exact bound ▸ .noted change
    split
    · exact .noted .same
    · exact .failed _
  · rename_i unknown
    exact bound ▸ .noted (.claimed bound (by simpa using alone) unknown rfl rfl)

/-- What requiring a completed return does. -/
theorem requireReturnCompleted_effect (store : AckStore) (signalId : String) :
    NoteEffect store (store.requireReturnCompletedBeforeHandled signalId) := by
  unfold requireReturnCompletedBeforeHandled
  split
  · exact .failed _
  rename_i batch stored
  split
  · exact .failed _
  · exact .noted (.flagged true batch.returnCompleted stored)

/-- What noting a completed return does. -/
theorem noteReturnCompleted_effect (store : AckStore) (signalId : String) :
    NoteEffect store (store.noteReturnCompleted signalId) := by
  unfold noteReturnCompleted
  split
  · exact .failed _
  rename_i batch stored
  split
  · exact .failed _
  split
  · exact .noted (.flagged batch.requireReturnCompleted true stored)
  · exact .noted .same

/-- What recording a request changes. -/
theorem RecordEffect.change {store : AckStore} {request : HandledCursor} {now : OffsetDateTime}
    {result : Except HandledCursorError HandledCursor × AckStore}
    (effect : RecordEffect store request now result) : Change store result.2 := by
  cases effect with
  | refused => exact .same
  | replayed => exact .same
  | rejected named valid unknown =>
      subst named
      exact .rejected _ now valid unknown
  | accepted named valid unknown room passes =>
      subst named
      exact .accepted now valid unknown passes

/-- What rearming changes. -/
theorem rearmFromHandled_change (store : AckStore) (signalId : String) :
    Change store (store.rearmFromHandled signalId).2 := by
  rcases store.rearmFromHandled_cases signalId with
    ⟨error, refused⟩ | ⟨arm, batch, cursor, bound, stored, _, _, opened, _, rearmed⟩
  · rw [refused]
    exact .same
  · rw [rearmed]
    exact .rearmed bound stored opened

/-- Applying a request records it and may rearm after that. -/
theorem applyHandledRequest_changes (store : AckStore) (request : HandledCursor)
    (now : OffsetDateTime) :
    ∃ middle, Change store middle ∧
      Change middle (store.applyHandledRequest request now).2 := by
  have effect := store.recordHandled_effect request now
  unfold applyHandledRequest
  rcases recorded : store.recordHandled request now with ⟨outcome, middle⟩
  rw [recorded] at effect
  refine ⟨middle, effect.change, ?_⟩
  cases outcome with
  | error error => exact .same
  | ok reply =>
  cases reply with
  | request other => exact .same
  | rejected other => exact .same
  | accepted message =>
  have change := middle.rearmFromHandled_change message.signalId
  dsimp only
  rcases rearm : middle.rearmFromHandled message.signalId with ⟨outcome, last⟩
  rw [rearm] at change
  cases outcome with
  | error error =>
      dsimp only
      split <;> exact change
  | ok cursor =>
      dsimp only
      split <;> exact change

/-- A note changes batches and nothing remembered. -/
theorem NoteEffect.change {store : AckStore} {result : Except HandledCursorError Unit × AckStore}
    (effect : NoteEffect store result) : Change store result.2 := by
  cases effect with
  | failed => exact .same
  | noted change => exact change

/-- Every call changes the store in at most two steps. -/
theorem after_changes (store : AckStore) (call : Call) :
    ∃ middle, Change store middle ∧ Change middle (store.after call) := by
  cases call with
  | noteClaimed signalId => exact ⟨_, .same, (store.noteClaimed_effect signalId).change⟩
  | noteDelivered signalId delivered drainSnapshot =>
      exact ⟨_, .same, (store.noteDelivered_effect signalId delivered drainSnapshot).change⟩
  | requireReturnCompletedBeforeHandled signalId =>
      exact ⟨_, .same, (store.requireReturnCompleted_effect signalId).change⟩
  | noteReturnCompleted signalId =>
      exact ⟨_, .same, (store.noteReturnCompleted_effect signalId).change⟩
  | recordHandled request now =>
      exact ⟨_, .same, (store.recordHandled_effect request now).change⟩
  | rearmFromHandled signalId => exact ⟨_, .same, store.rearmFromHandled_change signalId⟩
  | applyHandledRequest request now => exact store.applyHandledRequest_changes request now

/-- A call keeps a store orderly. -/
theorem after_orderly {store : AckStore} (orderly : store.Orderly) (call : Call) :
    (store.after call).Orderly := by
  obtain ⟨middle, early, late⟩ := store.after_changes call
  exact late.orderly (early.orderly orderly)

/-- A call only takes a store onward. -/
theorem after_onward {store : AckStore} (orderly : store.Orderly) (call : Call) :
    store.Onward (store.after call) := by
  obtain ⟨middle, early, late⟩ := store.after_changes call
  exact (early.onward orderly).trans (late.onward (early.orderly orderly))

/-- A fresh store is orderly. -/
theorem fresh_orderly (arm : Option KnownArm) : (fresh arm).Orderly where
  single first second batch other stored := by simp [fresh] at stored
  current id batch stored := by simp [fresh] at stored
  handled id batch cursor stored := by simp [fresh] at stored
  accepted key entry reply stored := by simp [fresh] at stored
  valid key entry stored := by simp [fresh] at stored

/-- Order is kept by every run. -/
theorem run_orderly {store : AckStore} (orderly : store.Orderly) (calls : List Call) :
    (Transition.run after store calls).Orderly :=
  Transition.invariant_run Orderly (fun _ call ordered => after_orderly ordered call) orderly
    calls

/-- No run takes anything back. -/
theorem run_onward {store : AckStore} (orderly : store.Orderly) (calls : List Call) :
    store.Onward (Transition.run after store calls) := by
  induction calls generalizing store with
  | nil => exact onward_refl store
  | cons call rest inductionHypothesis =>
      exact (after_onward orderly call).trans (inductionHypothesis (after_orderly orderly call))

end AckStore
end Waiter
end Gearwit
