import Gearwit.Waiter.Loop

/-!
# What the acknowledgement store allows

Each operation of the store either leaves the batches as they are or changes one
batch in one way.  A request is accepted only for an open delivered batch, which
it closes, and the replay of an accepted request never rearms again.
-/

namespace Gearwit
namespace Waiter
namespace AckStore

/-- Every batch of the store is closed. -/
def AllClosed (store : AckStore) : Prop :=
  ∀ (id : String) batch, store.signals[id]? = some batch → batch.closed = true

/-- What the history guarantees: an accepted request named a batch that is closed
now, and every generation past the first cost one remembered request. -/
structure Remembers (store : AckStore) : Prop where
  acceptedClosed : ∀ (key : String) entry message, store.history[key]? = some entry →
    entry.reply = .accepted message →
      ∃ batch, store.signals[message.signalId]? = some batch ∧ batch.closed = true
  bounded : store.history.size ≤ historyCap
  generation : ∀ arm, store.arm = some arm → arm.generation ≤ store.history.size + 1

/-- A store with its first arm remembers nothing false. -/
theorem remembers_withArm {arm : KnownArm} (first : arm.generation = 1) :
    Remembers (withArm arm) where
  acceptedClosed key entry message stored := by simp [withArm] at stored
  bounded := by simp [withArm]
  generation other bound := by
    cases bound
    simp [withArm, first]

/-- What an acknowledgement looks at in a batch, besides its hold. -/
structure BatchView where
  generation : Nat
  closed : Bool
  delivered : List String

/-- The batches as an acknowledgement sees them. -/
def view (store : AckStore) (id : String) : Option BatchView :=
  store.signals[id]?.map fun batch => ⟨batch.generation, batch.closed, batch.delivered⟩

/-- All batches are closed exactly if each that can be seen is. -/
theorem allClosed_iff (store : AckStore) :
    store.AllClosed ↔ ∀ id batch, store.view id = some batch → batch.closed = true := by
  constructor
  · intro closed id batch viewed
    obtain ⟨stored, present, rfl⟩ := Option.map_eq_some_iff.1 viewed
    exact closed id stored present
  · intro closed id batch stored
    exact closed id ⟨batch.generation, batch.closed, batch.delivered⟩ (by simp [view, stored])

/-- The view after one batch is written. -/
theorem view_insert (store : AckStore) (signalId : String) (batch : SignalBatch)
    (arm : Option KnownArm) (history : BTreeMap String HistoryEntry) (id : String) :
    (⟨arm, store.signals.insert signalId batch, history⟩ : AckStore).view id =
      if signalId = id then some ⟨batch.generation, batch.closed, batch.delivered⟩
      else store.view id := by
  simp only [view, BTreeMap.getElem?_insert_eq]
  split <;> rfl

/-- Closed batches leave no open signal. -/
theorem openSignal_of_allClosed {store : AckStore} (closed : store.AllClosed) (arm : KnownArm) :
    store.openSignal arm = none := by
  refine List.find?_eq_none.2 fun entry member => ?_
  obtain ⟨id, batch⟩ := entry
  have stored := Std.ExtTreeMap.mem_toList_iff_getElem?_eq_some.1 member
  simp [closed id batch stored]

/-- Closed batches conflict with no signal. -/
theorem conflicting_of_allClosed {store : AckStore} (closed : store.AllClosed) (arm : KnownArm)
    (signalId : String) : store.conflicting arm signalId = false := by
  simp [conflicting, openSignal_of_allClosed closed]

/-! ## Claims and deliveries -/

/-- A new signal is registered when every batch is closed. -/
theorem noteClaimed_fresh {store : AckStore} {arm : KnownArm} {signalId : String}
    (bound : store.arm = some arm) (closed : store.AllClosed)
    (fresh : store.signals[signalId]? = none) :
    store.noteClaimed signalId =
      (.ok (), { store with
        signals := store.signals.insert signalId (claimedBatch arm) }) := by
  simp [noteClaimed, bound, conflicting_of_allClosed closed, fresh]

/-- A registered signal that was not delivered yet can be held. -/
theorem requireReturnCompleted_claimed {store : AckStore} {arm : KnownArm} {signalId : String} :
    ({ store with signals := store.signals.insert signalId (claimedBatch arm) } :
        AckStore).requireReturnCompletedBeforeHandled signalId =
      (.ok (), { store with
        signals := store.signals.insert signalId
          { claimedBatch arm with requireReturnCompleted := true } }) := by
  have twice : (store.signals.insert signalId (claimedBatch arm)).insert signalId
      { claimedBatch arm with requireReturnCompleted := true } =
        store.signals.insert signalId
          { claimedBatch arm with requireReturnCompleted := true } := by
    refine Std.ExtTreeMap.ext_getElem? fun probe => ?_
    simp only [BTreeMap.getElem?_insert_eq]
    split <;> rfl
  simp only [requireReturnCompletedBeforeHandled, BTreeMap.getElem?_insert_same]
  rw [if_neg (by simp [claimedBatch]), twice]

/-- Noting the delivery of a known signal leaves the store, or fills its open batch. -/
theorem noteDelivered_cases {store : AckStore} {signalId : String} {existing : SignalBatch}
    (known : store.signals[signalId]? = some existing)
    (delivered drainSnapshot : List String) :
    (store.noteDelivered signalId delivered drainSnapshot).2 = store ∨
      (existing.closed = false ∧ delivered ≠ [] ∧
        (store.noteDelivered signalId delivered drainSnapshot).2 =
          { store with
            signals := store.signals.insert signalId
              { existing with
                delivered, drainSnapshot
                afterBound := drainSnapshot.drop delivered.length } }) := by
  unfold noteDelivered
  simp only [known]
  split
  · exact Or.inl rfl
  split
  · exact Or.inl rfl
  rename_i filled
  split
  · exact Or.inl rfl
  split
  · exact Or.inl rfl
  split
  · rename_i unfilled
    simp only [Bool.and_eq_true, Bool.not_eq_true'] at unfilled
    exact Or.inr ⟨unfilled.1.2, by simpa using filled, rfl⟩
  split
  · exact Or.inl rfl
  · exact Or.inl rfl

/-- A receipt leaves the store, or releases the hold of one delivered batch. -/
theorem noteReturnCompleted_cases (store : AckStore) (signalId : String) :
    (store.noteReturnCompleted signalId).2 = store ∨
      ∃ batch, store.signals[signalId]? = some batch ∧
        batch.requireReturnCompleted = true ∧
        (store.noteReturnCompleted signalId).2 =
          { store with
            signals := store.signals.insert signalId { batch with returnCompleted := true } } := by
  unfold noteReturnCompleted
  split
  · exact Or.inl rfl
  · rename_i batch stored
    split_ifs with blank required
    · exact Or.inl rfl
    · exact Or.inr ⟨batch, stored, required, rfl⟩
    · exact Or.inl rfl

/-! ## Acknowledgements -/

variable [Rfc3339]

/-- What a newly accepted request found: the arm it names, and an open delivered
batch of its generation that is not held and contains its cursor. -/
structure Acceptable (store : AckStore) (message : HandledRequest) (arm : KnownArm)
    (batch : SignalBatch) : Prop where
  bound : store.arm = some arm
  armId : arm.armId = message.armId
  generation : message.generation = arm.generation
  stored : store.signals[message.signalId]? = some batch
  opened : batch.closed = false
  current : batch.generation = arm.generation
  released : batch.held = false
  delivered : message.cursor ∈ batch.delivered

/-- Everything a decision checks: besides what is acceptable, the seat, the bound of
the delivered events, and that the cursor is not behind the handled one. -/
structure Passes (store : AckStore) (message : HandledRequest) (arm : KnownArm)
    (batch : SignalBatch) : Prop extends Acceptable store message arm batch where
  seat : arm.seatId = message.seatId
  bounded : message.cursor ∉ batch.afterBound
  forward : ∀ handled, batch.handled = some handled → handled ∈ batch.delivered →
    batch.delivered.idxOf handled ≤ batch.delivered.idxOf message.cursor

/-- A decision accepts exactly what passes every check; it changes nothing
otherwise. -/
theorem decide_outcome {store : AckStore} {message : HandledRequest} {now : OffsetDateTime}
    {outcome : HandledCursor × AckStore} (decided : store.decide message now = outcome) :
    ((∀ arm batch, ¬ store.Passes message arm batch) ∧
        ∃ code, outcome = (rejected message code now, store)) ∨
      ∃ arm batch, store.Passes message arm batch ∧
        outcome = (acceptance message now, { store with
          signals := store.signals.insert message.signalId
            { batch with handled := some message.cursor } }) := by
  unfold decide at decided
  split at decided
  · rename_i unbound
    exact Or.inl ⟨fun arm batch passes => by simpa [unbound] using passes.bound,
      _, decided.symm⟩
  rename_i arm bound
  have armed : ∀ other batch, store.Passes message other batch → other = arm :=
    fun other batch passes => by simpa [bound, eq_comm] using passes.bound
  split at decided
  · rename_i misnamed
    exact Or.inl ⟨fun other batch passes =>
      misnamed (armed other batch passes ▸ passes.armId), _, decided.symm⟩
  rename_i named
  split at decided
  · rename_i misplaced
    exact Or.inl ⟨fun other batch passes =>
      misplaced (armed other batch passes ▸ passes.seat), _, decided.symm⟩
  rename_i seated
  split at decided
  · rename_i outdated
    exact Or.inl ⟨fun other batch passes =>
      outdated (armed other batch passes ▸ passes.generation), _, decided.symm⟩
  rename_i current
  split at decided
  · rename_i unknown
    exact Or.inl ⟨fun other batch passes => by simpa [unknown] using passes.stored,
      _, decided.symm⟩
  rename_i batch stored
  have same : ∀ other found, store.Passes message other found → found = batch :=
    fun other found passes => by simpa [stored, eq_comm] using passes.stored
  split at decided
  · rename_i shut
    refine Or.inl ⟨fun other found passes => ?_, _, decided.symm⟩
    have opened := passes.opened
    have living := passes.current
    rw [same other found passes] at opened living
    rw [armed other found passes] at living
    simp [opened, living] at shut
  rename_i opened
  split at decided
  · rename_i blank
    refine Or.inl ⟨fun other found passes => ?_, _, decided.symm⟩
    have delivered := passes.delivered
    rw [same other found passes, List.isEmpty_iff.1 blank] at delivered
    cases delivered
  split at decided
  · rename_i held
    refine Or.inl ⟨fun other found passes => ?_, _, decided.symm⟩
    have released := passes.released
    rw [same other found passes, held] at released
    cases released
  rename_i released
  split at decided
  · rename_i beyond
    refine Or.inl ⟨fun other found passes => ?_, _, decided.symm⟩
    have bounded := passes.bounded
    rw [same other found passes] at bounded
    exact bounded (by simpa using beyond)
  rename_i bounded
  split at decided
  · rename_i foreign
    refine Or.inl ⟨fun other found passes => ?_, _, decided.symm⟩
    have delivered := passes.delivered
    rw [same other found passes] at delivered
    simp [delivered] at foreign
  rename_i member
  split at decided
  · rename_i behind
    refine Or.inl ⟨fun other found passes => ?_, _, decided.symm⟩
    have forward := passes.forward
    rw [same other found passes] at forward
    obtain ⟨handled, recorded, back⟩ := (Option.any_eq_true _ _).1 behind
    simp only [Bool.and_eq_true, List.contains_iff_mem, Nat.blt_eq] at back
    have onward := forward handled recorded back.1
    omega
  rename_i forward
  simp only [Bool.or_eq_true, bne_iff_ne, ne_eq, not_or, not_not,
    Bool.not_eq_true] at opened
  refine Or.inr ⟨arm, batch,
    ⟨⟨bound, ?_, ?_, stored, opened.1, opened.2, ?_, ?_⟩, ?_, ?_, ?_⟩, decided.symm⟩
  · simpa using named
  · simpa using current
  · simpa using released
  · simpa using member
  · simpa using seated
  · simpa using bounded
  · intro handled recorded present
    by_contra back
    refine forward ((Option.any_eq_true _ _).2 ⟨handled, recorded, ?_⟩)
    simp only [Bool.and_eq_true, List.contains_iff_mem, Nat.blt_eq]
    exact ⟨present, by omega⟩

/-- A decision rejects and changes nothing, or accepts an acceptable request. -/
theorem decide_cases {store : AckStore} {message : HandledRequest} {now : OffsetDateTime}
    {outcome : HandledCursor × AckStore} (decided : store.decide message now = outcome) :
    (∃ code, outcome = (rejected message code now, store)) ∨
      ∃ arm batch, store.Acceptable message arm batch ∧
        outcome = (acceptance message now, { store with
          signals := store.signals.insert message.signalId
            { batch with handled := some message.cursor } }) := by
  rcases decide_outcome decided with ⟨_, refused⟩ | ⟨arm, batch, passes, accepted⟩
  · exact Or.inl refused
  · exact Or.inr ⟨arm, batch, passes.toAcceptable, accepted⟩

omit [Rfc3339] in
/-- A closed batch is never rearmed from. -/
theorem rearmFromHandled_closed {store : AckStore} {signalId : String} {batch : SignalBatch}
    (stored : store.signals[signalId]? = some batch) (closed : batch.closed = true) :
    ∃ error, store.rearmFromHandled signalId = (.error error, store) := by
  unfold rearmFromHandled
  split
  · exact ⟨_, rfl⟩
  · rw [stored]
    simp only
    split_ifs
    · exact ⟨_, rfl⟩
    split
    · exact ⟨_, rfl⟩
    · exact ⟨_, rfl⟩

/-- The store after an accepted request. -/
def accepting (store : AckStore) (message : HandledRequest) (now : OffsetDateTime)
    (arm : KnownArm) (batch : SignalBatch) : AckStore where
  arm := some { arm with generation := arm.generation + 1 }
  signals := store.signals.insert message.signalId
    { batch with handled := some message.cursor, closed := true }
  history := store.history.insert message.requestId
    ⟨.request message, acceptance message now⟩

/-- What an acknowledgement does. -/
inductive AckEffect (store : AckStore) (request : HandledCursor) (now : OffsetDateTime) :
    Except HandledCursorError HandledServe × AckStore → Prop
  | unchanged {outcome : Except HandledCursorError HandledServe} {after : AckStore}
      (unarmed : ∀ serve, outcome = .ok serve → serve.rearm = none)
      (unaccepted : newlyAccepted store request now = [])
      (arm_eq : after.arm = store.arm) (signals_eq : after.signals = store.signals)
      (remembers : after.Remembers) : AckEffect store request now (outcome, after)
  | accepted {message : HandledRequest} {arm : KnownArm} {batch : SignalBatch}
      (named : request = .request message) (acceptable : store.Acceptable message arm batch)
      (observed : newlyAccepted store request now =
        [.accepted message.signalId message.cursor])
      (remembers : (store.accepting message now arm batch).Remembers) :
      AckEffect store request now
        (.ok ⟨acceptance message now,
            some ⟨message.cursor, arm.generation + 1, message.signalId⟩⟩,
          store.accepting message now arm batch)

omit [Rfc3339] in
private theorem size_insert_fresh {store : AckStore} {key : String} (entry : HistoryEntry)
    (fresh : store.history[key]? = none) :
    (store.history.insert key entry).size = store.history.size + 1 := by
  have absent : store.history.contains key = false :=
    (BTreeMap.contains_eq_false_iff _ _).2 fresh
  simp [Std.ExtTreeMap.size_insert, absent]

/-- Remembering a rejection. -/
private theorem remembers_rejected {store : AckStore} (sane : store.Remembers) {key : String}
    {request : HandledCursor} {message : HandledRequest} {code : String} {now : OffsetDateTime}
    (fresh : store.history[key]? = none) (room : store.history.size < historyCap) :
    ({ store with
        history := store.history.insert key ⟨request, rejected message code now⟩ } :
      AckStore).Remembers where
  acceptedClosed probe entry other stored replied := by
    simp only [BTreeMap.getElem?_insert_eq] at stored
    split_ifs at stored
    · cases stored
      cases replied
    · exact sane.acceptedClosed probe entry other stored replied
  bounded := by
    simp only [size_insert_fresh _ fresh]
    omega
  generation arm bound := by
    have within := sane.generation arm bound
    simp only [size_insert_fresh _ fresh]
    omega

/-- Remembering an acceptance, with its batch closed and the generation bumped. -/
private theorem remembers_accepting {store : AckStore} (sane : store.Remembers)
    {message : HandledRequest} {arm : KnownArm} {batch : SignalBatch} {now : OffsetDateTime}
    (acceptable : store.Acceptable message arm batch)
    (fresh : store.history[message.requestId]? = none)
    (room : store.history.size < historyCap) :
    (store.accepting message now arm batch).Remembers where
  acceptedClosed probe entry other stored replied := by
    simp only [accepting, BTreeMap.getElem?_insert_eq] at stored ⊢
    split_ifs at stored with same
    · cases stored
      cases replied
      exact ⟨_, if_pos rfl, rfl⟩
    · split_ifs with named
      · exact ⟨_, rfl, rfl⟩
      · exact sane.acceptedClosed probe entry other stored replied
  bounded := by
    simp only [accepting, size_insert_fresh _ fresh]
    omega
  generation bumped bound := by
    have within := sane.generation arm acceptable.bound
    cases bound
    simp only [accepting, size_insert_fresh _ fresh]
    omega

/-- The replay of a remembered request changes nothing and does not rearm. -/
private theorem replay_unchanged {store : AckStore} (sane : store.Remembers) {key : String}
    {entry : HistoryEntry} (stored : store.history[key]? = some entry)
    {request : HandledCursor} {now : OffsetDateTime}
    (recorded : store.recordHandled request now = (.ok entry.reply, store)) :
    (∀ serve, (store.applyHandledRequest request now).1 = .ok serve → serve.rearm = none) ∧
      (store.applyHandledRequest request now).2 = store := by
  unfold applyHandledRequest
  rw [recorded]
  cases reply : entry.reply with
  | request other =>
      exact ⟨fun serve same => by cases same; rfl, rfl⟩
  | rejected other =>
      exact ⟨fun serve same => by cases same; rfl, rfl⟩
  | accepted other =>
      obtain ⟨batch, held, closed⟩ := sane.acceptedClosed key entry other stored reply
      obtain ⟨error, refused⟩ := rearmFromHandled_closed held closed
      simp only [refused]
      split
      · exact ⟨fun serve same => by cases same; rfl, rfl⟩
      · exact ⟨fun serve same => (by cases same), rfl⟩

/-- An accepted decision rearms at once when the generation can rise. -/
theorem rearm_of_decided {store : AckStore}
    {message : HandledRequest} {arm : KnownArm} {batch : SignalBatch} {now : OffsetDateTime}
    (acceptable : store.Acceptable message arm batch)
    (small : ¬ 2 ^ 64 ≤ arm.generation + 1) :
    (⟨store.arm,
        store.signals.insert message.signalId { batch with handled := some message.cursor },
        store.history.insert message.requestId
          ⟨.request message, acceptance message now⟩⟩ : AckStore).rearmFromHandled
          message.signalId =
      (.ok message.cursor, store.accepting message now arm batch) := by
  have twice : (store.signals.insert message.signalId
      { batch with handled := some message.cursor }).insert message.signalId
        { batch with handled := some message.cursor, closed := true } =
      store.signals.insert message.signalId
        { batch with handled := some message.cursor, closed := true } := by
    refine Std.ExtTreeMap.ext_getElem? fun probe => ?_
    simp only [BTreeMap.getElem?_insert_eq]
    split <;> rfl
  have current : ¬ batch.generation ≠ arm.generation := fun differs =>
    differs acceptable.current
  have opened : ¬ batch.closed = true := by simp [acceptable.opened]
  unfold rearmFromHandled
  simp only [acceptable.bound, BTreeMap.getElem?_insert_same]
  rw [if_neg current, if_neg opened, if_neg small, twice]
  rfl

omit [Rfc3339] in
/-- The generation of a store that remembers its acceptances can rise. -/
private theorem generation_small {store : AckStore} (sane : store.Remembers) {arm : KnownArm}
    (bound : store.arm = some arm) (room : store.history.size < historyCap) :
    ¬ 2 ^ 64 ≤ arm.generation + 1 := by
  have within := sane.generation arm bound
  have cap : historyCap = 1024 := rfl
  omega

/-- An acknowledgement of a store that remembers its acceptances is one of the two
effects. -/
theorem recordAck_effect {store : AckStore} (sane : store.Remembers)
    (request : HandledCursor) (now : OffsetDateTime) :
    AckEffect store request now (store.recordAck request now) := by
  cases request with
  | accepted other =>
      exact .unchanged (fun serve same => (by cases same)) rfl rfl rfl sane
  | rejected other =>
      exact .unchanged (fun serve same => (by cases same)) rfl rfl rfl sane
  | request message =>
      unfold recordAck
      cases valid : validateHandled (.request message) with
      | error error =>
          have refused : store.recordHandled (.request message) now = (.error error, store) := by
            simp [recordHandled, valid]
          have applied : store.applyHandledRequest (.request message) now =
              (.error error, store) := by
            simp [applyHandledRequest, refused]
          simp only [applied]
          refine .unchanged (fun serve same => (by cases same)) ?_ rfl rfl sane
          simp [newlyAccepted, refused]
      | ok value =>
          cases remembered : store.history[message.requestId]? with
          | some entry =>
              have silent : newlyAccepted store (.request message) now = [] := by
                simp [newlyAccepted, remembered]
              by_cases same : entry.request = .request message
              · have recorded : store.recordHandled (.request message) now =
                    (.ok entry.reply, store) := by
                  simp [recordHandled, valid, remembered, same]
                obtain ⟨unarmed, kept⟩ := replay_unchanged sane remembered recorded
                rw [show store.applyHandledRequest (.request message) now =
                  ((store.applyHandledRequest (.request message) now).1,
                    (store.applyHandledRequest (.request message) now).2) from rfl]
                exact .unchanged unarmed silent (by rw [kept]) (by rw [kept])
                  (by rw [kept]; exact sane)
              · have refused : store.recordHandled (.request message) now =
                    (.error (.semantic "request_id conflict"), store) := by
                  simp [recordHandled, valid, remembered, same]
                have applied : store.applyHandledRequest (.request message) now =
                    (.error (.semantic "request_id conflict"), store) := by
                  simp [applyHandledRequest, refused]
                simp only [applied]
                exact .unchanged (fun serve same => (by cases same)) silent rfl rfl sane
          | none =>
              by_cases full : historyCap ≤ store.history.size
              · have refused : store.recordHandled (.request message) now =
                    (.error (.semantic "request history full"), store) := by
                  simp [recordHandled, valid, remembered, full]
                have applied : store.applyHandledRequest (.request message) now =
                    (.error (.semantic "request history full"), store) := by
                  simp [applyHandledRequest, refused]
                simp only [applied]
                refine .unchanged (fun serve same => (by cases same)) ?_ rfl rfl sane
                simp [newlyAccepted, refused]
              · have room : store.history.size < historyCap := by omega
                rcases decide_cases (rfl : store.decide message now = _) with
                  ⟨code, decided⟩ | ⟨arm, batch, acceptable, decided⟩
                · have recorded : store.recordHandled (.request message) now =
                      (.ok (rejected message code now), { store with
                        history := store.history.insert message.requestId
                          ⟨.request message, rejected message code now⟩ }) := by
                    simp [recordHandled, valid, remembered, full, decided]
                  have applied : store.applyHandledRequest (.request message) now =
                      (.ok ⟨rejected message code now, none⟩, { store with
                        history := store.history.insert message.requestId
                          ⟨.request message, rejected message code now⟩ }) := by
                    simp [applyHandledRequest, recorded, rejected]
                  simp only [applied]
                  refine .unchanged (fun serve same => by cases same; rfl) ?_ rfl rfl
                    (remembers_rejected sane remembered room)
                  simp [newlyAccepted, recorded, rejected]
                · have recorded : store.recordHandled (.request message) now =
                      (.ok (acceptance message now),
                        ⟨store.arm, store.signals.insert message.signalId
                          { batch with handled := some message.cursor },
                          store.history.insert message.requestId
                            ⟨.request message, acceptance message now⟩⟩) := by
                    simp [recordHandled, valid, remembered, full, decided]
                  have applied : store.applyHandledRequest (.request message) now =
                      (.ok ⟨acceptance message now,
                          some ⟨message.cursor, arm.generation + 1, message.signalId⟩⟩,
                        store.accepting message now arm batch) := by
                    have rearmed : (⟨store.arm, _, _⟩ : AckStore).rearmFromHandled _ =
                        (.ok message.cursor, store.accepting message now arm batch) :=
                      rearm_of_decided acceptable (generation_small sane acceptable.bound room)
                    simp only [applyHandledRequest, recorded]
                    simp only [acceptance] at rearmed ⊢
                    simp [rearmed, accepting, acceptance]
                  simp only [applied]
                  refine .accepted rfl acceptable ?_
                    (remembers_accepting sane acceptable remembered room)
                  simp [newlyAccepted, remembered, recorded, acceptance]

end AckStore
end Waiter
end Gearwit
