import Gearwit.Waiter.Attempts

/-!
# Lossy pages wait for a visible receipt

A page that lost content is claimed with a hold on its batch.  The hold is released
by the note of a result that was recorded against the delivery sent last, and an
acknowledgement is accepted for a released batch only.
-/

namespace Gearwit
namespace Waiter

/-- A completed return was recorded for the signal. -/
def Receipted (trace : List Observation) (signalId : String) : Prop :=
  ∃ report, Recorded trace report ∧ report.outcome = "return_completed" ∧
    report.signalId = signalId

/-- A receipt stays in the trace. -/
theorem Receipted.grow {trace : List Observation} {signalId : String}
    (receipted : Receipted trace signalId) (recent : List Observation) :
    Receipted (recent ++ trace) signalId := by
  obtain ⟨report, recorded, named⟩ := receipted
  exact ⟨report, recorded.grow recent, named⟩

/-! ## Holds of the batches -/

namespace AckStore

/-- Whether a batch requires a receipt, and whether it has one. -/
def visibility (store : AckStore) (id : String) : Option (Bool × Bool) :=
  store.signals[id]?.map fun batch => (batch.requireReturnCompleted, batch.returnCompleted)

/-- Holds are read off the batches. -/
theorem visibility_of_signals {before after : AckStore} (same : after.signals = before.signals) :
    after.visibility = before.visibility := by
  funext id
  rw [visibility, visibility, same]

/-- The hold of a stored batch. -/
theorem visibility_of_stored {store : AckStore} {id : String} {batch : SignalBatch}
    (stored : store.signals[id]? = some batch) :
    store.visibility id = some (batch.requireReturnCompleted, batch.returnCompleted) := by
  rw [visibility, stored, Option.map_some]

/-- A return is required exactly while the hold is set and not released. -/
theorem requires_eq (store : AckStore) (id : String) :
    store.requiresReturnCompletedBeforeHandled id =
      (store.visibility id).any fun hold => hold.1 && !hold.2 := by
  rw [requiresReturnCompletedBeforeHandled, visibility, Option.any_map]
  rfl

/-- The holds after one batch is written. -/
theorem visibility_insert (store : AckStore) (signalId : String) (batch : SignalBatch)
    (arm : Option KnownArm) (history : BTreeMap String HistoryEntry) (id : String) :
    (⟨arm, store.signals.insert signalId batch, history⟩ : AckStore).visibility id =
      if signalId = id then some (batch.requireReturnCompleted, batch.returnCompleted)
      else store.visibility id := by
  simp only [visibility, BTreeMap.getElem?_insert_eq]
  split <;> rfl

/-- Writing a batch that keeps its hold keeps every hold. -/
private theorem visibility_rewritten {before after : AckStore} {signalId : String}
    {existing batch : SignalBatch}
    (signals : after.signals = before.signals.insert signalId batch)
    (stored : before.signals[signalId]? = some existing)
    (required : batch.requireReturnCompleted = existing.requireReturnCompleted)
    (returned : batch.returnCompleted = existing.returnCompleted) :
    after.visibility = before.visibility := by
  funext id
  rw [visibility, signals, BTreeMap.getElem?_insert_eq]
  split
  · rename_i named
    rw [← named, visibility_of_stored stored, Option.map_some, required, returned]
  · rfl

/-- A delivery keeps every hold. -/
theorem noteDelivered_visibility {store : AckStore} {signalId : String}
    {existing : SignalBatch} (stored : store.signals[signalId]? = some existing)
    (delivered drainSnapshot : List String) :
    (store.noteDelivered signalId delivered drainSnapshot).2.visibility = store.visibility ∧
      (store.noteDelivered signalId delivered drainSnapshot).2.arm = store.arm := by
  rcases noteDelivered_cases stored delivered drainSnapshot with same | ⟨_, _, same⟩
  · rw [same]
    exact ⟨rfl, rfl⟩
  · rw [same]
    exact ⟨visibility_rewritten rfl stored rfl rfl, rfl⟩

/-- An accepted request keeps every hold. -/
theorem accepting_visibility [Rfc3339] {store : AckStore} {message : HandledRequest}
    {arm : KnownArm} {batch : SignalBatch}
    (acceptable : store.Acceptable message arm batch) (now : OffsetDateTime) :
    (store.accepting message now arm batch).visibility = store.visibility :=
  visibility_rewritten rfl acceptable.stored rfl rfl

end AckStore

/-- A result keeps every hold, or releases the one of the signal a completed return
names. -/
theorem updateAckVisibility_visibility (store : AckStore) (result : WaiterLink) :
    (updateAckVisibilityAfterResult store result).visibility = store.visibility ∨
      ∃ report returned, result = .deliveryResult report ∧
        report.outcome = "return_completed" ∧
        store.visibility report.signalId = some (true, returned) ∧
        ∀ id, (updateAckVisibilityAfterResult store result).visibility id =
          if report.signalId = id then some (true, true) else store.visibility id := by
  cases result with
  | deliveryResult report =>
      simp only [updateAckVisibilityAfterResult]
      split
      · rename_i completed
        rcases store.noteReturnCompleted_cases report.signalId with
          same | ⟨batch, stored, required, same⟩
        · exact Or.inl (by rw [same])
        · refine Or.inr ⟨report, batch.returnCompleted, rfl, completed, ?_, fun id => ?_⟩
          · rw [AckStore.visibility_of_stored stored, required]
          · rw [same, AckStore.visibility_insert, required]
      · exact Or.inl rfl
  | _ => exact Or.inl rfl

/-- Observations that concern the batches of the store. -/
def Observation.registers : Observation → Bool
  | .claimed _ _ | .accepted _ _ => true
  | _ => false

/-- What concerns neither a frame nor a batch does not concern a batch. -/
theorem Observation.registers_of_plain {observation : Observation}
    (plain : observation.plain = true) : observation.registers = false := by
  cases observation <;> first | rfl | cases plain

namespace Daemon

/-- What a move does to the holds. -/
inductive AckMove (before : Daemon) (recent : List Observation) (after : Daemon) : Prop
  | quiet (arm : after.acks.arm = before.acks.arm)
      (visibility : after.acks.visibility = before.acks.visibility)
      (silent : ∀ observation ∈ recent, observation.registers = false)
  | accepted {message : HandledRequest} {arm : KnownArm} {batch : SignalBatch}
      (acceptable : before.acks.Acceptable message arm batch)
      (visibility : after.acks.visibility = before.acks.visibility)
      (shown : recent = [.accepted message.signalId message.cursor])
  | released {report : DeliveryResult} {returned : Bool}
      (arm : after.acks.arm = before.acks.arm)
      (standing : before.phase = .noting (.deliveryResult report))
      (completed : report.outcome = "return_completed")
      (required : before.acks.visibility report.signalId = some (true, returned))
      (visibility : ∀ id, after.acks.visibility id =
        if report.signalId = id then some (true, true) else before.acks.visibility id)
      (shown : recent = [])
  | claimed {live : SignalClaim} {lossy : Bool} {older : List Observation}
      (arm : after.acks.arm = before.acks.arm)
      (fresh : before.acks.visibility live.signalId = none)
      (visibility : ∀ id, after.acks.visibility id =
        if live.signalId = id then some (lossy, false) else before.acks.visibility id)
      (shown : recent = .claimed live lossy :: older)
      (silent : ∀ observation ∈ older, observation.registers = false)

variable [Rfc3339]

/-- A page that was claimed enters the store under a new signal. -/
private theorem ackMove_claimed [UnicodeSegmentation] [UlidSupply] {before after : Daemon}
    (clear : before.Clear) {request : IngestRequest} {events : List DrainedEvent}
    {pipe : DaemonPipe} {acks : AckStore} (claimed : before.Claimed request events pipe acks)
    (same : after.acks = acks) {older : List Observation}
    (silent : ∀ observation ∈ older, observation.registers = false) :
    before.AckMove
      (.claimed (freshClaim request events (UlidSupply.text before.minted))
        (events.any fun event => event.localLoss.isSome) :: older) after := by
  refine .claimed ?_ ?_ (fun id => ?_) rfl silent
  · rw [same, claimed.acks_eq]
  · have absent := clear.numbered.fresh le_rfl
    show before.acks.visibility (UlidSupply.text before.minted) = none
    rw [AckStore.visibility, absent, Option.map_none]
  · rw [same, claimed.acks_eq, AckStore.visibility_insert]
    rfl

/-- Every move is one of these for the holds. -/
theorem step_ackMove [UnicodeSegmentation] [UlidSupply] {daemon : Daemon} (sane : daemon.Sane)
    (move : Move) :
    ∃ recent, (daemon.step move).trace = recent ++ daemon.trace ∧
      daemon.AckMove recent (daemon.step move) := by
  have effect := step_effect sane move
  generalize daemon.step move = after at effect ⊢
  cases effect with
  | aside recent _ acks trace plain | moved recent _ _ acks trace plain =>
      exact ⟨recent, trace, .quiet (by rw [acks]) (by rw [acks]) fun observation member =>
        Observation.registers_of_plain (plain observation member)⟩
  | linked _ _ same =>
      subst same
      exact ⟨[], rfl, .quiet rfl rfl (List.forall_mem_nil _)⟩
  | @wrote writeOk connection message live delivered _ _ claimed acks trace =>
      obtain ⟨_, existing, stored⟩ := sane.custody.known claimed
      obtain ⟨visibility, arm⟩ :=
        AckStore.noteDelivered_visibility stored delivered live.eventRefs
      exact ⟨[.wrote connection message], trace, .quiet (by rw [acks]; exact arm)
        (by rw [acks]; exact visibility) (by simp [Observation.registers])⟩
  | recorded _ arm signals trace =>
      exact ⟨[], trace, .quiet arm (AckStore.visibility_of_signals signals)
        (List.forall_mem_nil _)⟩
  | @accepted message instant arm batch _ acceptable acks trace =>
      refine ⟨[_], trace, .accepted acceptable ?_ rfl⟩
      rw [acks]
      exact AckStore.accepting_visibility acceptable instant
  | @noted result _ standing _ acks trace =>
      have arm : after.acks.arm = daemon.acks.arm := by
        rw [acks]
        exact (updateAckVisibility_alike daemon.acks result).arm
      refine ⟨[], trace, ?_⟩
      rcases updateAckVisibility_visibility daemon.acks result with
        same | ⟨report, returned, rfl, completed, required, released⟩
      · exact .quiet arm (by rw [acks]; exact same) (List.forall_mem_nil _)
      · exact .released arm standing completed required (by rw [acks]; exact released) rfl
  | claimed older _ _ clear claimed trace plain =>
      exact ⟨_ :: older, trace, ackMove_claimed clear claimed rfl fun observation member =>
        Observation.registers_of_plain (plain observation member)⟩

/-! ## The invariant -/

/-- The hold of every claim is set for lossy pages only, and released only after a
completed return was recorded. -/
structure Held (daemon : Daemon) : Prop where
  claims : ∀ live lossy, Observation.claimed live lossy ∈ daemon.trace →
    ∃ returned, daemon.acks.visibility live.signalId = some (lossy, returned)
  released : ∀ id required, daemon.acks.visibility id = some (required, true) →
    Receipted daemon.trace id
  accepted : ∀ newer older id cursor, daemon.trace = newer ++ .accepted id cursor :: older →
    ∃ required returned, daemon.acks.visibility id = some (required, returned) ∧
      (required = true → Receipted older id)

omit [Rfc3339] in
/-- A daemon starts with nothing held. -/
theorem start_held (armId seatId : String) (coverageUntil : OffsetDateTime)
    (spec : WaitOnSpec) (initial : String) (log : List Json) :
    (Daemon.start armId seatId coverageUntil spec initial log).Held where
  claims live lossy member := by
    cases member with
    | tail _ member => cases member
  released id required present := by
    simp [Daemon.start, AckStore.withArm, AckStore.visibility] at present
  accepted newer older id cursor split := by
    cases newer with
    | nil => cases split
    | cons head newer =>
        cases newer <;> cases split

omit [Rfc3339] in
/-- An acceptance that is not recent was there before. -/
private theorem split_of_silent {recent trace newer older : List Observation}
    {id cursor : String}
    (silent : Observation.accepted id cursor ∉ recent)
    (split : recent ++ trace = newer ++ .accepted id cursor :: older) :
    ∃ earlier, trace = earlier ++ .accepted id cursor :: older := by
  induction recent generalizing newer with
  | nil => exact ⟨newer, split⟩
  | cons observation rest inductionHypothesis =>
      cases newer with
      | nil =>
          cases split
          exact absurd List.mem_cons_self silent
      | cons head newer =>
          exact inductionHypothesis (fun member => silent (List.mem_cons_of_mem _ member))
            (List.cons.inj split).2

/-- Every move keeps the holds. -/
theorem step_held [UnicodeSegmentation] [UlidSupply] {daemon : Daemon} (sane : daemon.Sane)
    (prompt : daemon.Prompt) (held : daemon.Held) (move : Move) : (daemon.step move).Held := by
  obtain ⟨recent, shown, moved⟩ := step_ackMove sane move
  generalize daemon.step move = after at shown moved
  cases moved with
  | quiet arm visibility silent =>
      have absent {observation : Observation} (registers : observation.registers = true) :
          observation ∉ recent := fun member => by
        rw [silent observation member] at registers
        cases registers
      refine ⟨fun live lossy member => ?_, fun id required present => ?_,
        fun newer older id cursor split => ?_⟩
      · rw [shown, List.mem_append] at member
        rw [visibility]
        exact held.claims live lossy (member.resolve_left (absent rfl))
      · rw [visibility] at present
        rw [shown]
        exact (held.released id required present).grow recent
      · rw [shown] at split
        obtain ⟨earlier, same⟩ := split_of_silent (absent rfl) split
        rw [visibility]
        exact held.accepted earlier older id cursor same
  | @accepted message arm batch acceptable visibility only =>
      subst only
      refine ⟨fun live lossy member => ?_, fun id required present => ?_,
        fun newer older id cursor split => ?_⟩
      · rw [shown, List.mem_append] at member
        rw [visibility]
        exact held.claims live lossy (member.resolve_left (by simp))
      · rw [visibility] at present
        rw [shown]
        exact (held.released id required present).grow _
      · rw [shown] at split
        rw [visibility]
        cases newer with
        | nil =>
            cases split
            refine ⟨batch.requireReturnCompleted, batch.returnCompleted,
              AckStore.visibility_of_stored acceptable.stored, fun required => ?_⟩
            have released := acceptable.released
            rw [SignalBatch.held, required, Bool.true_and, Bool.not_eq_false'] at released
            refine held.released message.signalId batch.requireReturnCompleted ?_
            rw [AckStore.visibility_of_stored acceptable.stored, released]
        | cons head newer => exact held.accepted newer older id cursor (List.cons.inj split).2
  | @released report returned arm standing completed required visibility only =>
      subst only
      rw [List.nil_append] at shown
      have receipted : Receipted after.trace report.signalId := by
        rw [shown]
        exact ⟨report, prompt.noted report standing, completed, rfl⟩
      refine ⟨fun live lossy member => ?_, fun id needed present => ?_,
        fun newer older id cursor split => ?_⟩
      · rw [shown] at member
        obtain ⟨earlier, same⟩ := held.claims live lossy member
        rw [visibility]
        split
        · rename_i named
          rw [← named, required] at same
          cases same
          exact ⟨true, rfl⟩
        · exact ⟨earlier, same⟩
      · rw [visibility] at present
        split at present
        · rename_i named
          exact named ▸ receipted
        · rw [shown]
          exact held.released id needed present
      · rw [shown] at split
        obtain ⟨needed, earlier, same, receipt⟩ := held.accepted newer older id cursor split
        rw [visibility]
        split
        · rename_i named
          rw [← named, required] at same
          cases same
          exact ⟨true, true, rfl, receipt⟩
        · exact ⟨needed, earlier, same, receipt⟩
  | @claimed live lossy rest arm fresh visibility first silent =>
      have other {id : String} {present : Bool × Bool}
          (known : daemon.acks.visibility id = some present) : live.signalId ≠ id := fun named => by
        rw [← named, fresh] at known
        cases known
      refine ⟨fun claim loss member => ?_, fun id required present => ?_,
        fun newer older id cursor split => ?_⟩
      · rw [shown, first, List.cons_append, List.mem_cons, List.mem_append] at member
        rw [visibility]
        rcases member with new | silently | old
        · cases new
          exact ⟨false, if_pos rfl⟩
        · cases silent _ silently
        · obtain ⟨earlier, same⟩ := held.claims claim loss old
          exact ⟨earlier, by rw [if_neg (other same)]; exact same⟩
      · rw [visibility] at present
        split at present
        · cases present
        · rw [shown]
          exact (held.released id required present).grow recent
      · rw [shown] at split
        have absent : Observation.accepted id cursor ∉ recent := fun member => by
          rw [first] at member
          rcases List.mem_cons.1 member with same | later
          · cases same
          · cases silent _ later
        obtain ⟨earlier, same⟩ := split_of_silent absent split
        obtain ⟨needed, returned, known, receipt⟩ := held.accepted earlier older id cursor same
        exact ⟨needed, returned, by rw [visibility, if_neg (other known)]; exact known, receipt⟩

end Daemon

variable [Rfc3339] [UnicodeSegmentation] [UlidSupply]

/-- In every run: an acknowledgement of a lossy page is accepted only after a completed
return was recorded for the delivery that was sent last; the generation rises only with
an accepted acknowledgement; a hold is released only by the note of such a return; and
a page without loss is never held. -/
theorem lossy_page_needs_receipt (armId seatId : String) (coverageUntil : OffsetDateTime)
    (spec : WaitOnSpec) (initial : String) (log : List Json) (moves : List Move) :
    let daemon := Transition.run Daemon.step
      (Daemon.start armId seatId coverageUntil spec initial log) moves
    (∀ newer older live cursor, Observation.claimed live true ∈ daemon.trace →
      daemon.trace = newer ++ .accepted live.signalId cursor :: older →
        Receipted older live.signalId) ∧
    (∀ move, (daemon.step move).acks.arm ≠ daemon.acks.arm →
      ∃ signalId cursor, (daemon.step move).trace =
        .accepted signalId cursor :: daemon.trace) ∧
    (∀ move signalId, daemon.acks.requiresReturnCompletedBeforeHandled signalId = true →
      (daemon.step move).acks.requiresReturnCompletedBeforeHandled signalId = false →
        ∃ report, daemon.phase = .noting (.deliveryResult report) ∧
          Recorded daemon.trace report ∧ report.outcome = "return_completed" ∧
          report.signalId = signalId) ∧
    ∀ live, Observation.claimed live false ∈ daemon.trace →
      daemon.acks.requiresReturnCompletedBeforeHandled live.signalId = false := by
  intro daemon
  obtain ⟨sane, _, prompt, held⟩ := Transition.invariant_run
    (fun daemon : Daemon => daemon.Sane ∧ daemon.Linked ∧ daemon.Prompt ∧ daemon.Held)
    (fun daemon move ⟨sane, linked, prompt, held⟩ =>
      ⟨Daemon.step_sane sane move, Daemon.step_linked sane linked move,
        Daemon.step_prompt sane linked prompt move, Daemon.step_held sane prompt held move⟩)
    ⟨Daemon.start_sane armId seatId coverageUntil spec initial log,
      Daemon.start_linked armId seatId coverageUntil spec initial log,
      Daemon.start_prompt armId seatId coverageUntil spec initial log,
      Daemon.start_held armId seatId coverageUntil spec initial log⟩ moves
  refine ⟨?_, ?_, ?_, ?_⟩
  · intro newer older live cursor claimed split
    obtain ⟨returned, known⟩ := held.claims live true claimed
    obtain ⟨required, _, same, receipt⟩ := held.accepted newer older live.signalId cursor split
    rw [known, Option.some.injEq, Prod.mk.injEq] at same
    exact receipt same.1.symm
  · intro move bumped
    obtain ⟨recent, shown, moved⟩ := Daemon.step_ackMove sane move
    cases moved with
    | quiet arm | released arm | claimed arm => exact absurd arm bumped
    | accepted acceptable visibility only =>
        rw [only] at shown
        exact ⟨_, _, shown⟩
  · intro move signalId before after
    rw [AckStore.requires_eq] at before after
    obtain ⟨recent, shown, moved⟩ := Daemon.step_ackMove sane move
    cases moved with
    | quiet arm visibility | accepted acceptable visibility =>
        rw [visibility, before] at after
        cases after
    | @released report returned arm standing completed required visibility =>
        rw [visibility] at after
        split at after
        · rename_i named
          exact ⟨report, standing, prompt.noted report standing, completed, named⟩
        · rw [before] at after
          cases after
    | claimed arm fresh visibility =>
        rw [visibility] at after
        split at after
        · rename_i named
          rw [← named, fresh] at before
          cases before
        · rw [before] at after
          cases after
  · intro live claimed
    obtain ⟨returned, known⟩ := held.claims live false claimed
    rw [AckStore.requires_eq, known]
    rfl

end Waiter
end Gearwit
