import Gearwit.Waiter.Receipts

/-!
# No delivery after an acknowledgement

The accept thread closes a batch as soon as its acknowledgement is accepted; the
main loop learns of it only through the queue.  A flush that runs in between, for
an attach that was queued first, writes the acknowledged batch again.  Runs without
such a flush never write a batch after its acknowledgement.
-/

namespace Gearwit
namespace Waiter

/-- No frame carries a signal that was acknowledged before. -/
def Unrepeated (trace : List Observation) : Prop :=
  ∀ newer older connection message cursor,
    trace = newer ++ .wrote connection message :: older →
      Observation.accepted message.signalId cursor ∉ older

/-- An empty trace repeats nothing. -/
theorem unrepeated_nil : Unrepeated [] := by
  intro newer older connection message cursor split
  cases newer <;> cases split

/-- A trace repeats nothing when its newest frame does not and the rest did not. -/
theorem unrepeated_cons {observation : Observation} {older : List Observation} :
    Unrepeated (observation :: older) ↔
      (∀ connection message cursor, observation = .wrote connection message →
        Observation.accepted message.signalId cursor ∉ older) ∧ Unrepeated older := by
  constructor
  · intro unrepeated
    refine ⟨fun connection message cursor same =>
        unrepeated [] older connection message cursor (by rw [same]; rfl),
      fun newer rest connection message cursor split => ?_⟩
    exact unrepeated (observation :: newer) rest connection message cursor (by rw [split]; rfl)
  · rintro ⟨first, unrepeated⟩ newer rest connection message cursor split
    cases newer with
    | nil =>
        cases split
        exact first connection message cursor rfl
    | cons head newer =>
        cases split
        exact unrepeated newer rest connection message cursor rfl

/-- Observations other than frames do not matter. -/
theorem unrepeated_append {recent older : List Observation}
    (unwritten : ∀ connection message, Observation.wrote connection message ∉ recent) :
    Unrepeated (recent ++ older) ↔ Unrepeated older := by
  induction recent with
  | nil => rfl
  | cons observation rest inductionHypothesis =>
      rw [List.cons_append, unrepeated_cons, inductionHypothesis fun connection message member =>
        unwritten connection message (List.mem_cons_of_mem _ member)]
      refine ⟨And.right, fun kept => ⟨fun connection message cursor same => ?_, kept⟩⟩
      exact absurd (same ▸ List.mem_cons_self) (unwritten connection message)

/-- An earlier trace repeats nothing either. -/
theorem Unrepeated.older {recent older : List Observation}
    (unrepeated : Unrepeated (recent ++ older)) : Unrepeated older := by
  intro newer rest connection message cursor split
  exact unrepeated (recent ++ newer) rest connection message cursor
    (by rw [split, List.append_assoc])

/-- The batch of the signal is closed. -/
def AckStore.Shut (store : AckStore) (id : String) : Prop :=
  ∃ batch, store.view id = some batch ∧ batch.closed = true

/-- A batch is shut as it looks. -/
theorem AckStore.shut_of_view {before after : AckStore} {id : String}
    (same : after.view id = before.view id) : after.Shut id ↔ before.Shut id := by
  rw [Shut, Shut, same]

variable [Rfc3339]

/-- The batch a flush would put on the link: the pending one for a link of its arm,
generation and route, or a new one for the claim. -/
def DaemonPipe.outgoing (pipe : DaemonPipe) (live : SignalClaim) (link : AdmittedLink)
    (now : OffsetDateTime) (deliveryId : String) : Option DeliverEvents :=
  match pipe.ledger.pending with
  | some pending =>
      if pending.attempt.isTerminal ∨ pending.message.armId ≠ link.armId ∨
          pending.message.generation ≠ link.generation ∨
          pending.message.route ≠ link.route then none
      else some (readdressed pending.message link now)
  | none =>
      live.events.getLast?.map fun last =>
        deliverMessage link live.signalId live.events last.eventRef now deliveryId

/-- A delivery can be made exactly when the outgoing batch is valid. -/
theorem deliveryMessage_ok_iff {pipe : DaemonPipe} {live : SignalClaim} {link : AdmittedLink}
    {now : OffsetDateTime} {deliveryId : String} {message : DeliverEvents}
    (unsettled : pipe.ledger.isTerminal = false) :
    (∃ after, deliveryMessage pipe live link now deliveryId = (.ok message, after)) ↔
      pipe.outgoing live link now deliveryId = some message ∧
        validate (.deliverEvents message) = .ok () := by
  unfold DaemonPipe.outgoing deliveryMessage
  cases held : pipe.ledger.pending with
  | none =>
      have idle : pipe.ledger.shouldRedeliver = false := by
        simp [DeliveryLedger.shouldRedeliver, held]
      simp only [idle, Bool.false_eq_true, if_false]
      constructor
      · rintro ⟨after, made⟩
        obtain ⟨last, newest, rfl, valid, _⟩ := prepareDelivery_ok made
        exact ⟨by rw [newest]; rfl, valid⟩
      · rintro ⟨found, valid⟩
        obtain ⟨last, newest, rfl⟩ := Option.map_eq_some_iff.1 found
        exact ⟨_, prepareDelivery_of_valid idle newest valid⟩
  | some pending =>
      have open_attempt : pending.attempt.isTerminal = false := by
        simpa [DeliveryLedger.isTerminal, held] using unsettled
      have again : pipe.ledger.shouldRedeliver = true := by
        cases attempt : pending.attempt with
        | awaiting => simp [DeliveryLedger.shouldRedeliver, held, attempt]
        | lost => simp [DeliveryLedger.shouldRedeliver, held, attempt]
        | terminal outcome => simp [attempt, DeliveryAttempt.isTerminal] at open_attempt
      simp only [again, if_true, open_attempt, Bool.false_eq_true, false_or]
      constructor
      · rintro ⟨after, made⟩
        obtain ⟨other, same, rfl, arm, generation, route, _, valid, _⟩ := redeliverPending_ok made
        rw [held] at same
        cases same
        exact ⟨by simp [arm, generation, route], valid⟩
      · rintro ⟨found, valid⟩
        split_ifs at found with different
        cases found
        push Not at different
        have whole : pipe.ledger = ⟨some pending⟩ := by rw [← held]
        rw [whole]
        exact ⟨_, redeliverPending_of_valid open_attempt different.1 different.2.1
          different.2.2 valid⟩

/-- Whatever follows a frame, it was written. -/
private theorem afterWrite_written (live : SignalClaim) (message : DeliverEvents)
    (pipe : DaemonPipe) (acks : AckStore) (io : DeliveryIo) (coverage : DaemonCoverage) :
    (afterWrite live message pipe acks io coverage).written = some message := by
  unfold afterWrite
  split
  · rfl
  · simp only
    split
    · split <;> rfl
    · rfl

/-- Delivering on a link puts the outgoing batch on it when the batch is valid and its
frame is sent. -/
private theorem deliverClaimed_writes_iff {live : SignalClaim} {link : AdmittedLink}
    {pipe : DaemonPipe} {acks : AckStore} {now : OffsetDateTime} {io : DeliveryIo}
    {coverage : DaemonCoverage} {deliveryId : String}
    (unsettled : pipe.ledger.isTerminal = false) (unattempted : pipe.attempted = false)
    {message : DeliverEvents} :
    (deliverClaimed live (some link) pipe acks now (some io) coverage deliveryId).written =
        some message ↔
      pipe.outgoing live link now deliveryId = some message ∧
        validate (.deliverEvents message) = .ok () ∧ io.send message = true := by
  have makes := @deliveryMessage_ok_iff _ pipe live link now deliveryId message unsettled
  rw [← and_assoc, ← makes]
  rcases made : deliveryMessage pipe live link now deliveryId with ⟨outcome, after⟩
  cases outcome with
  | error error => simp [deliverClaimed, made]
  | ok other =>
      simp only [deliverClaimed, made, unattempted, Bool.false_and, Bool.false_eq_true, if_false]
      cases sent : io.send other with
      | false =>
          simp only [Bool.not_false, if_true]
          refine ⟨(by intros; contradiction), ?_⟩
          rintro ⟨⟨_, same⟩, written⟩
          cases same
          rw [sent] at written
          cases written
      | true =>
          simp only [Bool.not_true, Bool.false_eq_true, if_false, afterWrite_written]
          refine ⟨fun same => ?_, ?_⟩
          · cases same
            exact ⟨⟨after, rfl⟩, sent⟩
          · rintro ⟨⟨_, same⟩, _⟩
            cases same
            rfl

/-- A flush puts a frame on the link exactly when the claim is live, the lease runs,
the outgoing batch is valid and fits, and the write succeeds. -/
theorem flushAttached_writes_iff {link : Option AdmittedLink} {pipe : DaemonPipe}
    {acks : AckStore} {now : OffsetDateTime} {writeOk : Bool} {deliveryId : String}
    (fresh : pipe.attempted = true → pipe.ledger.isTerminal = true) {message : DeliverEvents} :
    (flushAttached link pipe acks now writeOk deliveryId).2.2.2 = some message ↔
      ∃ live read, pipe.claim = some live ∧ link = some read ∧
        leaseExpired read.leaseUntil now = false ∧
        pipe.outgoing live read now deliveryId = some message ∧
        validate (.deliverEvents message) = .ok () ∧
        (encodePayload (.deliverEvents message)).isOk = true ∧ writeOk = true := by
  unfold flushAttached
  cases settled : pipe.ledger.isTerminal with
  | true =>
      simp only [if_true]
      refine ⟨nofun, ?_⟩
      rintro ⟨live, read, _, _, _, found, _⟩
      obtain ⟨pending, held, ended⟩ := (Option.any_eq_true _ _).1 settled
      simp [DaemonPipe.outgoing, held, ended] at found
  | false =>
      have unattempted : pipe.attempted = false := by
        by_contra attempted
        rw [fresh (by simpa using attempted)] at settled
        cases settled
      simp only [Bool.false_eq_true, if_false]
      cases claimed : pipe.claim with
      | none => simp
      | some live =>
          cases link with
          | none => simp
          | some read =>
              cases elapsed : leaseExpired read.leaseUntil now with
              | true => simp [elapsed]
              | false =>
                  simp only [elapsed, Bool.false_eq_true, if_false,
                    deliverClaimed_writes_iff settled unattempted, linkIo, Bool.and_eq_true]
                  simp [elapsed]

namespace Daemon

variable [UnicodeSegmentation] [UlidSupply]

omit [UnicodeSegmentation] in
/-- A successful flush to a link finds a rearm that was accepted and not applied yet,
and a valid batch of the acknowledged claim to write. -/
def Overdue (daemon : Daemon) (move : Move) : Prop :=
  ∃ read resume served live message,
    move = .flush true ∧ daemon.phase = .flushing (some read) resume ∧
    daemon.served = some served ∧ daemon.outstanding ≠ [] ∧
    daemon.pipe.claim = some live ∧ leaseExpired read.leaseUntil daemon.now = false ∧
    daemon.pipe.outgoing live read daemon.now (UlidSupply.text daemon.minted) = some message ∧
    validate (.deliverEvents message) = .ok () ∧
    (encodePayload (.deliverEvents message)).isOk = true

/-! ## Batches that were acknowledged -/

/-- A batch is closed exactly when its acknowledgement was accepted. -/
def Settled (daemon : Daemon) : Prop :=
  ∀ id, daemon.acks.Shut id ↔ ∃ cursor, Observation.accepted id cursor ∈ daemon.trace

/-- A move closes the batches whose acceptance it shows. -/
def Closes (before : Daemon) (recent : List Observation) (after : Daemon) : Prop :=
  ∀ id, after.acks.Shut id ↔
    before.acks.Shut id ∨ ∃ cursor, Observation.accepted id cursor ∈ recent

omit [Rfc3339] [UnicodeSegmentation] [UlidSupply] in
/-- Where batches look the same nothing was closed. -/
theorem closes_of_view {before after : Daemon} {recent : List Observation}
    (view : ∀ id, after.acks.view id = before.acks.view id)
    (silent : ∀ observation ∈ recent, observation.registers = false) :
    before.Closes recent after := by
  intro id
  rw [AckStore.shut_of_view (view id)]
  refine (or_iff_left ?_).symm
  rintro ⟨cursor, member⟩
  cases silent _ member

omit [Rfc3339] [UnicodeSegmentation] [UlidSupply] in
/-- Filling the open batch of a claim closes nothing. -/
private theorem noteDelivered_shut {store : AckStore} {signalId : String}
    {existing : SignalBatch} (stored : store.signals[signalId]? = some existing)
    (delivered drainSnapshot : List String) (id : String) :
    (store.noteDelivered signalId delivered drainSnapshot).2.Shut id ↔ store.Shut id := by
  rcases AckStore.noteDelivered_cases stored delivered drainSnapshot with
    same | ⟨opened, _, same⟩
  · rw [same]
  · rw [same, AckStore.Shut, AckStore.Shut, AckStore.view_insert]
    split
    · rename_i named
      subst named
      simp [AckStore.view, stored, opened]
    · rfl

omit [Rfc3339] [UnicodeSegmentation] [UlidSupply] in
private theorem not_accepted {recent : List Observation}
    (silent : ∀ id cursor, Observation.accepted id cursor ∉ recent) (id : String) :
    ¬ ∃ cursor, Observation.accepted id cursor ∈ recent := by
  rintro ⟨cursor, member⟩
  exact silent id cursor member

omit [UnicodeSegmentation] in
/-- A page claimed under a new signal closes nothing. -/
private theorem closes_of_claimed {before after : Daemon} (clear : before.Clear)
    {request : IngestRequest} {events : List DrainedEvent} {pipe : DaemonPipe} {acks : AckStore}
    (claimed : before.Claimed request events pipe acks) (same : after.acks = acks)
    {recent : List Observation}
    (silent : ∀ id cursor, Observation.accepted id cursor ∉ recent) :
    before.Closes recent after := by
  intro id
  have absent : before.acks.view (UlidSupply.text before.minted) = none := by
    rw [AckStore.view, clear.numbered.fresh le_rfl]
    rfl
  rw [or_iff_left (not_accepted silent id), same, claimed.acks_eq, AckStore.Shut, AckStore.Shut,
    AckStore.view_insert]
  split
  · rename_i named
    subst named
    simp [absent, AckStore.claimedBatch]
  · rfl

/-- Every move closes the batches whose acceptance it shows, and no others. -/
theorem step_closes {daemon : Daemon} (sane : daemon.Sane) (move : Move) :
    ∃ recent, (daemon.step move).trace = recent ++ daemon.trace ∧
      daemon.Closes recent (daemon.step move) := by
  have effect := step_effect sane move
  generalize daemon.step move = after at effect ⊢
  cases effect with
  | aside recent _ acks trace plain | moved recent _ _ acks trace plain =>
      exact ⟨recent, trace, closes_of_view (fun id => by rw [acks]) fun observation member =>
        Observation.registers_of_plain (plain observation member)⟩
  | linked _ _ same =>
      subst same
      exact ⟨[], rfl, closes_of_view (fun _ => rfl) (List.forall_mem_nil _)⟩
  | @wrote writeOk connection message live delivered _ _ claimed acks trace =>
      obtain ⟨_, existing, stored⟩ := sane.custody.known claimed
      refine ⟨[.wrote connection message], trace, fun id => ?_⟩
      rw [or_iff_left (not_accepted (by simp) id), acks]
      exact noteDelivered_shut stored delivered live.eventRefs id
  | recorded _ _ signals trace =>
      exact ⟨[], trace, closes_of_view (fun id => by simp [AckStore.view, signals])
        (List.forall_mem_nil _)⟩
  | @accepted message instant arm batch _ acceptable acks trace =>
      refine ⟨[_], trace, fun id => ?_⟩
      have viewed : (daemon.acks.accepting message instant arm batch).view id =
          if message.signalId = id then some ⟨batch.generation, true, batch.delivered⟩
          else daemon.acks.view id :=
        AckStore.view_insert daemon.acks message.signalId _ _ _ id
      simp only [acks, AckStore.Shut, viewed]
      split
      · rename_i named
        simp [named]
      · rename_i other
        simp [Ne.symm other]
  | @noted result _ _ _ acks trace =>
      refine ⟨[], trace, closes_of_view (fun id => ?_) (List.forall_mem_nil _)⟩
      rw [acks]
      exact (updateAckVisibility_alike daemon.acks result).view id
  | claimed older _ _ clear claimed trace plain =>
      refine ⟨_ :: older, trace, closes_of_claimed clear claimed rfl fun id cursor member => ?_⟩
      rcases List.mem_cons.1 member with same | earlier
      · cases same
      · cases plain _ earlier

/-- Every move keeps the batches settled. -/
theorem step_settled {daemon : Daemon} (sane : daemon.Sane) (settled : daemon.Settled)
    (move : Move) : (daemon.step move).Settled := by
  obtain ⟨recent, shown, closes⟩ := step_closes sane move
  intro id
  rw [closes id, settled id, shown]
  simp only [List.mem_append, exists_or, or_comm]

omit [Rfc3339] [UnicodeSegmentation] in
/-- The batch of a live claim is closed exactly while its rearm is on the way. -/
theorem Sane.shut_iff {daemon : Daemon} (sane : daemon.Sane) {live : SignalClaim}
    (claimed : daemon.pipe.claim = some live) :
    daemon.acks.Shut live.signalId ↔ daemon.outstanding ≠ [] := by
  cases sane.custody with
  | covering pipe =>
      rw [pipe] at claimed
      cases claimed
  | holding holds bound opened others shown quiet =>
      have same := holds.claimed
      rw [claimed] at same
      cases same
      simp [AckStore.Shut, opened, quiet]
  | handled holds bound closed known outstanding =>
      have same := holds.claimed
      rw [claimed] at same
      cases same
      obtain ⟨batch, viewed⟩ := Option.isSome_iff_exists.1 known
      have shut := (AckStore.allClosed_iff _).1 closed _ batch viewed
      simp [AckStore.Shut, viewed, shut, outstanding]

/-! ## Frames written by a run -/

omit [UnicodeSegmentation] in
/-- A frame that a flush writes carries the signal of the live claim. -/
private theorem flush_signal {daemon : Daemon} (sane : daemon.Sane)
    {link : Option AdmittedLink} {writeOk : Bool} {message : DeliverEvents}
    (written : (flushAttached link daemon.pipe daemon.acks daemon.now writeOk
      (UlidSupply.text daemon.minted)).2.2.2 = some message) :
    ∃ live, daemon.pipe.claim = some live ∧ message.signalId = live.signalId := by
  have effect := flushAttached_effect link daemon.pipe daemon.acks daemon.now writeOk
    (UlidSupply.text daemon.minted)
  generalize flushAttached link daemon.pipe daemon.acks daemon.now writeOk
    (UlidSupply.text daemon.minted) = flushed at effect written
  cases effect with
  | resting | expired | refused | already | unsent => cases written
  | @written live read other pending attempted claimed found addressed =>
      cases written
      obtain ⟨holds, _⟩ := sane.custody.known claimed
      have carried := (addressed.carries holds.carries).signal
      rw [addressed.message_eq] at carried
      exact ⟨live, claimed, carried⟩

omit [UnicodeSegmentation] in
/-- A flush repeats no acknowledged signal exactly when it is not overdue. -/
private theorem flush_unrepeated {daemon : Daemon} (sane : daemon.Sane)
    (prompt : daemon.Prompt) (settled : daemon.Settled) (unrepeated : Unrepeated daemon.trace)
    (writeOk : Bool) :
    Unrepeated (daemon.flush writeOk).trace ↔ ¬ daemon.Overdue (.flush writeOk) := by
  cases standing : daemon.phase with
  | flushing link resume =>
      cases present : daemon.served with
      | none =>
          refine iff_of_true (by rw [flush, standing]; simpa [present] using unrepeated) ?_
          rintro ⟨_, _, served, _, _, _, _, same, _⟩
          rw [present] at same
          cases same
      | some served =>
          have fresh := prompt.due (by rw [standing]; rfl)
          have shown : (daemon.flush writeOk).trace =
              ((flushAttached link daemon.pipe daemon.acks daemon.now writeOk
                (UlidSupply.text daemon.minted)).2.2.2.map
                  (Observation.wrote served.connection)).toList ++ daemon.trace := by
            rw [flush, standing]
            simp only [present]
          rw [shown]
          cases written : (flushAttached link daemon.pipe daemon.acks daemon.now writeOk
              (UlidSupply.text daemon.minted)).2.2.2 with
          | none =>
              refine iff_of_true (by simpa using unrepeated) ?_
              rintro ⟨read, other, _, live, message, same, phase, _, _, claimed, leased, found,
                valid, fits⟩
              cases same
              rw [standing] at phase
              cases phase
              have writes := (@flushAttached_writes_iff _ _ _ daemon.acks _ _ _ fresh _).2
                ⟨live, read, claimed, rfl, leased, found, valid, fits, rfl⟩
              rw [written] at writes
              cases writes
          | some message =>
              obtain ⟨live, claimed, named⟩ := flush_signal sane written
              have repeats : (∃ cursor, Observation.accepted message.signalId cursor ∈
                  daemon.trace) ↔ daemon.outstanding ≠ [] := by
                rw [named, ← settled, sane.shut_iff claimed]
              simp only [Option.map_some, Option.toList_some, List.cons_append,
                List.nil_append, unrepeated_cons, unrepeated, and_true]
              constructor
              · rintro silent ⟨_, _, _, _, _, _, _, _, late, _⟩
                obtain ⟨cursor, member⟩ := repeats.2 late
                exact silent served.connection message cursor rfl member
              · rintro timely connection other cursor same member
                cases same
                obtain ⟨again, read, held, rfl, leased, found, valid, fits, rfl⟩ :=
                  (flushAttached_writes_iff fresh).1 written
                exact timely ⟨read, resume, served, again, message, rfl, standing, present,
                  repeats.1 ⟨cursor, member⟩, held, leased, found, valid, fits⟩
  | _ =>
      refine iff_of_true (by rw [flush, standing]; exact unrepeated) ?_
      rintro ⟨_, _, _, _, _, _, same, _⟩
      rw [standing] at same
      cases same

/-- A move repeats no acknowledged signal exactly when it is not overdue. -/
theorem step_unrepeated_iff {daemon : Daemon} (sane : daemon.Sane) (prompt : daemon.Prompt)
    (settled : daemon.Settled) (unrepeated : Unrepeated daemon.trace) (move : Move) :
    Unrepeated (daemon.step move).trace ↔ ¬ daemon.Overdue move := by
  by_cases flushes : ∃ writeOk, move = .flush writeOk
  · obtain ⟨writeOk, rfl⟩ := flushes
    exact flush_unrepeated sane prompt settled unrepeated writeOk
  · obtain ⟨recent, shown, unwritten⟩ := (step_effect sane move).shown
    refine iff_of_true ?_ ?_
    · rw [shown, unrepeated_append (unwritten fun writeOk same => flushes ⟨writeOk, same⟩)]
      exact unrepeated
    · rintro ⟨_, _, _, _, _, same, _⟩
      exact flushes ⟨true, same⟩

/-- What the runs of a daemon keep, besides the law. -/
structure Steady (daemon : Daemon) : Prop where
  sane : daemon.Sane
  linked : daemon.Linked
  prompt : daemon.Prompt
  settled : daemon.Settled

/-- A move keeps a daemon steady. -/
theorem step_steady {daemon : Daemon} (steady : daemon.Steady) (move : Move) :
    (daemon.step move).Steady where
  sane := step_sane steady.sane move
  linked := step_linked steady.sane steady.linked move
  prompt := step_prompt steady.sane steady.linked steady.prompt move
  settled := step_settled steady.sane steady.settled move

omit [Rfc3339] [UnicodeSegmentation] in
/-- A daemon starts steady. -/
theorem start_steady (armId seatId : String) (coverageUntil : OffsetDateTime)
    (spec : WaitOnSpec) (initial : String) (log : List Json) :
    (Daemon.start armId seatId coverageUntil spec initial log).Steady where
  sane := start_sane armId seatId coverageUntil spec initial log
  linked := start_linked armId seatId coverageUntil spec initial log
  prompt := start_prompt armId seatId coverageUntil spec initial log
  settled id := by
    simp [Daemon.start, AckStore.Shut, AckStore.view, AckStore.withArm]

/-- The trace only grows. -/
theorem run_trace {daemon : Daemon} (sane : daemon.Sane) (moves : List Move) :
    ∃ recent, (Transition.run step daemon moves).trace = recent ++ daemon.trace := by
  induction moves generalizing daemon with
  | nil => exact ⟨[], rfl⟩
  | cons move rest inductionHypothesis =>
      obtain ⟨late, same⟩ := inductionHypothesis (step_sane sane move)
      obtain ⟨early, shown, _⟩ := (step_effect sane move).shown
      exact ⟨late ++ early, by rw [Transition.run_cons, same, shown, List.append_assoc]⟩

/-- A run from a trace without repeats has none exactly when no move is overdue. -/
theorem run_unrepeated_iff {daemon : Daemon} (steady : daemon.Steady)
    (unrepeated : Unrepeated daemon.trace) (moves : List Move) :
    Unrepeated (Transition.run step daemon moves).trace ↔
      Transition.Along step (fun daemon move => ¬ daemon.Overdue move) daemon moves := by
  induction moves generalizing daemon with
  | nil => exact iff_of_true unrepeated trivial
  | cons move rest inductionHypothesis =>
      have steps := step_unrepeated_iff steady.sane steady.prompt steady.settled unrepeated move
      rw [Transition.run_cons, Transition.along_cons, ← steps]
      constructor
      · intro kept
        obtain ⟨recent, same⟩ := run_trace (step_sane steady.sane move) rest
        have now : Unrepeated (daemon.step move).trace := by
          rw [same] at kept
          exact kept.older
        exact ⟨now, (inductionHypothesis (step_steady steady move) now).1 kept⟩
      · rintro ⟨now, later⟩
        exact (inductionHypothesis (step_steady steady move) now).2 later

end Daemon

variable [UnicodeSegmentation] [UlidSupply]

/-- A run never writes a frame for a signal after its acknowledgement was accepted
exactly when no flush writes while an accepted rearm waits to be applied. -/
theorem no_delivery_after_handled_iff (armId seatId : String) (coverageUntil : OffsetDateTime)
    (spec : WaitOnSpec) (initial : String) (log : List Json) (moves : List Move) :
    Unrepeated (Transition.run Daemon.step
        (Daemon.start armId seatId coverageUntil spec initial log) moves).trace ↔
      Transition.Along Daemon.step (fun daemon move => ¬ daemon.Overdue move)
        (Daemon.start armId seatId coverageUntil spec initial log) moves :=
  Daemon.run_unrepeated_iff
    (Daemon.start_steady armId seatId coverageUntil spec initial log)
    (unrepeated_cons.2 ⟨nofun, unrepeated_nil⟩) moves

end Waiter

/-! ## An attach queued before the acknowledgement -/

namespace Waiter
namespace Sample

/-- The newest observation is a frame for the signal accepted just before. -/
def repeatsAccepted : List Observation → Bool
  | .wrote _ message :: .accepted id _ :: _ => message.signalId == id
  | _ => false

private theorem not_unrepeated {trace : List Observation} (repeats : repeatsAccepted trace = true) :
    ¬ Unrepeated trace := by
  unfold repeatsAccepted at repeats
  split at repeats
  · rename_i connection message id cursor older
    obtain rfl := beq_iff_eq.1 repeats
    exact fun unrepeated =>
      unrepeated [] _ connection message cursor rfl List.mem_cons_self
  · cases repeats

/-- The served connection fails after its page was delivered.  A successor attaches and
its event is queued; then the page is acknowledged, and only after that the main loop
takes the attach. -/
def overtaken : List Move :=
  attaching ++ delivering ++
    [.receive (second 1), .pollLease true, .readResult .failed, .revoke, .tryWait .running,
      .acceptWaiter (.attachWaiter (attach "01J00000000000000000000044" 1)) (second 1),
      .prepare 0, .commit true, .send,
      .acceptHandled (handled "post-1") (second 1), .send,
      .receive (second 1), .retain, .lease true, .readLink, .flush true]

/-- The acknowledged page is written to the successor. -/
theorem acknowledged_page_rewritten :
    ¬ Unrepeated (Transition.run Daemon.step daemon overtaken).trace :=
  not_unrepeated (by decide +kernel)

end Sample
end Waiter
end Gearwit
