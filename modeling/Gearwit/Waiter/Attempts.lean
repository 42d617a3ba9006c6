import Gearwit.Waiter.Frames

/-!
# What a served waiter answers for

A result is read from the served connection only, and only after the pending batch
was sent there.  Losing a link, adopting another one and flushing keep it so: an
attempt that is under way belongs to the connection that is served, and the frame
sent last for a signal is the one its pending delivery names.
-/

namespace Gearwit
namespace Waiter

/-! ## Frames of a signal -/

/-- The frame sent last for the signal. -/
def lastSent (signalId : String) : List Observation → Option DeliverEvents
  | [] => none
  | .wrote _ message :: older =>
      if message.signalId = signalId then some message else lastSent signalId older
  | _ :: older => lastSent signalId older

/-- Observations other than frames do not matter. -/
theorem lastSent_append {recent : List Observation}
    (unwritten : ∀ connection message, Observation.wrote connection message ∉ recent)
    (signalId : String) (older : List Observation) :
    lastSent signalId (recent ++ older) = lastSent signalId older := by
  induction recent with
  | nil => rfl
  | cons observation rest inductionHypothesis =>
      have later := inductionHypothesis fun connection message member =>
        unwritten connection message (List.mem_cons_of_mem _ member)
      cases observation with
      | wrote connection message =>
          exact absurd List.mem_cons_self (unwritten connection message)
      | _ => exact later

/-- What was written last was sent last. -/
theorem lastSent_wrote {signalId : String} {message : DeliverEvents}
    (named : message.signalId = signalId) (connection : Nat) (older : List Observation) :
    lastSent signalId (.wrote connection message :: older) = some message := by
  rw [lastSent, if_pos named]

/-- What is settled awaits nothing. -/
theorem DeliveryLedger.isAwaiting_of_isTerminal {ledger : DeliveryLedger}
    (settled : ledger.isTerminal = true) : ledger.isAwaiting = false := by
  cases held : ledger.pending with
  | none => simp [DeliveryLedger.isAwaiting, held]
  | some pending =>
      cases attempt : pending.attempt with
      | awaiting => simp [isTerminal, held, attempt, DeliveryAttempt.isTerminal] at settled
      | lost | terminal => simp [DeliveryLedger.isAwaiting, held, attempt]

/-- The frame sent last for the delivery's signal is this delivery on its link. -/
def PendingDelivery.Sent (pending : PendingDelivery) (trace : List Observation) : Prop :=
  ∃ message, lastSent pending.message.signalId trace = some message ∧
    message.deliveryId = pending.deliveryId ∧ message.linkId = pending.linkId

/-- Whatever is settled or under way was sent. -/
def DaemonPipe.Sent (pipe : DaemonPipe) (trace : List Observation) : Prop :=
  ∀ pending, pipe.ledger.pending = some pending →
    pending.attempt.isTerminal = true ∨ pending.attempt = .awaiting ∧ pipe.attempted = true →
      pending.Sent trace

/-- Observations other than frames do not matter. -/
theorem DaemonPipe.Sent.grow {pipe : DaemonPipe} {recent older : List Observation}
    (unwritten : ∀ connection message, Observation.wrote connection message ∉ recent)
    (sent : pipe.Sent older) : pipe.Sent (recent ++ older) := by
  intro pending held kind
  obtain ⟨message, last, delivery, link⟩ := sent pending held kind
  exact ⟨message, (lastSent_append unwritten _ older).trans last, delivery, link⟩

/-- What is neither settled nor under way need not be sent. -/
theorem DaemonPipe.sent_of_idle {pipe : DaemonPipe}
    (unsettled : pipe.ledger.isTerminal = false) (unattempted : pipe.attempted = false)
    (trace : List Observation) : pipe.Sent trace := by
  rintro pending held (settled | ⟨_, attempted⟩)
  · simp [DeliveryLedger.isTerminal, held, settled] at unsettled
  · rw [unattempted] at attempted
    cases attempted

/-- Giving up the attempt under way keeps what is settled. -/
theorem DaemonPipe.Sent.unattempted {pipe : DaemonPipe} {trace : List Observation}
    (sent : pipe.Sent trace) : ({ pipe with attempted := false } : DaemonPipe).Sent trace := by
  rintro pending held (settled | ⟨_, attempted⟩)
  · exact sent pending held (Or.inl settled)
  · cases attempted

/-- So does marking it lost. -/
theorem DaemonPipe.Sent.marked {pipe : DaemonPipe} {trace : List Observation}
    (sent : pipe.Sent trace) {pending : PendingDelivery} {attempt : DeliveryAttempt}
    (held : pipe.ledger.pending = some pending)
    (marked : attempt = .lost ∨ attempt = pending.attempt) :
    DaemonPipe.Sent ⟨⟨some { pending with attempt }⟩, pipe.claim, false⟩ trace := by
  rintro other same (settled | ⟨_, attempted⟩)
  · cases same
    rcases marked with rfl | rfl
    · cases settled
    · exact sent pending held (Or.inl settled)
  · cases attempted

/-- A lost pipe still awaits only what was sent. -/
theorem DaemonPipe.Sent.lost [Rfc3339] {pipe : DaemonPipe} {trace : List Observation}
    (sent : pipe.Sent trace) (now : OffsetDateTime) : (losePipe pipe now).Sent trace := by
  rcases losePipe_cases pipe now with same | ⟨pending, held, same⟩
  · rw [same]
    exact sent.unattempted
  · rw [same]
    exact sent.marked held (Or.inl rfl)

/-- The report was recorded when the frame sent last for its signal was the delivery it
names, on the link it names. -/
def Recorded (trace : List Observation) (report : DeliveryResult) : Prop :=
  ∃ newer older message, trace = newer ++ .recorded report :: older ∧
    lastSent report.signalId older = some message ∧
    message.deliveryId = report.deliveryId ∧ message.linkId = report.linkId

/-- A recorded result stays recorded. -/
theorem Recorded.grow {trace : List Observation} {report : DeliveryResult}
    (recorded : Recorded trace report) (recent : List Observation) :
    Recorded (recent ++ trace) report := by
  obtain ⟨newer, older, message, rfl, named⟩ := recorded
  exact ⟨recent ++ newer, older, message, (List.append_assoc _ _ _).symm, named⟩

/-! ## What the main loop owes the pending delivery -/

/-- Where the main loop stands with the pending delivery: nothing is due, a flush or
the end of the connection is due, or the attempt is about to be given up. -/
inductive Duty
  | rested
  | due
  | losing

/-- The duty of a phase. -/
def Phase.duty : Phase → Duty
  | .superseding _ _ | .revoking true _ => .losing
  | .leasing _ | .linking _ | .flushing _ _ | .revoking false _ | .noting _ => .due
  | _ => .rested

@[simp] theorem Resume.duty_phase (resume : Resume) : resume.phase.duty = .rested := by
  cases resume <;> rfl

/-- What is resumed is not reading a result. -/
theorem Resume.phase_ne_reading (resume : Resume) : resume.phase ≠ .reading := by
  cases resume <;> nofun

namespace Daemon

/-- The served session owns the current link. -/
def Live (daemon : Daemon) : Prop :=
  ∃ served link, daemon.served = some served ∧ daemon.table.current = some link ∧
    served.session = some link.session

/-- A daemon that serves no session is not live. -/
theorem not_live_of_unserved {daemon : Daemon} (unserved : daemon.served = none) :
    ¬ daemon.Live := by
  rintro ⟨served, link, present, _⟩
  rw [unserved] at present
  cases present

/-- A session that lost its link does not get it back. -/
theorem live_of_table {before after : Daemon} (live : after.Live)
    (served : after.served = before.served)
    (table : after.table.current = before.table.current ∨ after.table.current = none) :
    before.Live := by
  obtain ⟨writer, link, present, current, owns⟩ := live
  rcases table with same | dropped
  · exact ⟨writer, link, served ▸ present, same ▸ current, owns⟩
  · rw [dropped] at current
    cases current

/-- A result is only awaited where the batch was sent. -/
structure Prompt (daemon : Daemon) : Prop where
  sent : daemon.pipe.Sent daemon.trace
  rested : daemon.phase.duty = .rested →
    (daemon.Live → daemon.pipe.ledger.isAwaiting = true → daemon.pipe.attempted = true) ∧
    (daemon.served = none → daemon.pipe.attempted = true →
      daemon.pipe.ledger.isTerminal = true)
  reading : daemon.phase = .reading → daemon.pipe.ledger.isAwaiting = true →
    daemon.pipe.attempted = true
  due : daemon.phase.duty = .due → daemon.pipe.attempted = true →
    daemon.pipe.ledger.isTerminal = true
  read : ∀ resume, daemon.phase = .flushing none resume → ¬ daemon.Live
  noted : ∀ report, daemon.phase = .noting (.deliveryResult report) →
    Recorded daemon.trace report

/-- The main loop goes on between two results, or stands where it stood. -/
theorem Prompt.passed {before after : Daemon} (prompt : before.Prompt)
    (pipe : after.pipe = before.pipe) (served : after.served = before.served)
    (live : after.Live → before.Live) (recent : List Observation)
    (unwritten : ∀ connection message, Observation.wrote connection message ∉ recent)
    (trace : after.trace = recent ++ before.trace)
    (phase : after.phase = before.phase ∨
      before.phase.duty = .rested ∧ after.phase.duty = .rested ∧ after.phase ≠ .reading) :
    after.Prompt where
  sent := by
    rw [pipe, trace]
    exact prompt.sent.grow unwritten
  rested rests := by
    have earlier : before.phase.duty = .rested := by
      rcases phase with same | ⟨rested, _⟩
      · rw [← same]
        exact rests
      · exact rested
    obtain ⟨attempts, settles⟩ := prompt.rested earlier
    rw [pipe, served]
    exact ⟨fun lives => attempts (live lives), settles⟩
  reading stands := by
    rcases phase with same | ⟨_, _, other⟩
    · rw [pipe]
      exact prompt.reading (same ▸ stands)
    · exact absurd stands other
  due dues := by
    rcases phase with same | ⟨_, rests, _⟩
    · rw [pipe]
      exact prompt.due (same ▸ dues)
    · rw [rests] at dues
      cases dues
  read resume stands lives := by
    rcases phase with same | ⟨_, rests, _⟩
    · exact prompt.read resume (same ▸ stands) (live lives)
    · rw [stands] at rests
      cases rests
  noted report stands := by
    rcases phase with same | ⟨_, rests, _⟩
    · rw [trace]
      exact (prompt.noted report (same ▸ stands)).grow recent
    · rw [stands] at rests
      cases rests

/-- The attempt is about to be given up: only what was sent matters. -/
theorem Prompt.losing {after : Daemon} (sent : after.pipe.Sent after.trace)
    (losing : after.phase.duty = .losing) : after.Prompt where
  sent := sent
  rested rests := by
    rw [losing] at rests
    cases rests
  reading stands := by
    rw [stands] at losing
    cases losing
  due dues := by
    rw [losing] at dues
    cases dues
  read resume stands := by
    rw [stands] at losing
    cases losing
  noted report stands := by
    rw [stands] at losing
    cases losing

/-- A flush is due, with no attempt under way. -/
theorem Prompt.of_due {after : Daemon} (sent : after.pipe.Sent after.trace)
    (due : after.phase.duty = .due)
    (idle : after.pipe.attempted = true → after.pipe.ledger.isTerminal = true)
    (read : ∀ resume, after.phase = .flushing none resume → ¬ after.Live)
    (noted : ∀ report, after.phase = .noting (.deliveryResult report) →
      Recorded after.trace report) : after.Prompt where
  sent := sent
  rested rests := by
    rw [due] at rests
    cases rests
  reading stands := by
    rw [stands] at due
    cases due
  due _ := idle
  read := read
  noted := noted

/-- Nothing is due any more, and no result is read at once. -/
theorem Prompt.of_rested {after : Daemon} (sent : after.pipe.Sent after.trace)
    (rests : after.phase.duty = .rested) (other : after.phase ≠ .reading)
    (attempts : after.Live → after.pipe.ledger.isAwaiting = true →
      after.pipe.attempted = true)
    (settles : after.served = none → after.pipe.attempted = true →
      after.pipe.ledger.isTerminal = true) : after.Prompt where
  sent := sent
  rested _ := ⟨attempts, settles⟩
  reading stands := absurd stands other
  due dues := by
    rw [rests] at dues
    cases dues
  read resume stands := by
    rw [stands] at rests
    cases rests
  noted report stands := by
    rw [stands] at rests
    cases rests

/-! ## The accept thread -/

/-- A commit admits a new link or none, so no session that was served comes alive. -/
theorem commit_live [UlidSupply] {daemon : Daemon} (linked : daemon.Linked) (writeOk : Bool)
    (live : (daemon.commit writeOk).Live) : daemon.Live := by
  cases standing : daemon.acceptor with
  | replying prepared connection =>
      rcases commit_cases standing writeOk with same | ⟨table, kind, same⟩
      · rw [same] at live
        exact live_of_table live rfl (Or.inl rfl)
      · rw [same] at live
        rcases kind with kept | ⟨link, pending, admitted⟩
        · exact live_of_table live rfl (Or.inl kept)
        · obtain ⟨served, current, present, holds, owns⟩ := live
          have attached : served ∈ daemon.attaches := mem_attaches.2 (Or.inl present)
          have entered := linked.entered served attached current.session owns
          have promised := linked.promising prepared connection standing
          simp only [Promising, pending] at promised
          have current_eq : current = link := Option.some.inj (holds.symm.trans admitted)
          subst current_eq
          exact absurd rfl (promised.2.2 _ entered)
  | _ =>
      rw [commit, standing] at live
      exact live

variable [Rfc3339]

/-- A preparation drops an elapsed link at most. -/
theorem prepareAttach_table (table : LinkTable) (request : WaiterLink) (now : OffsetDateTime)
    (elapsed : Nat) (arms : List KnownArm) (freshId : String) :
    (prepareAttach table request now elapsed arms freshId).2 =
      table.dropExpired (now.addNanos elapsed) := by
  simp only [prepareAttach]
  split <;> rfl

/-- Preparing an attachment makes nothing live. -/
theorem prepare_live [UlidSupply] {daemon : Daemon} (elapsed : Nat)
    (live : (daemon.prepare elapsed).Live) : daemon.Live := by
  unfold prepare at live
  split at live
  · rename_i request instant arms connection standing
    have dropped := prepareAttach_table daemon.table request instant elapsed arms
      (UlidSupply.text daemon.minted)
    generalize prepareAttach daemon.table request instant elapsed arms
      (UlidSupply.text daemon.minted) = prepared at dropped live
    obtain ⟨outcome, table⟩ := prepared
    cases dropped
    have expired := daemon.table.current_dropExpired (instant.addNanos elapsed)
    cases outcome with
    | error error => exact live_of_table live rfl expired
    | ok attach => exact live_of_table live rfl expired
  · exact live

variable [UnicodeSegmentation] [UlidSupply]

/-- An outer move makes nothing live. -/
theorem outer_live {daemon : Daemon} (sane : daemon.Sane) (linked : daemon.Linked)
    {move : Move} (outer : move.outer = true) (live : (daemon.step move).Live) :
    daemon.Live := by
  have served := (step_outer sane outer).served
  cases move with
  | acceptWaiter request instant =>
      exact live_of_table live served (daemon.acceptWaiter_unadmitted request instant).table
  | prepare elapsed => exact prepare_live elapsed live
  | commit writeOk => exact commit_live linked writeOk live
  | acceptHandled request instant =>
      exact live_of_table live served
        (acceptHandled_unadmitted sane.remembers request instant).table
  | send => exact live_of_table live served daemon.send_unadmitted.table
  | stop => exact live_of_table live served daemon.stop_unadmitted.table
  | post message => exact live_of_table live served (daemon.post_unadmitted message).table
  | _ => cases outer

/-- An outer move keeps the daemon prompt. -/
theorem outer_prompt {daemon : Daemon} (sane : daemon.Sane) (linked : daemon.Linked)
    (prompt : daemon.Prompt) {move : Move} (outer : move.outer = true) :
    (daemon.step move).Prompt := by
  obtain ⟨phase, served, pipe, _⟩ := step_outer sane outer
  obtain ⟨recent, shown, unwritten⟩ := (step_effect sane move).shown
  refine prompt.passed pipe served (outer_live sane linked outer) recent
    (unwritten fun writeOk same => ?_) shown (Or.inl phase)
  subst same
  cases outer

/-! ## Adopting a connection -/

omit [Rfc3339] [UnicodeSegmentation] [UlidSupply] in
/-- The next event is taken between two results. -/
theorem receive_prompt {daemon : Daemon} (prompt : daemon.Prompt) (now : OffsetDateTime) :
    (daemon.receive now).Prompt := by
  cases standing : daemon.phase with
  | top =>
      have moved (queue : List DaemonEvent) (phase : Phase) (rests : phase.duty = .rested)
          (other : phase ≠ .reading) :
          ({ daemon with now, queue, phase } : Daemon).Prompt :=
        prompt.passed rfl rfl id [] (fun _ _ => List.not_mem_nil) rfl
          (Or.inr ⟨by rw [standing]; rfl, rests, other⟩)
      rw [receive, standing]
      simp only
      split
      · exact moved _ _ rfl (by intro same; cases same)
      split
      · exact moved _ _ rfl (by intro same; cases same)
      · exact moved _ _ rfl (by intro same; cases same)
      · split
        · exact moved _ _ rfl (by intro same; cases same)
        · exact moved _ _ rfl (by intro same; cases same)
  | _ =>
      rw [receive, standing]
      exact prompt

omit [Rfc3339] [UnicodeSegmentation] in
/-- An attach is kept only after the attempt on the served connection is given up. -/
theorem retain_prompt {daemon : Daemon} (linked : daemon.Linked) (prompt : daemon.Prompt) :
    daemon.retain.Prompt := by
  cases standing : daemon.phase with
  | retaining next =>
      have rests : daemon.phase.duty = .rested := by rw [standing]; rfl
      rw [retain, standing]
      simp only
      split
      · cases present : daemon.served with
        | none =>
            exact .of_due prompt.sent rfl ((prompt.rested rests).2 present) (by intros; contradiction) (by intros; contradiction)
        | some served =>
            obtain ⟨session, held⟩ := Option.isSome_iff_exists.1
              (linked.bound served (mem_adopted.2 (Or.inl present)))
            simp only [Option.bind_some, held]
            exact .losing prompt.sent rfl
      · exact prompt.passed rfl rfl id [] (fun _ _ => List.not_mem_nil) rfl
          (Or.inr ⟨rests, rfl, (by intro same; cases same)⟩)
  | _ =>
      rw [retain, standing]
      exact prompt

omit [UnicodeSegmentation] [UlidSupply] in
/-- Superseding a link keeps the daemon prompt. -/
theorem supersede_prompt {daemon : Daemon} (prompt : daemon.Prompt) :
    daemon.supersede.Prompt := by
  cases standing : daemon.phase with
  | superseding next old =>
      rw [supersede, standing]
      exact .of_due (prompt.sent.lost daemon.now) rfl (by intros; contradiction) (by intros; contradiction) (by intros; contradiction)
  | _ =>
      rw [supersede, standing]
      exact prompt

omit [Rfc3339] [UnicodeSegmentation] [UlidSupply] in
/-- Setting a lease keeps the daemon prompt. -/
theorem lease_prompt {daemon : Daemon} (prompt : daemon.Prompt) (timeoutOk : Bool) :
    (daemon.lease timeoutOk).Prompt := by
  cases standing : daemon.phase with
  | leasing next =>
      have idle := prompt.due (by rw [standing]; rfl)
      rw [lease, standing]
      simp only
      split
      · exact .losing prompt.sent rfl
      · exact .of_due prompt.sent rfl idle (by intros; contradiction) (by intros; contradiction)
  | _ =>
      rw [lease, standing]
      exact prompt

/-! ## Flushing -/

omit [Rfc3339] [UnicodeSegmentation] [UlidSupply] in
/-- A table without a link serves nobody. -/
theorem readLink_prompt {daemon : Daemon} (prompt : daemon.Prompt) :
    daemon.readLink.Prompt := by
  cases standing : daemon.phase with
  | linking resume =>
      have idle := prompt.due (by rw [standing]; rfl)
      rw [readLink, standing]
      refine .of_due prompt.sent rfl idle (fun other reads lives => ?_) (by intros; contradiction)
      obtain ⟨served, link, _, current, _⟩ := lives
      cases current.symm.trans (Phase.flushing.inj reads).1
  | _ =>
      rw [readLink, standing]
      exact prompt

omit [Rfc3339] [UnicodeSegmentation] in
/-- Without a claim nothing is pending. -/
theorem Sane.unclaimed {daemon : Daemon} (sane : daemon.Sane)
    (unclaimed : daemon.pipe.claim = none) : daemon.pipe = .empty := by
  cases sane.custody with
  | covering pipe => exact pipe
  | holding holds | handled holds =>
      rw [holds.claimed] at unclaimed
      cases unclaimed

omit [UnicodeSegmentation] in
/-- A flush sends the batch, gives the connection up, or has nothing to send. -/
theorem flush_prompt {daemon : Daemon} (sane : daemon.Sane) (prompt : daemon.Prompt)
    (writeOk : Bool) : (daemon.flush writeOk).Prompt := by
  cases standing : daemon.phase with
  | flushing link resume =>
      have idle := prompt.due (by rw [standing]; rfl)
      have unattempted (unsettled : daemon.pipe.ledger.isTerminal = false) :
          daemon.pipe.attempted = false := by
        cases attempted : daemon.pipe.attempted with
        | false => rfl
        | true =>
            rw [idle attempted] at unsettled
            cases unsettled
      rw [flush, standing]
      simp only
      cases present : daemon.served with
      | none =>
          exact .of_rested prompt.sent resume.duty_phase resume.phase_ne_reading
            (fun lives => absurd lives (not_live_of_unserved rfl)) fun _ => idle
      | some served =>
          have effect := flushAttached_effect link daemon.pipe daemon.acks daemon.now writeOk
            (UlidSupply.text daemon.minted)
          generalize flushAttached link daemon.pipe daemon.acks daemon.now writeOk
            (UlidSupply.text daemon.minted) = flushed at effect
          cases effect with
          | resting rests =>
              refine .of_rested prompt.sent resume.duty_phase resume.phase_ne_reading
                (fun lives awaits => ?_) (by intros; contradiction)
              rcases rests with settled | unclaimed | rfl
              · rw [DeliveryLedger.isAwaiting_of_isTerminal settled] at awaits
                cases awaits
              · rw [sane.unclaimed unclaimed] at awaits
                cases awaits
              · obtain ⟨writer, current, same, holds, owns⟩ := lives
                exact absurd ⟨writer, current, present.trans same, holds, owns⟩
                  (prompt.read resume standing)
          | expired => exact .losing prompt.sent rfl
          | @refused live ledger claimed carries pending unsettled still =>
              have idles := unattempted unsettled
              have sent : DaemonPipe.Sent ⟨ledger, daemon.pipe.claim, false⟩ daemon.trace :=
                DaemonPipe.sent_of_idle still rfl daemon.trace
              rw [idles, Bool.not_false, Bool.and_true]
              cases held : ledger.pending with
              | some pending => exact .losing sent rfl
              | none =>
                  refine .of_rested sent resume.duty_phase resume.phase_ne_reading
                    (fun lives awaits => ?_) (by intros; contradiction)
                  simp [DeliveryLedger.isAwaiting, held] at awaits
          | already claimed found addressed attempted unsettled =>
              rw [unattempted unsettled] at attempted
              cases attempted
          | unsent claimed found addressed =>
              refine .losing (DaemonPipe.sent_of_idle ?_ rfl _) rfl
              simp [DeliveryLedger.isTerminal, addressed.awaiting, DeliveryAttempt.isTerminal]
          | @written live read message pending attempted claimed found addressed =>
              cases attempted with
              | false =>
                  refine .losing (DaemonPipe.sent_of_idle ?_ rfl _) rfl
                  simp [DeliveryLedger.isTerminal, addressed.awaiting,
                    DeliveryAttempt.isTerminal]
              | true =>
                  refine .of_rested ?_ resume.duty_phase resume.phase_ne_reading
                    (fun _ _ => rfl) (by intros; contradiction)
                  intro other held _
                  cases held
                  obtain ⟨holds, _⟩ := sane.custody.known claimed
                  have carried := addressed.carries holds.carries
                  have named := addressed.message_eq
                  refine ⟨message, ?_, ?_, ?_⟩
                  · exact lastSent_wrote (by rw [named]) served.connection daemon.trace
                  · rw [← named]
                    exact carried.delivery
                  · exact addressed.linked.trans addressed.link_eq.symm
  | _ =>
      rw [flush, standing]
      exact prompt

/-! ## Reading results -/

omit [UnicodeSegmentation] [UlidSupply] in
/-- Recording a result writes nothing. -/
theorem resultRecorded_unwritten (ledger : DeliveryLedger) (result : WaiterLink)
    (connection : Nat) (message : DeliverEvents) :
    Observation.wrote connection message ∉ resultRecorded ledger result := by
  unfold resultRecorded
  split
  · nofun
  · nofun

omit [UnicodeSegmentation] [UlidSupply] in
/-- Once the connection is given up nothing is under way. -/
theorem revoke_prompt {daemon : Daemon} (prompt : daemon.Prompt) : daemon.revoke.Prompt := by
  cases standing : daemon.phase with
  | revoking markLost resume =>
      rw [revoke, standing]
      have lives {pipe : DaemonPipe} {table : LinkTable} :
          ¬ ({ daemon with pipe, table, served := none, phase := resume.phase } : Daemon).Live :=
        not_live_of_unserved rfl
      cases markLost with
      | true =>
          exact .of_rested (prompt.sent.lost daemon.now) resume.duty_phase
            resume.phase_ne_reading (fun live => absurd live lives) (by intros; contradiction)
      | false =>
          have idle := prompt.due (by rw [standing]; rfl)
          exact .of_rested prompt.sent resume.duty_phase resume.phase_ne_reading
            (fun live => absurd live lives) fun _ => idle
  | _ =>
      rw [revoke, standing]
      exact prompt

omit [Rfc3339] [UnicodeSegmentation] in
/-- A result is read only while the served session owns the current link. -/
theorem pollLease_prompt {daemon : Daemon} (linked : daemon.Linked) (prompt : daemon.Prompt)
    (timeoutOk : Bool) : (daemon.pollLease timeoutOk).Prompt := by
  cases standing : daemon.phase with
  | polling =>
      have rests : daemon.phase.duty = .rested := by rw [standing]; rfl
      obtain ⟨attempts, settles⟩ := prompt.rested rests
      rw [pollLease, standing]
      simp only
      cases present : daemon.served with
      | none =>
          exact prompt.passed rfl present.symm
            (fun lives => absurd lives (not_live_of_unserved rfl)) []
            (fun _ _ => List.not_mem_nil) rfl (Or.inr ⟨rests, rfl, (by intro same; cases same)⟩)
      | some served =>
          obtain ⟨session, held⟩ := Option.isSome_iff_exists.1
            (linked.bound served (mem_adopted.2 (Or.inl present)))
          simp only [held, Option.bind_some, Option.isSome_some, if_true]
          cases current : daemon.table.current with
          | none => exact .losing prompt.sent rfl
          | some link =>
              by_cases owns : session.owns link = true
              · simp only [Option.bind_some, owns, if_true]
                split
                · exact .losing prompt.sent rfl
                · have live : daemon.Live :=
                    ⟨served, link, present, current,
                      held.trans (congrArg some ((session.owns_iff link).1 owns).symm)⟩
                  exact ⟨prompt.sent, fun _ => ⟨fun _ => attempts live, (by intros; contradiction)⟩,
                    fun _ => attempts live, (by intros; contradiction), (by intros; contradiction), (by intros; contradiction)⟩
              · simp only [Option.bind_some, owns]
                exact .losing prompt.sent rfl
  | _ =>
      rw [pollLease, standing]
      exact prompt

omit [UnicodeSegmentation] [UlidSupply] in
/-- What a result that is read settles was sent before. -/
theorem readResult_prompt {daemon : Daemon} (prompt : daemon.Prompt) (read : ReadResult) :
    (daemon.readResult read).Prompt := by
  cases standing : daemon.phase with
  | reading =>
      have rests : daemon.phase.duty = .rested := by rw [standing]; rfl
      simp only [readResult, standing]
      cases read with
      | idle =>
          exact prompt.passed rfl rfl id [] (fun _ _ => List.not_mem_nil) rfl
            (Or.inr ⟨rests, rfl, (by intro same; cases same)⟩)
      | failed => exact .losing prompt.sent rfl
      | message result =>
          have effect := applyWaiterResult_effect daemon.pipe result
          have frames {pipe : DaemonPipe} (sent : pipe.Sent daemon.trace) :
              pipe.Sent (resultRecorded daemon.pipe.ledger result ++ daemon.trace) :=
            sent.grow (resultRecorded_unwritten daemon.pipe.ledger result)
          simp only
          generalize applyWaiterResult daemon.pipe result = applied at effect
          cases effect with
          | refused => exact .losing (frames prompt.sent.unattempted) rfl
          | lost named held outcome marked =>
              exact .losing (frames (prompt.sent.marked held marked)) rfl
          | @settled report pending applied named held delivery link signal attempt noting
              observed =>
              have settles : pending.Sent daemon.trace := by
                refine prompt.sent pending held ?_
                rcases attempt with awaiting | ended
                · refine Or.inr ⟨awaiting, prompt.reading standing ?_⟩
                  simp [DeliveryLedger.isAwaiting, held, awaiting]
                · exact Or.inl (by rw [ended]; rfl)
              have sent : DaemonPipe.Sent
                  ⟨⟨some { pending with attempt := .terminal report.outcome }⟩,
                    daemon.pipe.claim, daemon.pipe.attempted⟩ daemon.trace := by
                intro other same _
                cases same
                exact settles
              rcases noting with rfl | ⟨rfl, _⟩
              · refine .of_due (frames sent) rfl (fun _ => rfl) (by intros; contradiction) fun other noted => ?_
                obtain ⟨message, last, sameDelivery, sameLink⟩ := settles
                rw [named] at noted
                cases noted
                rw [observed]
                exact ⟨[], daemon.trace, message, rfl, signal ▸ last,
                  sameDelivery.trans delivery, sameLink.trans link⟩
              · refine .of_rested (frames sent) rfl (by intro same; cases same) (fun _ awaits => ?_) fun _ _ => rfl
                simp [DeliveryLedger.isAwaiting] at awaits
  | _ =>
      simp only [readResult, standing]
      exact prompt

omit [Rfc3339] [UnicodeSegmentation] [UlidSupply] in
/-- Noting a result keeps the daemon prompt. -/
theorem note_prompt {daemon : Daemon} (prompt : daemon.Prompt) : daemon.note.Prompt := by
  cases standing : daemon.phase with
  | noting result =>
      have idle := prompt.due (by rw [standing]; rfl)
      rw [note, standing]
      exact .of_due prompt.sent rfl idle (by intros; contradiction) (by intros; contradiction)
  | _ =>
      rw [note, standing]
      exact prompt

/-! ## Coverage -/

omit [Rfc3339] [UnicodeSegmentation] [UlidSupply] in
/-- Coverage moves on between two results. -/
private theorem prompt_of_covered {before after : Daemon} (prompt : before.Prompt)
    (pipe : after.pipe = before.pipe) (served : after.served = before.served)
    (table : after.table = before.table) (recent : List Observation)
    (unwritten : ∀ connection message, Observation.wrote connection message ∉ recent)
    (trace : after.trace = recent ++ before.trace) (rests : before.phase.duty = .rested)
    (still : after.phase.duty = .rested) (other : after.phase ≠ .reading) : after.Prompt :=
  prompt.passed pipe served (fun live => live_of_table live served (Or.inl (by rw [table])))
    recent unwritten trace (Or.inr ⟨rests, still, other⟩)

omit [Rfc3339] [UnicodeSegmentation] [UlidSupply] in
/-- Polling the child keeps the daemon prompt. -/
theorem tryWait_prompt {daemon : Daemon} (prompt : daemon.Prompt) (poll : ChildPoll) :
    (daemon.tryWait poll).Prompt := by
  cases standing : daemon.phase with
  | waiting =>
      have moved (child : Option WaitOnSpec) (phase : Phase) (rests : phase.duty = .rested)
          (other : phase ≠ .reading) : ({ daemon with child, phase } : Daemon).Prompt :=
        prompt_of_covered prompt rfl rfl rfl [] (fun _ _ => List.not_mem_nil) rfl
          (by rw [standing]; rfl) rests other
      simp only [tryWait, standing]
      split
      · exact moved _ _ rfl (by intro same; cases same)
      · cases poll with
        | running => exact moved _ _ rfl (by intro same; cases same)
        | exited code => exact moved _ _ rfl (by intro same; cases same)
        | failed => exact moved _ _ rfl (by intro same; cases same)
  | _ =>
      simp only [tryWait, standing]
      exact prompt

omit [Rfc3339] [UnicodeSegmentation] [UlidSupply] in
/-- Reading the link of the child keeps the daemon prompt. -/
theorem readChildLink_prompt {daemon : Daemon} (prompt : daemon.Prompt) :
    daemon.readChildLink.Prompt := by
  cases standing : daemon.phase with
  | exited wait =>
      rw [readChildLink, standing]
      exact prompt_of_covered prompt rfl rfl rfl [] (fun _ _ => List.not_mem_nil) rfl
        (by rw [standing]; rfl) rfl (by intro same; cases same)
  | _ =>
      rw [readChildLink, standing]
      exact prompt

/-- A page that was claimed is prepared at most, and a flush follows. -/
theorem ingest_prompt {daemon : Daemon} (sane : daemon.Sane) (prompt : daemon.Prompt)
    (output : ReadOutput) (instant : OffsetDateTime) (spawnOk : Bool) :
    (daemon.ingest output instant spawnOk).Prompt := by
  cases standing : daemon.phase with
  | ingesting wait link =>
      obtain ⟨clear, _, _⟩ := sane.clear (by rw [standing]; rfl)
      have rests : daemon.phase.duty = .rested := by rw [standing]; rfl
      rcases ingest_cases clear standing output instant spawnOk with
        ⟨spec, observed, _, noted, same⟩ | ⟨_, same⟩ | ⟨events, pipe, acks, _, _, claimed, same⟩
      · rw [same]
        refine prompt_of_covered prompt rfl rfl rfl observed ?_ rfl rests rfl nofun
        rcases noted with rfl | rfl <;> simp
      · rw [same]
        exact prompt_of_covered prompt rfl rfl rfl [_] (by simp) rfl rests rfl nofun
      · rw [same]
        exact .of_due (DaemonPipe.sent_of_idle claimed.unsettled claimed.unattempted _) rfl
          (fun attempted => by cases claimed.unattempted.symm.trans attempted) nofun nofun
  | _ =>
      rw [ingest, standing]
      exact prompt

omit [Rfc3339] [UnicodeSegmentation] in
/-- An acknowledged claim leaves the pipe empty. -/
theorem outdate_prompt {daemon : Daemon} (sane : daemon.Sane) (prompt : daemon.Prompt) :
    daemon.outdate.Prompt := by
  cases standing : daemon.phase with
  | rearming rearm =>
      obtain ⟨_, _, _, _, generation, _⟩ := sane.custody.rearming standing
      rw [outdate_eq standing generation]
      exact .of_rested (DaemonPipe.sent_of_idle rfl rfl _) rfl nofun
        (fun _ awaits => by cases awaits) fun _ attempted => by cases attempted
  | _ =>
      rw [outdate, standing]
      exact prompt

omit [Rfc3339] [UlidSupply] in
/-- Reaping the child keeps the daemon prompt. -/
theorem reap_prompt {daemon : Daemon} (prompt : daemon.Prompt) (reapOk : Bool)
    (output : ReadOutput) (spawnOk : Bool) : (daemon.reap reapOk output spawnOk).Prompt := by
  cases standing : daemon.phase with
  | reaping =>
      have rests : daemon.phase.duty = .rested := by rw [standing]; rfl
      rcases reap_cases daemon reapOk output spawnOk standing with
        same | same | ⟨_, same⟩ | ⟨events, _, _, same⟩
      · rw [same]
        exact prompt_of_covered prompt rfl rfl rfl [] (by simp) rfl rests rfl nofun
      · rw [same]
        exact prompt_of_covered prompt rfl rfl rfl [_] (by simp) rfl rests rfl nofun
      · rw [same]
        exact prompt_of_covered prompt rfl rfl rfl [_, _] (by simp) rfl rests rfl nofun
      · rw [same]
        exact prompt_of_covered prompt rfl rfl rfl [_] (by simp) rfl rests rfl nofun
  | _ =>
      rw [reap, standing]
      exact prompt

omit [UnicodeSegmentation] in
/-- A page claimed without a link is not prepared. -/
theorem claimSuffix_prompt {daemon : Daemon} (sane : daemon.Sane) (prompt : daemon.Prompt) :
    daemon.claimSuffix.Prompt := by
  cases standing : daemon.phase with
  | claiming events =>
      obtain ⟨clear, _, _⟩ := sane.clear (by rw [standing]; rfl)
      rcases claimSuffix_cases clear standing with same | ⟨pipe, acks, claimed, same⟩
      · rw [same]
        exact prompt_of_covered prompt rfl rfl rfl [] (fun _ _ => List.not_mem_nil) rfl
          (by rw [standing]; rfl) rfl nofun
      · rw [same]
        refine .of_rested (DaemonPipe.sent_of_idle claimed.unsettled claimed.unattempted _) rfl
          nofun (fun _ awaits => ?_) fun _ attempted => ?_
        · rw [show pipe.ledger = .empty from claimed.unlinked rfl] at awaits
          cases awaits
        · cases claimed.unattempted.symm.trans attempted
  | _ =>
      rw [claimSuffix, standing]
      exact prompt

/-! ## Runs -/

omit [Rfc3339] [UnicodeSegmentation] [UlidSupply] in
/-- A daemon starts prompt. -/
theorem start_prompt (armId seatId : String) (coverageUntil : OffsetDateTime)
    (spec : WaitOnSpec) (initial : String) (log : List Json) :
    (Daemon.start armId seatId coverageUntil spec initial log).Prompt :=
  .of_rested (DaemonPipe.sent_of_idle rfl rfl _) rfl nofun (fun _ awaits => by cases awaits)
    fun _ attempted => by cases attempted

/-- Every move keeps what a result answers for. -/
theorem step_prompt {daemon : Daemon} (sane : daemon.Sane) (linked : daemon.Linked)
    (prompt : daemon.Prompt) (move : Move) : (daemon.step move).Prompt := by
  cases move with
  | acceptWaiter | prepare | commit | acceptHandled | send | stop | post =>
      exact outer_prompt sane linked prompt rfl
  | receive now => exact receive_prompt prompt now
  | retain => exact retain_prompt linked prompt
  | supersede => exact supersede_prompt prompt
  | lease timeoutOk => exact lease_prompt prompt timeoutOk
  | readLink => exact readLink_prompt prompt
  | flush writeOk => exact flush_prompt sane prompt writeOk
  | revoke => exact revoke_prompt prompt
  | pollLease timeoutOk => exact pollLease_prompt linked prompt timeoutOk
  | readResult read => exact readResult_prompt prompt read
  | note => exact note_prompt prompt
  | tryWait poll => exact tryWait_prompt prompt poll
  | readChildLink => exact readChildLink_prompt prompt
  | ingest output instant spawnOk => exact ingest_prompt sane prompt output instant spawnOk
  | outdate => exact outdate_prompt sane prompt
  | reap reapOk output spawnOk => exact reap_prompt prompt reapOk output spawnOk
  | claim => exact claimSuffix_prompt sane prompt

end Daemon
end Waiter
end Gearwit
