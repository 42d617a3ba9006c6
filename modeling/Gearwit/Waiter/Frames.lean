import Gearwit.Waiter.Links
import Gearwit.Waiter.MoveEffects

/-!
# Frames and the connections they are written on

A flush reads the current link on its own, without asking whether the served
session still owns it.  A frame reaches the connection admitted under the name it
carries in every run whose flushes read a link of the served session, and another
waiter's frame reaches it when a link is replaced in between.
-/

namespace Gearwit
namespace Waiter

/-! ## Frames -/

/-- The session a frame names. -/
def DeliverEvents.session (message : DeliverEvents) : LinkSession :=
  ⟨message.linkId, message.armId, message.generation⟩

/-- Every frame was written on a connection admitted before as the session it names. -/
def Framed (trace : List Observation) : Prop :=
  ∀ newer older connection message, trace = newer ++ .wrote connection message :: older →
    (connection, message.session) ∈ admissions older

/-- An empty trace is framed. -/
theorem framed_nil : Framed [] := by
  intro newer older connection message split
  cases newer <;> cases split

/-- A trace is framed when its newest frame is and the rest was. -/
theorem framed_cons {observation : Observation} {older : List Observation} :
    Framed (observation :: older) ↔
      (∀ connection message, observation = .wrote connection message →
        (connection, message.session) ∈ admissions older) ∧ Framed older := by
  constructor
  · intro framed
    refine ⟨fun connection message same => framed [] older connection message (by rw [same]; rfl),
      fun newer rest connection message split => ?_⟩
    exact framed (observation :: newer) rest connection message (by rw [split]; rfl)
  · rintro ⟨first, framed⟩ newer rest connection message split
    cases newer with
    | nil =>
        cases split
        exact first connection message rfl
    | cons head newer =>
        cases split
        exact framed newer rest connection message rfl

instance decidableFramed : (trace : List Observation) → Decidable (Framed trace)
  | [] => .isTrue framed_nil
  | .wrote connection message :: older =>
      have := decidableFramed older
      decidable_of_iff ((connection, message.session) ∈ admissions older ∧ Framed older)
        (by simp [framed_cons])
  | .spawned _ :: older | .drained _ :: older | .claimed _ _ :: older | .recorded _ :: older
  | .accepted _ _ :: older | .admitted _ _ :: older =>
      have := decidableFramed older
      decidable_of_iff (Framed older) (by simp [framed_cons])

/-- Observations other than frames do not matter. -/
theorem framed_append {recent older : List Observation}
    (unwritten : ∀ connection message, Observation.wrote connection message ∉ recent)
    (framed : Framed older) : Framed (recent ++ older) := by
  induction recent with
  | nil => exact framed
  | cons observation rest inductionHypothesis =>
      refine framed_cons.2 ⟨fun connection message same => ?_, inductionHypothesis ?_⟩
      · exact absurd (same ▸ List.mem_cons_self) (unwritten connection message)
      · intro connection message member
        exact unwritten connection message (List.mem_cons_of_mem _ member)

/-! ## Frames written by a run -/

/-- The main loop is about to read the link for a flush. -/
def Phase.isLinking : Phase → Bool
  | .linking _ => true
  | _ => false

namespace Daemon

variable [Rfc3339] [UnicodeSegmentation] [UlidSupply]

omit [Rfc3339] [UnicodeSegmentation] [UlidSupply] in
/-- The served session is the one of the link, unless a flush to that link would write
nothing. -/
def Aligned (daemon : Daemon) (served : ServeAttach) (link : AdmittedLink) : Prop :=
  served.session = some link.session ∨ daemon.pipe.claim = none ∨
    daemon.pipe.ledger.isTerminal = true ∨ leaseExpired link.leaseUntil daemon.now = true

instance (daemon : Daemon) (served : ServeAttach) (link : AdmittedLink) :
    Decidable (daemon.Aligned served link) :=
  inferInstanceAs (Decidable (_ ∨ daemon.pipe.claim = none ∨ _))

omit [Rfc3339] [UnicodeSegmentation] [UlidSupply] in
/-- Whenever the current link is read for a flush, the served session owns it or
nothing would be written. -/
def Aimed (daemon : Daemon) : Move → Prop
  | .readLink =>
      daemon.phase.isLinking = true → ∀ served ∈ daemon.served, ∀ link ∈ daemon.table.current,
        daemon.Aligned served link
  | _ => True

instance (daemon : Daemon) : (move : Move) → Decidable (daemon.Aimed move)
  | .readLink =>
      inferInstanceAs (Decidable (_ → ∀ served ∈ daemon.served,
        ∀ link ∈ daemon.table.current, daemon.Aligned served link))
  | .acceptWaiter _ _ | .prepare _ | .commit _ | .acceptHandled _ _ | .send | .stop
  | .receive _ | .retain | .supersede | .lease _ | .flush _ | .revoke | .pollLease _
  | .readResult _ | .note | .tryWait _ | .readChildLink | .ingest _ _ _ | .outdate
  | .reap _ _ _ | .claim | .post _ => .isTrue trivial

omit [Rfc3339] [UnicodeSegmentation] [UlidSupply] in
/-- A link that was read for a flush is the served one, and every frame so far names
the session of its connection. -/
structure Framing (daemon : Daemon) : Prop where
  aligned : ∀ link resume served, daemon.phase = .flushing (some link) resume →
    daemon.served = some served → daemon.Aligned served link
  framed : Framed daemon.trace

omit [UnicodeSegmentation] in
/-- A flush writes on the connection that was admitted as the session the frame
names. -/
theorem flush_framed {daemon : Daemon} (linked : daemon.Linked) (framing : daemon.Framing)
    (writeOk : Bool) : Framed (daemon.flush writeOk).trace := by
  unfold flush
  split
  · rename_i link resume standing
    split
    · exact framing.framed
    · rename_i served present
      have effect := flushAttached_effect link daemon.pipe daemon.acks daemon.now writeOk
        (UlidSupply.text daemon.minted)
      generalize flushAttached link daemon.pipe daemon.acks daemon.now writeOk
        (UlidSupply.text daemon.minted) = flushed at effect
      cases effect with
      | resting | expired | refused | already | unsent => exact framing.framed
      | @written live read message pending attempted claimed found addressed leased unsettled =>
          subst found
          refine framed_cons.2 ⟨fun connection other same => ?_, framing.framed⟩
          cases same
          have owner : served.session = some read.session := by
            rcases framing.aligned read resume served standing present with
              same | unclaimed | settled | elapsed
            · exact same
            · rw [claimed] at unclaimed
              cases unclaimed
            · rw [unsettled] at settled
              cases settled
            · rw [leased] at elapsed
              cases elapsed
          have named : message.session = read.session := by
            simp only [DeliverEvents.session, AdmittedLink.session, addressed.linked,
              addressed.arm, addressed.generation]
          rw [named]
          exact linked.entered served (mem_attaches.2 (Or.inl present)) read.session owner
  · exact framing.framed

omit [Rfc3339] [UnicodeSegmentation] [UlidSupply] in
/-- A daemon starts with no frame written. -/
theorem start_framing (armId seatId : String) (coverageUntil : OffsetDateTime)
    (spec : WaitOnSpec) (initial : String) (log : List Json) :
    (Daemon.start armId seatId coverageUntil spec initial log).Framing where
  aligned link resume served standing := by cases standing
  framed := framed_cons.2 ⟨nofun, framed_nil⟩

/-- A move that meets the condition keeps every frame on its own connection. -/
theorem step_framing {daemon : Daemon} (sane : daemon.Sane) (linked : daemon.Linked)
    {move : Move} (aimed : daemon.Aimed move) (framing : daemon.Framing) :
    (daemon.step move).Framing where
  aligned link resume served standing present := by
    obtain ⟨sameServed, samePipe, sameNow, earlier⟩ := step_flushing sane standing
    unfold Aligned
    rw [samePipe, sameNow]
    rw [sameServed] at present
    rcases earlier with flushing | ⟨rfl, linking, read⟩
    · exact framing.aligned link resume served flushing present
    · exact aimed (by rw [linking]; rfl) served present link read.symm
  framed := by
    by_cases flushes : ∃ writeOk, move = .flush writeOk
    · obtain ⟨writeOk, rfl⟩ := flushes
      exact flush_framed linked framing writeOk
    · obtain ⟨recent, shown, unwritten⟩ := (step_effect sane move).shown
      rw [shown]
      exact framed_append (unwritten fun writeOk same => flushes ⟨writeOk, same⟩) framing.framed

end Daemon

variable [Rfc3339] [UnicodeSegmentation] [UlidSupply]

/-- In every run that only flushes to a link of the served session, every frame is
written on a connection that was admitted as the session the frame names. -/
theorem frames_reach_their_link (armId seatId : String) (coverageUntil : OffsetDateTime)
    (spec : WaitOnSpec) (initial : String) (log : List Json) {moves : List Move}
    (aimed : Transition.Along Daemon.step Daemon.Aimed
      (Daemon.start armId seatId coverageUntil spec initial log) moves) :
    Framed (Transition.run Daemon.step
      (Daemon.start armId seatId coverageUntil spec initial log) moves).trace := by
  have kept := Transition.invariant_along
    (fun daemon : Daemon => daemon.Sane ∧ daemon.Linked ∧ daemon.Framing)
    (fun daemon move aimed ⟨sane, linked, framing⟩ =>
      ⟨Daemon.step_sane sane move, Daemon.step_linked sane linked move,
        Daemon.step_framing sane linked aimed framing⟩)
    ⟨Daemon.start_sane armId seatId coverageUntil spec initial log,
      Daemon.start_linked armId seatId coverageUntil spec initial log,
      Daemon.start_framing armId seatId coverageUntil spec initial log⟩
    aimed
  exact kept.2.2.framed

end Waiter

/-! ## A link replaced before a flush -/

namespace Waiter
namespace Sample

private theorem plain_aimed :
    Transition.Along Daemon.step Daemon.Aimed
      (Daemon.start arm.armId arm.seatId arm.coverageUntil spec "post00" [])
      (attaching ++ delivering) := by
  decide +kernel

/-- The flush of a page whose link stayed keeps the frame on its connection. -/
theorem plain_frame_addressed :
    Framed (Transition.run Daemon.step
      (Daemon.start arm.armId arm.seatId arm.coverageUntil spec "post00" [])
      (attaching ++ delivering)).trace :=
  @frames_reach_their_link _ _ _ arm.armId arm.seatId arm.coverageUntil spec "post00" []
    (attaching ++ delivering) plain_aimed

/-- A second before the lease ends the child matches; while its page is claimed the
lease ends and another attach takes the link, and only then the link is read. -/
def crossing : List Move :=
  attaching ++
    [.pollLease true, .readResult .idle, .tryWait .running, .receive (second 599),
      .pollLease true, .readResult .idle, .tryWait (.exited 0), .readChildLink,
      .ingest plainPage (second 599) true,
      .acceptWaiter (.attachWaiter (attach "01J00000000000000000000044" 1)) (second 600),
      .prepare 0, .commit true, .readLink, .flush true]

/-- The page goes out on the first connection in the name of the second one's link. -/
theorem replaced_link_misaddressed :
    (admissions (Transition.run Daemon.step daemon crossing).trace).map Prod.fst = [1, 0] ∧
      ¬ Framed (Transition.run Daemon.step daemon crossing).trace := by
  decide +kernel

end Sample
end Waiter
end Gearwit
