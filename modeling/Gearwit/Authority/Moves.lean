import Gearwit.Authority.Runs

/-!
# Moves of a daemon

A daemon performs events, and a running one may recover again.  What its image is worth
depends on how it came to stand: on an empty store or on a recovery that succeeded it is
whole, and a recovery that fails, a crash, or a new authority whose recovery fails leaves
it with less.
-/

namespace Gearwit

open FakePersist

/-- One event, or a running daemon that recovers once more. -/
inductive DaemonMove
  | event (event : AuthorityEvent)
  | recover (draws : List VerifierRef)

/-- The move neither crashes the daemon nor starts it anew. -/
def DaemonMove.Operates : DaemonMove → Prop
  | .event performed =>
      performed.completes = none ∧ ∀ now draws, performed.call ≠ .restart now draws
  | .recover _ => True

/-- The move builds the image anew from the store. -/
def DaemonMove.Rebuilds : DaemonMove → Prop
  | .event performed => ∃ now draws, performed.call = .restart now draws
  | .recover _ => True

/-- What the image of a daemon stands on. -/
inductive Footing
  /-- The authority came up over a store with births and has not recovered since. -/
  | unrecovered
  /-- The daemon crashed, or came up over a store without births and has not recovered
  since. -/
  | torn
  /-- The last recovery of a whole daemon failed. -/
  | quarantined
  /-- The authority came up on an empty store or recovered, and nothing failed since. -/
  | whole
  deriving DecidableEq

namespace Footing

/-- Footing after a crash. -/
def crashed : Footing → Footing
  | .unrecovered => .unrecovered
  | .torn | .quarantined | .whole => .torn

/-- Footing after a recovery of the running daemon that fails. -/
def refused : Footing → Footing
  | .whole => .quarantined
  | .unrecovered => .unrecovered
  | .torn => .torn
  | .quarantined => .quarantined

end Footing

/-- A world with the footing of its image. -/
structure DaemonRun where
  world : AuthorityWorld
  footing : Footing

namespace AuthorityWorld

variable [Blake3]

/-- Recover over the running image; the products at hand stay. -/
def recoverAgain (world : AuthorityWorld) (draws : List VerifierRef) : AuthorityWorld :=
  match world.authority.recover draws with
  | (.error _, authority) => world.withAuthority authority
  | (.ok recovery, authority) =>
      { world.withAuthority authority with
        observationScopes := recovery.observationScopes ++ world.observationScopes
        reconciliationScopes :=
          recovery.reconciliationScopes ++ world.reconciliationScopes }

/-- The authority after a recovery of the running daemon. -/
@[simp] theorem recoverAgain_authority (world : AuthorityWorld)
    (draws : List VerifierRef) :
    (world.recoverAgain draws).authority = (world.authority.recover draws).2 := by
  unfold recoverAgain
  split <;> next done => rw [done]; rfl

/-- A recovery leads to a store port operations lead to. -/
theorem recoverAgain_reaches (world : AuthorityWorld) (draws : List VerifierRef) :
    FakePersist.Reaches world.store (world.recoverAgain draws).store := by
  unfold store
  rw [recoverAgain_authority]
  cases done : world.authority.recover draws with
  | mk reply next =>
  rcases DaemonAuthority.recover_store done with ⟨same, _⟩ | ⟨_, settles, _⟩
  · exact same ▸ .refl _
  · exact settles.reaches

/-- Whether the recovery of a restart succeeds. -/
def comesUp (world : AuthorityWorld) (now : OffsetDateTime) (draws : List VerifierRef) :
    Bool :=
  ((DaemonAuthority.new world.authority.persist now).recover draws).1.isOk

end AuthorityWorld

namespace DaemonRun

/-- A daemon that came up on an empty store. -/
def initial (activeMacKey : Bytes32) (now : OffsetDateTime) : DaemonRun :=
  ⟨.initial activeMacKey now, .whole⟩

variable [Blake3] [Rfc3339]

/-- Footing after an event.  A restart stands on its recovery: when it fails, the new
image is empty, and only a store without births has the births of that. -/
def footingAfter (run : DaemonRun) (event : AuthorityEvent) : Footing :=
  match event.call with
  | .restart now draws =>
      if (run.world.allow event.completes).comesUp now draws then
        if event.completes.isNone then .whole else .torn
      else if run.world.store.births.isEmpty then .torn
      else .unrecovered
  | _ => if event.completes.isNone then run.footing else run.footing.crashed

/-- The run after one move. -/
def step (run : DaemonRun) : DaemonMove → DaemonRun
  | .event event => ⟨run.world.step event, run.footingAfter event⟩
  | .recover draws =>
      ⟨(run.world.allow none).recoverAgain draws,
        if ((run.world.allow none).authority.recover draws).1.isOk then .whole
        else run.footing.refused⟩

/-- The run after some moves on an empty store. -/
def after (activeMacKey : Bytes32) (now : OffsetDateTime) (moves : List DaemonMove) :
    DaemonRun :=
  Transition.run step (initial activeMacKey now) moves

/-- A move leads to a store the port operations lead to. -/
theorem step_reaches (run : DaemonRun) (move : DaemonMove) :
    FakePersist.Reaches run.world.store (run.step move).world.store := by
  cases move with
  | event event => exact AuthorityWorld.step_reaches run.world event
  | recover draws => exact AuthorityWorld.recoverAgain_reaches _ draws

/-- Moves lead to a store the port operations lead to. -/
theorem run_reaches (run : DaemonRun) (moves : List DaemonMove) :
    FakePersist.Reaches run.world.store (Transition.run step run moves).world.store := by
  induction moves generalizing run with
  | nil => exact .refl _
  | cons move rest inductionHypothesis =>
      exact (run.step_reaches move).trans (inductionHypothesis (run.step move))

end DaemonRun
end Gearwit
