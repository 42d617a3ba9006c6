import Gearwit.Waiter.Deliverable
import Gearwit.Waiter.Rearm

/-!
# Runs of the delivery ledger

The ledger is prepared, resent and settled in any order.  In every run a delivery
keeps its batch and its terminal outcome, and only the pending attempt is settled.
A refused call leaves the ledger alone except in one place: a batch is readdressed
before it is validated for its successor link.
-/

namespace Gearwit
namespace Waiter

/-- One call of the ledger's interface. -/
inductive LedgerCall
  | prepare (link : AdmittedLink) (signalId : String) (events : List ProviderEvent)
      (now : OffsetDateTime)
  | redeliver (link : AdmittedLink) (now : OffsetDateTime)
  | record (result : WaiterLink)

/-- The ledger and the count of identifiers minted so far. -/
structure LedgerDesk where
  ledger : DeliveryLedger
  minted : Nat

/-- Two batches of one delivery, which differ in their link and in the time of their
attempt at most. -/
def DeliverEvents.SameBatch (first second : DeliverEvents) : Prop :=
  second = { first with linkId := second.linkId, attemptedAt := second.attemptedAt }

/-- A message is of its own batch. -/
theorem DeliverEvents.sameBatch_refl (message : DeliverEvents) : message.SameBatch message := rfl

/-- Being of one batch composes. -/
theorem DeliverEvents.SameBatch.trans {first second third : DeliverEvents}
    (early : first.SameBatch second) (late : second.SameBatch third) :
    first.SameBatch third := by
  unfold SameBatch at early late ⊢
  rw [late, early]

/-- A message stays of its batch under another address. -/
theorem sameBatch_readdressed [Rfc3339] (message : DeliverEvents) (link : AdmittedLink)
    (now : OffsetDateTime) : message.SameBatch (readdressed message link now) := rfl

namespace LedgerDesk

/-- An empty ledger. -/
def fresh : LedgerDesk := ⟨.empty, 0⟩

/-- The pending delivery. -/
def pending (desk : LedgerDesk) : Option PendingDelivery := desk.ledger.pending

variable [Rfc3339] [UlidSupply]

/-- Perform one call; a preparation mints an identifier. -/
def perform (desk : LedgerDesk) :
    LedgerCall → Except WaiterLinkError (Option DeliverEvents) × LedgerDesk
  | .prepare link signalId events now =>
      let (outcome, ledger) := prepareDelivery desk.ledger link signalId events now
        (UlidSupply.text desk.minted)
      (outcome.map some, ⟨ledger, desk.minted + 1⟩)
  | .redeliver link now =>
      let (outcome, ledger) := redeliverPending desk.ledger link now
      (outcome.map some, ⟨ledger, desk.minted⟩)
  | .record result =>
      let (outcome, ledger) := recordDeliveryResult desk.ledger result
      (outcome.map fun _ => none, ⟨ledger, desk.minted⟩)

/-- Answer of a call: the message to send, if any. -/
def answer (desk : LedgerDesk) (call : LedgerCall) :
    Except WaiterLinkError (Option DeliverEvents) := (desk.perform call).1

/-- The desk after a call. -/
def step (desk : LedgerDesk) (call : LedgerCall) : LedgerDesk := (desk.perform call).2

/-! ## The law -/

/-- What one call promises: a new delivery is prepared only when none is open; a message
names the pending link and is the pending batch; a result of another delivery or link
changes nothing; and neither does a call that fails. -/
structure Lawful (desk : LedgerDesk) (call : LedgerCall) : Prop where
  prepared : ∀ pending, (desk.step call).pending = some pending →
    (∀ earlier, desk.pending = some earlier → earlier.deliveryId ≠ pending.deliveryId) →
      ∀ earlier, desk.pending = some earlier → earlier.attempt.isTerminal = true
  handed : ∀ message, desk.answer call = .ok (some message) →
    ∃ pending, (desk.step call).pending = some pending ∧ pending.message = message ∧
      pending.linkId = message.linkId ∧ pending.deliveryId = message.deliveryId
  foreign : ∀ report pending, call = .record (.deliveryResult report) →
    desk.pending = some pending →
    pending.deliveryId ≠ report.deliveryId ∨ pending.linkId ≠ report.linkId →
      (desk.step call).ledger = desk.ledger
  failed : ∀ error, desk.answer call = .error error → (desk.step call).ledger = desk.ledger

/-- The law of a run: every call is lawful, and between any two moments a delivery keeps
its batch, and its terminal outcome once it has one. -/
structure RunLaw (start : LedgerDesk) (calls : List LedgerCall) : Prop where
  lawful : Transition.Along step Lawful start calls
  batch : ∀ first second rest early late, calls = first ++ second ++ rest →
    (Transition.run step start first).pending = some early →
    (Transition.run step start (first ++ second)).pending = some late →
    late.deliveryId = early.deliveryId → early.message.SameBatch late.message
  terminal : ∀ first second rest early late outcome, calls = first ++ second ++ rest →
    (Transition.run step start first).pending = some early →
    (Transition.run step start (first ++ second)).pending = some late →
    late.deliveryId = early.deliveryId → early.attempt = .terminal outcome →
      late.attempt = .terminal outcome

/-- A batch is readdressed to a link of its arm, generation and route, it differs from
the stored one, and it does not validate. -/
def Rewrites (desk : LedgerDesk) (call : LedgerCall) : Prop :=
  ∃ link now pending, call = .redeliver link now ∧ desk.pending = some pending ∧
    pending.attempt.isTerminal = false ∧ pending.message.armId = link.armId ∧
    pending.message.generation = link.generation ∧ pending.message.route = link.route ∧
    readdressed pending.message link now ≠ pending.message ∧
    validate (.deliverEvents (readdressed pending.message link now)) ≠ .ok ()

/-! ## What a call does -/

/-- What a call does: it fails or answers without an effect, prepares a new delivery,
resends the pending one, rewrites it although it fails, or settles its attempt. -/
inductive CallEffect (desk : LedgerDesk) (call : LedgerCall) :
    Except WaiterLinkError (Option DeliverEvents) → LedgerDesk → Prop
  | failed {error : WaiterLinkError} {minted : Nat} (counted : desk.minted ≤ minted) :
      CallEffect desk call (.error error) ⟨desk.ledger, minted⟩
  | prepared {link : AdmittedLink} {message : DeliverEvents}
      (settled : desk.ledger.shouldRedeliver = false) (linked : message.linkId = link.linkId)
      (named : message.deliveryId = UlidSupply.text desk.minted)
      (preparing : ∀ result, call ≠ .record result) :
      CallEffect desk call (.ok (some message))
        ⟨⟨some ⟨UlidSupply.text desk.minted, link.linkId, message, .awaiting⟩⟩, desk.minted + 1⟩
  | resent {link : AdmittedLink} {now : OffsetDateTime} {pending : PendingDelivery}
      (held : desk.pending = some pending) (unsettled : pending.attempt.isTerminal = false)
      (resending : ∀ result, call ≠ .record result) :
      CallEffect desk call (.ok (some (readdressed pending.message link now)))
        ⟨⟨some { pending with
            message := readdressed pending.message link now
            linkId := link.linkId
            attempt := .awaiting }⟩, desk.minted⟩
  | rewritten {link : AdmittedLink} {now : OffsetDateTime} {pending : PendingDelivery}
      {error : WaiterLinkError} (held : desk.pending = some pending)
      (rewrites : desk.Rewrites call) :
      CallEffect desk call (.error error)
        ⟨⟨some { pending with message := readdressed pending.message link now }⟩, desk.minted⟩
  | settled {report : DeliveryResult} {pending : PendingDelivery} {attempt : DeliveryAttempt}
      (named : call = .record (.deliveryResult report)) (held : desk.pending = some pending)
      (delivery : pending.deliveryId = report.deliveryId)
      (link : pending.linkId = report.linkId)
      (kept : ∀ outcome, pending.attempt = .terminal outcome → attempt = .terminal outcome) :
      CallEffect desk call (.ok none) ⟨⟨some { pending with attempt }⟩, desk.minted⟩

omit [Rfc3339] [UlidSupply] in
private theorem desk_ledger_eq {desk : LedgerDesk} {pending : PendingDelivery}
    (held : desk.pending = some pending) : desk.ledger = ⟨some pending⟩ := by
  cases desk with
  | mk ledger minted =>
      cases ledger
      cases held
      rfl

private theorem redeliver_effect (desk : LedgerDesk) (link : AdmittedLink)
    (now : OffsetDateTime) :
    desk.CallEffect (.redeliver link now) (desk.answer (.redeliver link now))
      (desk.step (.redeliver link now)) := by
  rcases resent : redeliverPending desk.ledger link now with ⟨outcome, after⟩
  simp only [answer, step, perform, resent]
  cases outcome with
  | ok message =>
      obtain ⟨pending, held, rfl, _, _, _, attempt, _, rfl⟩ := redeliverPending_ok resent
      refine .resent held ?_ fun result same => ?_
      · rcases attempt with awaiting | lost
        · rw [awaiting]
          rfl
        · rw [lost]
          rfl
      · cases same
  | error error =>
      have whole : after = desk.ledger ∨ ∃ pending, desk.pending = some pending ∧
          desk.Rewrites (.redeliver link now) ∧
          after = ⟨some { pending with message := readdressed pending.message link now }⟩ := by
        unfold redeliverPending at resent
        cases held : desk.ledger.pending with
        | none =>
            simp only [held] at resent
            cases resent
            exact Or.inl rfl
        | some pending =>
            simp only [held] at resent
            split_ifs at resent with ended different
            · cases resent
              exact Or.inl rfl
            · cases resent
              exact Or.inl rfl
            push Not at different
            cases valid : validate (.deliverEvents (readdressed pending.message link now)) with
            | ok value =>
                rw [valid] at resent
                cases resent
            | error reason =>
                rw [valid] at resent
                cases resent
                by_cases same : readdressed pending.message link now = pending.message
                · refine Or.inl ?_
                  rw [same, desk_ledger_eq held]
                · exact Or.inr ⟨pending, held, ⟨link, now, pending, rfl, held,
                    by simpa using ended, different.1, different.2.1, different.2.2, same,
                    by rw [valid]; exact fun ok => by cases ok⟩, rfl⟩
      rcases whole with rfl | ⟨pending, held, rewrites, rfl⟩
      · exact .failed le_rfl
      · exact .rewritten held rewrites

private theorem record_effect (desk : LedgerDesk) (result : WaiterLink) :
    desk.CallEffect (.record result) (desk.answer (.record result))
      (desk.step (.record result)) := by
  rcases recorded : recordDeliveryResult desk.ledger result with ⟨outcome, after⟩
  simp only [answer, step, perform, recorded]
  cases outcome with
  | error error =>
      rw [recordDeliveryResult_error recorded]
      exact .failed le_rfl
  | ok value =>
      obtain ⟨report, pending, rfl, held, _, delivery, link, _, settled⟩ :=
        recordDeliveryResult_ok recorded
      have marked : ∃ attempt, (∀ outcome, pending.attempt = .terminal outcome →
          attempt = .terminal outcome) ∧ after = ⟨some { pending with attempt }⟩ := by
        have unchanged (same : after = desk.ledger) : after = ⟨some pending⟩ :=
          same.trans (desk_ledger_eq held)
        rcases settled with ⟨awaiting, _, same⟩ | ⟨awaiting, _, same⟩ | ⟨_, _, same⟩ | ⟨_, same⟩
        · exact ⟨_, fun outcome ended => (by rw [awaiting] at ended; cases ended), same⟩
        · exact ⟨_, fun outcome ended => (by rw [awaiting] at ended; cases ended), same⟩
        · exact ⟨pending.attempt, fun _ ended => ended, unchanged same⟩
        · exact ⟨pending.attempt, fun _ ended => ended, unchanged same⟩
      obtain ⟨attempt, kept, rfl⟩ := marked
      exact .settled rfl held delivery link kept

/-- Every call is one of these effects. -/
theorem call_effect (desk : LedgerDesk) (call : LedgerCall) :
    desk.CallEffect call (desk.answer call) (desk.step call) := by
  cases call with
  | redeliver link now => exact redeliver_effect desk link now
  | record result => exact record_effect desk result
  | prepare link signalId events now =>
      rcases prepared : prepareDelivery desk.ledger link signalId events now
        (UlidSupply.text desk.minted) with ⟨outcome, after⟩
      simp only [answer, step, perform, prepared]
      cases outcome with
      | error error =>
          rw [prepareDelivery_error prepared]
          exact .failed (Nat.le_succ _)
      | ok message =>
          have settled : desk.ledger.shouldRedeliver = false := by
            by_contra open_attempt
            rw [prepareDelivery, if_pos (by simpa using open_attempt)] at prepared
            cases prepared
          obtain ⟨last, _, rfl, _, rfl⟩ := prepareDelivery_ok prepared
          exact .prepared settled rfl rfl fun _ same => by cases same

/-! ## Every call but a rewrite is lawful -/

/-- The pending delivery carries a minted identifier, and so does its batch. -/
def Sound (desk : LedgerDesk) : Prop :=
  ∀ pending, desk.pending = some pending →
    (∃ number < desk.minted, UlidSupply.text number = pending.deliveryId) ∧
      pending.message.deliveryId = pending.deliveryId

omit [Rfc3339] in
/-- A fresh desk is sound. -/
theorem fresh_sound : fresh.Sound := fun _ same => by cases same

/-- Every call keeps the identifiers. -/
theorem step_sound {desk : LedgerDesk} (sound : desk.Sound) (call : LedgerCall) :
    (desk.step call).Sound := by
  have effect := desk.call_effect call
  intro pending held
  generalize desk.answer call = answered at effect
  generalize desk.step call = after at effect held
  cases effect with
  | failed counted =>
      obtain ⟨⟨number, below, named⟩, same⟩ := sound pending held
      exact ⟨⟨number, lt_of_lt_of_le below counted, named⟩, same⟩
  | prepared settled linked named =>
      cases held
      exact ⟨⟨desk.minted, Nat.lt_succ_self _, rfl⟩, named⟩
  | @resent _ _ earlier present =>
      cases held
      exact sound earlier present
  | @rewritten _ _ earlier _ present =>
      cases held
      exact sound earlier present
  | @settled _ earlier _ _ present =>
      cases held
      exact sound earlier present

/-- A call that rewrites the pending batch fails, and the ledger is another one. -/
theorem Rewrites.unlawful {desk : LedgerDesk} {call : LedgerCall}
    (rewrites : desk.Rewrites call) : ¬ desk.Lawful call := by
  intro lawful
  obtain ⟨link, now, pending, rfl, held, unsettled, arm, generation, route, different,
    invalid⟩ := rewrites
  cases refused : validate (.deliverEvents (readdressed pending.message link now)) with
  | ok value => exact invalid refused
  | error error =>
      have made : redeliverPending desk.ledger link now =
          (.error error, ⟨some { pending with message := readdressed pending.message link now }⟩) := by
        rw [desk_ledger_eq held]
        simp [redeliverPending, unsettled, arm, generation, route, refused]
      have same := lawful.failed error (by simp [answer, perform, made, Except.map])
      simp only [step, perform, made] at same
      rw [desk_ledger_eq held] at same
      have batch := congrArg (fun ledger => ledger.pending.map PendingDelivery.message) same
      exact different (by simpa using batch)

/-- A call that does not rewrite the pending batch is lawful. -/
private theorem lawful_of_not_rewrites {desk : LedgerDesk} (sound : desk.Sound)
    {call : LedgerCall} (kept : ¬ desk.Rewrites call) : desk.Lawful call where
  prepared pending held fresh earlier present := by
    have effect := desk.call_effect call
    generalize desk.answer call = answered at effect
    generalize desk.step call = after at effect held
    cases effect with
    | failed =>
        have same : desk.pending = some pending := held
        exact absurd rfl (fresh pending same)
    | prepared settled =>
        rw [desk_ledger_eq present] at settled
        cases attempt : earlier.attempt with
        | awaiting => simp [DeliveryLedger.shouldRedeliver, attempt] at settled
        | lost => simp [DeliveryLedger.shouldRedeliver, attempt] at settled
        | terminal outcome => rfl
    | @resent _ _ before pended =>
        cases held
        exact absurd rfl (fresh before pended)
    | rewritten _ rewrites => exact absurd rewrites kept
    | @settled _ before _ _ pended =>
        cases held
        exact absurd rfl (fresh before pended)
  handed message answered := by
    have effect := desk.call_effect call
    generalize desk.answer call = result at effect answered
    generalize desk.step call = after at effect
    cases effect with
    | failed => cases answered
    | prepared settled linked named =>
        cases answered
        exact ⟨_, rfl, rfl, linked.symm, named.symm⟩
    | resent before =>
        cases answered
        exact ⟨_, rfl, rfl, rfl, (sound _ before).2.symm⟩
    | rewritten => cases answered
    | settled => cases answered
  foreign report pending named present other := by
    have effect := desk.call_effect call
    generalize desk.answer call = answered at effect
    generalize desk.step call = after at effect
    cases effect with
    | failed => rfl
    | prepared _ _ _ preparing => exact absurd named (preparing _)
    | resent _ _ resending => exact absurd named (resending _)
    | rewritten _ rewrites => exact absurd rewrites kept
    | settled same held delivery link =>
        rw [named] at same
        cases same
        rw [present] at held
        cases held
        exact absurd other (by simp [delivery, link])
  failed error answered := by
    have effect := desk.call_effect call
    generalize desk.answer call = result at effect answered
    generalize desk.step call = after at effect
    cases effect with
    | failed => rfl
    | prepared => cases answered
    | resent => cases answered
    | rewritten _ rewrites => exact absurd rewrites kept
    | settled => cases answered

/-- A call is lawful exactly when it does not rewrite the pending batch. -/
theorem lawful_iff {desk : LedgerDesk} (sound : desk.Sound) (call : LedgerCall) :
    desk.Lawful call ↔ ¬ desk.Rewrites call :=
  ⟨fun lawful rewrites => rewrites.unlawful lawful, lawful_of_not_rewrites sound⟩

/-! ## Runs -/

/-- The identifier of a delivery was minted; wherever it is pending it has the batch of
that delivery, and its outcome once that was terminal. -/
structure Keeping (early : PendingDelivery) (desk : LedgerDesk) : Prop where
  minted : ∃ number < desk.minted, UlidSupply.text number = early.deliveryId
  batch : ∀ late, desk.pending = some late → late.deliveryId = early.deliveryId →
    early.message.SameBatch late.message
  terminal : ∀ late outcome, desk.pending = some late → late.deliveryId = early.deliveryId →
    early.attempt = .terminal outcome → late.attempt = .terminal outcome

/-- Every call keeps the batch and the outcome of a delivery. -/
theorem step_keeping {early : PendingDelivery} {desk : LedgerDesk}
    (keeping : desk.Keeping early) (call : LedgerCall) : (desk.step call).Keeping early := by
  have effect := desk.call_effect call
  obtain ⟨number, below, named⟩ := keeping.minted
  generalize desk.answer call = answered at effect
  generalize desk.step call = after at effect
  cases effect with
  | failed counted =>
      exact ⟨⟨number, lt_of_lt_of_le below counted, named⟩, keeping.batch, keeping.terminal⟩
  | prepared settled linked identified =>
      have other : UlidSupply.text desk.minted ≠ early.deliveryId := by
        intro same
        have equal := UlidSupply.injective (named.trans same.symm)
        omega
      refine ⟨⟨number, Nat.lt_succ_of_lt below, named⟩, fun late held same => ?_,
        fun late outcome held same => ?_⟩
      · cases held
        exact absurd same other
      · cases held
        exact absurd same other
  | resent held unsettled =>
      refine ⟨keeping.minted, fun late present same => ?_,
        fun late outcome present same ended => ?_⟩
      · cases present
        exact (keeping.batch _ held same).trans (sameBatch_readdressed _ _ _)
      · cases present
        have settled := keeping.terminal _ outcome held same ended
        rw [settled] at unsettled
        cases unsettled
  | @rewritten _ _ pending _ held =>
      refine ⟨keeping.minted, fun late present same => ?_,
        fun late outcome present same ended => ?_⟩
      · cases present
        exact (keeping.batch pending held same).trans (sameBatch_readdressed _ _ _)
      · cases present
        exact keeping.terminal pending outcome held same ended
  | @settled _ pending _ _ held _ _ kept =>
      refine ⟨keeping.minted, fun late present same => ?_,
        fun late outcome present same ended => ?_⟩
      · cases present
        exact keeping.batch pending held same
      · cases present
        exact kept outcome (keeping.terminal pending outcome held same ended)

/-- Every run keeps the batch and the outcome of a delivery that was pending before. -/
theorem run_keeping {early : PendingDelivery} {desk : LedgerDesk} (sound : desk.Sound)
    (held : desk.pending = some early) (calls : List LedgerCall) :
    (Transition.run step desk calls).Keeping early := by
  refine Transition.invariant_run (Keeping early) (fun _ call kept => step_keeping kept call)
    ⟨(sound early held).1, fun late same _ => ?_, fun late outcome same _ ended => ?_⟩ calls
  · rw [held] at same
    cases same
    exact early.message.sameBatch_refl
  · rw [held] at same
    cases same
    exact ended

private theorem along_lawful_iff_kept {desk : LedgerDesk} (sound : desk.Sound)
    (calls : List LedgerCall) :
    Transition.Along step Lawful desk calls ↔
      Transition.Along step (fun desk call => ¬ desk.Rewrites call) desk calls := by
  induction calls generalizing desk with
  | nil => exact Iff.rfl
  | cons call rest inductionHypothesis =>
      rw [Transition.along_cons, Transition.along_cons, lawful_iff sound,
        inductionHypothesis (step_sound sound call)]

/-- A run from an empty ledger obeys the law exactly when no batch is rewritten by a
redelivery that is refused. -/
theorem ledger_law_iff (calls : List LedgerCall) :
    RunLaw fresh calls ↔
      Transition.Along step (fun desk call => ¬ desk.Rewrites call) fresh calls := by
  rw [← along_lawful_iff_kept fresh_sound]
  have reached (first : List LedgerCall) : (Transition.run step fresh first).Sound :=
    Transition.invariant_run Sound (fun _ call sound => step_sound sound call) fresh_sound first
  refine ⟨RunLaw.lawful, fun lawful => ⟨lawful, ?_, ?_⟩⟩
  · intro first second rest early late _ before after same
    rw [Transition.run_append] at after
    exact (run_keeping (reached first) before second).batch late after same
  · intro first second rest early late outcome _ before after same ended
    rw [Transition.run_append] at after
    exact (run_keeping (reached first) before second).terminal late outcome after same ended

end LedgerDesk

end Waiter

/-! ## A redelivery that is refused -/

namespace Waiter
namespace Sample

/-- The event of the batch. -/
def posted : ProviderEvent :=
  ⟨"chanvoy", "post-1", some "anna", "1970-01-01T00:00:01Z", "hello"⟩

/-- The desk after the batch was prepared. -/
def prepared : LedgerDesk :=
  LedgerDesk.fresh.step (.prepare link (UlidSupply.text 2) [posted] (second 1))

/-- The batch is resent to a link without an identifier. -/
def refused : LedgerCall := .redeliver { link with linkId := "" } (second 1)

private theorem refused_fails :
    (prepared.answer refused).isOk = false ∧
      (prepared.step refused).pending.map (fun pending => pending.message.linkId) ≠
        prepared.pending.map (fun pending => pending.message.linkId) := by
  decide +kernel

/-- The refused call leaves another link in the stored batch. -/
theorem refused_redelivery_rewrites :
    ¬ LedgerDesk.RunLaw LedgerDesk.fresh
      [.prepare link (UlidSupply.text 2) [posted] (second 1), refused] := by
  intro law
  have lawful : prepared.Lawful refused := law.lawful.2.1
  obtain ⟨fails, rewritten⟩ := refused_fails
  cases answered : prepared.answer refused with
  | ok handed =>
      rw [answered] at fails
      cases fails
  | error error =>
      refine rewritten ?_
      unfold LedgerDesk.pending
      rw [lawful.failed error answered]

end Sample
end Waiter
end Gearwit
