import Gearwit.Persist.Port

/-!
# What a store never loses

Claims, attachments, births, facts, join positions, completed coverage and retired
identities only accumulate along a run, and every table stays keyed by its rows.
Both facts are read off the effects once and carried to whole runs.
-/

namespace Gearwit
namespace FakePersist

/-! ## Facts of an attempt under the updates -/

@[simp] theorem factsOf_withTurnFact (store : FakePersist) (attemptId probe : AttemptId)
    (fact : NativeTurnFact) :
    (store.withTurnFact attemptId fact).factsOf probe =
      if attemptId = probe then store.factsOf attemptId ++ [fact]
      else store.factsOf probe := by
  simp only [factsOf, withTurnFact, BTreeMap.getElem?_insert_eq]
  split <;> rfl

/-- Recovery adds to the facts of an attempt only what its evidence resumes. -/
theorem factsOf_classified (draws : List VerifierRef) (store : FakePersist)
    (attemptId : AttemptId) :
    (store.classified draws).2.factsOf attemptId =
      (resumedFacts store.turnFacts[attemptId]?
        store.writeEvidence[attemptId]?).getD [] := by
  rw [factsOf, classified_turnFacts]

/-- Two stores with one fact table have the same facts. -/
theorem factsOf_congr {first second : FakePersist}
    (same : first.turnFacts = second.turnFacts) (attemptId : AttemptId) :
    first.factsOf attemptId = second.factsOf attemptId := by
  rw [factsOf, factsOf, same]

/-- Recovery keeps every fact. -/
theorem mem_factsOf_classified (draws : List VerifierRef) {store : FakePersist}
    {attemptId : AttemptId} {fact : NativeTurnFact}
    (known : fact ∈ store.factsOf attemptId) :
    fact ∈ (store.classified draws).2.factsOf attemptId := by
  rw [factsOf_classified]
  unfold factsOf at known
  cases stored : store.turnFacts[attemptId]? with
  | none => simp [stored] at known
  | some facts =>
      rw [stored] at known
      exact known

/-! ## Growth -/

/-- One attachment after a later operation: itself, or itself revoked. -/
def AttachmentGrows (before after : PersistedControllerAttachment) : Prop :=
  after = before ∨ after = { before with revoked := true }

/-- What the second store kept from the first. -/
structure Grows (before after : FakePersist) : Prop where
  claims : ∀ (requestId : ClaimRequestId) claim,
    before.claims[requestId]? = some claim → after.claims[requestId]? = some claim
  attachments : ∀ (attemptId : AttemptId) attachment,
    before.attachments[attemptId]? = some attachment →
      ∃ kept, after.attachments[attemptId]? = some kept ∧
        AttachmentGrows attachment kept
  births : ∀ (birthId : ControllerBirthId) birth,
    before.births[birthId]? = some birth → after.births[birthId]? = some birth
  facts : ∀ attemptId fact,
    fact ∈ before.factsOf attemptId → fact ∈ after.factsOf attemptId
  handled : ∀ attemptId,
    before.handledComplete attemptId = true →
      after.handled[attemptId]? = before.handled[attemptId]?
  rearmed : ∀ join : PersistedRearmJoin,
    before.rearmed[join]? = some () → after.rearmed[join]? = some ()
  retired : ∀ retired,
    retired ∈ before.retiredGrants → retired ∈ after.retiredGrants

/-- Growing composes for an attachment. -/
theorem AttachmentGrows.trans {first second third : PersistedControllerAttachment}
    (early : AttachmentGrows first second) (late : AttachmentGrows second third) :
    AttachmentGrows first third := by
  rcases early with rfl | rfl
  · exact late
  · rcases late with rfl | rfl
    · exact .inr rfl
    · exact .inr rfl

/-- Revocation of an attachment is never undone. -/
theorem AttachmentGrows.revoked {before after : PersistedControllerAttachment}
    (grown : AttachmentGrows before after) (revoked : before.revoked = true) :
    after.revoked = true := by
  rcases grown with rfl | rfl
  · exact revoked
  · rfl

namespace Grows

/-- A store grows into itself. -/
theorem refl (store : FakePersist) : Grows store store where
  claims _ _ stored := stored
  attachments _ attachment stored := ⟨attachment, stored, .inl rfl⟩
  births _ _ stored := stored
  facts _ _ known := known
  handled _ _ := rfl
  rearmed _ stored := stored
  retired _ present := present

/-- Growing composes for stores. -/
theorem trans (first second third : FakePersist)
    (early : Grows first second) (late : Grows second third) :
    Grows first third where
  claims requestId claim stored :=
    late.claims requestId claim (early.claims requestId claim stored)
  attachments attemptId attachment stored := by
    obtain ⟨middle, kept, grown⟩ := early.attachments attemptId attachment stored
    obtain ⟨last, present, later⟩ := late.attachments attemptId middle kept
    exact ⟨last, present, grown.trans later⟩
  births birthId birth stored :=
    late.births birthId birth (early.births birthId birth stored)
  facts attemptId fact known :=
    late.facts attemptId fact (early.facts attemptId fact known)
  handled attemptId complete := by
    have kept := early.handled attemptId complete
    have still : second.handledComplete attemptId = true := by
      rwa [handledComplete, kept]
    rw [late.handled attemptId still, kept]
  rearmed join stored := late.rearmed join (early.rearmed join stored)
  retired identity present := late.retired identity (early.retired identity present)

/-- A store that agrees on the accumulating tables grows. -/
theorem of_tables {before after : FakePersist}
    (claims : after.claims = before.claims)
    (attachments : after.attachments = before.attachments)
    (births : after.births = before.births)
    (facts : after.turnFacts = before.turnFacts)
    (handled : after.handled = before.handled)
    (rearmed : after.rearmed = before.rearmed)
    (retired : after.retiredGrants = before.retiredGrants) :
    Grows before after where
  claims _ _ stored := by rwa [claims]
  attachments _ attachment stored := ⟨attachment, by rwa [attachments], .inl rfl⟩
  births _ _ stored := by rwa [births]
  facts attemptId _ known := by rwa [factsOf_congr facts attemptId]
  handled _ _ := by rw [handled]
  rearmed _ stored := by rwa [rearmed]
  retired _ present := by rwa [retired]

end Grows

/-- Insertion under a vacant key keeps every stored row. -/
private theorem kept_of_vacant {κ α : Type} [Ord κ] [Std.TransOrd κ]
    [Std.LawfulEqOrd κ] {map : BTreeMap κ α} {key : κ} {value : α}
    (vacant : map[key]? = none) {probe : κ} {stored : α}
    (present : map[probe]? = some stored) :
    (map.insert key value)[probe]? = some stored := by
  have different : key ≠ probe := by
    rintro rfl
    rw [vacant] at present
    cases present
  rwa [BTreeMap.getElem?_insert_ne _ _ different]

section Runs

variable [Blake3]

/-- No operation loses anything. -/
theorem Effect.grows {store next : FakePersist} {operation : PortOp}
    (effect : Effect store operation next) : Grows store next := by
  cases effect with
  | unchanged => exact .refl store
  | clock | arm | ownership | coordinate | prepared | prewrite | held | reserved |
    evidence | reconciled | granted | grantRevoked | retrieved =>
      exact .of_tables rfl rfl rfl rfl rfl rfl rfl
  | claim admission attachment payloadRef valid unclaimed unused unattached =>
      exact {
        claims := fun _ _ stored => kept_of_vacant unclaimed stored
        attachments := fun _ kept stored =>
          ⟨kept, kept_of_vacant unattached stored, .inl rfl⟩
        births := fun _ _ stored => stored
        facts := fun _ _ known => known
        handled := fun _ _ => rfl
        rearmed := fun _ stored => stored
        retired := fun _ present => present }
  | birth birth create vacant sameBirth =>
      exact {
        Grows.refl store with
        births := fun _ _ stored => kept_of_vacant vacant stored }
  | fact request prepared dispatched accepted fresh =>
      refine { Grows.refl store with
        facts := fun attemptId known present => ?_ }
      rw [factsOf_withTurnFact]
      split
      · next equal => exact List.mem_append_left _ (equal ▸ present)
      · exact present
  | attachmentRevoked scope attachment stored =>
      refine { Grows.refl store with attachments := fun attemptId kept present => ?_ }
      by_cases same : scope.attemptId = attemptId
      · subst same
        rw [stored, Option.some.injEq] at present
        subst present
        exact ⟨_, BTreeMap.getElem?_insert_same _ _ _, .inr rfl⟩
      · exact ⟨kept, by rwa [BTreeMap.getElem?_insert_ne _ _ same], .inl rfl⟩
  | rotated existing grant =>
      exact { Grows.refl store with
        retired := fun _ present => List.mem_append_left _ present }
  | acknowledged binding request grant retrieval claim position proved furthest cursor
      authenticated digest unretrieved unseen authorized =>
      refine { Grows.refl store with handled := fun attemptId complete => ?_ }
      have different : binding.attemptId ≠ attemptId := by
        rintro rfl
        rw [(authorizeFreshUse_ok authorized).2.2.2.1] at complete
        cases complete
      exact BTreeMap.getElem?_insert_ne _ _ different
  | rearmed scope vacant =>
      exact { Grows.refl store with
        rearmed := fun _ stored => kept_of_vacant vacant stored }
  | recovered draws =>
      rw [classified_frame]
      refine { Grows.refl store with facts := fun attemptId known present => ?_ }
      have kept := mem_factsOf_classified draws present
      rw [classified_frame] at kept
      exact kept

/-- Every operation only grows a store. -/
theorem step_grows (store : FakePersist) (operation : PortOp) :
    Grows store (store.step operation) :=
  (step_effect store operation).grows

/-- No run loses anything. -/
theorem run_grows (store : FakePersist) (operations : List PortOp) :
    Grows store (Transition.run step store operations) :=
  Transition.relation_run Grows.refl Grows.trans step_grows store operations

/-! ## Keys -/

/-- Every table is keyed by its rows. -/
structure TablesKeyed (store : FakePersist) : Prop where
  arms : BTreeMap.Keyed PersistedArm.armId store.arms
  claims : BTreeMap.Keyed PersistedClaimRecord.requestId store.claims
  attachments : BTreeMap.Keyed PersistedControllerAttachment.attemptId
    store.attachments
  births : BTreeMap.Keyed PersistedControllerBirth.birthId store.births
  prepared : BTreeMap.Keyed PersistedTurnCorrelation.attemptId store.prepared
  reservations : BTreeMap.Keyed
    (fun row : PersistedNativeReservation => row.correlation.attemptId)
    store.reservations
  prewrite : BTreeMap.Keyed PersistedPreWriteConclusion.attemptId store.prewrite
  activeObservations : BTreeMap.Keyed PersistedActiveObservationEvidence.attemptId
    store.activeObservations
  retrieveReplays : BTreeMap.Keyed PersistedRetrieveReplay.requestId
    store.retrieveReplays
  retrievals : BTreeMap.Keyed PersistedRetrievalRecord.retrievalId store.retrievals
  ackReplays : BTreeMap.Keyed PersistedAckReplay.requestId store.ackReplays
  handled : BTreeMap.Keyed PersistedHandledCoverage.attemptId store.handled

omit [Blake3] in
/-- The tables of a fresh store are keyed. -/
theorem tablesKeyed_default (activeMacKey : Bytes32) :
    TablesKeyed (FakePersist.default activeMacKey) where
  arms := .empty _
  claims := .empty _
  attachments := .empty _
  births := .empty _
  prepared := .empty _
  reservations := .empty _
  prewrite := .empty _
  activeObservations := .empty _
  retrieveReplays := .empty _
  retrievals := .empty _
  ackReplays := .empty _
  handled := .empty _

omit [Blake3] in
/-- Concluding a reservation keeps the reservations keyed. -/
theorem concludeReservation_keyed {store : FakePersist} (keyed : TablesKeyed store)
    (attemptId : AttemptId) :
    BTreeMap.Keyed (fun row : PersistedNativeReservation => row.correlation.attemptId)
      (store.concludeReservation attemptId) := by
  unfold concludeReservation
  cases stored : store.reservations[attemptId]? with
  | none => exact keyed.reservations
  | some reservation => exact keyed.reservations.rewrite stored rfl

omit [Blake3] in
/-- Naming a turn keeps the prepared rows keyed. -/
theorem nameTurn_keyed {store : FakePersist} (keyed : TablesKeyed store)
    (attemptId : AttemptId) (turnRef : Option PrivateNativeRef) :
    BTreeMap.Keyed PersistedTurnCorrelation.attemptId
      (nameTurn store.prepared attemptId turnRef) := by
  unfold nameTurn
  split
  · next stored => exact keyed.prepared.rewrite stored rfl
  · exact keyed.prepared

omit [Blake3] in
/-- Naming a reserved turn keeps the reservations keyed. -/
theorem nameReservedTurn_keyed {store : FakePersist} (keyed : TablesKeyed store)
    (attemptId : AttemptId) (turnRef : Option PrivateNativeRef) :
    BTreeMap.Keyed (fun row : PersistedNativeReservation => row.correlation.attemptId)
      (nameReservedTurn store.reservations attemptId turnRef) := by
  unfold nameReservedTurn
  split
  · next stored => exact keyed.reservations.rewrite stored rfl
  · exact keyed.reservations

omit [Blake3] in
/-- Recovery keeps the reservations keyed. -/
theorem classified_reservations_keyed {store : FakePersist}
    (keyed : TablesKeyed store) (draws : List VerifierRef) :
    BTreeMap.Keyed (fun row : PersistedNativeReservation => row.correlation.attemptId)
      (store.classified draws).2.reservations := by
  intro attemptId reservation present
  obtain ⟨original, stored, same⟩ := classified_reservation present
  have key := keyed.reservations attemptId original stored
  rcases same with rfl | rfl
  · exact key
  · exact key

/-- Every operation keeps the tables keyed. -/
theorem Effect.keyed {store next : FakePersist} {operation : PortOp}
    (effect : Effect store operation next) (keyed : TablesKeyed store) :
    TablesKeyed next := by
  cases effect with
  | unchanged | clock | ownership | coordinate | reconciled | granted | rotated |
    grantRevoked | rearmed => exact { keyed with }
  | arm arm => exact { keyed with arms := keyed.arms.insert rfl }
  | claim admission attachment payloadRef =>
      exact { keyed with
        claims := keyed.claims.insert rfl
        attachments := keyed.attachments.insert rfl }
  | birth birth create => exact { keyed with births := keyed.births.insert rfl }
  | prepared request => exact { keyed with prepared := keyed.prepared.insert rfl }
  | prewrite request =>
      exact { keyed with
        reservations := concludeReservation_keyed keyed request.attemptId
        prewrite := keyed.prewrite.insert rfl }
  | held request record vacant sameAttempt =>
      exact { keyed with
        activeObservations := keyed.activeObservations.insert sameAttempt
        prewrite := keyed.prewrite.insert rfl }
  | reserved idle correlation sameAttempt =>
      exact { keyed with reservations := keyed.reservations.insert sameAttempt.symm }
  | evidence request reservation stored =>
      exact { keyed with reservations := keyed.reservations.rewrite stored rfl }
  | fact request prepared dispatched =>
      exact { keyed with
        prepared := nameTurn_keyed keyed _ _
        reservations := nameReservedTurn_keyed keyed _ _ }
  | attachmentRevoked scope attachment stored =>
      exact { keyed with attachments := keyed.attachments.rewrite stored rfl }
  | retrieved exchange result =>
      exact { keyed with
        retrievals := keyed.retrievals.insert rfl
        retrieveReplays := keyed.retrieveReplays.insert rfl }
  | acknowledged binding request =>
      exact { keyed with
        handled := keyed.handled.insert rfl
        ackReplays := keyed.ackReplays.insert rfl }
  | recovered draws =>
      have reservations := classified_reservations_keyed keyed draws
      rw [classified_frame] at reservations ⊢
      exact { keyed with reservations := reservations }

/-- Every reachable store has keyed tables. -/
theorem tablesKeyed_after (activeMacKey : Bytes32) (operations : List PortOp) :
    TablesKeyed (after activeMacKey operations) :=
  Transition.invariant_run _ (fun store operation keyed =>
    (step_effect store operation).keyed keyed) (tablesKeyed_default activeMacKey)
    operations

end Runs

end FakePersist
end Gearwit
