import Gearwit.Persist.ClaimIdentity
import Gearwit.Persist.Synthetic

/-!
# Revocation and rotation as fences

A revoked attachment or grant closes helper access of its attempt for good.  A
rotation retires the identity of the grant it replaces; the identity stays out of
use exactly when no other stored grant shared it when it was retired.
-/

namespace Gearwit
namespace FakePersist

/-! ## Grants by birth and attempt -/

/-- Grants are stored once for each birth and attempt. -/
def GrantsKeyed (store : FakePersist) : Prop :=
  (store.grants.map grantKey).Nodup

/-- A grant belongs to a birth and an attempt exactly if they are its key. -/
theorem grantOf_iff (birthId : ControllerBirthId) (attemptId : AttemptId)
    (grant : PersistedHelperGrant) :
    grantOf birthId attemptId grant = true ↔ grantKey grant = (birthId, attemptId) := by
  simp [grantOf, grantKey]

/-- In a keyed list the grant of a birth and attempt is the stored one. -/
theorem helperGrant_eq_some_iff {store : FakePersist} (keyed : GrantsKeyed store)
    (birthId : ControllerBirthId) (attemptId : AttemptId)
    (grant : PersistedHelperGrant) :
    store.helperGrant birthId attemptId = some grant ↔
      grant ∈ store.grants ∧ grantKey grant = (birthId, attemptId) := by
  constructor
  · intro found
    exact ⟨List.mem_of_find?_eq_some found,
      (grantOf_iff _ _ _).1 (List.find?_some found)⟩
  · rintro ⟨stored, named⟩
    cases found : store.helperGrant birthId attemptId with
    | none =>
        have untested := List.find?_eq_none.1 found grant stored
        exact absurd ((grantOf_iff _ _ _).2 named) untested
    | some other =>
        have otherNamed := (grantOf_iff _ _ _).1 (List.find?_some found)
        have same := List.inj_on_of_nodup_map keyed
          (List.mem_of_find?_eq_some found) stored (otherNamed.trans named.symm)
        rw [same]

/-- A vacant birth and attempt has no stored grant. -/
theorem helperGrant_none {store : FakePersist} {birthId : ControllerBirthId}
    {attemptId : AttemptId} (vacant : store.helperGrant birthId attemptId = none) :
    ∀ grant ∈ store.grants, grantKey grant ≠ (birthId, attemptId) := by
  intro grant stored named
  exact absurd ((grantOf_iff _ _ _).2 named) (List.find?_eq_none.1 vacant grant stored)

/-- A rotation keeps the keys of the list. -/
theorem withRotatedGrant_keys (store : FakePersist)
    (existing grant : PersistedHelperGrant) :
    (store.withRotatedGrant existing grant).grants.map grantKey =
      store.grants.map grantKey := by
  refine map_modifyFirst _ _ _ _ ?_
  intro row found
  exact ((grantOf_iff _ _ _).1 (List.find?_some found)).symm

/-- A revocation keeps the keys of the list. -/
theorem withRevokedGrant_keys (store : FakePersist) (birthId : ControllerBirthId)
    (attemptId : AttemptId) :
    (store.withRevokedGrant birthId attemptId).grants.map grantKey =
      store.grants.map grantKey :=
  map_modifyFirst _ _ _ _ fun _ _ => rfl

/-- A grant after a rotation is the new one or another stored one. -/
theorem mem_withRotatedGrant {store : FakePersist}
    (keyed : GrantsKeyed store) {existing grant row : PersistedHelperGrant}
    (stored : store.helperGrant grant.birthId grant.attemptId = some existing) :
    row ∈ (store.withRotatedGrant existing grant).grants ↔
      row = grant ∨ (row ∈ store.grants ∧ grantKey row ≠ grantKey grant) := by
  obtain ⟨before, after, split, untested, updated⟩ := modifyFirst_of_find?_some stored
  have rotated : (store.withRotatedGrant existing grant).grants =
      before ++ grant :: after := updated _
  have existingKey : grantKey existing = grantKey grant :=
    (grantOf_iff _ _ _).1 (List.find?_some stored)
  have otherKeys : ∀ row ∈ before ++ after, grantKey row ≠ grantKey grant := by
    have distinct := keyed
    rw [GrantsKeyed, split, List.map_append, List.map_cons,
      List.nodup_middle, List.nodup_cons] at distinct
    intro row present same
    exact distinct.1 (by
      rw [existingKey, ← same, ← List.map_append]
      exact List.mem_map_of_mem present)
  rw [rotated, split]
  simp only [List.mem_append, List.mem_cons] at otherKeys ⊢
  constructor
  · rintro (early | rfl | late)
    · exact .inr ⟨.inl early, otherKeys row (.inl early)⟩
    · exact .inl rfl
    · exact .inr ⟨.inr (.inr late), otherKeys row (.inr late)⟩
  · rintro (rfl | ⟨early | rfl | late, other⟩)
    · exact .inr (.inl rfl)
    · exact .inl early
    · exact absurd existingKey other
    · exact .inr (.inr late)

/-- A grant after a revocation is a stored one, possibly revoked. -/
theorem mem_withRevokedGrant {store : FakePersist} {birthId : ControllerBirthId}
    {attemptId : AttemptId} {row : PersistedHelperGrant}
    (present : row ∈ (store.withRevokedGrant birthId attemptId).grants) :
    row ∈ store.grants ∨
      ∃ original ∈ store.grants, row = { original with revoked := true } := by
  rcases mem_modifyFirst present with kept | ⟨original, found, rfl⟩
  · exact .inl kept
  · exact .inr ⟨original, List.mem_of_find?_eq_some found, rfl⟩

section Runs

variable [Blake3]

/-- Every operation keeps grants keyed. -/
theorem Effect.grantsKeyed {store next : FakePersist} {operation : PortOp}
    (effect : Effect store operation next) (keyed : GrantsKeyed store) :
    GrantsKeyed next := by
  cases effect with
  | granted grant valid fresh vacant =>
      rw [GrantsKeyed, List.map_append, List.nodup_append]
      refine ⟨keyed, by simp, ?_⟩
      intro key present other added same
      obtain ⟨row, stored, rfl⟩ := List.mem_map.1 present
      simp only [List.map_cons, List.map_nil, List.mem_singleton] at added
      exact helperGrant_none vacant row stored (same.trans added)
  | rotated existing grant => rwa [GrantsKeyed, withRotatedGrant_keys]
  | grantRevoked scope => rwa [GrantsKeyed, withRevokedGrant_keys]
  | recovered draws =>
      rw [classified_frame]
      exact keyed
  | _ => exact keyed

/-- Grants are keyed in every reachable store. -/
theorem grantsKeyed_after (activeMacKey : Bytes32) (operations : List PortOp) :
    GrantsKeyed (after activeMacKey operations) :=
  Transition.invariant_run _ (fun store operation keyed =>
    (step_effect store operation).grantsKeyed keyed) (by simp [GrantsKeyed,
      FakePersist.default]) operations

/-! ## Attempts that stay fenced -/

/-- The store refuses helper access of a birth and attempt: every exchange, exact
replays included, and every mint of an unrevoked grant. -/
structure AttemptFenced (store : FakePersist) (birthId : ControllerBirthId)
    (attemptId : AttemptId) : Prop where
  retrieve : ∀ (exchange : RetrieveExchange) retrievalId,
    exchange.binding.birthId = birthId → exchange.binding.attemptId = attemptId →
      ∀ answer, store.recordRetrieveExchange exchange retrievalId ≠ .ok answer
  materialize : ∀ (binding : ValidatedHelperBinding) permit,
    binding.birthId = birthId → binding.attemptId = attemptId →
      ∀ payload, store.materializeClaimedBatch binding permit ≠ .ok payload
  acknowledge : ∀ (binding : ValidatedHelperBinding) request,
    binding.birthId = birthId → binding.attemptId = attemptId →
      ∀ answer, store.acknowledgeRetrievedBatch binding request ≠ .ok answer
  mint : ∀ grant : PersistedHelperGrant,
    grant.birthId = birthId → grant.attemptId = attemptId → grant.revoked = false →
      ∀ answer, store.persistHelperGrant grant ≠ .ok answer

/-- Every exchange enforces revocation first. -/
theorem attemptFenced_of_refused {store : FakePersist} {birthId : ControllerBirthId}
    {attemptId : AttemptId}
    (enforced : ∀ binding : ValidatedHelperBinding, binding.birthId = birthId →
      binding.attemptId = attemptId → store.enforceUnrevoked binding ≠ .ok ())
    (unminted : ∀ grant : PersistedHelperGrant, grant.birthId = birthId →
      grant.attemptId = attemptId → grant.revoked = false →
        ∀ answer, store.persistHelperGrant grant ≠ .ok answer) :
    AttemptFenced store birthId attemptId where
  retrieve exchange _ sameBirth sameAttempt _ accepted :=
    enforced exchange.binding sameBirth sameAttempt
      (recordRetrieveExchange_cases accepted).2.1
  materialize binding _ sameBirth sameAttempt _ accepted :=
    enforced binding sameBirth sameAttempt (materializeClaimedBatch_ok accepted).2.1
  acknowledge binding _ sameBirth sameAttempt _ accepted :=
    enforced binding sameBirth sameAttempt
      (acknowledgeRetrievedBatch_cases accepted).2.1
  mint := unminted

omit [Blake3] in
/-- A mint needs an unrevoked attachment. -/
theorem persistHelperGrant_attachment {store next : FakePersist}
    {grant : PersistedHelperGrant} {answer : Unit}
    (persisted : store.persistHelperGrant grant = .ok (answer, next)) :
    ∃ attachment, store.attachments[grant.attemptId]? = some attachment ∧
      attachment.revoked = false := by
  obtain ⟨_, ⟨attachment, attached, live, _⟩, _⟩ :=
    validateGrantMint_ok (persistHelperGrant_cases persisted).1
  exact ⟨attachment, attached, live⟩

/-- A revoked attachment fences its attempt under every birth. -/
theorem attemptFenced_of_attachment {store : FakePersist} {attemptId : AttemptId}
    {attachment : PersistedControllerAttachment}
    (attached : store.attachments[attemptId]? = some attachment)
    (revoked : attachment.revoked = true) (birthId : ControllerBirthId) :
    AttemptFenced store birthId attemptId := by
  refine attemptFenced_of_refused ?_ ?_
  · intro binding _ sameAttempt unrevoked
    obtain ⟨_, live, found, unrevoked'⟩ := enforceUnrevoked_ok unrevoked
    rw [sameAttempt, attached, Option.some.injEq] at found
    rw [← found, revoked] at unrevoked'
    cases unrevoked'
  · rintro grant _ sameAttempt _ ⟨answer, next⟩ persisted
    obtain ⟨live, found, unrevoked⟩ := persistHelperGrant_attachment persisted
    rw [sameAttempt, attached, Option.some.injEq] at found
    rw [← found, revoked] at unrevoked
    cases unrevoked

/-- A revoked grant fences its birth and attempt. -/
theorem attemptFenced_of_grant {store : FakePersist} {birthId : ControllerBirthId}
    {attemptId : AttemptId} {grant : PersistedHelperGrant}
    (granted : store.helperGrant birthId attemptId = some grant)
    (revoked : grant.revoked = true) : AttemptFenced store birthId attemptId := by
  refine attemptFenced_of_refused ?_ ?_
  · rintro binding rfl rfl unrevoked
    obtain ⟨⟨live, found, unrevoked'⟩, _⟩ := enforceUnrevoked_ok unrevoked
    rw [granted, Option.some.injEq] at found
    rw [← found, revoked] at unrevoked'
    cases unrevoked'
  · rintro minted rfl rfl unrevoked ⟨answer, next⟩ persisted
    obtain ⟨_, _, ⟨found, _⟩ | ⟨found, _⟩ | ⟨existing, found, live, _⟩⟩ :=
      persistHelperGrant_cases persisted
    · rw [granted, Option.some.injEq] at found
      rw [← found, revoked] at unrevoked
      cases unrevoked
    · rw [granted] at found
      cases found
    · rw [granted, Option.some.injEq] at found
      rw [← found, revoked] at live
      cases live

/-- A birth and attempt whose grant is revoked. -/
def GrantRevoked (birthId : ControllerBirthId) (attemptId : AttemptId)
    (store : FakePersist) : Prop :=
  ∃ grant, store.helperGrant birthId attemptId = some grant ∧ grant.revoked = true

omit [Blake3] in
/-- A revocation reaches the grant of its birth and attempt. -/
theorem withRevokedGrant_helperGrant (store : FakePersist)
    (birthId : ControllerBirthId) (attemptId : AttemptId) :
    (store.withRevokedGrant birthId attemptId).helperGrant birthId attemptId =
      (store.helperGrant birthId attemptId).map fun grant =>
        { grant with revoked := true } :=
  find?_modifyFirst_same _ _ _ fun _ matched => matched

omit [Blake3] in
/-- A revocation leaves the grants of other births and attempts alone. -/
theorem withRevokedGrant_helperGrant_other (store : FakePersist)
    {birthId otherBirth : ControllerBirthId} {attemptId otherAttempt : AttemptId}
    (different : (birthId, attemptId) ≠ (otherBirth, otherAttempt)) :
    (store.withRevokedGrant birthId attemptId).helperGrant otherBirth otherAttempt =
      store.helperGrant otherBirth otherAttempt := by
  refine find?_modifyFirst_other _ _ _ _ ?_
  intro row matched
  have named := (grantOf_iff _ _ _).1 matched
  have untested : grantOf otherBirth otherAttempt row = false := by
    rw [Bool.eq_false_iff]
    intro other
    exact different (named.symm.trans ((grantOf_iff _ _ _).1 other))
  exact ⟨untested, untested⟩

omit [Blake3] in
/-- A rotation of one grant leaves the others alone. -/
theorem withRotatedGrant_helperGrant_other (store : FakePersist)
    {existing grant : PersistedHelperGrant} {birthId : ControllerBirthId}
    {attemptId : AttemptId} (different : grantKey grant ≠ (birthId, attemptId)) :
    (store.withRotatedGrant existing grant).helperGrant birthId attemptId =
      store.helperGrant birthId attemptId := by
  refine find?_modifyFirst_other _ _ _ _ ?_
  intro row matched
  have named := (grantOf_iff _ _ _).1 matched
  constructor
  · rw [Bool.eq_false_iff]
    intro other
    exact different (named.symm.trans ((grantOf_iff _ _ _).1 other))
  · rw [Bool.eq_false_iff]
    intro other
    exact different ((grantOf_iff _ _ _).1 other)

/-- A revoked grant stays revoked. -/
theorem Effect.grantRevoked_kept {store next : FakePersist} {operation : PortOp}
    (effect : Effect store operation next) {birthId : ControllerBirthId}
    {attemptId : AttemptId} (revoked : GrantRevoked birthId attemptId store) :
    GrantRevoked birthId attemptId next := by
  obtain ⟨grant, granted, isRevoked⟩ := revoked
  cases effect with
  | granted minted valid fresh vacant =>
      refine ⟨grant, ?_, isRevoked⟩
      rw [helperGrant, List.find?_append]
      exact Option.or_eq_some_iff.2 (.inl granted)
  | rotated existing minted valid fresh stored live =>
      have different : grantKey minted ≠ (birthId, attemptId) := by
        intro same
        simp only [grantKey, Prod.mk.injEq] at same
        rw [same.1, same.2, granted, Option.some.injEq] at stored
        rw [← stored, isRevoked] at live
        cases live
      exact ⟨grant, (withRotatedGrant_helperGrant_other store different).trans granted,
        isRevoked⟩
  | grantRevoked scope =>
      by_cases same : (scope.birthId, scope.attemptId) = (birthId, attemptId)
      · simp only [Prod.mk.injEq] at same
        refine ⟨{ grant with revoked := true }, ?_, rfl⟩
        rw [same.1, same.2, withRevokedGrant_helperGrant, granted]
        rfl
      · exact ⟨grant, (withRevokedGrant_helperGrant_other store same).trans granted,
          isRevoked⟩
  | recovered draws =>
      refine ⟨grant, ?_, isRevoked⟩
      rw [classified_frame]
      exact granted
  | _ => exact ⟨grant, granted, isRevoked⟩

/-! ## Identities that stay retired -/

/-- The store accepts nothing that carries a retired identity: no binding, permit
or revocation scope with the reference, and no live grant with the reference or
the verifier. -/
structure IdentityFenced (store : FakePersist) (retired : PersistedRetiredGrant) :
    Prop where
  retrieve : ∀ (exchange : RetrieveExchange) retrievalId,
    exchange.binding.grantRef = retired.grantRef →
      ∀ answer, store.recordRetrieveExchange exchange retrievalId ≠ .ok answer
  materialize : ∀ (binding : ValidatedHelperBinding)
    (permit : ClaimMaterializationPermit),
    binding.grantRef = retired.grantRef ∨ permit.grantRef = retired.grantRef →
      ∀ payload, store.materializeClaimedBatch binding permit ≠ .ok payload
  acknowledge : ∀ (binding : ValidatedHelperBinding) request,
    binding.grantRef = retired.grantRef →
      ∀ answer, store.acknowledgeRetrievedBatch binding request ≠ .ok answer
  revoke : ∀ scope : HelperRevocationScope, scope.grantRef = retired.grantRef →
    ∀ answer, store.revokeHelperGrant scope ≠ .ok answer
  live : ∀ grant ∈ store.grants, grant.revoked = false →
    grant.grantRef ≠ retired.grantRef ∧ grant.grantVerifier ≠ retired.grantVerifier

/-- No stored grant carries the reference and no live one the verifier. -/
def IdentityUnused (retired : PersistedRetiredGrant) (store : FakePersist) : Prop :=
  ∀ grant ∈ store.grants, grant.grantRef ≠ retired.grantRef ∧
    (grant.revoked = false → grant.grantVerifier ≠ retired.grantVerifier)

omit [Blake3] in
private theorem unused_of_helperGrant {retired : PersistedRetiredGrant}
    {store : FakePersist} (unused : IdentityUnused retired store)
    {birthId : ControllerBirthId} {attemptId : AttemptId}
    {grant : PersistedHelperGrant}
    (granted : store.helperGrant birthId attemptId = some grant) :
    grant.grantRef ≠ retired.grantRef :=
  (unused grant (helperGrant_some granted).1).1

/-- An unused identity is fenced. -/
theorem IdentityUnused.fenced {retired : PersistedRetiredGrant} {store : FakePersist}
    (unused : IdentityUnused retired store) : IdentityFenced store retired := by
  have binding : ∀ (binding : ValidatedHelperBinding) operation grant,
      store.authenticateBinding binding operation = .ok grant →
        binding.grantRef ≠ retired.grantRef := by
    intro binding operation grant authenticated
    obtain ⟨granted, sameRef, _⟩ := authenticateBinding_ok authenticated
    rw [← sameRef]
    exact unused_of_helperGrant unused granted
  constructor
  · rintro exchange retrievalId carried ⟨answer, next⟩ accepted
    obtain ⟨⟨grant, authenticated⟩, _⟩ := recordRetrieveExchange_cases accepted
    exact binding _ _ _ authenticated carried
  · rintro presented permit carried payload accepted
    obtain ⟨⟨grant, authenticated⟩, _, samePermit⟩ :=
      materializeClaimedBatch_ok accepted
    rcases carried with carried | carried
    · exact binding _ _ _ authenticated carried
    · exact binding _ _ _ authenticated (samePermit.symm.trans carried)
  · rintro presented request carried ⟨answer, next⟩ accepted
    obtain ⟨⟨grant, authenticated⟩, _⟩ := acknowledgeRetrievedBatch_cases accepted
    exact binding _ _ _ authenticated carried
  · rintro scope carried ⟨answer, next⟩ accepted
    obtain ⟨grant, granted, sameRef, _⟩ := revokeHelperGrant_cases accepted
    exact unused_of_helperGrant unused granted (sameRef.trans carried)
  · intro grant stored live
    exact ⟨(unused grant stored).1, (unused grant stored).2 live⟩

/-- A fenced identity of a keyed store is unused: a stored grant that carried its
reference could still be named by a revocation scope. -/
theorem IdentityFenced.unused {retired : PersistedRetiredGrant} {store : FakePersist}
    (fenced : IdentityFenced store retired) (keyed : GrantsKeyed store) :
    IdentityUnused retired store := by
  intro grant stored
  refine ⟨?_, fun live => (fenced.live grant stored live).2⟩
  intro carried
  have granted : store.helperGrant grant.birthId grant.attemptId = some grant :=
    (helperGrant_eq_some_iff keyed _ _ _).2 ⟨stored, rfl⟩
  cases outcome : store.revokeHelperGrant
      ⟨grant.grantRef, grant.birthId, grant.attemptId⟩ with
  | ok answer => exact fenced.revoke _ carried answer outcome
  | error refusal =>
      simp only [revokeHelperGrant, granted, ne_eq, not_true_eq_false,
        if_false] at outcome
      split at outcome <;> cases outcome

/-- A retired identity nobody carries stays unused. -/
theorem Effect.identityUnused {store next : FakePersist} {operation : PortOp}
    (effect : Effect store operation next) (keyed : GrantsKeyed store)
    {retired : PersistedRetiredGrant} (isRetired : retired ∈ store.retiredGrants)
    (unused : IdentityUnused retired store) : IdentityUnused retired next := by
  have minted : ∀ grant : PersistedHelperGrant,
      store.grantIdentityRetired grant = false →
        grant.grantRef ≠ retired.grantRef ∧
          grant.grantVerifier ≠ retired.grantVerifier := by
    intro grant fresh
    have notRetired := mt (grantIdentityRetired_iff store grant).2 (by simp [fresh])
    constructor
    · intro same
      exact notRetired ⟨retired, isRetired, .inl same.symm⟩
    · intro same
      exact notRetired ⟨retired, isRetired, .inr same.symm⟩
  cases effect with
  | granted grant valid fresh vacant =>
      intro row present
      rcases List.mem_append.1 present with stored | added
      · exact unused row stored
      · rw [List.mem_singleton] at added
        subst added
        exact ⟨(minted row fresh).1, fun _ => (minted row fresh).2⟩
  | rotated existing grant valid fresh stored =>
      intro row present
      rcases (mem_withRotatedGrant keyed stored).1 present with rfl | ⟨kept, _⟩
      · exact ⟨(minted row fresh).1, fun _ => (minted row fresh).2⟩
      · exact unused row kept
  | grantRevoked scope =>
      intro row present
      rcases mem_withRevokedGrant present with kept | ⟨original, kept, rfl⟩
      · exact unused row kept
      · exact ⟨(unused original kept).1, fun live => by cases live⟩
  | recovered draws =>
      rw [classified_frame]
      exact unused
  | _ => exact unused

/-- A retired identity nobody carries stays unused along every run. -/
theorem identityUnused_run {store : FakePersist} (keyed : GrantsKeyed store)
    {retired : PersistedRetiredGrant} (isRetired : retired ∈ store.retiredGrants)
    (unused : IdentityUnused retired store) (operations : List PortOp) :
    IdentityUnused retired (Transition.run step store operations) := by
  have all := Transition.invariant_run
    (fun store => GrantsKeyed store ∧ retired ∈ store.retiredGrants ∧
      IdentityUnused retired store)
    (fun store operation held =>
      have effect := step_effect store operation
      ⟨effect.grantsKeyed held.1, effect.grows.retired retired held.2.1,
        effect.identityUnused held.1 held.2.1 held.2.2⟩)
    ⟨keyed, isRetired, unused⟩ operations
  exact all.2.2

/-! ## What one call fences -/

/-- The state lets a grant rotate the stored one. -/
structure Rotates (store : FakePersist) (existing grant : PersistedHelperGrant) :
    Prop where
  valid : store.validateGrantMint grant = .ok ()
  fresh : store.grantIdentityRetired grant = false
  stored : store.helperGrant grant.birthId grant.attemptId = some existing
  different : existing ≠ grant
  live : existing.revoked = false
  sameBinding : reissueRejected existing grant = false
  otherRef : existing.grantRef ≠ grant.grantRef
  otherVerifier : existing.grantVerifier ≠ grant.grantVerifier

omit [Blake3] in
/-- A rotation is a mint that succeeds over a different grant. -/
theorem rotates_iff (store : FakePersist) (existing grant : PersistedHelperGrant) :
    Rotates store existing grant ↔
      store.helperGrant grant.birthId grant.attemptId = some existing ∧
        existing ≠ grant ∧ ∃ answer, store.persistHelperGrant grant = .ok answer := by
  constructor
  · rintro ⟨valid, fresh, stored, different, live, sameBinding, otherRef,
      otherVerifier⟩
    refine ⟨stored, different, ((), store.withRotatedGrant existing grant), ?_⟩
    simp [persistHelperGrant, valid, fresh, stored, different, live, sameBinding,
      otherRef, otherVerifier]
  · rintro ⟨stored, different, ⟨answer, next⟩, persisted⟩
    have cases' := persistHelperGrant_cases persisted
    obtain ⟨valid, fresh, _⟩ := cases'
    simp only [persistHelperGrant, valid, fresh, stored, different,
      Bool.false_eq_true, if_false] at persisted
    split at persisted
    · cases persisted
    next live =>
    split at persisted
    · cases persisted
    next sameBinding =>
    split at persisted
    · cases persisted
    next other =>
    simp only [not_or] at other
    exact ⟨valid, fresh, stored, different, by simpa using live,
      by simpa using sameBinding, other.1, other.2⟩

omit [Blake3] in
/-- A rotation replaces the grant and retires its identity. -/
theorem Rotates.persisted {store : FakePersist}
    {existing grant : PersistedHelperGrant} (rotates : Rotates store existing grant) :
    store.persistHelperGrant grant =
      .ok ((), store.withRotatedGrant existing grant) := by
  obtain ⟨valid, fresh, stored, different, live, sameBinding, otherRef,
    otherVerifier⟩ := rotates
  simp [persistHelperGrant, valid, fresh, stored, different, live, sameBinding,
    otherRef, otherVerifier]

/-- What a call fences holds after every continuation: the attempt of a successful
revocation, and the identity a successful rotation retired. -/
structure FencesHold (store : FakePersist) (operation : PortOp) : Prop where
  attachment : ∀ scope, operation = .revokeControllerAttachment scope →
    (∃ answer, store.revokeControllerAttachment scope = .ok answer) →
      ∀ continuation birthId,
        AttemptFenced (Transition.run step (store.step operation) continuation)
          birthId scope.attemptId
  grant : ∀ scope, operation = .revokeHelperGrant scope →
    (∃ answer, store.revokeHelperGrant scope = .ok answer) →
      ∀ continuation,
        AttemptFenced (Transition.run step (store.step operation) continuation)
          scope.birthId scope.attemptId
  rotation : ∀ grant existing, operation = .persistHelperGrant grant →
    store.helperGrant grant.birthId grant.attemptId = some existing →
    existing ≠ grant → (∃ answer, store.persistHelperGrant grant = .ok answer) →
      ∀ continuation,
        IdentityFenced (Transition.run step (store.step operation) continuation)
          (retiredIdentity existing)

/-- A rotation by this call retires an identity no other stored grant shares. -/
def RotationIsolated (store : FakePersist) (operation : PortOp) : Prop :=
  ∀ grant existing, operation = .persistHelperGrant grant →
    Rotates store existing grant →
      ∀ other ∈ store.grants, grantKey other ≠ grantKey existing →
        other.grantRef ≠ existing.grantRef ∧
          (other.revoked = false → other.grantVerifier ≠ existing.grantVerifier)

/-- Attachment revocation fences its attempt for good. -/
theorem attachment_fences {store : FakePersist} {scope : ValidatedAttachmentScope}
    (succeeded : ∃ answer, store.revokeControllerAttachment scope = .ok answer)
    (continuation : List PortOp) (birthId : ControllerBirthId) :
    AttemptFenced (Transition.run step
      (store.step (.revokeControllerAttachment scope)) continuation)
        birthId scope.attemptId := by
  obtain ⟨⟨outcome, next⟩, revoked⟩ := succeeded
  obtain ⟨attachment, _, _, _, _, _, updated⟩ :=
    revokeControllerAttachment_cases revoked
  have stepped : store.step (.revokeControllerAttachment scope) = next := by
    change (commit (store.revokeControllerAttachment scope) store).2 = next
    rw [revoked]
    rfl
  have nowRevoked : next.attachments[scope.attemptId]? =
      some { attachment with revoked := true } := by
    rw [updated]
    exact BTreeMap.getElem?_insert_same _ _ _
  rw [stepped]
  obtain ⟨kept, present, grown⟩ :=
    (run_grows next continuation).attachments scope.attemptId _ nowRevoked
  exact attemptFenced_of_attachment present (grown.revoked rfl) birthId

/-- Grant revocation fences its birth and attempt for good. -/
theorem grant_fences {store : FakePersist} {scope : HelperRevocationScope}
    (succeeded : ∃ answer, store.revokeHelperGrant scope = .ok answer)
    (continuation : List PortOp) :
    AttemptFenced (Transition.run step (store.step (.revokeHelperGrant scope))
      continuation) scope.birthId scope.attemptId := by
  obtain ⟨⟨outcome, next⟩, revoked⟩ := succeeded
  obtain ⟨grant, granted, _, updated⟩ := revokeHelperGrant_cases revoked
  have stepped : store.step (.revokeHelperGrant scope) = next := by
    change (commit (store.revokeHelperGrant scope) store).2 = next
    rw [revoked]
    rfl
  have now : GrantRevoked scope.birthId scope.attemptId next := by
    rcases updated with ⟨rfl, isRevoked⟩ | rfl
    · exact ⟨grant, granted, isRevoked⟩
    · refine ⟨{ grant with revoked := true }, ?_, rfl⟩
      rw [withRevokedGrant_helperGrant, granted]
      rfl
  rw [stepped]
  obtain ⟨final, present, isRevoked⟩ := Transition.invariant_run
    (GrantRevoked scope.birthId scope.attemptId)
    (fun store operation held =>
      (step_effect store operation).grantRevoked_kept held) now continuation
  exact attemptFenced_of_grant present isRevoked

omit [Blake3] in
/-- Right after a rotation its identity is unused exactly when no other stored
grant shared it. -/
theorem unused_after_rotation_iff {store : FakePersist} (keyed : GrantsKeyed store)
    {existing grant : PersistedHelperGrant} (rotates : Rotates store existing grant) :
    IdentityUnused (retiredIdentity existing)
        (store.withRotatedGrant existing grant) ↔
      ∀ other ∈ store.grants, grantKey other ≠ grantKey existing →
        other.grantRef ≠ existing.grantRef ∧
          (other.revoked = false → other.grantVerifier ≠ existing.grantVerifier) := by
  have existingKey : grantKey existing = grantKey grant :=
    (grantOf_iff _ _ _).1 (List.find?_some rotates.stored)
  constructor
  · intro unused other stored different
    exact unused other ((mem_withRotatedGrant keyed rotates.stored).2
      (.inr ⟨stored, existingKey ▸ different⟩))
  · intro isolated row present
    rcases (mem_withRotatedGrant keyed rotates.stored).1 present with
      rfl | ⟨stored, different⟩
    · exact ⟨Ne.symm rotates.otherRef, fun _ => Ne.symm rotates.otherVerifier⟩
    · exact isolated row stored (existingKey ▸ different)

/-- In every reachable store, what a call fences holds after every continuation
exactly when the call does not rotate a grant whose identity another stored grant
shares. -/
theorem fencesHold_iff_rotationIsolated (activeMacKey : Bytes32)
    (operations : List PortOp) (operation : PortOp) :
    FencesHold (after activeMacKey operations) operation ↔
      RotationIsolated (after activeMacKey operations) operation := by
  have keyed := grantsKeyed_after activeMacKey operations
  have stepped : ∀ {grant existing : PersistedHelperGrant},
      Rotates (after activeMacKey operations) existing grant →
        (after activeMacKey operations).step (.persistHelperGrant grant) =
          (after activeMacKey operations).withRotatedGrant existing grant := by
    intro grant existing rotates
    change (commit ((after activeMacKey operations).persistHelperGrant grant) _).2 = _
    rw [rotates.persisted]
    rfl
  constructor
  · intro holds grant existing isPersist rotates
    obtain ⟨stored, different, succeeded⟩ := (rotates_iff _ _ _).1 rotates
    have fenced := holds.rotation grant existing isPersist stored different succeeded []
    rw [Transition.run_nil, isPersist, stepped rotates] at fenced
    rw [← unused_after_rotation_iff keyed rotates]
    exact fenced.unused (by rwa [GrantsKeyed, withRotatedGrant_keys])
  · intro isolated
    refine ⟨?_, ?_, ?_⟩
    · rintro scope rfl succeeded continuation birthId
      exact attachment_fences succeeded continuation birthId
    · rintro scope rfl succeeded continuation
      exact grant_fences succeeded continuation
    · rintro grant existing rfl stored different succeeded continuation
      have rotates := (rotates_iff _ _ _).2 ⟨stored, different, succeeded⟩
      rw [stepped rotates]
      refine (identityUnused_run ?_ ?_ ?_ continuation).fenced
      · rwa [GrantsKeyed, withRotatedGrant_keys]
      · exact List.mem_append_right _ (List.mem_singleton_self _)
      · exact (unused_after_rotation_iff keyed rotates).2
          (isolated grant existing rfl rotates)

end Runs

/-! ## A shared identity -/

section Sample

open Sample

/-- Two open attempts whose grants share one identity. -/
def sharedIdentityRun : List PortOp :=
  opens firstRequest firstArm firstAttempt 1 firstEvent secondEvent ++
    opens secondRequest secondArm secondAttempt 2 firstEvent secondEvent ++
    [.persistHelperGrant
        (grant firstRequest firstArm firstAttempt 1 7 firstEvent secondEvent),
      .persistHelperGrant
        (grant secondRequest secondArm secondAttempt 2 7 firstEvent secondEvent)]

/-- Rotating the first grant leaves the retired identity live in the second. -/
theorem shared_identity_survives_rotation :
    ¬FencesHold (after (PrivateId.fixture 0) sharedIdentityRun)
      (.persistHelperGrant
        (grant firstRequest firstArm firstAttempt 1 8 firstEvent secondEvent)) := by
  intro holds
  have accepted : ((after (PrivateId.fixture 0) sharedIdentityRun).persistHelperGrant
      (grant firstRequest firstArm firstAttempt 1 8 firstEvent
        secondEvent)).isOk = true := by decide +kernel
  have succeeded : ∃ answer,
      (after (PrivateId.fixture 0) sharedIdentityRun).persistHelperGrant
        (grant firstRequest firstArm firstAttempt 1 8 firstEvent secondEvent) =
          .ok answer := by
    cases outcome : (after (PrivateId.fixture 0) sharedIdentityRun).persistHelperGrant
        (grant firstRequest firstArm firstAttempt 1 8 firstEvent secondEvent) with
    | ok answer => exact ⟨answer, rfl⟩
    | error refusal =>
        rw [outcome] at accepted
        cases accepted
  have fenced := holds.rotation _
    (grant firstRequest firstArm firstAttempt 1 7 firstEvent secondEvent) rfl
    (by decide +kernel) (by decide +kernel) succeeded []
  have shared := fenced.live
    (grant secondRequest secondArm secondAttempt 2 7 firstEvent secondEvent)
    (by decide +kernel) rfl
  exact shared.1 rfl

end Sample

end FakePersist
end Gearwit
