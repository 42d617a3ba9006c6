import Gearwit.Persist.Growth

/-!
# Claim identity

Along every run a claim is the only one of its attempt and the only one of its
arm and generation, its attempt has an attachment, and the attempt index agrees
with the claims.
-/

namespace Gearwit
namespace FakePersist

/-- The claim tables agree and identify claims in three ways. -/
structure ClaimsIdentified (store : FakePersist) : Prop where
  attached : ∀ (requestId : ClaimRequestId) claim,
    store.claims[requestId]? = some claim →
      ∃ attachment, store.attachments[claim.attemptId]? = some attachment
  byAttempt : ∀ (first second : ClaimRequestId) claim other,
    store.claims[first]? = some claim → store.claims[second]? = some other →
      claim.attemptId = other.attemptId → first = second
  byGeneration : ∀ (first second : ClaimRequestId) claim other,
    store.claims[first]? = some claim → store.claims[second]? = some other →
      claim.armId = other.armId → claim.generation = other.generation →
        first = second
  attempts : ∀ requestId : ClaimRequestId,
    store.claimAttempts[requestId]? =
      store.claims[requestId]?.map PersistedClaimRecord.attemptId

/-- A fresh store has no claims to confuse. -/
theorem claimsIdentified_default (activeMacKey : Bytes32) :
    ClaimsIdentified (FakePersist.default activeMacKey) where
  attached _ _ stored := by simp [FakePersist.default] at stored
  byAttempt _ _ _ _ stored := by simp [FakePersist.default] at stored
  byGeneration _ _ _ _ stored := by simp [FakePersist.default] at stored
  attempts _ := by simp [FakePersist.default]

namespace ClaimsIdentified

variable {store : FakePersist}

/-- Stored claims of one attempt are one claim. -/
theorem claim_eq_of_attempt (identified : ClaimsIdentified store)
    {first second : PersistedClaimRecord}
    (firstStored : first ∈ BTreeMap.rows store.claims)
    (secondStored : second ∈ BTreeMap.rows store.claims)
    (same : first.attemptId = second.attemptId) : first = second := by
  obtain ⟨firstKey, firstFound⟩ := (BTreeMap.mem_rows _ _).1 firstStored
  obtain ⟨secondKey, secondFound⟩ := (BTreeMap.mem_rows _ _).1 secondStored
  have keys := identified.byAttempt _ _ _ _ firstFound secondFound same
  rw [keys, secondFound] at firstFound
  exact (Option.some.inj firstFound).symm

/-- Stored claims of one arm and generation are one claim. -/
theorem claim_eq_of_generation (identified : ClaimsIdentified store)
    {first second : PersistedClaimRecord}
    (firstStored : first ∈ BTreeMap.rows store.claims)
    (secondStored : second ∈ BTreeMap.rows store.claims)
    (sameArm : first.armId = second.armId)
    (sameGeneration : first.generation = second.generation) : first = second := by
  obtain ⟨firstKey, firstFound⟩ := (BTreeMap.mem_rows _ _).1 firstStored
  obtain ⟨secondKey, secondFound⟩ := (BTreeMap.mem_rows _ _).1 secondStored
  have keys := identified.byGeneration _ _ _ _ firstFound secondFound sameArm
    sameGeneration
  rw [keys, secondFound] at firstFound
  exact (Option.some.inj firstFound).symm

/-- The claim of an attempt is the stored claim that names it. -/
theorem claimForAttempt_eq_some_iff (identified : ClaimsIdentified store)
    (attemptId : AttemptId) (claim : PersistedClaimRecord) :
    store.claimForAttempt attemptId = some claim ↔
      claim ∈ BTreeMap.rows store.claims ∧ claim.attemptId = attemptId := by
  constructor
  · exact claimForAttempt_some
  · rintro ⟨stored, rfl⟩
    cases found : store.claimForAttempt claim.attemptId with
    | none => exact absurd rfl (claimForAttempt_none found claim stored)
    | some other =>
        have other' := claimForAttempt_some found
        rw [identified.claim_eq_of_attempt other'.1 stored other'.2]

/-- Stores with the same claim tables identify claims alike. -/
theorem congr {next : FakePersist} (identified : ClaimsIdentified store)
    (claims : next.claims = store.claims)
    (claimAttempts : next.claimAttempts = store.claimAttempts)
    (attachments : ∀ (attemptId : AttemptId) attachment,
      store.attachments[attemptId]? = some attachment →
        ∃ kept, next.attachments[attemptId]? = some kept) :
    ClaimsIdentified next where
  attached requestId claim stored := by
    rw [claims] at stored
    obtain ⟨attachment, attached⟩ := identified.attached requestId claim stored
    exact attachments _ attachment attached
  byAttempt := by simpa only [claims] using identified.byAttempt
  byGeneration := by simpa only [claims] using identified.byGeneration
  attempts := by simpa only [claims, claimAttempts] using identified.attempts

/-- An admission keeps claims identified. -/
theorem withClaim [Blake3] (identified : ClaimsIdentified store)
    {admission : ClaimAdmission} {attachment : PersistedControllerAttachment}
    (payloadRef : ClaimPayloadRef)
    (unused : ∀ claim ∈ BTreeMap.rows store.claims,
      ¬(claim.armId = admission.armId ∧ claim.generation = admission.generation))
    (unattached : store.attachments[attachment.attemptId]? = none) :
    ClaimsIdentified (store.withClaim admission attachment payloadRef) := by
  have otherAttempt : ∀ (requestId : ClaimRequestId) claim,
      store.claims[requestId]? = some claim →
        claim.attemptId ≠ attachment.attemptId := by
    intro requestId claim stored same
    obtain ⟨kept, attached⟩ := identified.attached requestId claim stored
    rw [same, unattached] at attached
    cases attached
  have otherGeneration : ∀ (requestId : ClaimRequestId) claim,
      store.claims[requestId]? = some claim → claim.armId = admission.armId →
        claim.generation ≠ admission.generation := by
    intro requestId claim stored sameArm sameGeneration
    exact unused claim ((BTreeMap.mem_rows _ _).2 ⟨requestId, stored⟩)
      ⟨sameArm, sameGeneration⟩
  constructor
  · intro requestId claim stored
    simp only [FakePersist.withClaim, BTreeMap.getElem?_insert_eq] at stored ⊢
    split at stored
    · simp only [Option.some.injEq] at stored
      exact ⟨attachment, by simp [← stored, claimRecord]⟩
    · obtain ⟨kept, attached⟩ := identified.attached requestId claim stored
      rw [if_neg (Ne.symm (otherAttempt requestId claim stored))]
      exact ⟨kept, attached⟩
  · intro first second claim other firstStored secondStored same
    simp only [FakePersist.withClaim, BTreeMap.getElem?_insert_eq]
      at firstStored secondStored
    split at firstStored <;> split at secondStored
    · next firstKey secondKey => exact firstKey.symm.trans secondKey
    · simp only [Option.some.injEq] at firstStored
      subst firstStored
      exact absurd same.symm (otherAttempt second other secondStored)
    · simp only [Option.some.injEq] at secondStored
      subst secondStored
      exact absurd same (otherAttempt first claim firstStored)
    · exact identified.byAttempt first second claim other firstStored secondStored
        same
  · intro first second claim other firstStored secondStored sameArm sameGeneration
    simp only [FakePersist.withClaim, BTreeMap.getElem?_insert_eq]
      at firstStored secondStored
    split at firstStored <;> split at secondStored
    · next firstKey secondKey => exact firstKey.symm.trans secondKey
    · simp only [Option.some.injEq] at firstStored
      subst firstStored
      exact absurd sameGeneration.symm
        (otherGeneration second other secondStored sameArm.symm)
    · simp only [Option.some.injEq] at secondStored
      subst secondStored
      exact absurd sameGeneration
        (otherGeneration first claim firstStored sameArm)
    · exact identified.byGeneration first second claim other firstStored
        secondStored sameArm sameGeneration
  · intro requestId
    simp only [FakePersist.withClaim, BTreeMap.getElem?_insert_eq]
    split
    · rfl
    · exact identified.attempts requestId

end ClaimsIdentified

section Runs

variable [Blake3]

/-- Every operation keeps claims identified. -/
theorem Effect.claimsIdentified {store next : FakePersist} {operation : PortOp}
    (effect : Effect store operation next) (identified : ClaimsIdentified store) :
    ClaimsIdentified next := by
  have kept : ∀ (attemptId : AttemptId) attachment,
      store.attachments[attemptId]? = some attachment →
        ∃ kept, next.attachments[attemptId]? = some kept := by
    intro attemptId attachment stored
    obtain ⟨kept, present, _⟩ :=
      effect.grows.attachments attemptId attachment stored
    exact ⟨kept, present⟩
  cases effect with
  | claim admission attachment payloadRef valid unclaimed unused unattached =>
      exact identified.withClaim payloadRef unused unattached
  | recovered draws =>
      refine identified.congr ?_ ?_ kept <;> rw [classified_frame]
  | _ => exact identified.congr rfl rfl kept

/-- Claims are identified in every reachable store. -/
theorem claimsIdentified_after (activeMacKey : Bytes32) (operations : List PortOp) :
    ClaimsIdentified (after activeMacKey operations) :=
  Transition.invariant_run _ (fun store operation identified =>
    (step_effect store operation).claimsIdentified identified)
    (claimsIdentified_default activeMacKey) operations

end Runs

end FakePersist
end Gearwit
