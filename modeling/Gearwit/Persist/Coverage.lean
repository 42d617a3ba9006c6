import Gearwit.Persist.Digest

/-!
# Claim coverage

A claim may carry a proof that its events are the head of a declared drain.  An
acknowledgement can move only as far as that proof reaches; a claim without one
can be acknowledged at its first event and no further.
-/

namespace Gearwit

/-- Head of the drain up to the covered event, if the drain starts at the
declared baseline. -/
def coveredDrainPrefix
    (evidence : ClaimCoverageEvidence) (witness : ClaimDrainWitness) :
    Option (List EventRef) :=
  match witness.eventRefs.asSlice.head? with
  | none => none
  | some baseline =>
      if baseline ≠ evidence.drainBaseline then none
      else
        match witness.eventRefs.asSlice.idxOf? evidence.coveredThrough with
        | none => none
        | some coveredAt => some (witness.eventRefs.asSlice.take (coveredAt + 1))

/-- Whether the claim's references are the head of the drain. -/
def claimIsDrainPrefix (claimRefs drain : List EventRef) : Bool :=
  decide (claimRefs.length ≤ drain.length ∧ drain.take claimRefs.length = claimRefs)

section Coverage

variable [Blake3]

/-- Whether evidence and witness fail to prove coverage of the claim. -/
def coveragePairInvalid
    (evidence : Option ClaimCoverageEvidence) (witness : Option ClaimDrainWitness)
    (requestId : ClaimRequestId) (armId : ArmId) (generation : UInt64)
    (signalId : SignalId) (eventRefs : BoundedVec EventRef 1 64)
    (payload : Option BoundedClaimPayload) : Bool :=
  match evidence, witness with
  | none, none => false
  | some evidence, some witness =>
      decide (evidence.requestId ≠ requestId) ||
      decide (evidence.armId ≠ armId) ||
      decide (evidence.generation ≠ generation) ||
      decide (evidence.signalId ≠ signalId) ||
      decide (evidence.provider ≠ witness.provider) ||
      decide (evidence.drainFilterScope ≠ witness.drainFilterScope) ||
      decide (evidence.sourceEvidenceId = PrivateId.fixture 0) ||
      decide (witness.sourceEvidenceId = PrivateId.fixture 0) ||
      decide (evidence.sourceEvidenceId ≠ witness.sourceEvidenceId) ||
      decide (evidence.eventBatchDigest ≠ canonicalEventBatchDigest eventRefs) ||
      (coveredDrainPrefix evidence witness).isNone ||
      !claimIsDrainPrefix eventRefs.asSlice witness.eventRefs.asSlice ||
      (match payload with
        | none => false
        | some payload => payload.events.asSlice.any fun event =>
            decide (event.provider ≠ evidence.provider))
  | none, some _ => true
  | some _, none => true

/-- The coverage check of an admission. -/
def coverageAdmissionInvalid (admission : ClaimAdmission) : Bool :=
  coveragePairInvalid admission.coverage admission.drainWitness
    admission.requestId admission.armId admission.generation admission.signalId
    admission.eventRefs (some admission.payload)

/-- The coverage check of a stored claim. -/
def claimCoverageInvalid
    (claim : PersistedClaimRecord) (payload : Option BoundedClaimPayload) : Bool :=
  coveragePairInvalid claim.coverage claim.drainWitness claim.requestId
    claim.armId claim.generation claim.signalId claim.eventRefs payload

/-- Last index reached while every reference so far is covered. -/
def provedScan (covered : List EventRef) :
    List EventRef → (index : Nat) → (proved : Option Nat) → Option Nat
  | [], _, proved => proved
  | eventRef :: rest, index, proved =>
      if eventRef ∈ covered then provedScan covered rest (index + 1) (some index)
      else proved

/-- Furthest index of the claim's references an acknowledgement may name. -/
def provedAckIndex
    (claim : PersistedClaimRecord) (refs : List EventRef)
    (payload : Option BoundedClaimPayload) : Except PersistError Nat :=
  match claim.coverage, claim.drainWitness with
  | none, none => .ok 0
  | some evidence, some witness =>
      if claimCoverageInvalid claim payload then .error .unauthorized
      else
        match coveredDrainPrefix evidence witness with
        | none => .error .unauthorized
        | some covered =>
            match provedScan covered refs 0 none with
            | none => .error .unauthorized
            | some proved => .ok proved
  | none, some _ => .error .unauthorized
  | some _, none => .error .unauthorized

/-- What the claim alone says about how far an acknowledgement may reach. -/
def provedReach (claim : PersistedClaimRecord) : Option Nat :=
  match claim.coverage, claim.drainWitness with
  | none, none => some 0
  | some evidence, some witness =>
      match coveredDrainPrefix evidence witness with
      | none => none
      | some covered => provedScan covered claim.eventRefs.asSlice 0 none
  | none, some _ => none
  | some _, none => none

/-- The proved index is the reach of the claim, as long as its coverage holds
up against the payload. -/
theorem provedAckIndex_eq_ok_iff (claim : PersistedClaimRecord)
    (payload : Option BoundedClaimPayload) (proved : Nat) :
    provedAckIndex claim claim.eventRefs.asSlice payload = .ok proved ↔
      claimCoverageInvalid claim payload = false ∧
        provedReach claim = some proved := by
  cases coverage : claim.coverage <;> cases witness : claim.drainWitness
  · simp [provedAckIndex, provedReach, claimCoverageInvalid, coveragePairInvalid,
      coverage, witness]
  · simp [provedAckIndex, provedReach, coverage, witness]
  · simp [provedAckIndex, provedReach, coverage, witness]
  next evidence drain =>
  cases invalid : claimCoverageInvalid claim payload with
  | true => simp [provedAckIndex, coverage, witness, invalid]
  | false =>
      cases covered : coveredDrainPrefix evidence drain with
      | none => simp [provedAckIndex, provedReach, coverage, witness, invalid, covered]
      | some list =>
          cases scanned : provedScan list claim.eventRefs.asSlice 0 none <;>
            simp [provedAckIndex, provedReach, coverage, witness, invalid, covered,
              scanned]

end Coverage

/-- Whether a recorded retrieve result describes the claim. -/
def retrieveResultMatchesClaim
    (result : RecordedRetrieveResult) (claim : PersistedClaimRecord) : Bool :=
  decide (result.claimPayloadRef = claim.payloadRef) &&
  decide (claim.eventRefs.asSlice.getLast? = some result.newestEventRef) &&
  decide (claim.eventRefs.asSlice.length = result.eventCount.toNat)

end Gearwit
