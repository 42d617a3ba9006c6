import Gearwit.Persist.Records

/-!
# Canonical digests

The host identifies claims, batches, helper bindings and helper requests by
digests of a domain tag followed by length-prefixed fields.  The hash itself is
a parameter; nothing here assumes anything about it.  The fields of a binding are
read back in one way, so that two bindings with one digest are told apart by the
hash alone.
-/

namespace Gearwit

open FieldEncoding

/-- The hash of the host: a plain mode and a keyed mode. -/
class Blake3 where
  hash : List UInt8 → Bytes32
  keyed : Bytes32 → List UInt8 → Bytes32

/-- Instants are determined by their bytes. -/
theorem OffsetDateTime.nanosBytes_injective :
    Function.Injective OffsetDateTime.nanosBytes := by
  intro left right equal
  have leftRange := left.inRange
  have rightRange := right.inRange
  simp only [minUnixSeconds, maxUnixSeconds, maxOffsetSeconds, nanosPerSecond]
    at leftRange rightRange
  have fits (nanos : Int) : (nanos % (2 ^ 128)).toNat < 256 ^ 16 := by omega
  have residues := littleEndian_injective 16 (fits left.unixTimestampNanos)
    (fits right.unixTimestampNanos) equal
  have nanos : left.unixTimestampNanos = right.unixTimestampNanos := by omega
  cases left
  cases right
  cases nanos
  rfl

/-- Bytes of a domain tag, with its closing zero byte. -/
def domainTag (tag : String) : List UInt8 :=
  tag.toByteArray.data.toList ++ [0]

/-- Bytes of a plain text. -/
def textBytes (text : String) : List UInt8 :=
  text.toByteArray.data.toList

/-- A text is known by its bytes. -/
theorem textBytes_injective : Function.Injective textBytes := by
  intro left right equal
  exact String.toByteArray_inj.1 (ByteArray.ext (Array.toList_inj.1 equal))

/-- Domain of the event-batch digest. -/
def eventBatchDomain : List UInt8 := domainTag "gearwit.claim-event-batch.v1"

/-- Domain of the claim digest. -/
def claimDigestDomain : List UInt8 := domainTag "gearwit.claim-digest.v1"

/-- Domain of the helper-binding digest. -/
def helperBindingDomain : List UInt8 := domainTag "gearwit.helper-binding.v1"

/-- Domain of the retrieve-request digest. -/
def retrieveRequestDomain : List UInt8 := domainTag "gearwit.retrieve-request.v1"

/-- Domain of the acknowledge-request digest. -/
def ackRequestDomain : List UInt8 := domainTag "gearwit.ack-request.v1"

/-- Domain of the active-observation fingerprint. -/
def activeObservationDomain : List UInt8 := domainTag "gearwit.active-observation.v1"

/-- Domain of the active-observation evidence reference. -/
def activeObservationRefDomain : List UInt8 :=
  domainTag "gearwit.active-observation-ref.v1"

/-! ## Encodings -/

/-- Fields of the event-batch digest. -/
def eventBatchFields (eventRefs : BoundedVec EventRef 1 64) : List (List UInt8) :=
  eventRefs.asSlice.map SafeToken.asBytes

/-- Fields of coverage evidence, led by a presence byte. -/
def coverageFields : Option ClaimCoverageEvidence → List (List UInt8)
  | none => [[0]]
  | some evidence =>
      [[1], evidence.requestId.asBytes, evidence.armId.asBytes,
        UInt64.leBytes evidence.generation, evidence.signalId.asBytes,
        evidence.provider.asBytes, evidence.drainFilterScope.asBytes,
        evidence.drainBaseline.asBytes, evidence.eventBatchDigest.bytes,
        evidence.coveredThrough.asBytes, evidence.sourceEvidenceId.bytes]

/-- Fields of a drain witness, led by a presence byte. -/
def drainWitnessFields : Option ClaimDrainWitness → List (List UInt8)
  | none => [[0]]
  | some drain =>
      [[1], drain.provider.asBytes, drain.drainFilterScope.asBytes] ++
        drain.eventRefs.asSlice.map SafeToken.asBytes ++
        [drain.sourceEvidenceId.bytes]

/-- Fields of one event; the actor is led by a presence byte. -/
def eventFields (event : ProviderEventRecord) : List (List UInt8) :=
  [event.eventRef.asBytes, event.provider.asBytes] ++
    (match event.actor with
      | some actor => [[1], actor.asBytes]
      | none => [[0]]) ++
    [event.observedAt.nanosBytes, textBytes event.body.text]

/-- Fields of the claim digest, in fixed order. -/
def claimDigestFields
    (requestId : ClaimRequestId) (armId : ArmId) (generation : UInt64)
    (signalId : SignalId) (eventRefs : BoundedVec EventRef 1 64)
    (payload : BoundedClaimPayload) (coverage : Option ClaimCoverageEvidence)
    (drainWitness : Option ClaimDrainWitness) : List (List UInt8) :=
  [requestId.asBytes, armId.asBytes, UInt64.leBytes generation, signalId.asBytes] ++
    eventRefs.asSlice.map SafeToken.asBytes ++
    payload.events.asSlice.flatMap eventFields ++
    coverageFields coverage ++ drainWitnessFields drainWitness

/-- Fields of a helper binding. -/
def bindingIdentityFields (origin : PersistedHelperBindingIdentity) :
    List (List UInt8) :=
  [origin.grantRef.bytes, origin.seatId.asBytes, origin.armId.asBytes,
    UInt64.leBytes origin.generation, origin.birthId.bytes,
    origin.attemptId.asBytes, origin.signalId.asBytes, origin.claimDigest.bytes,
    [if origin.operations.allows .retrieve then 1 else 0],
    [if origin.operations.allows .acknowledge then 1 else 0],
    origin.leaseUntil.nanosBytes]

/-- Operation sets are known by the operations they allow. -/
private theorem operations_eq {left right : HelperOperations}
    (retrieve : left.allows .retrieve = right.allows .retrieve)
    (acknowledge : left.allows .acknowledge = right.allows .acknowledge) : left = right := by
  cases left
  cases right
  cases retrieve
  cases acknowledge
  rfl

/-- Fields of an active observation. -/
def activeObservationFields (proof : ActiveObservationProof) : List (List UInt8) :=
  [proof.birthId.bytes, proof.createAttemptId.bytes, proof.threadRef.bytes,
    proof.seatId.asBytes, proof.armId.asBytes, UInt64.leBytes proof.generation,
    [0], proof.attachmentVerifierRef.bytes, proof.leaseUntil.nanosBytes,
    proof.attemptId.asBytes, proof.signalId.asBytes, proof.probeId.bytes,
    UInt64.leBytes proof.mutationEpoch.sequence, proof.observedAt.nanosBytes,
    proof.prehash.bytes, textBytes proof.producerVersion,
    textBytes proof.producerDialect]

/-! ## Lengths of fields -/

/-- A short value has a length the prefix can count. -/
theorem countable_of_short {value : List UInt8} (short : value.length ≤ 4096) :
    FieldEncoding.Countable value := by
  simp only [FieldEncoding.Countable]
  omega

/-- A token can be a field. -/
theorem token_countable {family : TokenFamily} {max : Nat} (small : max ≤ 256)
    (token : SafeToken family max) : FieldEncoding.Countable token.asBytes :=
  countable_of_short (Nat.le_trans token.length_asBytes_le (Nat.le_trans small (by decide)))

/-- An identifier can be a field. -/
theorem id_countable {family : PrivateFamily} (id : PrivateId family) :
    FieldEncoding.Countable id.bytes :=
  countable_of_short (by simp)

/-- A byte can be a field. -/
theorem flag_countable (byte : UInt8) : FieldEncoding.Countable [byte] :=
  countable_of_short (by simp)

/-- A number can be a field. -/
theorem number_countable (number : UInt64) : FieldEncoding.Countable (UInt64.leBytes number) :=
  countable_of_short (by simp)

/-- An instant can be a field. -/
theorem instant_countable (instant : OffsetDateTime) :
    FieldEncoding.Countable instant.nanosBytes :=
  countable_of_short (by simp [OffsetDateTime.nanosBytes])

/-! ## Digests -/

section Digests

variable [Blake3]

/-- Digest of the ordered event references. -/
def canonicalEventBatchDigest (eventRefs : BoundedVec EventRef 1 64) : Bytes32 :=
  Blake3.hash (eventBatchDomain ++ fields (eventBatchFields eventRefs))

/-- Digest of the validated admission fields. -/
def canonicalClaimDigest
    (requestId : ClaimRequestId) (armId : ArmId) (generation : UInt64)
    (signalId : SignalId) (eventRefs : BoundedVec EventRef 1 64)
    (payload : BoundedClaimPayload) (coverage : Option ClaimCoverageEvidence)
    (drainWitness : Option ClaimDrainWitness) : ClaimDigest :=
  PrivateId.cast .claimDigest <| Blake3.hash <|
    claimDigestDomain ++ fields (claimDigestFields requestId armId generation
      signalId eventRefs payload coverage drainWitness)

/-- The binding as the store remembers it. -/
def snapshotBindingIdentity (binding : ValidatedHelperBinding) :
    PersistedHelperBindingIdentity where
  grantRef := binding.grantRef
  seatId := binding.seatId
  armId := binding.armId
  generation := binding.generation
  birthId := binding.birthId
  attemptId := binding.attemptId
  signalId := binding.signalId
  claimDigest := binding.claimDigest
  operations := binding.operations
  leaseUntil := binding.leaseUntil

/-- Digest of a remembered binding. -/
def canonicalBindingIdentityDigest (origin : PersistedHelperBindingIdentity) :
    Bytes32 :=
  Blake3.hash (helperBindingDomain ++ fields (bindingIdentityFields origin))

/-- Digest of a live binding. -/
def canonicalBindingDigest (binding : ValidatedHelperBinding) : Bytes32 :=
  canonicalBindingIdentityDigest (snapshotBindingIdentity binding)

/-- The bytes that are hashed into the digest of a binding. -/
def ValidatedHelperBinding.encoding (binding : ValidatedHelperBinding) : List UInt8 :=
  helperBindingDomain ++ fields (bindingIdentityFields (snapshotBindingIdentity binding))

omit [Blake3] in
private theorem binding_countable (origin : PersistedHelperBindingIdentity) :
    ∀ value ∈ bindingIdentityFields origin, FieldEncoding.Countable value := by
  simp only [bindingIdentityFields, List.forall_mem_cons]
  exact ⟨id_countable _, token_countable (by decide) _, token_countable (by decide) _,
    number_countable _, id_countable _, token_countable (by decide) _,
    token_countable (by decide) _, id_countable _, flag_countable _, flag_countable _,
    instant_countable _, List.forall_mem_nil _⟩

omit [Blake3] in
/-- A presence byte shows the bit it stands for. -/
private theorem bit_eq {left right : Bool}
    (equal : (if left then (1 : UInt8) else 0) = if right then (1 : UInt8) else 0) :
    left = right := by
  revert left right
  decide

omit [Blake3] in
/-- A binding is determined by its encoding. -/
theorem ValidatedHelperBinding.encoding_injective :
    Function.Injective ValidatedHelperBinding.encoding := by
  intro left right equal
  have listed := fields_injective (binding_countable _) (binding_countable _)
    (List.append_cancel_left equal)
  simp only [bindingIdentityFields, snapshotBindingIdentity, List.cons.injEq, and_true] at listed
  obtain ⟨grantRef, seatId, armId, generation, birthId, attemptId, signalId, claimDigest,
    retrieve, acknowledge, leaseUntil⟩ := listed
  cases left
  cases right
  simp only [ValidatedHelperBinding.mk.injEq]
  exact ⟨PrivateId.bytes_injective grantRef, SafeToken.asBytes_injective seatId,
    SafeToken.asBytes_injective armId, UInt64.leBytes_injective generation,
    PrivateId.bytes_injective birthId, SafeToken.asBytes_injective attemptId,
    SafeToken.asBytes_injective signalId, PrivateId.bytes_injective claimDigest,
    operations_eq (bit_eq retrieve) (bit_eq acknowledge),
    OffsetDateTime.nanosBytes_injective leaseUntil⟩

/-- Two encodings that the hash tells apart. -/
def Separated (left right : List UInt8) : Prop :=
  Blake3.hash left = Blake3.hash right → left = right

/-- Bindings whose encodings the hash tells apart have two digests unless they are one. -/
theorem binding_eq_of_digest {left right : ValidatedHelperBinding}
    (separated : Separated left.encoding right.encoding)
    (same : canonicalBindingDigest left = canonicalBindingDigest right) : left = right :=
  ValidatedHelperBinding.encoding_injective (separated same)

/-- Digest of a retrieve request. -/
def canonicalRetrieveBodyDigest
    (bindingDigest : Bytes32) (requestId : RequestNonce) : CanonicalBodyDigest :=
  PrivateId.cast .bodyDigest <| Blake3.hash <|
    retrieveRequestDomain ++ fields [bindingDigest.bytes, requestId.bytes]

/-- Digest of an acknowledge request. -/
def canonicalAckBodyDigest
    (bindingDigest : Bytes32) (requestId : RequestNonce)
    (retrievalId : RetrievalId) (cursor : EventRef) : CanonicalBodyDigest :=
  PrivateId.cast .bodyDigest <| Blake3.hash <|
    ackRequestDomain ++ fields [bindingDigest.bytes, requestId.bytes,
      retrievalId.bytes, cursor.asBytes]

/-- Keyed fingerprint of an active observation. -/
def activeObservationFingerprint (key : Bytes32) (proof : ActiveObservationProof) :
    ActiveObservationFingerprint :=
  PrivateId.cast .activeFingerprint <| Blake3.keyed key <|
    activeObservationDomain ++ fields (activeObservationFields proof)

/-- Keyed evidence reference of a fingerprint. -/
def activeObservationEvidenceRef (key : Bytes32)
    (fingerprint : ActiveObservationFingerprint) : ActiveObservationEvidenceRef :=
  PrivateId.cast .activeEvidence <| Blake3.keyed key <|
    activeObservationRefDomain ++ fingerprint.bytes

end Digests

end Gearwit
