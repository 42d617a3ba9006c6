import Gearwit.Sqlite.Codec

/-!
# Reading a stored document back

Every row reads back as itself, except that a reader panics on an instant that an offset
has carried out of the range of the UTC calendar.
-/

namespace Gearwit
namespace Sqlite

open Json (ofMembers get_ofMembers lastMember)

/-- The instant is within the range of the UTC calendar. -/
def InUtc (time : OffsetDateTime) : Prop :=
  minUnixSeconds * nanosPerSecond ≤ time.unixTimestampNanos ∧
    time.unixTimestampNanos < (maxUnixSeconds + 1) * nanosPerSecond

instance (time : OffsetDateTime) : Decidable (InUtc time) :=
  inferInstanceAs (Decidable (_ ∧ _))

/-! ## Running a reader -/

section Readers

variable {α β : Type} {error : String}

/-- A decoder goes on with a value. -/
theorem ok_bind (value : α) (next : α → Except String β) :
    (Except.ok value >>= next) = next value := rfl

/-- A decoder stops at an error. -/
theorem error_bind (next : α → Except String β) :
    (Except.error error >>= next) = .error error := rfl

/-- Mapping keeps a value. -/
theorem map_ok (value : α) (next : α → β) :
    (next <$> (Except.ok value : Except String α)) = .ok (next value) := rfl

/-- A check refuses, or the decoder goes on. -/
theorem ite_bind {condition : Prop} [Decidable condition] (value : α)
    (next : α → Except String β) :
    ((if condition then Except.ok value else .error error) >>= next) =
      if condition then next value else .error error := by
  split_ifs <;> rfl

/-- What is there is what is expected. -/
theorem expect_some (value : α) : expect error (some value) = .ok value := rfl

/-- A value is there. -/
theorem toOption_ok (value : α) :
    (Except.ok value : Except String α).toOption = some value := rfl

/-- A decoder that returns accepts. -/
theorem pure_ok (value : α) : (pure value : Except String α) = .ok value := rfl

/-- Rows that read back under a condition on each of them. -/
theorem mapM_encoded {encode : α → Json} {decode : Json → Except String α} {fine : α → Prop}
    [DecidablePred fine]
    (row : ∀ value, decode (encode value) = if fine value then .ok value else .error error)
    (values : List α) :
    (values.map encode).mapM decode =
      if ∀ value ∈ values, fine value then .ok values else .error error := by
  induction values with
  | nil => exact (if_pos (by simp)).symm
  | cons value rest inductionHypothesis =>
      rw [List.map_cons, List.mapM_cons, row, inductionHypothesis]
      by_cases first : fine value
      · rw [if_pos first, ok_bind]
        by_cases others : ∀ value ∈ rest, fine value
        · rw [if_pos others, if_pos (List.forall_mem_cons.2 ⟨first, others⟩)]
          rfl
        · rw [if_neg others, if_neg fun all => others (List.forall_mem_cons.1 all).2]
          rfl
      · rw [if_neg first, if_neg fun all => first (List.forall_mem_cons.1 all).1]
        rfl

/-- Rows that read back. -/
theorem mapM_exact {encode : α → Json} {decode : Json → Except String α}
    (row : ∀ value, decode (encode value) = .ok value) (values : List α) :
    (values.map encode).mapM decode = .ok values := by
  induction values with
  | nil => rfl
  | cons value rest inductionHypothesis =>
      rw [List.map_cons, List.mapM_cons, row, inductionHypothesis]
      rfl

end Readers

attribute [local simp] ok_bind error_bind map_ok ite_bind expect_some toOption_ok pure_ok

/-! ## Values -/

@[local simp] theorem asStr_string (text : String) : Json.asStr (.string text) = some text := rfl

@[local simp] theorem asStr_null : Json.asStr .null = none := rfl

@[local simp] theorem asBool_bool (value : Bool) : Json.asBool (.bool value) = some value := rfl

@[local simp] theorem asArray_array (items : List Json) :
    Json.asArray (.array items) = some items := rfl

@[local simp] theorem isNull_null : Json.isNull .null = true := rfl

@[local simp] theorem isNull_ofMembers (members : List (String × Json)) :
    (ofMembers members).isNull = false := rfl

/-- The identifier its bytes spell. -/
@[local simp] theorem unhex32_hex {family : PrivateFamily} (id : PrivateId family) :
    (unhex32 (String.ofList (Digits.hexText id.bytes)) : Except String (PrivateId family)) =
      .ok id := by
  have fits : id.code.toNat < 256 ^ 32 := id.code.isLt
  have code : BitVec.ofNat 256 (Digits.ofLittleEndian id.bytes.reverse) = id.code := by
    rw [PrivateId.bytes, List.reverse_reverse, Digits.ofLittleEndian_littleEndian fits,
      BitVec.ofNat_toNat]
    exact BitVec.setWidth_eq _
  unfold unhex32 unhex
  rw [String.toList_ofList, Digits.readHex_hexText, expect_some, ok_bind,
    if_pos id.length_bytes, code]
  rfl

/-- A token's text makes the token again. -/
theorem new_text {family : TokenFamily} {max : Nat} (value : SafeToken family max) :
    (SafeToken.new value.text : Except String (SafeToken family max)) = .ok value :=
  dif_pos value.valid

/-- A number that fits is read back signed. -/
theorem asI64_number {value : Int} (bounded : -2 ^ 63 ≤ value ∧ value < 2 ^ 63) :
    asI64 (number value) = some value := by
  change (Digits.readInt (Digits.intText value)).filter _ = _
  rw [Digits.readInt_intText, Option.filter_some, if_pos (decide_eq_true bounded)]

/-- A number that fits is read back unsigned. -/
theorem asU64_number {value : Int} (bounded : 0 ≤ value ∧ value < 2 ^ 64) :
    asU64 (number value) = some (UInt64.ofNat value.toNat) := by
  change (Digits.readInt (Digits.intText value)).bind _ = _
  rw [Digits.readInt_intText, Option.bind_some, if_pos bounded]

/-- The whole seconds of an instant are within the range of the UTC calendar where the
instant is. -/
private theorem utcInstant_second (time : OffsetDateTime) :
    (InUtc time ∧ ∃ second, utcInstant
        (time.unixTimestampNanos / nanosPerSecond * nanosPerSecond) = some second) ∨
      (¬ InUtc time ∧ utcInstant
        (time.unixTimestampNanos / nanosPerSecond * nanosPerSecond) = none) := by
  have same : InUtc time ↔
      minUnixSeconds * nanosPerSecond ≤
          time.unixTimestampNanos / nanosPerSecond * nanosPerSecond ∧
        time.unixTimestampNanos / nanosPerSecond * nanosPerSecond <
          (maxUnixSeconds + 1) * nanosPerSecond := by
    unfold InUtc minUnixSeconds maxUnixSeconds nanosPerSecond
    omega
  by_cases inside : InUtc time
  · exact .inl ⟨inside, _, dif_pos (same.1 inside)⟩
  · exact .inr ⟨inside, dif_neg fun range => inside (same.2 range)⟩

/-- A stamped instant reads back where the UTC calendar has it. -/
theorem unstamp_stamp (time : OffsetDateTime) :
    unstamp (stamp time) = if InUtc time then .ok time else .error "secs" := by
  have lower := time.inRange.1
  have upper := time.inRange.2
  have secs : asI64 (number (time.unixTimestampNanos / nanosPerSecond)) =
      some (time.unixTimestampNanos / nanosPerSecond) := by
    refine asI64_number ?_
    unfold minUnixSeconds maxOffsetSeconds nanosPerSecond at *
    unfold maxUnixSeconds at upper
    omega
  have nanos : asU64 (number (time.unixTimestampNanos % nanosPerSecond)) =
      some (UInt64.ofNat (time.unixTimestampNanos % nanosPerSecond).toNat) := by
    refine asU64_number ?_
    unfold nanosPerSecond
    omega
  have small : (UInt64.ofNat (time.unixTimestampNanos % nanosPerSecond).toNat).toNat =
      (time.unixTimestampNanos % nanosPerSecond).toNat := by
    refine UInt64.toNat_ofNat_of_lt' ?_
    unfold nanosPerSecond UInt64.size
    omega
  have below : (time.unixTimestampNanos % nanosPerSecond).toNat < 2 ^ 32 := by
    unfold nanosPerSecond
    omega
  have whole : time.unixTimestampNanos / nanosPerSecond * nanosPerSecond +
      ((time.unixTimestampNanos % nanosPerSecond).toNat : Int) = time.unixTimestampNanos := by
    unfold nanosPerSecond
    omega
  have members : ((stamp time).get "secs").bind asI64 =
        some (time.unixTimestampNanos / nanosPerSecond) ∧
      ((stamp time).get "nanos").bind asU64 =
        some (UInt64.ofNat (time.unixTimestampNanos % nanosPerSecond).toNat) := by
    unfold stamp
    simp [get_ofMembers, lastMember, secs, nanos]
  unfold unstamp
  rw [members.1, members.2, expect_some, ok_bind, expect_some, ok_bind, small, if_pos below,
    whole]
  rcases utcInstant_second time with ⟨inside, second, found⟩ | ⟨outside, missing⟩
  · have read : utcInstant time.unixTimestampNanos = some time := dif_pos inside
    rw [found, read, if_pos inside]
    rfl
  · rw [missing, if_neg outside]
    rfl

/-! ## Fields -/

@[local simp] theorem asStr_token {family : TokenFamily} {max : Nat} (id : SafeToken family max) :
    (token id).asStr = some id.text := rfl

@[local simp] theorem asStr_hex {family : PrivateFamily} (id : PrivateId family) :
    (hex id).asStr = some (String.ofList (Digits.hexText id.bytes)) := rfl

@[local simp] theorem new_toOption {family : TokenFamily} {max : Nat} (id : SafeToken family max) :
    (SafeToken.new id.text : Except String (SafeToken family max)).toOption = some id := by
  rw [new_text]
  rfl

@[local simp] theorem eventRef_text (ref : EventRef) : eventRef ref.text = .ok ref := by
  rw [eventRef, new_toOption]
  rfl

@[local simp] theorem fromStrRadix_u64 (number : UInt64) :
    Digits.fromStrRadix 10 18446744073709551616 (JsonText.nat number.toNat) =
      some number.toNat :=
  Digits.fromStrRadix_nat number.toNat_lt

@[local simp] theorem asI64_byte (byte : UInt8) :
    asI64 (number byte.toNat) = some (byte.toNat : Int) := by
  have small := byte.toNat_lt
  exact asI64_number (by omega)

@[local simp] theorem eventRefs_refsJson (refs : BoundedVec EventRef 1 64) :
    eventRefs (refsJson refs) = .ok refs := by
  have each (ref : EventRef) :
      (do eventRef (← expect "ref" (token ref).asStr)) = Except.ok ref := eventRef_text ref
  have bounded : (BoundedVec.tryFrom refs.asSlice : Except String (BoundedVec EventRef 1 64)) =
      .ok refs := dif_pos refs.bounds
  unfold eventRefs refsJson
  rw [asArray_array, expect_some, ok_bind, mapM_exact each, ok_bind, bounded]
  rfl

@[local simp] theorem opsFrom_opsJson (operations : HelperOperations) :
    opsFrom (opsJson operations) = .ok operations := by
  rcases operations.eq_all_or_retrieveOnly_or_acknowledgeOnly with rfl | rfl | rfl <;> rfl

/-- An optional member reads back where its value does and is not null. -/
theorem optionalField_optional {α : Type} {encode : α → Json}
    {decode : Json → Except String α} {value : Json} {key : String} {written : Option α}
    (row : ∀ value, decode (encode value) = .ok value)
    (filled : ∀ value, (encode value).isNull = false)
    (member : value.get key = some (optional encode written)) :
    optionalField decode value key = .ok written := by
  unfold optionalField
  rw [member]
  cases written with
  | none => rfl
  | some content =>
      change (if (encode content).isNull then _ else some <$> decode (encode content)) = _
      rw [filled content, row content]
      rfl

/-- An optional identifier is read back. -/
theorem optionalBytes32_optional {family : PrivateFamily} {value : Json} {key : String}
    {written : Option (PrivateId family)}
    (member : value.get key = some (optional hex written)) :
    optionalBytes32 value key = .ok written := by
  unfold optionalBytes32
  rw [member]
  cases written with
  | none => rfl
  | some id =>
      change some <$> unhex32 (String.ofList (Digits.hexText id.bytes)) = _
      rw [unhex32_hex]
      rfl

/-! ## Rows -/

/-- A creation is read back when its time is. -/
theorem decodeCreate_encodeCreate (create : ThreadCreateReservation) :
    decodeCreate (encodeCreate create) =
      if InUtc create.reservedAt then .ok create else .error "secs" := by
  simp [decodeCreate, encodeCreate, bytes32Field, text, timeField, get_ofMembers, lastMember,
    unstamp_stamp]

/-- An arm is read back when its time is. -/
theorem decodeArm_encodeArm (arm : PersistedArm) :
    decodeArm (encodeArm arm) =
      if InUtc arm.coverageUntil then .ok arm else .error "secs" := by
  simp [decodeArm, encodeArm, armId, seatId, tokenField, text, u64Field, u64Json, timeField,
    get_ofMembers, lastMember, unstamp_stamp]

/-- Coverage evidence is read back. -/
theorem decodeCoverage_encodeCoverage (coverage : ClaimCoverageEvidence) :
    decodeCoverage (encodeCoverage coverage) = .ok coverage := by
  simp [decodeCoverage, encodeCoverage, claimRequest, armId, signalId, tokenField, text, u64Field,
    u64Json, bytes32Field, get_ofMembers, lastMember]

/-- A drain witness is read back. -/
theorem decodeDrain_encodeDrain (drain : ClaimDrainWitness) :
    decodeDrain (encodeDrain drain) = .ok drain := by
  simp [decodeDrain, encodeDrain, tokenField, text, bytes32Field, get_ofMembers, lastMember]

/-- A claim is read back when its time is. -/
theorem decodeClaim_encodeClaim (claim : PersistedClaimRecord) :
    decodeClaim (encodeClaim claim) =
      if InUtc claim.claimedAt then .ok claim else .error "secs" := by
  have coverage : optionalField decodeCoverage (encodeClaim claim) "coverage" =
      .ok claim.coverage :=
    optionalField_optional decodeCoverage_encodeCoverage (fun _ => rfl)
      (by simp [encodeClaim, get_ofMembers, lastMember])
  have drain : optionalField decodeDrain (encodeClaim claim) "drain" =
      .ok claim.drainWitness :=
    optionalField_optional decodeDrain_encodeDrain (fun _ => rfl)
      (by simp [encodeClaim, get_ofMembers, lastMember])
  unfold decodeClaim
  rw [coverage, drain]
  simp [encodeClaim, attemptId, claimRequest, armId, signalId, tokenField, text, u64Field, u64Json,
    bytes32Field, timeField, get_ofMembers, lastMember, unstamp_stamp]

/-- An attachment is read back when its time is. -/
theorem decodeAttachment_encodeAttachment (attachment : PersistedControllerAttachment) :
    decodeAttachment (encodeAttachment attachment) =
      if InUtc attachment.leaseUntil then .ok attachment else .error "secs" := by
  simp [decodeAttachment, encodeAttachment, attemptId, seatId, armId, tokenField, text, u64Field,
    u64Json, bytes32Field, timeField, flag, get_ofMembers, lastMember, unstamp_stamp]

/-- A birth is read back when its times are. -/
theorem decodeBirth_encodeBirth (birth : PersistedControllerBirth) :
    decodeBirth (encodeBirth birth) =
      if InUtc birth.leaseUntil ∧ InUtc birth.createdAt then .ok birth else .error "secs" := by
  simp [decodeBirth, encodeBirth, seatId, armId, tokenField, text, u64Field, u64Json,
    bytes32Field, timeField, flag, get_ofMembers, lastMember, unstamp_stamp, ite_and]

/-- An ownership is read back. -/
theorem decodeOwnership_encodeOwnership (row : PersistedThreadOwnership) :
    decodeOwnership (encodeOwnership row) = .ok row := by
  have attempt : optionalBytes32 (encodeOwnership row) "attempt" =
      .ok (ownershipParts row.state).2.1 :=
    optionalBytes32_optional (by simp [encodeOwnership, get_ofMembers, lastMember])
  have thread : optionalBytes32 (encodeOwnership row) "thread" =
      .ok (ownershipParts row.state).2.2 :=
    optionalBytes32_optional (by simp [encodeOwnership, get_ofMembers, lastMember])
  have state : ownershipState (ownershipParts row.state).2.1 (ownershipParts row.state).2.2
      (ownershipParts row.state).1 = .ok row.state := by
    cases row.state <;> simp [ownershipParts, ownershipState]
  unfold decodeOwnership
  rw [attempt, thread]
  simp [encodeOwnership, bytes32Field, text, get_ofMembers, lastMember, state]

/-- A grant is read back when its time is. -/
theorem decodeGrant_encodeGrant (grant : PersistedHelperGrant) :
    decodeGrant (encodeGrant grant) =
      if InUtc grant.leaseUntil then .ok grant else .error "secs" := by
  simp [decodeGrant, encodeGrant, seatId, armId, attemptId, signalId, tokenField, text, u64Field,
    u64Json, bytes32Field, timeField, flag, get_ofMembers, lastMember, unstamp_stamp]

/-- A retired grant is read back. -/
theorem decodeRetired_encodeRetired (grant : PersistedRetiredGrant) :
    decodeRetired (encodeRetired grant) = .ok grant := by
  simp [decodeRetired, encodeRetired, bytes32Field, text, get_ofMembers, lastMember]

/-- An origin is read back when its time is. -/
theorem decodeOrigin_encodeOrigin (origin : PersistedHelperBindingIdentity) :
    decodeOrigin (encodeOrigin origin) =
      if InUtc origin.leaseUntil then .ok origin else .error "secs" := by
  simp [decodeOrigin, encodeOrigin, seatId, armId, attemptId, signalId, tokenField, text, u64Field,
    u64Json, bytes32Field, timeField, get_ofMembers, lastMember, unstamp_stamp]

/-- A recorded retrieval is read back when its time is. -/
theorem decodeRecorded_encodeRecorded (result : RecordedRetrieveResult) :
    decodeRecorded (encodeRecorded result) =
      if InUtc result.retrievedAt then .ok result else .error "secs" := by
  have small := result.eventCount.toNat_lt
  have count : u8Field (encodeRecorded result) "event_count" = .ok result.eventCount := by
    unfold u8Field int
    simp [encodeRecorded, get_ofMembers, lastMember, small]
  unfold decodeRecorded
  rw [count]
  simp [encodeRecorded, bytes32Field, text, timeField, get_ofMembers, lastMember, unstamp_stamp]

/-- A retrieval replay is read back when its times are. -/
theorem decodeRetrieve_encodeRetrieve (replay : PersistedRetrieveReplay) :
    decodeRetrieve (encodeRetrieve replay) =
      if InUtc replay.origin.leaseUntil ∧ InUtc replay.result.retrievedAt then .ok replay
      else .error "secs" := by
  simp [decodeRetrieve, encodeRetrieve, bytes32Field, text, get_ofMembers, lastMember,
    decodeOrigin_encodeOrigin, decodeRecorded_encodeRecorded, ite_and]

/-- A retrieval is read back when its times are. -/
theorem decodeRetrieval_encodeRetrieval (row : PersistedRetrievalRecord) :
    decodeRetrieval (encodeRetrieval row) =
      if InUtc row.origin.leaseUntil ∧ InUtc row.result.retrievedAt then .ok row
      else .error "secs" := by
  simp [decodeRetrieval, encodeRetrieval, bytes32Field, text, get_ofMembers, lastMember,
    decodeOrigin_encodeOrigin, decodeRecorded_encodeRecorded, ite_and]

/-- An acknowledgement replay is read back when its time is. -/
theorem decodeAck_encodeAck (replay : PersistedAckReplay) :
    decodeAck (encodeAck replay) =
      if InUtc replay.result.acceptedAt then .ok replay else .error "secs" := by
  simp [decodeAck, encodeAck, attemptId, signalId, tokenField, bytes32Field, text, timeField,
    get_ofMembers, lastMember, unstamp_stamp]

/-- A handled coverage is read back. -/
theorem decodeHandled_encodeHandled (row : PersistedHandledCoverage) :
    decodeHandled (encodeHandled row) = .ok row := by
  simp [decodeHandled, encodeHandled, attemptId, signalId, tokenField, text, flag, get_ofMembers,
    lastMember]

/-- A join is read back. -/
theorem decodeJoin_encodeJoin (row : PersistedRearmJoin) :
    decodeJoin (encodeJoin row) = .ok row := by
  simp [decodeJoin, encodeJoin, armId, attemptId, signalId, tokenField, text, u64Field, u64Json,
    get_ofMembers, lastMember]

/-- A fact is read back. -/
theorem decodeFact_encodeFact (fact : NativeTurnFact) :
    decodeFact (encodeFact fact) = .ok fact := by
  cases fact with
  | terminal turnRef terminalClass =>
      cases terminalClass <;>
        simp [decodeFact, encodeFact, classTag, decodeClass, bytes32Field, text, get_ofMembers,
          lastMember]
  | accepted turnRef =>
      simp [decodeFact, encodeFact, bytes32Field, text, get_ofMembers, lastMember]
  | started turnRef =>
      simp [decodeFact, encodeFact, bytes32Field, text, get_ofMembers, lastMember]
  | degradedTerminalObservation =>
      simp [decodeFact, encodeFact, text, get_ofMembers, lastMember]
  | controllerLost => simp [decodeFact, encodeFact, text, get_ofMembers, lastMember]
  | unknown => simp [decodeFact, encodeFact, text, get_ofMembers, lastMember]

/-- The facts of a turn are read back. -/
theorem decodeTurnFacts_encodeTurnFacts (row : PersistedNativeTurnFacts) :
    decodeTurnFacts (encodeTurnFacts row) = .ok row := by
  simp [decodeTurnFacts, encodeTurnFacts, attemptId, tokenField, text, array, get_ofMembers,
    lastMember, mapM_exact decodeFact_encodeFact]

/-- An event is read back when its time is. -/
theorem decodeEvent_encodeEvent (event : ProviderEventRecord) :
    decodeEvent (encodeEvent event) =
      if InUtc event.observedAt then .ok event else .error "secs" := by
  have body : (BoundedBody.new event.body.text : Except String (BoundedBody 4096)) =
      .ok event.body := dif_pos event.body.bounded
  obtain ⟨ref, provider, actor, observedAt, content⟩ := event
  cases actor <;>
    simp [decodeEvent, encodeEvent, optional, tokenField, text, timeField, get_ofMembers,
      lastMember, unstamp_stamp, body]

/-! ## Documents -/

/-- Instants of a durable document. -/
def durableInstants (snapshot : RecoverySnapshot) (creates : List ThreadCreateReservation) :
    List OffsetDateTime :=
  creates.map (·.reservedAt) ++ snapshot.arms.map (·.coverageUntil) ++
    snapshot.claims.map (·.claimedAt) ++ snapshot.attachments.map (·.leaseUntil) ++
    snapshot.controllerBirths.flatMap (fun birth => [birth.leaseUntil, birth.createdAt]) ++
    snapshot.helperGrants.map (·.leaseUntil) ++
    snapshot.retrieveReplays.flatMap
      (fun replay => [replay.origin.leaseUntil, replay.result.retrievedAt]) ++
    snapshot.retrievalBindings.flatMap
      (fun row => [row.origin.leaseUntil, row.result.retrievedAt]) ++
    snapshot.ackReplays.map (·.result.acceptedAt)

/-- The value of a durable document reads back where the UTC calendar has its instants. -/
theorem durableOf_durableValue {snapshot : RecoverySnapshot}
    (creates : List ThreadCreateReservation) (supported : unsupportedSection snapshot = false) :
    durableOf (durableValue snapshot creates) =
      if ∀ time ∈ durableInstants snapshot creates, InUtc time then .ok (snapshot, creates)
      else .error "secs" := by
  have condition : (∀ time ∈ durableInstants snapshot creates, InUtc time) ↔
      (∀ create ∈ creates, InUtc create.reservedAt) ∧
        (∀ arm ∈ snapshot.arms, InUtc arm.coverageUntil) ∧
        (∀ claim ∈ snapshot.claims, InUtc claim.claimedAt) ∧
        (∀ attachment ∈ snapshot.attachments, InUtc attachment.leaseUntil) ∧
        (∀ birth ∈ snapshot.controllerBirths,
          InUtc birth.leaseUntil ∧ InUtc birth.createdAt) ∧
        (∀ grant ∈ snapshot.helperGrants, InUtc grant.leaseUntil) ∧
        (∀ replay ∈ snapshot.retrieveReplays,
          InUtc replay.origin.leaseUntil ∧ InUtc replay.result.retrievedAt) ∧
        (∀ row ∈ snapshot.retrievalBindings,
          InUtc row.origin.leaseUntil ∧ InUtc row.result.retrievedAt) ∧
        ∀ replay ∈ snapshot.ackReplays, InUtc replay.result.acceptedAt := by
    simp only [durableInstants, List.forall_mem_append, List.forall_mem_map,
      List.forall_mem_flatMap, List.forall_mem_cons, List.not_mem_nil, IsEmpty.forall_iff,
      implies_true, and_true, and_assoc]
  simp only [condition, ite_and]
  obtain ⟨arms, claims, attachments, births, ownership, correlations, reservations, evidence,
    facts, reconciliations, conclusions, observations, grants, retired, retrieves, retrievals,
    acks, handled, joins, attemptSeq⟩ := snapshot
  simp only [unsupportedSection, Bool.or_eq_false_iff, Bool.not_eq_false', List.isEmpty_iff]
    at supported
  obtain ⟨⟨⟨⟨⟨rfl, rfl⟩, rfl⟩, rfl⟩, rfl⟩, rfl⟩ := supported
  simp [durableOf, durableValue, array, u64Field, u64Json, get_ofMembers, lastMember,
    mapM_encoded decodeCreate_encodeCreate, mapM_encoded decodeArm_encodeArm,
    mapM_encoded decodeClaim_encodeClaim, mapM_encoded decodeAttachment_encodeAttachment,
    mapM_encoded decodeBirth_encodeBirth, mapM_exact decodeOwnership_encodeOwnership,
    mapM_exact decodeTurnFacts_encodeTurnFacts, mapM_encoded decodeGrant_encodeGrant,
    mapM_exact decodeRetired_encodeRetired, mapM_encoded decodeRetrieve_encodeRetrieve,
    mapM_encoded decodeRetrieval_encodeRetrieval, mapM_encoded decodeAck_encodeAck,
    mapM_exact decodeHandled_encodeHandled, mapM_exact decodeJoin_encodeJoin]

/-- The value of a payload document reads back where the UTC calendar has its instants. -/
theorem payloadOf_payloadValue (payload : BoundedClaimPayload) :
    payloadOf (payloadValue payload) =
      if ∀ event ∈ payload.events.asSlice, InUtc event.observedAt then .ok payload
      else .error "secs" := by
  have rebuilt : BoundedClaimPayload.tryFrom payload.events.asSlice = .ok payload := by
    obtain ⟨⟨events, bounds⟩, ⟨count, range⟩, counted⟩ := payload
    change count = aggregateBodyBytes events at counted
    subst counted
    change BoundedClaimPayload.tryFrom events = _
    unfold BoundedClaimPayload.tryFrom
    rw [dif_pos bounds]
    exact dif_pos range
  simp [payloadOf, payloadValue, mapM_encoded decodeEvent_encodeEvent, rebuilt]

/-- The serialization library reads the text of the value as the value. -/
def RoundTrips [SerdeText] (value : Json) : Prop :=
  SerdeText.fromStr (SerdeText.toString value) = some value

/-- A durable document and a payload document read back exactly where every instant they
hold is within the range of the UTC calendar. -/
theorem durable_codec_iff [SerdeText] :
    (∀ (snapshot : RecoverySnapshot) (creates : List ThreadCreateReservation),
      unsupportedSection snapshot = false → RoundTrips (durableValue snapshot creates) →
        (decodeDurable (encodeDurable snapshot creates) = .ok (snapshot, creates) ↔
          ∀ time ∈ durableInstants snapshot creates, InUtc time)) ∧
    ∀ payload : BoundedClaimPayload, RoundTrips (payloadValue payload) →
      (decodePayload (encodePayload payload) = .ok payload ↔
        ∀ event ∈ payload.events.asSlice, InUtc event.observedAt) := by
  constructor
  · intro snapshot creates supported text
    rw [decodeDurable, encodeDurable, text, expect_some, ok_bind,
      durableOf_durableValue creates supported]
    split_ifs with inside
    · exact iff_of_true rfl inside
    · exact iff_of_false (by intro same; cases same) inside
  · intro payload text
    rw [decodePayload, encodePayload, text, expect_some, ok_bind, payloadOf_payloadValue]
    split_ifs with inside
    · exact iff_of_true rfl inside
    · exact iff_of_false (by intro same; cases same) inside

namespace Sample

mutual

/-- Compact text of a value. -/
def compact : Json → List Char
  | .null => ['n', 'u', 'l', 'l']
  | .bool true => ['t', 'r', 'u', 'e']
  | .bool false => ['f', 'a', 'l', 's', 'e']
  | .number text => text.toList
  | .string text => JsonText.string text
  | .array items => JsonText.array (compactItems items)
  | .object members => JsonText.object (compactMembers members)

def compactItems : List Json → List (List Char)
  | [] => []
  | item :: rest => compact item :: compactItems rest

def compactMembers : List (String × Json) → List (List Char)
  | [] => []
  | (name, value) :: rest => JsonText.member name (compact value) :: compactMembers rest

end

/-- An arm that is covered until an instant. -/
def covered (coverageUntil : OffsetDateTime) : RecoverySnapshot where
  arms := [{
    armId := ⟨"arm-1", by decide⟩
    generation := 18446744073709551615
    seatId := ⟨"seat-1", by decide⟩
    capability := .handleClaimedSignal
    coverageUntil }]
  claims := []
  attachments := []
  controllerBirths := []
  ownership := []
  turnCorrelations := []
  reservations := []
  nativeWriteEvidence := []
  nativeTurnFacts := []
  reconciliations := []
  prewriteConclusions := []
  activeObservations := []
  helperGrants := []
  retiredHelperGrants := []
  retrieveReplays := []
  retrievalBindings := []
  ackReplays := []
  handledCoverage := []
  rearmedJoins := []
  attemptSeq := 1

/-- Half a second before the epoch. -/
def early : OffsetDateTime := ⟨-500000000, by decide⟩

/-- The last second of the year 9999, one hour west of UTC. -/
def west : OffsetDateTime := ⟨(maxUnixSeconds + 3600) * nanosPerSecond, by decide⟩

/-- Texts of the sample documents. -/
scoped instance texts : SerdeText where
  toString value := String.ofList (compact value)
  fromStr text :=
    if text = String.ofList (compact (durableValue (covered early) [])) then
      some (durableValue (covered early) [])
    else if text = String.ofList (compact (durableValue (covered west) [])) then
      some (durableValue (covered west) [])
    else none

/-- A time before the epoch with a fraction of a second is kept. -/
theorem early_kept : decodeDurable (encodeDurable (covered early) []) = .ok (covered early, []) :=
  (durable_codec_iff.1 (covered early) [] (by decide) (if_pos rfl)).2 (by decide +kernel)

/-- A time that an offset carries past the year 9999 is written and cannot be read. -/
theorem west_lost : unsupportedSection (covered west) = false ∧
    RoundTrips (durableValue (covered west) []) ∧
    decodeDurable (encodeDurable (covered west) []) = .error "secs" := by
  have read : durableOf (durableValue (covered west) []) = .error "secs" := by
    rw [durableOf_durableValue [] rfl]
    exact if_neg (by decide +kernel)
  have apart : SerdeText.toString (durableValue (covered west) []) ≠
      SerdeText.toString (durableValue (covered early) []) := by decide +kernel
  have text : RoundTrips (durableValue (covered west) []) := (if_neg apart).trans (if_pos rfl)
  exact ⟨rfl, text, by rw [decodeDurable, encodeDurable, text, expect_some, ok_bind, read]⟩

end Sample

end Sqlite
end Gearwit
