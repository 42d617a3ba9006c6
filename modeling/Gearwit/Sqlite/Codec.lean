import Gearwit.Foundations.Digits
import Gearwit.Foundations.JsonObject
import Gearwit.Persist.Records

/-!
# The durable documents

The authority snapshot and the claim payloads are stored as JSON documents.  A reader that
misses a field, or finds a value its type refuses, panics with the text of the expectation;
here it fails with that text.
-/

namespace Gearwit

/-- Texts of JSON values, as the serialization library writes and reads them. -/
class SerdeText where
  toString : Json → String
  fromStr : String → Option Json

namespace Sqlite

open Json (ofMembers)

/-! ## Fields -/

/-- The value, or a panic with the text of the expectation. -/
def expect {α : Type} (expectation : String) (value : Option α) : Except String α :=
  value.elim (.error expectation) .ok

/-- Lowercase hexadecimal text of bytes. -/
def hex {family : PrivateFamily} (id : PrivateId family) : Json :=
  .string (String.ofList (Digits.hexText id.bytes))

/-- Bytes of a hexadecimal text.  The source pairs the bytes of the text and not its
characters, and both fail in the same way where one of them is no digit. -/
def unhex (text : String) : Except String (List UInt8) :=
  expect "hex" (Digits.readHex text.toList)

/-- Thirty-two bytes of a hexadecimal text. -/
def unhex32 {family : PrivateFamily} (text : String) : Except String (PrivateId family) := do
  let bytes ← unhex text
  if bytes.length = 32 then
    pure ⟨BitVec.ofNat 256 (Digits.ofLittleEndian bytes.reverse)⟩
  else throw "32 bytes"

/-- Number as a JSON value. -/
def number (value : Int) : Json :=
  .number (Digits.intText value)

/-- Signed 64-bit number of a JSON value. -/
def asI64 : Json → Option Int
  | .number text => (Digits.readInt text).filter fun value =>
      decide (-2 ^ 63 ≤ value ∧ value < 2 ^ 63)
  | _ => none

/-- Unsigned 64-bit number of a JSON value. -/
def asU64 : Json → Option UInt64
  | .number text => (Digits.readInt text).bind fun value =>
      if 0 ≤ value ∧ value < 2 ^ 64 then some (UInt64.ofNat value.toNat) else none
  | _ => none

/-- The UTC instant a count of nanoseconds from the epoch, within the range of the UTC
calendar. -/
def utcInstant (nanos : Int) : Option OffsetDateTime :=
  if range : minUnixSeconds * nanosPerSecond ≤ nanos ∧
      nanos < (maxUnixSeconds + 1) * nanosPerSecond then
    some ⟨nanos, by
      unfold minUnixSeconds maxUnixSeconds maxOffsetSeconds nanosPerSecond at *
      omega⟩
  else none

/-- Instant as whole seconds and the nanoseconds after them. -/
def stamp (time : OffsetDateTime) : Json :=
  ofMembers [
    ("secs", number (time.unixTimestampNanos / nanosPerSecond)),
    ("nanos", number (time.unixTimestampNanos % nanosPerSecond))]

/-- Instant that was stamped. -/
def unstamp (value : Json) : Except String OffsetDateTime := do
  let secs ← expect "secs" ((value.get "secs").bind asI64)
  let nanos ← expect "nanos" ((value.get "nanos").bind asU64)
  if nanos.toNat < 2 ^ 32 then
    let _ ← expect "secs" (utcInstant (secs * nanosPerSecond))
    expect "resulting value is out of range" (utcInstant (secs * nanosPerSecond + nanos.toNat))
  else throw "nanos"

def timeField (value : Json) (key : String) : Except String OffsetDateTime := do
  unstamp (← expect key (value.get key))

/-- Number as its decimal text. -/
def u64Json (value : UInt64) : Json :=
  .string (String.ofList (JsonText.nat value.toNat))

def text (value : Json) (key : String) : Except String String :=
  expect key ((value.get key).bind Json.asStr)

def int (value : Json) (key : String) : Except String Int :=
  expect key ((value.get key).bind asI64)

def u64Field (value : Json) (key : String) : Except String UInt64 :=
  match value.get key with
  | some (.string text) =>
      expect key ((Digits.fromStrRadix 10 (2 ^ 64) text.toList).map UInt64.ofNat)
  | some (.number text) => expect key (asU64 (.number text))
  | _ => throw key

def u8Field (value : Json) (key : String) : Except String UInt8 := do
  let number ← int value key
  if 0 ≤ number ∧ number < 256 then pure (UInt8.ofNat number.toNat) else throw key

def flag (value : Json) (key : String) : Except String Bool :=
  expect key ((value.get key).bind Json.asBool)

def bytes32Field {family : PrivateFamily} (value : Json) (key : String) :
    Except String (PrivateId family) := do
  unhex32 (← text value key)

/-- Checked token, or a panic with the text of the expectation. -/
def tokenField {family : TokenFamily} {max : Nat} (expectation : String) (value : Json)
    (key : String) : Except String (SafeToken family max) := do
  expect expectation (SafeToken.new (← text value key)).toOption

def armId (value : Json) (key : String) : Except String ArmId :=
  tokenField "arm" value key

def seatId (value : Json) (key : String) : Except String SeatId :=
  tokenField "seat" value key

def attemptId (value : Json) (key : String) : Except String AttemptId :=
  tokenField "attempt" value key

def signalId (value : Json) (key : String) : Except String SignalId :=
  tokenField "signal" value key

def claimRequest (value : Json) (key : String) : Except String ClaimRequestId :=
  tokenField "claim" value key

def eventRef (value : String) : Except String EventRef :=
  expect "event" (SafeToken.new value).toOption

def eventRefs (value : Json) : Except String (BoundedVec EventRef 1 64) := do
  let items ← expect "refs" value.asArray
  let refs ← items.mapM fun item => do eventRef (← expect "ref" item.asStr)
  expect "refs" (BoundedVec.tryFrom refs).toOption

def opsJson (operations : HelperOperations) : Json :=
  ofMembers [
    ("retrieve", .bool (operations.allows .retrieve)),
    ("acknowledge", .bool (operations.allows .acknowledge))]

def opsFrom (value : Json) : Except String HelperOperations := do
  let retrieve ← flag value "retrieve"
  let acknowledge ← flag value "acknowledge"
  match retrieve, acknowledge with
  | true, true => pure .all
  | true, false => pure .retrieveOnly
  | false, true => pure .acknowledgeOnly
  | false, false => throw "empty helper operations"

/-- Text of a checked token. -/
def token {family : TokenFamily} {max : Nat} (value : SafeToken family max) : Json :=
  .string value.text

/-- Texts of event references. -/
def refsJson (refs : BoundedVec EventRef 1 64) : Json :=
  .array (refs.asSlice.map token)

/-- The encoded value, or null. -/
def optional {α : Type} (encode : α → Json) (value : Option α) : Json :=
  value.elim .null encode

/-- Rows of a section. -/
def array (value : Json) (key : String) : Except String (List Json) :=
  expect key ((value.get key).bind Json.asArray)

/-- A member that is absent or null, or its decoded value. -/
def optionalField {α : Type} (decode : Json → Except String α) (value : Json) (key : String) :
    Except String (Option α) :=
  match value.get key with
  | none => pure none
  | some item => if item.isNull then pure none else some <$> decode item

/-! ## Rows -/

def encodeCreate (create : ThreadCreateReservation) : Json :=
  ofMembers [
    ("birth_id", hex create.birthId),
    ("attempt", hex create.createAttemptId),
    ("reserved_at", stamp create.reservedAt)]

def decodeCreate (value : Json) : Except String ThreadCreateReservation := do
  return {
    birthId := ← bytes32Field value "birth_id"
    createAttemptId := ← bytes32Field value "attempt"
    reservedAt := ← timeField value "reserved_at" }

def encodeArm (arm : PersistedArm) : Json :=
  ofMembers [
    ("arm_id", token arm.armId),
    ("generation", u64Json arm.generation),
    ("seat_id", token arm.seatId),
    ("coverage_until", stamp arm.coverageUntil)]

def decodeArm (value : Json) : Except String PersistedArm := do
  return {
    armId := ← armId value "arm_id"
    generation := ← u64Field value "generation"
    seatId := ← seatId value "seat_id"
    capability := .handleClaimedSignal
    coverageUntil := ← timeField value "coverage_until" }

def encodeCoverage (coverage : ClaimCoverageEvidence) : Json :=
  ofMembers [
    ("request_id", token coverage.requestId),
    ("arm_id", token coverage.armId),
    ("generation", u64Json coverage.generation),
    ("signal_id", token coverage.signalId),
    ("provider", token coverage.provider),
    ("scope", token coverage.drainFilterScope),
    ("baseline", token coverage.drainBaseline),
    ("batch", hex coverage.eventBatchDigest),
    ("covered_through", token coverage.coveredThrough),
    ("source", hex coverage.sourceEvidenceId)]

def decodeCoverage (value : Json) : Except String ClaimCoverageEvidence := do
  return {
    requestId := ← claimRequest value "request_id"
    armId := ← armId value "arm_id"
    generation := ← u64Field value "generation"
    signalId := ← signalId value "signal_id"
    provider := ← tokenField "provider" value "provider"
    drainFilterScope := ← tokenField "scope" value "scope"
    drainBaseline := ← eventRef (← text value "baseline")
    eventBatchDigest := ← bytes32Field value "batch"
    coveredThrough := ← eventRef (← text value "covered_through")
    sourceEvidenceId := ← bytes32Field value "source" }

def encodeDrain (drain : ClaimDrainWitness) : Json :=
  ofMembers [
    ("provider", token drain.provider),
    ("scope", token drain.drainFilterScope),
    ("event_refs", refsJson drain.eventRefs),
    ("source", hex drain.sourceEvidenceId)]

def decodeDrain (value : Json) : Except String ClaimDrainWitness := do
  return {
    provider := ← tokenField "provider" value "provider"
    drainFilterScope := ← tokenField "scope" value "scope"
    eventRefs := ← eventRefs (← expect "refs" (value.get "event_refs"))
    sourceEvidenceId := ← bytes32Field value "source" }

def encodeClaim (claim : PersistedClaimRecord) : Json :=
  ofMembers [
    ("attempt_id", token claim.attemptId),
    ("request_id", token claim.requestId),
    ("arm_id", token claim.armId),
    ("generation", u64Json claim.generation),
    ("signal_id", token claim.signalId),
    ("event_refs", refsJson claim.eventRefs),
    ("claim_digest", hex claim.claimDigest),
    ("payload_ref", hex claim.payloadRef),
    ("claimed_at", stamp claim.claimedAt),
    ("coverage", optional encodeCoverage claim.coverage),
    ("drain", optional encodeDrain claim.drainWitness)]

def decodeClaim (value : Json) : Except String PersistedClaimRecord := do
  return {
    attemptId := ← attemptId value "attempt_id"
    requestId := ← claimRequest value "request_id"
    armId := ← armId value "arm_id"
    generation := ← u64Field value "generation"
    signalId := ← signalId value "signal_id"
    eventRefs := ← eventRefs (← expect "event refs" (value.get "event_refs"))
    claimDigest := ← bytes32Field value "claim_digest"
    payloadRef := ← bytes32Field value "payload_ref"
    claimedAt := ← timeField value "claimed_at"
    coverage := ← optionalField decodeCoverage value "coverage"
    drainWitness := ← optionalField decodeDrain value "drain" }

def encodeAttachment (attachment : PersistedControllerAttachment) : Json :=
  ofMembers [
    ("attempt_id", token attachment.attemptId),
    ("birth_id", hex attachment.birthId),
    ("seat_id", token attachment.seatId),
    ("arm_id", token attachment.armId),
    ("generation", u64Json attachment.generation),
    ("lease_until", stamp attachment.leaseUntil),
    ("verifier_ref", hex attachment.verifierRef),
    ("revoked", .bool attachment.revoked)]

def decodeAttachment (value : Json) : Except String PersistedControllerAttachment := do
  return {
    attemptId := ← attemptId value "attempt_id"
    birthId := ← bytes32Field value "birth_id"
    seatId := ← seatId value "seat_id"
    armId := ← armId value "arm_id"
    generation := ← u64Field value "generation"
    capability := .handleClaimedSignal
    leaseUntil := ← timeField value "lease_until"
    verifierRef := ← bytes32Field value "verifier_ref"
    revoked := ← flag value "revoked" }

def encodeBirth (birth : PersistedControllerBirth) : Json :=
  ofMembers [
    ("birth_id", hex birth.birthId),
    ("seat_id", token birth.seatId),
    ("arm_id", token birth.armId),
    ("generation", u64Json birth.generation),
    ("lease_until", stamp birth.leaseUntil),
    ("verifier_ref", hex birth.verifierRef),
    ("created_at", stamp birth.createdAt),
    ("revoked", .bool birth.revoked)]

def decodeBirth (value : Json) : Except String PersistedControllerBirth := do
  return {
    birthId := ← bytes32Field value "birth_id"
    seatId := ← seatId value "seat_id"
    armId := ← armId value "arm_id"
    generation := ← u64Field value "generation"
    capability := .handleClaimedSignal
    leaseUntil := ← timeField value "lease_until"
    verifierRef := ← bytes32Field value "verifier_ref"
    createdAt := ← timeField value "created_at"
    revoked := ← flag value "revoked" }

/-- Tag, attempt and thread of an ownership state. -/
def ownershipParts : ThreadOwnershipState → String × Option RequestNonce × Option PrivateNativeRef
  | .absent => ("absent", none, none)
  | .reserved createAttemptId => ("reserved", some createAttemptId, none)
  | .unknown createAttemptId => ("unknown", some createAttemptId, none)
  | .provenNotAccepted createAttemptId => ("not-accepted", some createAttemptId, none)
  | .owned createAttemptId threadRef => ("owned", some createAttemptId, some threadRef)

def encodeOwnership (row : PersistedThreadOwnership) : Json :=
  ofMembers [
    ("birth_id", hex row.birthId),
    ("tag", .string (ownershipParts row.state).1),
    ("attempt", optional hex (ownershipParts row.state).2.1),
    ("thread", optional hex (ownershipParts row.state).2.2)]

/-- A private identifier that may be missing. -/
def optionalBytes32 {family : PrivateFamily} (value : Json) (key : String) :
    Except String (Option (PrivateId family)) :=
  match (value.get key).bind Json.asStr with
  | none => pure none
  | some text => some <$> unhex32 text

/-- Ownership state of a tag. -/
def ownershipState (attempt : Option RequestNonce) (thread : Option PrivateNativeRef)
    (tag : String) : Except String ThreadOwnershipState :=
  if tag = "absent" then pure .absent
  else if tag = "reserved" then return .reserved (← expect "attempt" attempt)
  else if tag = "unknown" then return .unknown (← expect "attempt" attempt)
  else if tag = "not-accepted" then return .provenNotAccepted (← expect "attempt" attempt)
  else if tag = "owned" then
    return .owned (← expect "attempt" attempt) (← expect "thread" thread)
  else throw ("ownership " ++ tag)

def decodeOwnership (value : Json) : Except String PersistedThreadOwnership := do
  let attempt ← optionalBytes32 value "attempt"
  let thread ← optionalBytes32 value "thread"
  let state ← ownershipState attempt thread (← text value "tag")
  return { birthId := ← bytes32Field value "birth_id", state }

def encodeGrant (grant : PersistedHelperGrant) : Json :=
  ofMembers [
    ("grant_verifier", hex grant.grantVerifier),
    ("grant_ref", hex grant.grantRef),
    ("seat_id", token grant.seatId),
    ("arm_id", token grant.armId),
    ("generation", u64Json grant.generation),
    ("birth_id", hex grant.birthId),
    ("attempt_id", token grant.attemptId),
    ("signal_id", token grant.signalId),
    ("claim_digest", hex grant.claimDigest),
    ("operations", opsJson grant.operations),
    ("lease_until", stamp grant.leaseUntil),
    ("image_digest", hex grant.executableIdentity.imageDigest),
    ("file_identity", token grant.executableIdentity.fileIdentity),
    ("build_identity", token grant.executableIdentity.buildIdentity),
    ("revoked", .bool grant.revoked)]

def decodeGrant (value : Json) : Except String PersistedHelperGrant := do
  return {
    grantVerifier := ← bytes32Field value "grant_verifier"
    grantRef := ← bytes32Field value "grant_ref"
    seatId := ← seatId value "seat_id"
    armId := ← armId value "arm_id"
    generation := ← u64Field value "generation"
    birthId := ← bytes32Field value "birth_id"
    attemptId := ← attemptId value "attempt_id"
    signalId := ← signalId value "signal_id"
    claimDigest := ← bytes32Field value "claim_digest"
    operations := ← opsFrom (← expect "ops" (value.get "operations"))
    leaseUntil := ← timeField value "lease_until"
    executableIdentity := {
      imageDigest := ← bytes32Field value "image_digest"
      fileIdentity := ← tokenField "file" value "file_identity"
      buildIdentity := ← tokenField "build" value "build_identity" }
    revoked := ← flag value "revoked" }

def encodeRetired (grant : PersistedRetiredGrant) : Json :=
  ofMembers [
    ("grant_ref", hex grant.grantRef),
    ("grant_verifier", hex grant.grantVerifier)]

def decodeRetired (value : Json) : Except String PersistedRetiredGrant := do
  return {
    grantRef := ← bytes32Field value "grant_ref"
    grantVerifier := ← bytes32Field value "grant_verifier" }

def encodeOrigin (origin : PersistedHelperBindingIdentity) : Json :=
  ofMembers [
    ("grant_ref", hex origin.grantRef),
    ("seat_id", token origin.seatId),
    ("arm_id", token origin.armId),
    ("generation", u64Json origin.generation),
    ("birth_id", hex origin.birthId),
    ("attempt_id", token origin.attemptId),
    ("signal_id", token origin.signalId),
    ("claim_digest", hex origin.claimDigest),
    ("operations", opsJson origin.operations),
    ("lease_until", stamp origin.leaseUntil)]

def decodeOrigin (value : Json) : Except String PersistedHelperBindingIdentity := do
  return {
    grantRef := ← bytes32Field value "grant_ref"
    seatId := ← seatId value "seat_id"
    armId := ← armId value "arm_id"
    generation := ← u64Field value "generation"
    birthId := ← bytes32Field value "birth_id"
    attemptId := ← attemptId value "attempt_id"
    signalId := ← signalId value "signal_id"
    claimDigest := ← bytes32Field value "claim_digest"
    operations := ← opsFrom (← expect "ops" (value.get "operations"))
    leaseUntil := ← timeField value "lease_until" }

def encodeRecorded (result : RecordedRetrieveResult) : Json :=
  ofMembers [
    ("retrieval_id", hex result.retrievalId),
    ("payload_ref", hex result.claimPayloadRef),
    ("newest", token result.newestEventRef),
    ("event_count", number result.eventCount.toNat),
    ("retrieved_at", stamp result.retrievedAt)]

def decodeRecorded (value : Json) : Except String RecordedRetrieveResult := do
  return {
    retrievalId := ← bytes32Field value "retrieval_id"
    claimPayloadRef := ← bytes32Field value "payload_ref"
    newestEventRef := ← eventRef (← text value "newest")
    eventCount := ← u8Field value "event_count"
    retrievedAt := ← timeField value "retrieved_at" }

def encodeRetrieve (replay : PersistedRetrieveReplay) : Json :=
  ofMembers [
    ("request_id", hex replay.requestId),
    ("binding_digest", hex replay.bindingDigest),
    ("origin", encodeOrigin replay.origin),
    ("body_digest", hex replay.canonicalBodyDigest),
    ("result", encodeRecorded replay.result)]

def decodeRetrieve (value : Json) : Except String PersistedRetrieveReplay := do
  return {
    requestId := ← bytes32Field value "request_id"
    bindingDigest := ← bytes32Field value "binding_digest"
    origin := ← decodeOrigin (← expect "origin" (value.get "origin"))
    canonicalBodyDigest := ← bytes32Field value "body_digest"
    result := ← decodeRecorded (← expect "result" (value.get "result")) }

def encodeRetrieval (row : PersistedRetrievalRecord) : Json :=
  ofMembers [
    ("retrieval_id", hex row.retrievalId),
    ("binding_digest", hex row.bindingDigest),
    ("origin", encodeOrigin row.origin),
    ("result", encodeRecorded row.result)]

def decodeRetrieval (value : Json) : Except String PersistedRetrievalRecord := do
  return {
    retrievalId := ← bytes32Field value "retrieval_id"
    bindingDigest := ← bytes32Field value "binding_digest"
    origin := ← decodeOrigin (← expect "origin" (value.get "origin"))
    result := ← decodeRecorded (← expect "result" (value.get "result")) }

def encodeAck (replay : PersistedAckReplay) : Json :=
  ofMembers [
    ("request_id", hex replay.requestId),
    ("binding_digest", hex replay.bindingDigest),
    ("body_digest", hex replay.canonicalBodyDigest),
    ("retrieval_id", hex replay.retrievalId),
    ("cursor", token replay.cursor),
    ("attempt_id", token replay.result.attemptId),
    ("signal_id", token replay.result.signalId),
    ("result_cursor", token replay.result.cursor),
    ("accepted_at", stamp replay.result.acceptedAt)]

def decodeAck (value : Json) : Except String PersistedAckReplay := do
  return {
    requestId := ← bytes32Field value "request_id"
    bindingDigest := ← bytes32Field value "binding_digest"
    canonicalBodyDigest := ← bytes32Field value "body_digest"
    retrievalId := ← bytes32Field value "retrieval_id"
    cursor := ← eventRef (← text value "cursor")
    result := {
      attemptId := ← attemptId value "attempt_id"
      signalId := ← signalId value "signal_id"
      cursor := ← eventRef (← text value "result_cursor")
      acceptedAt := ← timeField value "accepted_at" } }

def encodeHandled (row : PersistedHandledCoverage) : Json :=
  ofMembers [
    ("attempt_id", token row.attemptId),
    ("signal_id", token row.signalId),
    ("cursor", token row.cursor),
    ("newest", .bool row.coveredThroughNewest)]

def decodeHandled (value : Json) : Except String PersistedHandledCoverage := do
  return {
    attemptId := ← attemptId value "attempt_id"
    signalId := ← signalId value "signal_id"
    cursor := ← eventRef (← text value "cursor")
    coveredThroughNewest := ← flag value "newest" }

def encodeJoin (row : PersistedRearmJoin) : Json :=
  ofMembers [
    ("arm_id", token row.armId),
    ("generation", u64Json row.generation),
    ("attempt_id", token row.attemptId),
    ("signal_id", token row.signalId)]

def decodeJoin (value : Json) : Except String PersistedRearmJoin := do
  return {
    armId := ← armId value "arm_id"
    generation := ← u64Field value "generation"
    attemptId := ← attemptId value "attempt_id"
    signalId := ← signalId value "signal_id" }

/-- Tag of a terminal class. -/
def classTag : TerminalClass → String
  | .succeeded => "succeeded"
  | .failed => "failed"
  | .nativeInterrupted => "interrupted"

def encodeFact : NativeTurnFact → Json
  | .terminal turnRef terminalClass =>
      ofMembers [
        ("tag", .string "terminal"),
        ("turn_ref", hex turnRef),
        ("class", .string (classTag terminalClass))]
  | .accepted turnRef => ofMembers [("tag", .string "accepted"), ("turn_ref", hex turnRef)]
  | .started turnRef => ofMembers [("tag", .string "started"), ("turn_ref", hex turnRef)]
  | .degradedTerminalObservation => ofMembers [("tag", .string "degraded")]
  | .controllerLost => ofMembers [("tag", .string "lost")]
  | .unknown => ofMembers [("tag", .string "unknown")]

/-- Terminal class of a tag. -/
def decodeClass (tag : String) : Except String TerminalClass :=
  if tag = "succeeded" then pure .succeeded
  else if tag = "failed" then pure .failed
  else if tag = "interrupted" then pure .nativeInterrupted
  else throw ("class " ++ tag)

def decodeFact (value : Json) : Except String NativeTurnFact := do
  let turn := bytes32Field value "turn_ref"
  let tag ← text value "tag"
  if tag = "terminal" then
    return .terminal (← turn) (← decodeClass (← text value "class"))
  else if tag = "accepted" then return .accepted (← turn)
  else if tag = "started" then return .started (← turn)
  else if tag = "degraded" then return .degradedTerminalObservation
  else if tag = "lost" then return .controllerLost
  else if tag = "unknown" then return .unknown
  else throw ("fact " ++ tag)

def encodeTurnFacts (row : PersistedNativeTurnFacts) : Json :=
  ofMembers [
    ("attempt_id", token row.attemptId),
    ("facts", .array (row.facts.map encodeFact))]

def decodeTurnFacts (value : Json) : Except String PersistedNativeTurnFacts := do
  return {
    attemptId := ← attemptId value "attempt_id"
    facts := ← (← array value "facts").mapM decodeFact }

/-! ## Documents -/

/-- Whether a section holds rows the durable document has no place for. -/
def unsupportedSection (snapshot : RecoverySnapshot) : Bool :=
  !snapshot.turnCorrelations.isEmpty || !snapshot.reservations.isEmpty ||
    !snapshot.nativeWriteEvidence.isEmpty || !snapshot.reconciliations.isEmpty ||
    !snapshot.prewriteConclusions.isEmpty || !snapshot.activeObservations.isEmpty

/-- Value of the durable document. -/
def durableValue (snapshot : RecoverySnapshot) (creates : List ThreadCreateReservation) : Json :=
  ofMembers [
    ("attempt_seq", u64Json snapshot.attemptSeq),
    ("creates", .array (creates.map encodeCreate)),
    ("arms", .array (snapshot.arms.map encodeArm)),
    ("claims", .array (snapshot.claims.map encodeClaim)),
    ("attachments", .array (snapshot.attachments.map encodeAttachment)),
    ("births", .array (snapshot.controllerBirths.map encodeBirth)),
    ("ownership", .array (snapshot.ownership.map encodeOwnership)),
    ("grants", .array (snapshot.helperGrants.map encodeGrant)),
    ("retired", .array (snapshot.retiredHelperGrants.map encodeRetired)),
    ("retrieves", .array (snapshot.retrieveReplays.map encodeRetrieve)),
    ("retrievals", .array (snapshot.retrievalBindings.map encodeRetrieval)),
    ("acks", .array (snapshot.ackReplays.map encodeAck)),
    ("handled", .array (snapshot.handledCoverage.map encodeHandled)),
    ("joins", .array (snapshot.rearmedJoins.map encodeJoin)),
    ("turn_facts", .array (snapshot.nativeTurnFacts.map encodeTurnFacts))]

/-- Snapshot and reservations of a document's value. -/
def durableOf (value : Json) :
    Except String (RecoverySnapshot × List ThreadCreateReservation) := do
  let creates ← (((value.get "creates").bind Json.asArray).getD []).mapM decodeCreate
  let snapshot : RecoverySnapshot := {
    arms := ← (← array value "arms").mapM decodeArm
    claims := ← (← array value "claims").mapM decodeClaim
    attachments := ← (← array value "attachments").mapM decodeAttachment
    controllerBirths := ← (← array value "births").mapM decodeBirth
    ownership := ← (← array value "ownership").mapM decodeOwnership
    turnCorrelations := []
    reservations := []
    nativeWriteEvidence := []
    nativeTurnFacts := ← (← array value "turn_facts").mapM decodeTurnFacts
    reconciliations := []
    prewriteConclusions := []
    activeObservations := []
    helperGrants := ← (← array value "grants").mapM decodeGrant
    retiredHelperGrants := ← (← array value "retired").mapM decodeRetired
    retrieveReplays := ← (← array value "retrieves").mapM decodeRetrieve
    retrievalBindings := ← (← array value "retrievals").mapM decodeRetrieval
    ackReplays := ← (← array value "acks").mapM decodeAck
    handledCoverage := ← (← array value "handled").mapM decodeHandled
    rearmedJoins := ← (← array value "joins").mapM decodeJoin
    attemptSeq := ← u64Field value "attempt_seq" }
  return (snapshot, creates)

def encodeEvent (event : ProviderEventRecord) : Json :=
  ofMembers [
    ("event_ref", token event.eventRef),
    ("provider", token event.provider),
    ("actor", optional token event.actor),
    ("observed_at", stamp event.observedAt),
    ("body", .string event.body.text)]

def decodeEvent (event : Json) : Except String ProviderEventRecord := do
  return {
    eventRef := ← eventRef (← text event "event_ref")
    provider := ← tokenField "provider" event "provider"
    actor := ← match (event.get "actor").bind Json.asStr with
      | none => pure none
      | some actor => some <$> expect "actor" (SafeToken.new actor).toOption
    observedAt := ← timeField event "observed_at"
    body := ← expect "body" (BoundedBody.new (← text event "body")).toOption }

/-- Value of a payload document. -/
def payloadValue (payload : BoundedClaimPayload) : Json :=
  .array (payload.events.asSlice.map encodeEvent)

/-- Payload of a document's value. -/
def payloadOf (value : Json) : Except String BoundedClaimPayload := do
  let events ← expect "payload json" value.asArray
  let records ← events.mapM decodeEvent
  expect "payload" (BoundedClaimPayload.tryFrom records).toOption

section Documents

variable [SerdeText]

def encodeDurable (snapshot : RecoverySnapshot) (creates : List ThreadCreateReservation) :
    String :=
  SerdeText.toString (durableValue snapshot creates)

def decodeDurable (document : String) :
    Except String (RecoverySnapshot × List ThreadCreateReservation) := do
  durableOf (← expect "snapshot json" (SerdeText.fromStr document))

def encodePayload (payload : BoundedClaimPayload) : String :=
  SerdeText.toString (payloadValue payload)

def decodePayload (document : String) : Except String BoundedClaimPayload := do
  payloadOf (← expect "payload json" (SerdeText.fromStr document))

end Documents

end Sqlite
end Gearwit
