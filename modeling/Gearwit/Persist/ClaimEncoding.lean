import Gearwit.Persist.ClaimIdentity
import Gearwit.Persist.Port
import Gearwit.Persist.Rearm
import Gearwit.Persist.Synthetic

/-!
# Encodings of claims

The fields of a claim digest list two batches back to back without a count.  The first
presence byte of an actor marks where the references end, for no token is a single zero
or one byte; from there each event, the coverage and the witness are read in order.
-/

namespace Gearwit

open FieldEncoding

/-! ## Fields of fixed form -/

/-- A presence byte as a field. -/
def isFlag (value : List UInt8) : Bool := value == [0] || value == [1]

/-- No token is a presence byte. -/
theorem SafeToken.isFlag_asBytes {family : TokenFamily} {max : Nat}
    (token : SafeToken family max) : isFlag token.asBytes = false := by
  have other (character : Char) (unsafeChar : safeChar character = false) :
      token.asBytes ≠ (String.singleton character).toByteArray.data.toList := by
    intro same
    have text : token.text = String.singleton character :=
      String.toByteArray_inj.1 (ByteArray.ext (Array.toList_inj.1 same))
    have valid := token.valid
    rw [text] at valid
    simp [safeText, unsafeChar] at valid
  have zero := other '\x00' (by decide)
  have one := other '\x01' (by decide)
  simp only [isFlag, Bool.or_eq_false_iff, beq_eq_false_iff_ne]
  exact ⟨zero, one⟩

/-- A body is known by its text. -/
theorem BoundedBody.text_injective {max : Nat} :
    Function.Injective (BoundedBody.text : BoundedBody max → String) := by
  intro left right equal
  cases left
  cases right
  cases equal
  rfl

/-- A bounded list is known by its list. -/
theorem BoundedVec.asSlice_injective {α : Type} {min max : Nat} :
    Function.Injective (BoundedVec.asSlice : BoundedVec α min max → List α) := by
  intro left right equal
  cases left
  cases right
  cases equal
  rfl

/-! ## Events -/

/-- References of a batch as fields. -/
def refFields (events : List ProviderEventRecord) : List (List UInt8) :=
  events.map fun event => event.eventRef.asBytes

/-- The presence byte of an actor. -/
def actorFields : Option ActorName → List (List UInt8)
  | some actor => [[1], actor.asBytes]
  | none => [[0]]

private theorem eventFields_eq (event : ProviderEventRecord) :
    eventFields event = event.eventRef.asBytes :: event.provider.asBytes ::
      (actorFields event.actor ++ [event.observedAt.nanosBytes, textBytes event.body.text]) := by
  cases event with
  | mk eventRef provider actor observedAt body => cases actor <;> rfl

/-- Two fields after the references the first presence byte stands. -/
private theorem flag_position (event : ProviderEventRecord) (rest : List ProviderEventRecord)
    (tail : List (List UInt8)) :
    ((refFields (event :: rest) ++ ((event :: rest).flatMap eventFields ++ tail)).takeWhile
      fun value => !isFlag value).length = (event :: rest).length + 2 := by
  have flag : ∃ value others, actorFields event.actor = value :: others ∧
      isFlag value = true := by
    cases event.actor with
    | none => exact ⟨_, _, rfl, by decide⟩
    | some actor => exact ⟨_, _, rfl, by decide⟩
  obtain ⟨value, others, actor, flagged⟩ := flag
  have refs : ∀ field ∈ refFields (event :: rest), (!isFlag field) = true := by
    intro field member
    obtain ⟨other, _, rfl⟩ := List.mem_map.1 member
    simp [SafeToken.isFlag_asBytes]
  rw [List.takeWhile_append_of_pos refs, List.flatMap_cons, eventFields_eq, actor]
  simp [SafeToken.isFlag_asBytes, flagged, refFields]

private theorem actorFields_injective {left right : Option ActorName}
    {leftTail rightTail : List (List UInt8)}
    (equal : actorFields left ++ leftTail = actorFields right ++ rightTail) :
    left = right ∧ leftTail = rightTail := by
  cases left with
  | none =>
      cases right with
      | none => exact ⟨rfl, List.tail_eq_of_cons_eq equal⟩
      | some actor => exact absurd (List.head_eq_of_cons_eq equal) (by decide)
  | some actor =>
      cases right with
      | none => exact absurd (List.head_eq_of_cons_eq equal) (by decide)
      | some other =>
          simp only [actorFields, List.cons_append, List.nil_append, List.cons.injEq,
            true_and] at equal
          exact ⟨congrArg some (SafeToken.asBytes_injective equal.1), equal.2⟩

/-- An event is read off the front of a list of fields in one way. -/
private theorem eventFields_injective {left right : ProviderEventRecord}
    {leftTail rightTail : List (List UInt8)}
    (equal : eventFields left ++ leftTail = eventFields right ++ rightTail) :
    left = right ∧ leftTail = rightTail := by
  simp only [eventFields_eq, List.cons_append, List.append_assoc, List.cons.injEq] at equal
  obtain ⟨eventRef, provider, equal⟩ := equal
  obtain ⟨actor, equal⟩ := actorFields_injective equal
  simp only [List.nil_append, List.cons.injEq] at equal
  obtain ⟨observedAt, body, tail⟩ := equal
  refine ⟨?_, tail⟩
  cases left
  cases right
  simp only [ProviderEventRecord.mk.injEq]
  exact ⟨SafeToken.asBytes_injective eventRef, SafeToken.asBytes_injective provider, actor,
    OffsetDateTime.nanosBytes_injective observedAt,
    BoundedBody.text_injective (textBytes_injective body)⟩

/-- As many events are read off the front in one way. -/
private theorem events_injective {left right : List ProviderEventRecord}
    {leftTail rightTail : List (List UInt8)} (counts : left.length = right.length)
    (equal : left.flatMap eventFields ++ leftTail = right.flatMap eventFields ++ rightTail) :
    left = right ∧ leftTail = rightTail := by
  induction left generalizing right with
  | nil =>
      obtain rfl := List.length_eq_zero_iff.1 counts.symm
      exact ⟨rfl, equal⟩
  | cons event rest hypothesis =>
      cases right with
      | nil => cases counts
      | cons other others =>
          simp only [List.flatMap_cons, List.append_assoc] at equal
          obtain ⟨rfl, remainder⟩ := eventFields_injective equal
          obtain ⟨rfl, tails⟩ := hypothesis (Nat.succ.inj counts) remainder
          exact ⟨rfl, tails⟩

/-- A batch with its references before it is read off the front in one way. -/
private theorem batch_injective {left right : List ProviderEventRecord}
    {leftTail rightTail : List (List UInt8)} (leftSome : left ≠ []) (rightSome : right ≠ [])
    (equal : refFields left ++ (left.flatMap eventFields ++ leftTail) =
      refFields right ++ (right.flatMap eventFields ++ rightTail)) :
    left = right ∧ leftTail = rightTail := by
  have counts : left.length = right.length := by
    obtain ⟨event, rest, rfl⟩ := List.exists_cons_of_ne_nil leftSome
    obtain ⟨other, others, rfl⟩ := List.exists_cons_of_ne_nil rightSome
    have positions := flag_position event rest leftTail
    rw [equal, flag_position other others rightTail] at positions
    omega
  have refs : (refFields left).length = (refFields right).length := by
    simp [refFields, counts]
  exact events_injective counts (List.append_inj equal refs).2

/-! ## Coverage and witness -/

private theorem coverageFields_injective {left right : Option ClaimCoverageEvidence}
    {leftTail rightTail : List (List UInt8)}
    (equal : coverageFields left ++ leftTail = coverageFields right ++ rightTail) :
    left = right ∧ leftTail = rightTail := by
  cases left with
  | none =>
      cases right with
      | none => exact ⟨rfl, List.tail_eq_of_cons_eq equal⟩
      | some evidence => exact absurd (List.head_eq_of_cons_eq equal) (by decide)
  | some left =>
      cases right with
      | none => exact absurd (List.head_eq_of_cons_eq equal) (by decide)
      | some right =>
          simp only [coverageFields, List.cons_append, List.nil_append, List.cons.injEq,
            true_and] at equal
          obtain ⟨requestId, armId, generation, signalId, provider, scope, baseline, batch,
            through, source, tail⟩ := equal
          refine ⟨congrArg some ?_, tail⟩
          cases left
          cases right
          simp only [ClaimCoverageEvidence.mk.injEq]
          exact ⟨SafeToken.asBytes_injective requestId, SafeToken.asBytes_injective armId,
            UInt64.leBytes_injective generation, SafeToken.asBytes_injective signalId,
            SafeToken.asBytes_injective provider, SafeToken.asBytes_injective scope,
            SafeToken.asBytes_injective baseline, PrivateId.bytes_injective batch,
            SafeToken.asBytes_injective through, PrivateId.bytes_injective source⟩

private theorem drainWitnessFields_injective : Function.Injective drainWitnessFields := by
  intro left right equal
  cases left with
  | none =>
      cases right with
      | none => rfl
      | some drain => exact absurd (List.head_eq_of_cons_eq equal) (by decide)
  | some left =>
      cases right with
      | none => exact absurd (List.head_eq_of_cons_eq equal) (by decide)
      | some right =>
          simp only [drainWitnessFields, List.cons_append, List.nil_append, List.cons.injEq,
            true_and] at equal
          obtain ⟨provider, scope, equal⟩ := equal
          obtain ⟨refs, source⟩ := List.append_inj' equal rfl
          have refs := (List.map_injective_iff.2 SafeToken.asBytes_injective) refs
          have source := PrivateId.bytes_injective (List.head_eq_of_cons_eq source)
          cases left
          cases right
          rw [Option.some.injEq, ClaimDrainWitness.mk.injEq]
          exact ⟨SafeToken.asBytes_injective provider, SafeToken.asBytes_injective scope,
            BoundedVec.asSlice_injective refs, source⟩

/-! ## Whole claims -/

/-- The bytes that are hashed into the digest of a claim. -/
def ClaimAdmission.encoding (admission : ClaimAdmission) : List UInt8 :=
  claimDigestDomain ++ fields (claimDigestFields admission.requestId admission.armId
    admission.generation admission.signalId admission.eventRefs admission.payload
    admission.coverage admission.drainWitness)

/-- Two admissions agree in every validated field. -/
structure ClaimAdmission.SameFields (left right : ClaimAdmission) : Prop where
  requestId : left.requestId = right.requestId
  armId : left.armId = right.armId
  generation : left.generation = right.generation
  signalId : left.signalId = right.signalId
  eventRefs : left.eventRefs = right.eventRefs
  payload : left.payload = right.payload
  coverage : left.coverage = right.coverage
  drainWitness : left.drainWitness = right.drainWitness

/-- A payload is known by its events. -/
theorem BoundedClaimPayload.events_injective :
    Function.Injective BoundedClaimPayload.events := by
  intro left right equal
  cases left with
  | mk leftEvents leftCount leftCounted =>
      cases right with
      | mk rightEvents rightCount rightCounted =>
          cases equal
          have counts : leftCount.get = rightCount.get := leftCounted.trans rightCounted.symm
          cases leftCount
          cases rightCount
          cases counts
          rfl

section Lengths

private theorem event_countable (event : ProviderEventRecord) :
    ∀ value ∈ eventFields event, FieldEncoding.Countable value := by
  have actor : ∀ value ∈ actorFields event.actor, FieldEncoding.Countable value := by
    cases event.actor with
    | none => simpa [actorFields] using flag_countable 0
    | some actor =>
        simp only [actorFields, List.forall_mem_cons]
        exact ⟨flag_countable _, token_countable (by decide) _, nofun⟩
  have observed : FieldEncoding.Countable event.observedAt.nanosBytes :=
    instant_countable _
  have body : FieldEncoding.Countable (textBytes event.body.text) :=
    countable_of_short event.body.bounded
  rw [eventFields_eq]
  simp only [List.forall_mem_cons, List.forall_mem_append]
  exact ⟨token_countable (by decide) _, token_countable (by decide) _, actor, observed, body,
    nofun⟩

private theorem coverage_countable (coverage : Option ClaimCoverageEvidence) :
    ∀ value ∈ coverageFields coverage, FieldEncoding.Countable value := by
  cases coverage with
  | none => simpa [coverageFields] using flag_countable 0
  | some evidence =>
      simp only [coverageFields, List.forall_mem_cons]
      exact ⟨flag_countable _, token_countable (by decide) _, token_countable (by decide) _,
        number_countable _, token_countable (by decide) _, token_countable (by decide) _,
        token_countable (by decide) _, token_countable (by decide) _, id_countable _,
        token_countable (by decide) _, id_countable _, nofun⟩

private theorem refs_countable (refs : List EventRef) :
    ∀ value ∈ refs.map SafeToken.asBytes, FieldEncoding.Countable value := by
  intro value member
  obtain ⟨ref, _, rfl⟩ := List.mem_map.1 member
  exact token_countable (by decide) ref

private theorem witness_countable (drainWitness : Option ClaimDrainWitness) :
    ∀ value ∈ drainWitnessFields drainWitness, FieldEncoding.Countable value := by
  cases drainWitness with
  | none => simpa [drainWitnessFields] using flag_countable 0
  | some drain =>
      simp only [drainWitnessFields, List.forall_mem_append, List.forall_mem_cons]
      exact ⟨⟨⟨flag_countable _, token_countable (by decide) _, token_countable (by decide) _,
        nofun⟩, refs_countable _⟩, id_countable _, nofun⟩

private theorem claim_countable (admission : ClaimAdmission) :
    ∀ value ∈ claimDigestFields admission.requestId admission.armId admission.generation
      admission.signalId admission.eventRefs admission.payload admission.coverage
      admission.drainWitness, FieldEncoding.Countable value := by
  simp only [claimDigestFields, List.forall_mem_append, List.forall_mem_cons]
  refine ⟨⟨⟨⟨⟨token_countable (by decide) _, token_countable (by decide) _,
    number_countable _, token_countable (by decide) _, nofun⟩, refs_countable _⟩, ?_⟩,
    coverage_countable _⟩, witness_countable _⟩
  intro value member
  obtain ⟨event, _, field⟩ := List.mem_flatMap.1 member
  exact event_countable event value field

end Lengths

/-- Claims whose references are those of their payload are determined by their encoding. -/
theorem ClaimAdmission.sameFields_of_encoding {left right : ClaimAdmission}
    (leftRefs : left.eventRefs.asSlice = left.payload.eventRefs)
    (rightRefs : right.eventRefs.asSlice = right.payload.eventRefs)
    (equal : left.encoding = right.encoding) : left.SameFields right := by
  have listed := fields_injective (claim_countable left) (claim_countable right)
    (List.append_cancel_left equal)
  have some (payload : BoundedClaimPayload) : payload.events.asSlice ≠ [] :=
    List.length_pos_iff.1 payload.events.bounds.1
  have refs (payload : BoundedClaimPayload) :
      payload.eventRefs.map SafeToken.asBytes = refFields payload.events.asSlice := by
    simp [BoundedClaimPayload.eventRefs, refFields]
  simp only [claimDigestFields, leftRefs, rightRefs, refs, List.append_assoc, List.cons_append,
    List.nil_append, List.cons.injEq] at listed
  obtain ⟨requestId, armId, generation, signalId, listed⟩ := listed
  obtain ⟨events, listed⟩ := batch_injective (some left.payload) (some right.payload) listed
  obtain ⟨coverage, witness⟩ := coverageFields_injective listed
  have payload : left.payload = right.payload :=
    BoundedClaimPayload.events_injective (BoundedVec.asSlice_injective events)
  refine ⟨SafeToken.asBytes_injective requestId, SafeToken.asBytes_injective armId,
    UInt64.leBytes_injective generation, SafeToken.asBytes_injective signalId, ?_, payload,
    coverage, drainWitnessFields_injective witness⟩
  exact BoundedVec.asSlice_injective (by rw [leftRefs, rightRefs, payload])

/-! ## Replays along a run -/

namespace FakePersist

section Runs

variable [Blake3]

/-- An admission a run performed and the store accepted afresh. -/
def AdmittedIn (activeMacKey : Bytes32) (operations : List PortOp)
    (admission : ClaimAdmission) : Prop :=
  ∃ before attachment payloadRef record,
    before ++ [.admitClaim admission attachment payloadRef] <+: operations ∧
      ((after activeMacKey before).apply
        (.admitClaim admission attachment payloadRef)).1 = .admitted record ∧
      record.outcome = .admitted

/-- A claim that an operation adds was admitted by it. -/
private theorem step_admitted {store : FakePersist} {operation : PortOp}
    {requestId : ClaimRequestId} {claim : PersistedClaimRecord}
    (stored : (store.step operation).claims[requestId]? = some claim)
    (absent : store.claims[requestId]? ≠ some claim) :
    ∃ admission attachment payloadRef record,
      operation = .admitClaim admission attachment payloadRef ∧ AdmissionValid admission ∧
        (store.apply operation).1 = .admitted record ∧ record.outcome = .admitted ∧
        claim.claimDigest = admission.claimDigest := by
  have effect := step_effect store operation
  generalize next : store.step operation = result at effect stored
  cases effect with
  | claim admission attachment payloadRef valid unclaimed unused unattached =>
      have performed : (commit (store.admitClaim admission attachment (some payloadRef))
          store).2 = store.withClaim admission attachment payloadRef := next
      have changed : store.withClaim admission attachment payloadRef ≠ store := by
        intro same
        rw [same] at stored
        exact absent stored
      cases outcome : store.admitClaim admission attachment (some payloadRef) with
      | error refusal =>
          rw [outcome] at performed
          exact absurd performed.symm changed
      | ok pair =>
          obtain ⟨record, after⟩ := pair
          rw [outcome] at performed
          obtain rfl : after = _ := performed
          rcases (admitClaim_cases outcome).2 with ⟨_, same, _⟩ | ⟨drawn, _, rfl, _⟩
          · exact absurd same changed
          refine ⟨admission, attachment, some payloadRef,
            ⟨.admitted, attachment.attemptId, attachment.verifierRef, drawn⟩, rfl, valid, ?_,
            rfl, ?_⟩
          · change PortReply.ofExcept .admitted
              (commit (store.admitClaim admission attachment (some payloadRef)) store).1 = _
            rw [outcome]
            rfl
          · rw [withClaim, BTreeMap.getElem?_insert_eq] at stored
            split_ifs at stored
            · cases stored
              rfl
            · exact absurd stored absent
  | recovered draws =>
      rw [classified_frame] at stored
      exact absurd stored absent
  | _ => exact absurd stored absent

/-- The digest of an admission is the hash of its encoding. -/
theorem admissionDigest_eq (admission : ClaimAdmission) :
    admissionDigest admission = PrivateId.cast .claimDigest (Blake3.hash admission.encoding) :=
  rfl

/-- Every claim of a reachable store was admitted by the run. -/
private theorem claims_admitted (activeMacKey : Bytes32) (operations : List PortOp)
    {requestId : ClaimRequestId} {claim : PersistedClaimRecord}
    (stored : (after activeMacKey operations).claims[requestId]? = some claim) :
    ∃ admission, AdmittedIn activeMacKey operations admission ∧ AdmissionValid admission ∧
      claim.claimDigest = admission.claimDigest := by
  induction operations using List.reverseRecOn with
  | nil => simp [after, FakePersist.default] at stored
  | append_singleton before operation hypothesis =>
      by_cases kept : (after activeMacKey before).claims[requestId]? = some claim
      · obtain ⟨admission, ⟨early, attachment, payloadRef, record, shorter, admitted⟩, valid⟩ :=
          hypothesis kept
        exact ⟨admission, ⟨early, attachment, payloadRef, record,
          shorter.trans (List.prefix_append _ _), admitted⟩, valid⟩
      · rw [after_append_singleton] at stored
        obtain ⟨admission, attachment, payloadRef, record, rfl, valid, replied, fresh, digest⟩ :=
          step_admitted stored kept
        exact ⟨admission, ⟨before, attachment, payloadRef, record, List.prefix_rfl, replied,
          fresh⟩, valid, digest⟩

/-- The encoding of a claim determines its fields, so an exact replay answers the very
admission that was accepted as long as the hash tells the two encodings apart. -/
theorem claim_encoding_unambiguous :
    (∀ left right : ClaimAdmission, left.eventRefs.asSlice = left.payload.eventRefs →
      right.eventRefs.asSlice = right.payload.eventRefs → left.encoding = right.encoding →
        left.SameFields right) ∧
    ∀ (activeMacKey : Bytes32) (operations : List PortOp) (admission : ClaimAdmission)
      (attachment : PersistedControllerAttachment) (payloadRef : Option ClaimPayloadRef)
      (record : AdmissionRecord),
      ((after activeMacKey operations).apply
          (.admitClaim admission attachment payloadRef)).1 = .admitted record →
        record.outcome = .exactReplay →
          ∃ original, AdmittedIn activeMacKey operations original ∧
            (Separated original.encoding admission.encoding →
              original.SameFields admission) := by
  refine ⟨fun left right leftRefs rightRefs => ClaimAdmission.sameFields_of_encoding leftRefs
    rightRefs, ?_⟩
  intro activeMacKey operations admission attachment payloadRef record replied replay
  change PortReply.ofExcept .admitted (commit ((after activeMacKey operations).admitClaim
    admission attachment payloadRef) _).1 = _ at replied
  cases outcome : (after activeMacKey operations).admitClaim admission attachment payloadRef with
  | error refusal =>
      rw [outcome] at replied
      cases replied
  | ok pair =>
      obtain ⟨answer, next⟩ := pair
      rw [outcome] at replied
      obtain rfl : answer = record := PortReply.admitted.inj replied
      obtain ⟨valid, ⟨_, _, ⟨existing, stored, replays, _⟩, _⟩ | ⟨drawn, _, rfl, _⟩⟩ :=
        admitClaim_cases outcome
      · obtain ⟨original, admitted, originalValid, digest⟩ :=
          claims_admitted activeMacKey operations stored
        refine ⟨original, admitted, fun separated => ?_⟩
        have same : existing.claimDigest = admission.claimDigest :=
          (of_decide_eq_true replays).2.2.2.2.1
        have hashes : PrivateId.cast .claimDigest (Blake3.hash original.encoding) =
            PrivateId.cast .claimDigest (Blake3.hash admission.encoding) := by
          rw [← admissionDigest_eq, ← admissionDigest_eq, originalValid.digest, valid.digest,
            ← digest, same]
        exact ClaimAdmission.sameFields_of_encoding originalValid.refs valid.refs
          (separated (PrivateId.cast_injective hashes))
      · cases replay

end Runs

section Sample

open Gearwit.Sample

/-- The sampled claim. -/
def sampledClaim : ClaimAdmission := admission firstRequest firstArm firstEvent secondEvent

/-- A claim that is admitted once more is replayed, and is the claim of the run. -/
theorem replayed_claim_same :
    ∃ original, AdmittedIn (PrivateId.fixture 0)
        (opens firstRequest firstArm firstAttempt 1 firstEvent secondEvent) original ∧
      (Separated original.encoding sampledClaim.encoding → original.SameFields sampledClaim) :=
  claim_encoding_unambiguous.2 (PrivateId.fixture 0)
    (opens firstRequest firstArm firstAttempt 1 firstEvent secondEvent) sampledClaim
    (attachment firstAttempt firstArm 1) none
    ⟨.exactReplay, firstAttempt, PrivateId.fixture 1, PrivateId.fixture 1⟩
    (by decide +kernel) rfl

end Sample

end FakePersist
end Gearwit
