import Gearwit.Persist.Fences
import Gearwit.Persist.Rearm

/-!
# Helper request nonces

A helper presents retrieves and acknowledgements, each under a nonce and a body
digest.  What a nonce recorded stays: the identical request is answered from its
replay row whatever the lifecycle has become, every other request with the nonce is
refused, and no nonce records twice.
-/

namespace Gearwit

/-- One request of a helper. -/
inductive HelperRequest
  | retrieve (exchange : RetrieveExchange)
  | acknowledge (binding : ValidatedHelperBinding) (request : AcknowledgeRequest)
  deriving DecidableEq

/-- Content-free result of a helper request. -/
inductive HelperResult
  | retrieved (result : RecordedRetrieveResult)
  | acknowledged (result : AcknowledgeResult)
  deriving DecidableEq

namespace HelperRequest

/-- Nonce of a request. -/
def requestId : HelperRequest → RequestNonce
  | .retrieve exchange => exchange.requestId
  | .acknowledge _ request => request.requestId

/-- Binding a request is presented under. -/
def binding : HelperRequest → ValidatedHelperBinding
  | .retrieve exchange => exchange.binding
  | .acknowledge binding _ => binding

/-- Helper operation of a request. -/
def operation : HelperRequest → HelperOperation
  | .retrieve _ => .retrieve
  | .acknowledge _ _ => .acknowledge

/-- Port operation that presents a request; a retrieve may draw an id. -/
def presented (drawn : Option RetrievalId) : HelperRequest → PortOp
  | .retrieve exchange => .recordRetrieveExchange exchange drawn
  | .acknowledge binding request => .acknowledgeRetrievedBatch binding request

/-- The body digest of a request is the one recomputed from its fields. -/
def Digested [Blake3] : HelperRequest → Prop
  | .retrieve exchange =>
      canonicalRetrieveBodyDigest (canonicalBindingDigest exchange.binding)
        exchange.requestId = exchange.canonicalBodyDigest
  | .acknowledge binding request =>
      canonicalAckBodyDigest (canonicalBindingDigest binding) request.requestId
        request.retrievalId request.cursor = request.canonicalBodyDigest

end HelperRequest

namespace PortReply

/-- Result a reply says was recorded by this very call. -/
def recorded : PortReply → Option HelperResult
  | .retrieved (.recorded authorized) => some (.retrieved authorized.recorded)
  | .acknowledged (.recorded result) => some (.acknowledged result)
  | _ => none

/-- Result a reply says was recorded by an earlier call. -/
def replayed : PortReply → Option HelperResult
  | .retrieved (.exactReplay authorized) => some (.retrieved authorized.recorded)
  | .acknowledged (.exactReplay result) => some (.acknowledged result)
  | _ => none

end PortReply

namespace FakePersist

/-! ## Live bindings -/

/-- The grant of a binding is neither rotated nor revoked, and its attachment and
birth are unrevoked. -/
structure BindingLive (store : FakePersist) (binding : ValidatedHelperBinding) :
    Prop where
  grant : ∃ grant, store.helperGrant binding.birthId binding.attemptId = some grant ∧
    grant.grantRef = binding.grantRef ∧ grant.revoked = false
  attachment : ∃ attachment, store.attachments[binding.attemptId]? = some attachment ∧
    attachment.revoked = false
  birth : ∃ birth, store.births[binding.birthId]? = some birth ∧ birth.revoked = false

/-- A live binding is not revoked. -/
theorem BindingLive.unrevoked {store : FakePersist} {binding : ValidatedHelperBinding}
    (live : store.BindingLive binding) : store.enforceUnrevoked binding = .ok () := by
  obtain ⟨⟨grant, granted, _, liveGrant⟩, ⟨attachment, attached, liveAttachment⟩,
    birth, born, liveBirth⟩ := live
  simp [enforceUnrevoked, granted, attached, born, liveGrant, liveAttachment, liveBirth]

/-- Whether a stored grant carries the terms of a binding. -/
def bindingAgrees (grant : PersistedHelperGrant) (binding : ValidatedHelperBinding)
    (operation : HelperOperation) : Prop :=
  grant.grantRef = binding.grantRef ∧
    ¬(grant.seatId ≠ binding.seatId ∨ grant.armId ≠ binding.armId ∨
      grant.generation ≠ binding.generation ∨ grant.signalId ≠ binding.signalId ∨
      grant.claimDigest ≠ binding.claimDigest ∨
      grant.operations ≠ binding.operations ∨
      grant.leaseUntil ≠ binding.leaseUntil ∨
      grant.operations.allows operation = false)

/-- A binding authenticates exactly when its slot holds an agreeing grant and its
attempt an agreeing claim. -/
theorem authenticateBinding_eq_ok_iff (store : FakePersist)
    (binding : ValidatedHelperBinding) (operation : HelperOperation)
    (grant : PersistedHelperGrant) :
    store.authenticateBinding binding operation = .ok grant ↔
      store.helperGrant binding.birthId binding.attemptId = some grant ∧
        bindingAgrees grant binding operation ∧
        ∃ claim, store.claimForAttempt binding.attemptId = some claim ∧
          claimDisagrees claim binding.claimDigest binding.armId binding.generation
            binding.signalId = false := by
  unfold authenticateBinding bindingAgrees
  constructor
  · intro authenticated
    split at authenticated
    · cases authenticated
    next found granted =>
    split at authenticated
    · cases authenticated
    next sameRef =>
    split at authenticated
    · cases authenticated
    next sameFields =>
    split at authenticated
    · cases authenticated
    next claim claimed =>
    split at authenticated
    · cases authenticated
    next agrees =>
    cases authenticated
    exact ⟨granted, ⟨not_not.1 sameRef, sameFields⟩, claim, claimed,
      eq_false_of_ne_true agrees⟩
  · rintro ⟨granted, ⟨sameRef, sameFields⟩, claim, claimed, agrees⟩
    rw [granted, claimed]
    simp only [sameRef, ne_eq, not_true_eq_false, if_false, agrees]
    exact if_neg sameFields

/-! ## The slot of a grant -/

/-- The slot of a grant still holds it, revoked or not, or its reference is retired
and the slot holds a grant with another reference. -/
def HoldsOrRetired (grant : PersistedHelperGrant) (store : FakePersist) : Prop :=
  (∃ held, store.helperGrant grant.birthId grant.attemptId = some held ∧
      (held = grant ∨ held = { grant with revoked := true })) ∨
    ((∃ held, store.helperGrant grant.birthId grant.attemptId = some held ∧
        held.grantRef ≠ grant.grantRef) ∧
      ∃ retired ∈ store.retiredGrants, retired.grantRef = grant.grantRef)

/-- A slot that still carries the reference of a grant and is not revoked holds that
very grant. -/
theorem HoldsOrRetired.held {grant held : PersistedHelperGrant} {store : FakePersist}
    (holds : HoldsOrRetired grant store)
    (granted : store.helperGrant grant.birthId grant.attemptId = some held)
    (sameRef : held.grantRef = grant.grantRef) (live : held.revoked = false) :
    held = grant := by
  rcases holds with ⟨other, present, rfl | rfl⟩ | ⟨⟨other, present, different⟩, _⟩
  · exact Option.some.inj (granted.symm.trans present)
  · rw [granted, Option.some.injEq] at present
    rw [present] at live
    cases live
  · rw [granted, Option.some.injEq] at present
    exact absurd (present ▸ sameRef) different

section Runs

variable [Blake3]

omit [Blake3] in
/-- A rotation puts the new grant in the slot. -/
theorem withRotatedGrant_helperGrant {store : FakePersist}
    {existing grant : PersistedHelperGrant}
    (stored : store.helperGrant grant.birthId grant.attemptId = some existing) :
    (store.withRotatedGrant existing grant).helperGrant grant.birthId grant.attemptId =
      some grant := by
  refine (find?_modifyFirst_same _ _ _ fun _ _ => (grantOf_iff _ _ _).2 rfl).trans ?_
  exact congrArg (Option.map fun _ => grant) stored

/-- Every operation keeps a grant in its slot, or retires its reference for good. -/
theorem Effect.holdsOrRetired {store next : FakePersist} {operation : PortOp}
    (effect : Effect store operation next) {grant : PersistedHelperGrant}
    (holds : HoldsOrRetired grant store) : HoldsOrRetired grant next := by
  cases effect with
  | granted minted valid fresh vacant =>
      have kept : ∀ held, store.helperGrant grant.birthId grant.attemptId = some held →
          ({ store with grants := store.grants ++ [minted] }).helperGrant grant.birthId
            grant.attemptId = some held := by
        intro held present
        rw [helperGrant, List.find?_append]
        exact Option.or_eq_some_iff.2 (.inl present)
      rcases holds with ⟨held, present, same⟩ | ⟨⟨held, present, different⟩, retired⟩
      · exact .inl ⟨held, kept held present, same⟩
      · exact .inr ⟨⟨held, kept held present, different⟩, retired⟩
  | rotated existing minted valid fresh stored live otherRef =>
      by_cases same : grantKey minted = (grant.birthId, grant.attemptId)
      · have slot := withRotatedGrant_helperGrant stored
        simp only [grantKey, Prod.mk.injEq] at same
        rw [same.1, same.2] at slot stored
        right
        rcases holds with ⟨held, present, mine⟩ | ⟨_, retired, known, sameRef⟩
        · rw [present, Option.some.injEq] at stored
          subst stored
          have reference : held.grantRef = grant.grantRef := by
            rcases mine with rfl | rfl <;> rfl
          exact ⟨⟨minted, slot, fun equal => otherRef (reference.trans equal.symm)⟩,
            retiredIdentity held, by simp [withRotatedGrant], reference⟩
        · refine ⟨⟨minted, slot, fun equal => ?_⟩, retired,
            List.mem_append_left _ known, sameRef⟩
          have used : store.grantIdentityRetired minted = true :=
            (grantIdentityRetired_iff _ _).2
              ⟨retired, known, .inl (sameRef.trans equal.symm)⟩
          rw [fresh] at used
          cases used
      · have slot : (store.withRotatedGrant existing minted).helperGrant grant.birthId
            grant.attemptId = store.helperGrant grant.birthId grant.attemptId :=
          withRotatedGrant_helperGrant_other store same
        rcases holds with ⟨held, present, mine⟩ |
          ⟨⟨held, present, different⟩, retired, known, sameRef⟩
        · exact .inl ⟨held, slot.trans present, mine⟩
        · exact .inr ⟨⟨held, slot.trans present, different⟩, retired,
            List.mem_append_left _ known, sameRef⟩
  | grantRevoked scope =>
      by_cases same : (scope.birthId, scope.attemptId) =
        (grant.birthId, grant.attemptId)
      · have slot := withRevokedGrant_helperGrant store scope.birthId scope.attemptId
        simp only [Prod.mk.injEq] at same
        rw [same.1, same.2] at slot ⊢
        rcases holds with ⟨held, present, mine⟩ | ⟨⟨held, present, different⟩, retired⟩
        · rw [present] at slot
          refine .inl ⟨_, slot, .inr ?_⟩
          rcases mine with rfl | rfl <;> rfl
        · rw [present] at slot
          exact .inr ⟨⟨_, slot, different⟩, retired⟩
      · have slot := withRevokedGrant_helperGrant_other store same
        rcases holds with ⟨held, present, mine⟩ | ⟨⟨held, present, different⟩, retired⟩
        · exact .inl ⟨held, slot.trans present, mine⟩
        · exact .inr ⟨⟨held, slot.trans present, different⟩, retired⟩
  | recovered draws =>
      rw [classified_frame]
      exact holds
  | _ => exact holds

/-! ## Replay tables -/

/-- No nonce has both a retrieve and an acknowledgement. -/
def NoncesDisjoint (store : FakePersist) : Prop :=
  ∀ requestId : RequestNonce, store.retrieveReplays[requestId]? = none ∨
    store.ackReplays[requestId]? = none

/-- Every operation keeps the nonces of the two tables apart. -/
theorem Effect.noncesDisjoint {store next : FakePersist} {operation : PortOp}
    (effect : Effect store operation next) (disjoint : NoncesDisjoint store) :
    NoncesDisjoint next := by
  cases effect with
  | retrieved exchange result claim grant authenticated digest unacknowledged =>
      intro requestId
      by_cases same : exchange.requestId = requestId
      · exact .inr (same ▸ unacknowledged)
      · rcases disjoint requestId with unretrieved | unseen
        · exact .inl ((BTreeMap.getElem?_insert_ne _ _ same).trans unretrieved)
        · exact .inr unseen
  | acknowledged binding request grant retrieval claim position proved furthest cursor
      authenticated digest unretrieved =>
      intro requestId
      by_cases same : request.requestId = requestId
      · exact .inl (same ▸ unretrieved)
      · rcases disjoint requestId with unseen | unacknowledged
        · exact .inl unseen
        · exact .inr ((BTreeMap.getElem?_insert_ne _ _ same).trans unacknowledged)
  | recovered draws =>
      rw [classified_frame]
      exact disjoint
  | _ => exact disjoint

/-- The two replay tables of a reachable store never share a nonce. -/
theorem noncesDisjoint_after (activeMacKey : Bytes32) (operations : List PortOp) :
    NoncesDisjoint (after activeMacKey operations) :=
  Transition.invariant_run _ (fun store operation =>
    (step_effect store operation).noncesDisjoint)
    (fun _ => .inl (by simp [FakePersist.default])) operations

/-- Replay rows the second store kept from the first. -/
structure ReplaysKept (before after : FakePersist) : Prop where
  retrieves : ∀ (requestId : RequestNonce) row,
    before.retrieveReplays[requestId]? = some row →
      after.retrieveReplays[requestId]? = some row
  acknowledges : ∀ (requestId : RequestNonce) row,
    before.ackReplays[requestId]? = some row → after.ackReplays[requestId]? = some row

/-- No operation rewrites a replay row. -/
theorem Effect.replaysKept {store next : FakePersist} {operation : PortOp}
    (effect : Effect store operation next) : ReplaysKept store next := by
  cases effect with
  | retrieved exchange result claim grant authenticated digest unacknowledged unseen =>
      refine ⟨fun requestId row stored => ?_, fun _ _ stored => stored⟩
      have different : exchange.requestId ≠ requestId := by
        rintro rfl
        rw [unseen] at stored
        cases stored
      exact (BTreeMap.getElem?_insert_ne _ _ different).trans stored
  | acknowledged binding request grant retrieval claim position proved furthest cursor
      authenticated digest unretrieved unseen =>
      refine ⟨fun _ _ stored => stored, fun requestId row stored => ?_⟩
      have different : request.requestId ≠ requestId := by
        rintro rfl
        rw [unseen] at stored
        cases stored
      exact (BTreeMap.getElem?_insert_ne _ _ different).trans stored
  | recovered draws =>
      rw [classified_frame]
      exact ⟨fun _ _ stored => stored, fun _ _ stored => stored⟩
  | _ => exact ⟨fun _ _ stored => stored, fun _ _ stored => stored⟩

/-- No run rewrites a replay row. -/
theorem run_replaysKept (store : FakePersist) (operations : List PortOp) :
    ReplaysKept store (Transition.run step store operations) :=
  Transition.relation_run
    (fun _ => ⟨fun _ _ stored => stored, fun _ _ stored => stored⟩)
    (fun _ _ _ early late =>
      ⟨fun requestId row stored => late.retrieves _ _ (early.retrieves requestId row stored),
        fun requestId row stored =>
          late.acknowledges _ _ (early.acknowledges requestId row stored)⟩)
    (fun store operation => (step_effect store operation).replaysKept) store operations

/-- The store holds the replay row of a request with its result. -/
inductive Remembers (store : FakePersist) : HelperRequest → HelperResult → Prop
  | retrieve (exchange : RetrieveExchange) (row : PersistedRetrieveReplay)
      (stored : store.retrieveReplays[exchange.requestId]? = some row)
      (binding : row.bindingDigest = canonicalBindingDigest exchange.binding)
      (body : row.canonicalBodyDigest = exchange.canonicalBodyDigest) :
      Remembers store (.retrieve exchange) (.retrieved row.result)
  | acknowledge (presenter : ValidatedHelperBinding) (request : AcknowledgeRequest)
      (row : PersistedAckReplay)
      (stored : store.ackReplays[request.requestId]? = some row)
      (binding : row.bindingDigest = canonicalBindingDigest presenter)
      (body : row.canonicalBodyDigest = request.canonicalBodyDigest)
      (retrieval : row.retrievalId = request.retrievalId)
      (cursor : row.cursor = request.cursor) :
      Remembers store (.acknowledge presenter request) (.acknowledged row.result)

namespace Remembers

/-- A remembered request stays so. -/
theorem kept {before after : FakePersist} {request : HelperRequest}
    {result : HelperResult} (remembers : Remembers before request result)
    (replays : ReplaysKept before after) : Remembers after request result := by
  cases remembers with
  | retrieve exchange row stored binding body =>
      exact .retrieve exchange row (replays.retrieves _ _ stored) binding body
  | acknowledge presenter request row stored binding body retrieval cursor =>
      exact .acknowledge presenter request row (replays.acknowledges _ _ stored) binding
        body retrieval cursor

/-- Two requests remembered under one nonce are the same request, as long as the
digest tells their bindings apart. -/
theorem request_eq {store : FakePersist} {request other : HelperRequest}
    {result otherResult : HelperResult} (disjoint : NoncesDisjoint store)
    (remembers : Remembers store request result)
    (recalls : Remembers store other otherResult)
    (sameNonce : other.requestId = request.requestId)
    (separated : canonicalBindingDigest other.binding =
      canonicalBindingDigest request.binding → other.binding = request.binding) :
    other = request := by
  cases remembers with
  | retrieve exchange row stored binding body =>
    cases recalls with
    | retrieve presented found present bound digested =>
        simp only [HelperRequest.requestId] at sameNonce
        rw [sameNonce, stored, Option.some.injEq] at present
        subst present
        have sameBinding : presented.binding = exchange.binding :=
          separated (bound.symm.trans binding)
        have sameBody := digested.symm.trans body
        cases exchange
        cases presented
        simp_all
    | acknowledge presenter presented found present =>
        simp only [HelperRequest.requestId] at sameNonce
        rw [sameNonce] at present
        rcases disjoint exchange.requestId with vacant | vacant
        · rw [vacant] at stored
          cases stored
        · rw [vacant] at present
          cases present
  | acknowledge presenter request row stored binding body retrieval cursor =>
    cases recalls with
    | retrieve presented found present =>
        simp only [HelperRequest.requestId] at sameNonce
        rw [sameNonce] at present
        rcases disjoint request.requestId with vacant | vacant
        · rw [vacant] at present
          cases present
        · rw [vacant] at stored
          cases stored
    | acknowledge holder presented found present bound digested retrieved placed =>
        simp only [HelperRequest.requestId] at sameNonce
        rw [sameNonce, stored, Option.some.injEq] at present
        subst present
        have sameBinding : holder = presenter := separated (bound.symm.trans binding)
        have sameBody := digested.symm.trans body
        have sameRetrieval := retrieved.symm.trans retrieval
        have sameCursor := placed.symm.trans cursor
        cases request
        cases presented
        simp_all

end Remembers

/-! ## One presentation -/

/-- A presented request is refused with nothing changed, answered from its replay row
with nothing changed, or recorded under a nonce that no table had. -/
inductive Presented (store : FakePersist) (request : HelperRequest) :
    PortReply → FakePersist → Prop
  | refused (refusal : PersistError) : Presented store request (.refused refusal) store
  | replayed (reply : PortReply) (result : HelperResult)
      (answered : reply.replayed = some result) (unrecorded : reply.recorded = none)
      (remembers : Remembers store request result) :
      Presented store request reply store
  | recorded (reply : PortReply) (next : FakePersist) (result : HelperResult)
      (grant : PersistedHelperGrant) (answered : reply.recorded = some result)
      (authenticated : store.authenticateBinding request.binding request.operation =
        .ok grant)
      (digested : request.Digested)
      (unretrieved : store.retrieveReplays[request.requestId]? = none)
      (unacknowledged : store.ackReplays[request.requestId]? = none)
      (remembers : Remembers next request result) : Presented store request reply next

/-- A presented request is refused, answered from its replay row or recorded under a new nonce. -/
theorem presented (store : FakePersist) (request : HelperRequest)
    (drawn : Option RetrievalId) :
    Presented store request (store.apply (request.presented drawn)).1
      (store.apply (request.presented drawn)).2 := by
  cases request with
  | retrieve exchange =>
      change Presented store _ (PortReply.ofExcept .retrieved
        (commit (store.recordRetrieveExchange exchange drawn) store).1)
        (commit (store.recordRetrieveExchange exchange drawn) store).2
      cases outcome : store.recordRetrieveExchange exchange drawn with
      | error refusal => exact .refused refusal
      | ok pair =>
          obtain ⟨answer, next⟩ := pair
          obtain ⟨⟨grant, authenticated⟩, _, digest, unacknowledged,
            ⟨row, stored, binding, body, rfl, rfl⟩ | ⟨unseen, _, _, result, _, _, _, _,
              rfl, rfl⟩⟩ := recordRetrieveExchange_cases outcome
          · exact .replayed _ _ rfl rfl (.retrieve exchange row stored binding body)
          · exact .recorded _ _ _ grant rfl authenticated digest unseen unacknowledged
              (.retrieve exchange (retrieveReplayRow exchange result)
                (BTreeMap.getElem?_insert_same _ _ _) rfl rfl)
  | acknowledge binding request =>
      change Presented store _ (PortReply.ofExcept .acknowledged
        (commit (store.acknowledgeRetrievedBatch binding request) store).1)
        (commit (store.acknowledgeRetrievedBatch binding request) store).2
      cases outcome : store.acknowledgeRetrievedBatch binding request with
      | error refusal => exact .refused refusal
      | ok pair =>
          obtain ⟨answer, next⟩ := pair
          obtain ⟨⟨grant, authenticated⟩, _, digest, unretrieved,
            ⟨row, stored, bound, body, retrieval, cursor, rfl, rfl⟩ |
            ⟨unseen, _, _, _, _, _, _, _, _, _, _, _, _, _, _, _, _, rfl, rfl⟩⟩ :=
              acknowledgeRetrievedBatch_cases outcome
          · exact .replayed _ _ rfl rfl
              (.acknowledge binding request row stored bound body retrieval cursor)
          · exact .recorded _ _ _ grant rfl authenticated digest unretrieved unseen
              (.acknowledge binding request (store.ackReplayRow binding request)
                (BTreeMap.getElem?_insert_same _ _ _) rfl rfl rfl rfl)

/-- A remembered request whose binding is live and authenticates is answered with
its remembered result, and nothing changes. -/
theorem Remembers.answered {store : FakePersist} {request : HelperRequest}
    {result : HelperResult} {grant : PersistedHelperGrant}
    (remembers : Remembers store request result) (disjoint : NoncesDisjoint store)
    (authenticated : store.authenticateBinding request.binding request.operation =
      .ok grant)
    (unrevoked : store.enforceUnrevoked request.binding = .ok ())
    (digested : request.Digested) (drawn : Option RetrievalId) :
    (store.apply (request.presented drawn)).1.replayed = some result ∧
      (store.apply (request.presented drawn)).2 = store := by
  cases remembers with
  | retrieve exchange row stored binding body =>
      have unacknowledged : store.ackReplays.contains exchange.requestId = false := by
        rcases disjoint exchange.requestId with vacant | vacant
        · rw [vacant] at stored
          cases stored
        · exact (BTreeMap.contains_eq_false_iff _ _).2 vacant
      have outcome : store.recordRetrieveExchange exchange drawn =
          .ok (.exactReplay ⟨row.result, mintRetrievePermit exchange.binding
            exchange.requestId row.result .exactReplay⟩, store) := by
        simp only [HelperRequest.Digested, HelperRequest.binding,
          HelperRequest.operation] at digested authenticated unrevoked
        simp [recordRetrieveExchange, authenticated, unrevoked, digested,
          unacknowledged, stored, binding, body]
      change (PortReply.ofExcept .retrieved
          (commit (store.recordRetrieveExchange exchange drawn) store).1).replayed = _ ∧
        (commit (store.recordRetrieveExchange exchange drawn) store).2 = store
      rw [outcome]
      exact ⟨rfl, rfl⟩
  | acknowledge presenter request row stored binding body retrieval cursor =>
      have unretrieved : store.retrieveReplays.contains request.requestId = false := by
        rcases disjoint request.requestId with vacant | vacant
        · exact (BTreeMap.contains_eq_false_iff _ _).2 vacant
        · rw [vacant] at stored
          cases stored
      have outcome : store.acknowledgeRetrievedBatch presenter request =
          .ok (.exactReplay row.result, store) := by
        simp only [HelperRequest.Digested, HelperRequest.binding,
          HelperRequest.operation] at digested authenticated unrevoked
        simp [acknowledgeRetrievedBatch, authenticated, unrevoked, digested,
          unretrieved, stored, binding, body, retrieval, cursor]
      change (PortReply.ofExcept .acknowledged
          (commit (store.acknowledgeRetrievedBatch presenter request)
            store).1).replayed = _ ∧
        (commit (store.acknowledgeRetrievedBatch presenter request) store).2 = store
      rw [outcome]
      exact ⟨rfl, rfl⟩

/-- A nonce that is remembered records nothing more. -/
theorem Remembers.unrecorded {store : FakePersist} {request other : HelperRequest}
    {result : HelperResult} (remembers : Remembers store request result)
    (sameNonce : other.requestId = request.requestId) (drawn : Option RetrievalId) :
    (store.apply (other.presented drawn)).1.recorded = none := by
  have outcome := presented store other drawn
  generalize store.apply (other.presented drawn) = applied at outcome ⊢
  obtain ⟨reply, next⟩ := applied
  cases outcome with
  | refused refusal => rfl
  | replayed reply result answered unrecorded => exact unrecorded
  | recorded reply next result grant answered authenticated digested unretrieved
      unacknowledged =>
      rw [sameNonce] at unretrieved unacknowledged
      cases remembers with
      | retrieve exchange row stored =>
          rw [show store.retrieveReplays[exchange.requestId]? = none from unretrieved]
            at stored
          cases stored
      | acknowledge presenter request row stored =>
          rw [show store.ackReplays[request.requestId]? = none from unacknowledged]
            at stored
          cases stored

/-- Another request with a remembered nonce is refused, and nothing changes. -/
theorem Remembers.refuses {store : FakePersist} {request other : HelperRequest}
    {result : HelperResult} (remembers : Remembers store request result)
    (disjoint : NoncesDisjoint store)
    (sameNonce : other.requestId = request.requestId) (different : other ≠ request)
    (separated : Separated other.binding.encoding request.binding.encoding)
    (drawn : Option RetrievalId) :
    ∃ refusal, store.apply (other.presented drawn) = (.refused refusal, store) := by
  have silent := remembers.unrecorded sameNonce drawn
  have outcome := presented store other drawn
  generalize store.apply (other.presented drawn) = applied at silent outcome
  obtain ⟨reply, next⟩ := applied
  cases outcome with
  | refused refusal => exact ⟨refusal, rfl⟩
  | replayed reply found answered unrecorded recalls =>
      exact absurd (remembers.request_eq disjoint recalls sameNonce
        (binding_eq_of_digest separated)) different
  | recorded reply next found grant answered =>
      rw [show reply.recorded = none from silent] at answered
      cases answered

/-! ## Runs -/

/-- A binding that authenticated keeps authenticating for as long as it is live. -/
theorem authenticateBinding_later {before : FakePersist}
    (identified : ClaimsIdentified before) {binding : ValidatedHelperBinding}
    {operation : HelperOperation} {grant : PersistedHelperGrant}
    (authenticated : before.authenticateBinding binding operation = .ok grant)
    (operations : List PortOp)
    (live : (Transition.run step before operations).BindingLive binding) :
    (Transition.run step before operations).authenticateBinding binding operation =
      .ok grant := by
  obtain ⟨granted, agrees, claim, claimed, matched⟩ :=
    (authenticateBinding_eq_ok_iff _ _ _ _).1 authenticated
  obtain ⟨_, birth, attempt⟩ := helperGrant_some granted
  have holds : HoldsOrRetired grant (Transition.run step before operations) := by
    refine Transition.invariant_run (HoldsOrRetired grant)
      (fun store operation => (step_effect store operation).holdsOrRetired)
      (.inl ⟨grant, ?_, .inl rfl⟩) operations
    rwa [birth, attempt]
  have laterIdentified : ClaimsIdentified (Transition.run step before operations) :=
    Transition.invariant_run _ (fun store operation =>
      (step_effect store operation).claimsIdentified) identified operations
  obtain ⟨held, slot, sameRef, unrevoked⟩ := live.grant
  have same : held = grant := by
    refine holds.held ?_ (sameRef.trans agrees.1.symm) unrevoked
    rwa [birth, attempt]
  subst same
  exact (authenticateBinding_eq_ok_iff _ _ _ _).2 ⟨slot, agrees, claim,
    (run_grows before operations).claimForAttempt laterIdentified claimed, matched⟩

/-- Helper requests are exactly-once per nonce, along every run. -/
theorem helper_requests_exactly_once (activeMacKey : Bytes32)
    (operations : List PortOp) :
    NoncesDisjoint (after activeMacKey operations) ∧
    ∀ before rest (request : HelperRequest) drawn result,
      operations = before ++ request.presented drawn :: rest →
      ((after activeMacKey before).apply (request.presented drawn)).1.recorded =
        some result →
      ((after activeMacKey operations).BindingLive request.binding →
        ∀ redrawn,
          ((after activeMacKey operations).apply
            (request.presented redrawn)).1.replayed = some result ∧
          ((after activeMacKey operations).apply (request.presented redrawn)).2 =
            after activeMacKey operations) ∧
      (∀ (other : HelperRequest) redrawn, other.requestId = request.requestId → other ≠ request →
        Separated other.binding.encoding request.binding.encoding →
        ∃ refusal, (after activeMacKey operations).apply (other.presented redrawn) =
          (.refused refusal, after activeMacKey operations)) ∧
      (∀ (other : HelperRequest) redrawn, other.requestId = request.requestId →
        ((after activeMacKey operations).apply (other.presented redrawn)).1.recorded =
          none) := by
  have disjoint := noncesDisjoint_after activeMacKey operations
  refine ⟨disjoint, ?_⟩
  rintro before rest request drawn result rfl recorded
  -- what the recording call left behind is still there after the continuation
  have later : after activeMacKey (before ++ request.presented drawn :: rest) =
      Transition.run step (after activeMacKey before)
        (request.presented drawn :: rest) :=
    Transition.run_append step _ _ _
  have outcome := presented (after activeMacKey before) request drawn
  obtain ⟨grant, authenticated, digested, remembers⟩ :
      ∃ grant, (after activeMacKey before).authenticateBinding request.binding
          request.operation = .ok grant ∧ request.Digested ∧
        Remembers (after activeMacKey (before ++ request.presented drawn :: rest))
          request result := by
    generalize applied : (after activeMacKey before).apply (request.presented drawn) =
      pair at outcome recorded
    obtain ⟨reply, next⟩ := pair
    cases outcome with
    | refused refusal => cases recorded
    | replayed reply found answered unrecorded =>
        rw [show reply.recorded = some result from recorded] at unrecorded
        cases unrecorded
    | recorded reply next found grant answered authenticated digested unretrieved
        unacknowledged remembers =>
        rw [show reply.recorded = some result from recorded, Option.some.injEq]
          at answered
        subst answered
        refine ⟨grant, authenticated, digested, ?_⟩
        have kept := run_replaysKept next rest
        have reached : (after activeMacKey before).step (request.presented drawn) =
            next := congrArg Prod.snd applied
        rw [later, Transition.run_cons, reached]
        exact remembers.kept kept
  refine ⟨fun live redrawn => ?_, fun other redrawn sameNonce different separated =>
    remembers.refuses disjoint sameNonce different separated redrawn,
    fun other redrawn sameNonce => remembers.unrecorded sameNonce redrawn⟩
  have still := authenticateBinding_later
    (claimsIdentified_after activeMacKey before) authenticated
    (request.presented drawn :: rest) (later ▸ live)
  rw [← later] at still
  exact remembers.answered disjoint still live.unrevoked digested redrawn

end Runs

end FakePersist
end Gearwit
