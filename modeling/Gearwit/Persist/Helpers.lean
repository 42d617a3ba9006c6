import Gearwit.Persist.Store

/-!
# Helper grants and claimed-batch exchanges

A helper acts under a grant bound to one birth and attempt.  Every exchange
authenticates the binding against the stored grant and the admitted claim and
enforces revocation; only unseen requests also need current authority.  Rotation
replaces a live grant in place and retires its identity.
-/

namespace Gearwit
namespace FakePersist

/-! ## Grant checks -/

/-- Whether a claim carries the tuple a grant or binding names. -/
def claimDisagrees (claim : PersistedClaimRecord) (claimDigest : ClaimDigest)
    (armId : ArmId) (generation : UInt64) (signalId : SignalId) : Bool :=
  decide (claim.claimDigest ≠ claimDigest ∨ claim.armId ≠ armId ∨
    claim.generation ≠ generation ∨ claim.signalId ≠ signalId)

/-- Validate a grant mint or re-issue against complete current authority. -/
def validateGrantMint (store : FakePersist) (grant : PersistedHelperGrant) :
    Except PersistError Unit :=
  match store.claimForAttempt grant.attemptId with
  | none => .error .conflict
  | some claim =>
  if claimDisagrees claim grant.claimDigest grant.armId grant.generation
      grant.signalId then .error .conflict
  else
  match store.attachments[grant.attemptId]? with
  | none => .error .conflict
  | some attachment =>
  if attachment.revoked = true ∨ attachment.birthId ≠ grant.birthId ∨
      attachment.seatId ≠ grant.seatId ∨ attachment.armId ≠ grant.armId then
    .error .conflict
  else
  match store.births[grant.birthId]? with
  | none => .error .conflict
  | some birth =>
  if birth.revoked = true ∨ birth.armId ≠ grant.armId ∨
      birth.seatId ≠ grant.seatId then .error .conflict
  else
  match store.arms[grant.armId]? with
  | none => .error .conflict
  | some arm =>
  if arm.generation ≠ grant.generation ∨ arm.seatId ≠ grant.seatId ∨
      arm.capability ≠ attachment.capability ∨
      arm.coverageUntil ≤ store.now then .error .conflict
  else if attachment.generation ≠ grant.generation ∨
      attachment.leaseUntil ≤ store.now then .error .conflict
  else if birth.generation ≠ grant.generation ∨
      birth.capability ≠ attachment.capability ∨
      birth.leaseUntil ≤ store.now then .error .conflict
  else if grant.leaseUntil ≤ store.now ∨ attachment.leaseUntil < grant.leaseUntil ∨
      birth.leaseUntil < grant.leaseUntil ∨ arm.coverageUntil < grant.leaseUntil then
    .error .conflict
  else if store.attemptLost grant.attemptId ∨
      store.handledComplete grant.attemptId ∨
      store.attemptTerminal grant.attemptId then .error .conflict
  else .ok ()

/-- What a valid grant mint relies on. -/
theorem validateGrantMint_ok {store : FakePersist} {grant : PersistedHelperGrant}
    (valid : store.validateGrantMint grant = .ok ()) :
    (∃ claim, store.claimForAttempt grant.attemptId = some claim ∧
      claim.claimDigest = grant.claimDigest ∧ claim.armId = grant.armId ∧
      claim.generation = grant.generation ∧ claim.signalId = grant.signalId) ∧
    (∃ attachment, store.attachments[grant.attemptId]? = some attachment ∧
      attachment.revoked = false ∧ attachment.birthId = grant.birthId) ∧
    store.attemptLost grant.attemptId = false ∧
    store.handledComplete grant.attemptId = false ∧
    store.attemptTerminal grant.attemptId = false := by
  unfold validateGrantMint at valid
  split at valid
  · cases valid
  next claim claimed =>
  split at valid
  · cases valid
  next agrees =>
  split at valid
  · cases valid
  next attachment attached =>
  split at valid
  · cases valid
  next live =>
  split at valid
  · cases valid
  split at valid
  · cases valid
  split at valid
  · cases valid
  split at valid
  · cases valid
  split at valid
  · cases valid
  split at valid
  · cases valid
  split at valid
  · cases valid
  split at valid
  · cases valid
  next lifecycle =>
  simp only [claimDisagrees, decide_eq_true_eq, not_or, not_not] at agrees
  simp only [not_or, not_not, Bool.not_eq_true] at live lifecycle
  exact ⟨⟨claim, claimed, agrees⟩, ⟨attachment, attached, live.1, live.2.1⟩,
    lifecycle⟩

/-- Authenticate a live binding against the persisted grant and claim. -/
def authenticateBinding (store : FakePersist) (binding : ValidatedHelperBinding)
    (operation : HelperOperation) : Except PersistError PersistedHelperGrant :=
  match store.helperGrant binding.birthId binding.attemptId with
  | none => .error .unauthorized
  | some grant =>
  if grant.grantRef ≠ binding.grantRef then .error .unauthorized
  else if grant.seatId ≠ binding.seatId ∨ grant.armId ≠ binding.armId ∨
      grant.generation ≠ binding.generation ∨ grant.signalId ≠ binding.signalId ∨
      grant.claimDigest ≠ binding.claimDigest ∨
      grant.operations ≠ binding.operations ∨
      grant.leaseUntil ≠ binding.leaseUntil ∨
      grant.operations.allows operation = false then .error .unauthorized
  else
  match store.claimForAttempt binding.attemptId with
  | none => .error .unauthorized
  | some claim =>
  if claimDisagrees claim binding.claimDigest binding.armId binding.generation
      binding.signalId then .error .unauthorized
  else .ok grant

/-- An authenticated binding agrees with the stored grant and claim. -/
theorem authenticateBinding_ok {store : FakePersist}
    {binding : ValidatedHelperBinding} {operation : HelperOperation}
    {grant : PersistedHelperGrant}
    (authenticated : store.authenticateBinding binding operation = .ok grant) :
    store.helperGrant binding.birthId binding.attemptId = some grant ∧
      grant.grantRef = binding.grantRef ∧
      binding.operations.allows operation = true ∧
      ∃ claim, store.claimForAttempt binding.attemptId = some claim ∧
        claim.claimDigest = binding.claimDigest ∧ claim.armId = binding.armId ∧
        claim.generation = binding.generation ∧
        claim.signalId = binding.signalId := by
  unfold authenticateBinding at authenticated
  split at authenticated
  · cases authenticated
  next found granted =>
  split at authenticated
  · cases authenticated
  next sameRef =>
  split at authenticated
  · cases authenticated
  next sameFields =>
  split at authenticated
  · cases authenticated
  next claim claimed =>
  split at authenticated
  · cases authenticated
  next agrees =>
  simp only [Except.ok.injEq] at authenticated
  subst authenticated
  simp only [not_not] at sameRef
  simp only [not_or, not_not, Bool.not_eq_false] at sameFields
  obtain ⟨_, _, _, _, _, sameOperations, _, allowed⟩ := sameFields
  simp only [claimDisagrees, decide_eq_true_eq, not_or, not_not] at agrees
  exact ⟨granted, sameRef, sameOperations ▸ allowed, claim, claimed, agrees⟩

/-- Enforce sticky revocation of grant, attachment and birth. -/
def enforceUnrevoked (store : FakePersist) (binding : ValidatedHelperBinding) :
    Except PersistError Unit :=
  match store.helperGrant binding.birthId binding.attemptId with
  | none => .error .unauthorized
  | some grant =>
  if grant.revoked then .error .unauthorized
  else
  match store.attachments[binding.attemptId]? with
  | none => .error .unauthorized
  | some attachment =>
  if attachment.revoked then .error .unauthorized
  else
  match store.births[binding.birthId]? with
  | none => .error .unauthorized
  | some birth => if birth.revoked then .error .unauthorized else .ok ()

/-- An unrevoked binding has a live grant and a live attachment. -/
theorem enforceUnrevoked_ok {store : FakePersist} {binding : ValidatedHelperBinding}
    (unrevoked : store.enforceUnrevoked binding = .ok ()) :
    (∃ grant, store.helperGrant binding.birthId binding.attemptId = some grant ∧
      grant.revoked = false) ∧
    ∃ attachment, store.attachments[binding.attemptId]? = some attachment ∧
      attachment.revoked = false := by
  unfold enforceUnrevoked at unrevoked
  split at unrevoked
  · cases unrevoked
  next grant granted =>
  split at unrevoked
  · cases unrevoked
  next liveGrant =>
  split at unrevoked
  · cases unrevoked
  next attachment attached =>
  split at unrevoked
  · cases unrevoked
  next liveAttachment =>
  exact ⟨⟨grant, granted, by simpa using liveGrant⟩, attachment, attached,
    by simpa using liveAttachment⟩

/-- Authorize an unseen helper request against current authority. -/
def authorizeFreshUse (store : FakePersist) (binding : ValidatedHelperBinding) :
    Except PersistError Unit :=
  match store.helperGrant binding.birthId binding.attemptId with
  | none => .error .unauthorized
  | some grant =>
  if grant.operations ≠ binding.operations ∨
      grant.leaseUntil ≠ binding.leaseUntil then .error .unauthorized
  else if grant.leaseUntil ≤ store.now ∨ binding.leaseUntil ≤ store.now then
    .error .unauthorized
  else
  match store.arms[binding.armId]? with
  | none => .error .unauthorized
  | some arm =>
  if arm.generation ≠ binding.generation ∨ arm.seatId ≠ binding.seatId ∨
      arm.coverageUntil ≤ store.now then .error .unauthorized
  else
  match store.attachments[binding.attemptId]? with
  | none => .error .unauthorized
  | some attachment =>
  if attachment.birthId ≠ binding.birthId ∨ attachment.seatId ≠ binding.seatId ∨
      attachment.armId ≠ binding.armId ∨
      attachment.generation ≠ binding.generation ∨
      attachment.capability ≠ arm.capability ∨
      attachment.leaseUntil ≤ store.now then .error .unauthorized
  else
  match store.births[binding.birthId]? with
  | none => .error .unauthorized
  | some birth =>
  if birth.revoked = true ∨ birth.armId ≠ binding.armId ∨
      birth.seatId ≠ binding.seatId ∨ birth.generation ≠ binding.generation ∨
      birth.capability ≠ arm.capability ∨ birth.leaseUntil ≤ store.now then
    .error .unauthorized
  else if attachment.leaseUntil < grant.leaseUntil ∨
      birth.leaseUntil < grant.leaseUntil ∨
      arm.coverageUntil < grant.leaseUntil then .error .unauthorized
  else if store.attemptLost binding.attemptId ∨
      store.handledComplete binding.attemptId ∨
      store.attemptTerminal binding.attemptId then .error .invalidTransition
  else .ok ()

/-- Fresh use needs an attachment, a birth and an attempt that is still open. -/
theorem authorizeFreshUse_ok {store : FakePersist} {binding : ValidatedHelperBinding}
    (authorized : store.authorizeFreshUse binding = .ok ()) :
    (∃ attachment, store.attachments[binding.attemptId]? = some attachment ∧
      attachment.birthId = binding.birthId) ∧
    (∃ birth, store.births[binding.birthId]? = some birth) ∧
    store.attemptLost binding.attemptId = false ∧
    store.handledComplete binding.attemptId = false ∧
    store.attemptTerminal binding.attemptId = false := by
  unfold authorizeFreshUse at authorized
  split at authorized
  · cases authorized
  split at authorized
  · cases authorized
  split at authorized
  · cases authorized
  split at authorized
  · cases authorized
  split at authorized
  · cases authorized
  split at authorized
  · cases authorized
  next attachment attached =>
  split at authorized
  · cases authorized
  next matched =>
  split at authorized
  · cases authorized
  next birth born =>
  split at authorized
  · cases authorized
  split at authorized
  · cases authorized
  split at authorized
  · cases authorized
  next lifecycle =>
  simp only [not_or, not_not, Bool.not_eq_true] at matched lifecycle
  exact ⟨⟨attachment, attached, matched.1⟩, ⟨birth, born⟩, lifecycle⟩

/-! ## Grants -/

/-- Whether a re-issue changes the bound identity of a grant. -/
def reissueRejected (existing grant : PersistedHelperGrant) : Bool :=
  decide (existing.seatId ≠ grant.seatId ∨ existing.armId ≠ grant.armId ∨
    existing.generation ≠ grant.generation ∨ existing.birthId ≠ grant.birthId ∨
    existing.attemptId ≠ grant.attemptId ∨ existing.signalId ≠ grant.signalId ∨
    existing.claimDigest ≠ grant.claimDigest ∨
    existing.operations ≠ grant.operations ∨
    existing.executableIdentity ≠ grant.executableIdentity)

/-- Identity a rotation retires. -/
def retiredIdentity (grant : PersistedHelperGrant) : PersistedRetiredGrant where
  grantRef := grant.grantRef
  grantVerifier := grant.grantVerifier

/-- The store after a rotation. -/
def withRotatedGrant (store : FakePersist) (existing grant : PersistedHelperGrant) :
    FakePersist :=
  { store with
    grants := modifyFirst (grantOf grant.birthId grant.attemptId)
      (fun _ => grant) store.grants
    retiredGrants := store.retiredGrants ++ [retiredIdentity existing] }

/-- Mint a grant or rotate the live one of its birth and attempt. -/
def persistHelperGrant (grant : PersistedHelperGrant) (store : FakePersist) :
    Except PersistError (Unit × FakePersist) :=
  match store.validateGrantMint grant with
  | .error refusal => .error refusal
  | .ok () =>
  if store.grantIdentityRetired grant then .error .conflict
  else
  match store.helperGrant grant.birthId grant.attemptId with
  | none => .ok ((), { store with grants := store.grants ++ [grant] })
  | some existing =>
  if existing = grant then .ok ((), store)
  else if existing.revoked then .error .conflict
  else if reissueRejected existing grant then .error .conflict
  else if existing.grantRef = grant.grantRef ∨
      existing.grantVerifier = grant.grantVerifier then .error .conflict
  else .ok ((), store.withRotatedGrant existing grant)

/-- A persisted grant is already stored, new, or rotates the live one. -/
theorem persistHelperGrant_cases {grant : PersistedHelperGrant}
    {store next : FakePersist} {answer : Unit}
    (persisted : persistHelperGrant grant store = .ok (answer, next)) :
    store.validateGrantMint grant = .ok () ∧
    store.grantIdentityRetired grant = false ∧
    ((store.helperGrant grant.birthId grant.attemptId = some grant ∧ next = store) ∨
      (store.helperGrant grant.birthId grant.attemptId = none ∧
        next = { store with grants := store.grants ++ [grant] }) ∨
      (∃ existing,
        store.helperGrant grant.birthId grant.attemptId = some existing ∧
        existing.revoked = false ∧ existing.grantRef ≠ grant.grantRef ∧
        existing.grantVerifier ≠ grant.grantVerifier ∧
        next = store.withRotatedGrant existing grant)) := by
  unfold persistHelperGrant at persisted
  split at persisted
  · cases persisted
  next valid =>
  split at persisted
  · cases persisted
  next fresh =>
  refine ⟨valid, by simpa using fresh, ?_⟩
  split at persisted
  · next vacant =>
    simp only [Except.ok.injEq, Prod.mk.injEq] at persisted
    exact .inr (.inl ⟨vacant, persisted.2.symm⟩)
  next existing granted =>
  split at persisted
  · next same =>
    simp only [Except.ok.injEq, Prod.mk.injEq] at persisted
    exact .inl ⟨same ▸ granted, persisted.2.symm⟩
  split at persisted
  · cases persisted
  next live =>
  split at persisted
  · cases persisted
  split at persisted
  · cases persisted
  next different =>
  simp only [not_or] at different
  simp only [Except.ok.injEq, Prod.mk.injEq] at persisted
  exact .inr (.inr ⟨existing, granted, by simpa using live, different.1,
    different.2, persisted.2.symm⟩)

/-- The store after a grant revocation. -/
def withRevokedGrant (store : FakePersist) (birthId : ControllerBirthId)
    (attemptId : AttemptId) : FakePersist :=
  { store with
    grants := modifyFirst (grantOf birthId attemptId)
      (fun grant => { grant with revoked := true }) store.grants }

/-- Revoke the exact grant instance a scope names. -/
def revokeHelperGrant (scope : HelperRevocationScope) (store : FakePersist) :
    Except PersistError (IdempotentWrite × FakePersist) :=
  match store.helperGrant scope.birthId scope.attemptId with
  | none => .error .unauthorized
  | some grant =>
      if grant.grantRef ≠ scope.grantRef then .error .unauthorized
      else if grant.revoked then .ok (.exactReplay, store)
      else .ok (.recorded, store.withRevokedGrant scope.birthId scope.attemptId)

/-- A revocation that succeeds finds the named grant and leaves it revoked. -/
theorem revokeHelperGrant_cases {scope : HelperRevocationScope}
    {store next : FakePersist} {outcome : IdempotentWrite}
    (revoked : revokeHelperGrant scope store = .ok (outcome, next)) :
    ∃ grant, store.helperGrant scope.birthId scope.attemptId = some grant ∧
      grant.grantRef = scope.grantRef ∧
      ((next = store ∧ grant.revoked = true) ∨
        next = store.withRevokedGrant scope.birthId scope.attemptId) := by
  unfold revokeHelperGrant at revoked
  split at revoked
  · cases revoked
  next grant granted =>
  split at revoked
  · cases revoked
  next sameRef =>
  refine ⟨grant, granted, by simpa using sameRef, ?_⟩
  split at revoked
  · next already =>
    simp only [Except.ok.injEq, Prod.mk.injEq] at revoked
    exact .inl ⟨revoked.2.symm, already⟩
  · simp only [Except.ok.injEq, Prod.mk.injEq] at revoked
    exact .inr revoked.2.symm

/-! ## Retrieve -/

section Exchanges

variable [Blake3]

/-- Permit for a recorded retrieve. -/
def mintRetrievePermit (binding : ValidatedHelperBinding) (requestId : RequestNonce)
    (recorded : RecordedRetrieveResult) (provenance : PermitProvenance) :
    ClaimMaterializationPermit where
  grantRef := binding.grantRef
  bindingDigest := canonicalBindingDigest binding
  requestId := requestId
  retrievalId := recorded.retrievalId
  claimDigest := binding.claimDigest
  payloadRef := recorded.claimPayloadRef
  provenance := provenance

/-- Index row of a retrieval. -/
def retrievalRow (exchange : RetrieveExchange) (result : RecordedRetrieveResult) :
    PersistedRetrievalRecord where
  retrievalId := result.retrievalId
  bindingDigest := canonicalBindingDigest exchange.binding
  origin := snapshotBindingIdentity exchange.binding
  result := result

/-- Replay row of a retrieve. -/
def retrieveReplayRow (exchange : RetrieveExchange) (result : RecordedRetrieveResult) :
    PersistedRetrieveReplay where
  requestId := exchange.requestId
  bindingDigest := canonicalBindingDigest exchange.binding
  origin := snapshotBindingIdentity exchange.binding
  canonicalBodyDigest := exchange.canonicalBodyDigest
  result := result

/-- The store after a fresh retrieve. -/
def withRetrieve (store : FakePersist) (exchange : RetrieveExchange)
    (result : RecordedRetrieveResult) : FakePersist :=
  { store with
    retrievals := store.retrievals.insert result.retrievalId
      (retrievalRow exchange result)
    retrieveReplays := store.retrieveReplays.insert exchange.requestId
      (retrieveReplayRow exchange result) }

/-- Record a retrieve exchange.  The retrieval id is the next random draw. -/
def recordRetrieveExchange (exchange : RetrieveExchange)
    (retrievalId : Option RetrievalId) (store : FakePersist) :
    Except PersistError (IdempotentResult AuthorizedRetrieve × FakePersist) :=
  match store.authenticateBinding exchange.binding .retrieve with
  | .error refusal => .error refusal
  | .ok _ =>
  match store.enforceUnrevoked exchange.binding with
  | .error refusal => .error refusal
  | .ok () =>
  if canonicalRetrieveBodyDigest (canonicalBindingDigest exchange.binding)
      exchange.requestId ≠ exchange.canonicalBodyDigest then .error .conflict
  else if store.ackReplays.contains exchange.requestId then .error .conflict
  else
  match store.retrieveReplays[exchange.requestId]? with
  | some stored =>
      if stored.bindingDigest = canonicalBindingDigest exchange.binding ∧
          stored.canonicalBodyDigest = exchange.canonicalBodyDigest then
        .ok (.exactReplay ⟨stored.result, mintRetrievePermit exchange.binding
          exchange.requestId stored.result .exactReplay⟩, store)
      else .error .conflict
  | none =>
  match store.authorizeFreshUse exchange.binding with
  | .error refusal => .error refusal
  | .ok () =>
  match store.claimForAttempt exchange.binding.attemptId with
  | none => .error .unauthorized
  | some claim =>
  if store.payloads.contains claim.payloadRef = false then
    .error .payloadUnavailable
  else
  match claim.eventRefs.asSlice.getLast? with
  | none => .error .invalidTransition
  | some newest =>
  match retrievalId with
  | none => .error .storageUnavailable
  | some retrievalId =>
  if claim.eventRefs.asSlice.length < 256 then
    let result : RecordedRetrieveResult :=
      ⟨retrievalId, claim.payloadRef, newest,
        UInt8.ofNat claim.eventRefs.asSlice.length, store.now⟩
    .ok (.recorded ⟨result, mintRetrievePermit exchange.binding exchange.requestId
      result .fresh⟩, store.withRetrieve exchange result)
  else .error .invalidTransition

/-- A recorded retrieve is a replay or a fresh one under current authority. -/
theorem recordRetrieveExchange_cases {exchange : RetrieveExchange}
    {retrievalId : Option RetrievalId} {store next : FakePersist}
    {answer : IdempotentResult AuthorizedRetrieve}
    (recorded : recordRetrieveExchange exchange retrievalId store =
      .ok (answer, next)) :
    (∃ grant, store.authenticateBinding exchange.binding .retrieve = .ok grant) ∧
    store.enforceUnrevoked exchange.binding = .ok () ∧
    canonicalRetrieveBodyDigest (canonicalBindingDigest exchange.binding)
      exchange.requestId = exchange.canonicalBodyDigest ∧
    store.ackReplays[exchange.requestId]? = none ∧
    ((∃ stored, store.retrieveReplays[exchange.requestId]? = some stored ∧
        stored.bindingDigest = canonicalBindingDigest exchange.binding ∧
        stored.canonicalBodyDigest = exchange.canonicalBodyDigest ∧
        answer = .exactReplay ⟨stored.result, mintRetrievePermit exchange.binding
          exchange.requestId stored.result .exactReplay⟩ ∧
        next = store) ∨
      (store.retrieveReplays[exchange.requestId]? = none ∧
        store.authorizeFreshUse exchange.binding = .ok () ∧
        ∃ claim result,
          store.claimForAttempt exchange.binding.attemptId = some claim ∧
          retrievalId = some result.retrievalId ∧
          retrieveResultMatchesClaim result claim = true ∧
          result.retrievedAt = store.now ∧
          answer = .recorded ⟨result, mintRetrievePermit exchange.binding
            exchange.requestId result .fresh⟩ ∧
          next = store.withRetrieve exchange result)) := by
  unfold recordRetrieveExchange at recorded
  split at recorded
  · cases recorded
  next grant authenticated =>
  split at recorded
  · cases recorded
  next unrevoked =>
  split at recorded
  · cases recorded
  next digest =>
  split at recorded
  · cases recorded
  next unacknowledged =>
  refine ⟨⟨grant, authenticated⟩, unrevoked, by simpa using digest,
    (BTreeMap.contains_eq_false_iff _ _).1 (eq_false_of_ne_true unacknowledged), ?_⟩
  split at recorded
  · next stored replayed =>
    split at recorded
    · next same =>
      simp only [Except.ok.injEq, Prod.mk.injEq] at recorded
      exact .inl ⟨stored, replayed, same.1, same.2, recorded.1.symm,
        recorded.2.symm⟩
    · cases recorded
  next unseen =>
  split at recorded
  · cases recorded
  next authorized =>
  split at recorded
  · cases recorded
  next claim claimed =>
  split at recorded
  · cases recorded
  split at recorded
  · cases recorded
  next newest last =>
  split at recorded
  · cases recorded
  next drawn =>
  split at recorded
  · next counted =>
    simp only [Except.ok.injEq, Prod.mk.injEq] at recorded
    refine .inr ⟨unseen, authorized, claim, _, claimed, rfl, ?_, rfl,
      recorded.1.symm, recorded.2.symm⟩
    simp only [retrieveResultMatchesClaim, last, decide_true, Bool.true_and,
      decide_eq_true_eq]
    rw [UInt8.toNat_ofNat_of_lt' counted]
  · cases recorded

/-- Materialize the payload of a claimed batch. -/
def materializeClaimedBatch (binding : ValidatedHelperBinding)
    (permit : ClaimMaterializationPermit) (store : FakePersist) :
    Except PersistError BoundedClaimPayload :=
  match store.authenticateBinding binding .retrieve with
  | .error refusal => .error refusal
  | .ok _ =>
  match store.enforceUnrevoked binding with
  | .error refusal => .error refusal
  | .ok () =>
  if permit.grantRef ≠ binding.grantRef ∨
      permit.bindingDigest ≠ canonicalBindingDigest binding ∨
      permit.claimDigest ≠ binding.claimDigest then .error .unauthorized
  else
  match store.retrieveReplays[permit.requestId]? with
  | none => .error .unauthorized
  | some replay =>
  match store.retrievals[permit.retrievalId]? with
  | none => .error .unauthorized
  | some stored =>
  if replay.requestId ≠ permit.requestId ∨
      replay.bindingDigest ≠ permit.bindingDigest ∨
      replay.canonicalBodyDigest ≠
        canonicalRetrieveBodyDigest replay.bindingDigest permit.requestId ∨
      replay.result.retrievalId ≠ permit.retrievalId ∨
      replay.result ≠ stored.result ∨
      stored.bindingDigest ≠ permit.bindingDigest ∨
      stored.result.claimPayloadRef ≠ permit.payloadRef then .error .unauthorized
  else
  match store.claimForAttempt binding.attemptId with
  | none => .error .unauthorized
  | some claim =>
  if claim.payloadRef ≠ permit.payloadRef ∨
      claim.claimDigest ≠ permit.claimDigest then .error .unauthorized
  else
  match (if permit.provenance = .fresh then store.authorizeFreshUse binding
    else .ok ()) with
  | .error refusal => .error refusal
  | .ok () =>
  match store.payloads[permit.payloadRef]? with
  | none => .error .payloadUnavailable
  | some payload => .ok payload

/-- Materialization needs an authenticated, unrevoked binding. -/
theorem materializeClaimedBatch_ok {binding : ValidatedHelperBinding}
    {permit : ClaimMaterializationPermit} {store : FakePersist}
    {payload : BoundedClaimPayload}
    (materialized : materializeClaimedBatch binding permit store = .ok payload) :
    (∃ grant, store.authenticateBinding binding .retrieve = .ok grant) ∧
      store.enforceUnrevoked binding = .ok () ∧
      permit.grantRef = binding.grantRef := by
  unfold materializeClaimedBatch at materialized
  split at materialized
  · cases materialized
  next grant authenticated =>
  split at materialized
  · cases materialized
  next unrevoked =>
  split at materialized
  · cases materialized
  next sameGrant =>
  simp only [not_or, not_not] at sameGrant
  exact ⟨⟨grant, authenticated⟩, unrevoked, sameGrant.1⟩

/-! ## Acknowledge -/

/-- Result of a fresh acknowledgement. -/
def acknowledgeResult (store : FakePersist) (binding : ValidatedHelperBinding)
    (request : AcknowledgeRequest) : AcknowledgeResult where
  attemptId := binding.attemptId
  signalId := binding.signalId
  cursor := request.cursor
  acceptedAt := store.now

/-- Replay row of an acknowledgement. -/
def ackReplayRow (store : FakePersist) (binding : ValidatedHelperBinding)
    (request : AcknowledgeRequest) : PersistedAckReplay where
  requestId := request.requestId
  bindingDigest := canonicalBindingDigest binding
  canonicalBodyDigest := request.canonicalBodyDigest
  retrievalId := request.retrievalId
  cursor := request.cursor
  result := store.acknowledgeResult binding request

/-- Coverage row of an acknowledgement. -/
def coverageRow (binding : ValidatedHelperBinding) (cursor : EventRef)
    (newest : Bool) : PersistedHandledCoverage where
  attemptId := binding.attemptId
  signalId := binding.signalId
  cursor := cursor
  coveredThroughNewest := newest

/-- The store after a fresh acknowledgement. -/
def withAcknowledge (store : FakePersist) (binding : ValidatedHelperBinding)
    (request : AcknowledgeRequest) (cursor : EventRef) (newest : Bool) :
    FakePersist :=
  { store with
    handled := store.handled.insert binding.attemptId
      (coverageRow binding cursor newest)
    ackReplays := store.ackReplays.insert request.requestId
      (store.ackReplayRow binding request) }

/-- Furthest of a new position and the one already covered; none when the stored
cursor is not a reference of the claim. -/
def furthestPosition (store : FakePersist) (attemptId : AttemptId)
    (refs : List EventRef) (position : Nat) : Option Nat :=
  match store.handled[attemptId]? with
  | none => some position
  | some existing =>
      match refs.idxOf? existing.cursor with
      | none => none
      | some old => some (max position old)

/-- Acknowledge a retrieved batch up to a cursor. -/
def acknowledgeRetrievedBatch (binding : ValidatedHelperBinding)
    (request : AcknowledgeRequest) (store : FakePersist) :
    Except PersistError (IdempotentResult AcknowledgeResult × FakePersist) :=
  match store.authenticateBinding binding .acknowledge with
  | .error refusal => .error refusal
  | .ok _ =>
  match store.enforceUnrevoked binding with
  | .error refusal => .error refusal
  | .ok () =>
  if canonicalAckBodyDigest (canonicalBindingDigest binding) request.requestId
      request.retrievalId request.cursor ≠ request.canonicalBodyDigest then
    .error .conflict
  else if store.retrieveReplays.contains request.requestId then .error .conflict
  else
  match store.ackReplays[request.requestId]? with
  | some stored =>
      if stored.bindingDigest = canonicalBindingDigest binding ∧
          stored.canonicalBodyDigest = request.canonicalBodyDigest ∧
          stored.retrievalId = request.retrievalId ∧
          stored.cursor = request.cursor then
        .ok (.exactReplay stored.result, store)
      else .error .conflict
  | none =>
  match store.authorizeFreshUse binding with
  | .error refusal => .error refusal
  | .ok () =>
  match store.retrievals[request.retrievalId]? with
  | none => .error .unauthorized
  | some retrieval =>
  if retrieval.bindingDigest ≠ canonicalBindingDigest binding then
    .error .unauthorized
  else
  match store.claimForAttempt binding.attemptId with
  | none => .error .unauthorized
  | some claim =>
  if retrieval.result.claimPayloadRef ≠ claim.payloadRef then .error .unauthorized
  else
  match claim.eventRefs.asSlice.idxOf? request.cursor with
  | none => .error .unauthorized
  | some position =>
  match provedAckIndex claim claim.eventRefs.asSlice
      store.payloads[claim.payloadRef]? with
  | .error refusal => .error refusal
  | .ok provedThrough =>
  if provedThrough < position then .error .invalidTransition
  else if claim.eventRefs.asSlice.length = 0 then .error .invalidTransition
  else
  match store.furthestPosition binding.attemptId claim.eventRefs.asSlice
      position with
  | none => .error .invalidTransition
  | some furthest =>
  match claim.eventRefs.asSlice[furthest]? with
  | none => .error .invalidTransition
  | some cursor =>
      .ok (.recorded (store.acknowledgeResult binding request),
        store.withAcknowledge binding request cursor
          (decide (furthest = claim.eventRefs.asSlice.length - 1)))

/-- An acknowledgement is a replay or a fresh one under current authority. -/
theorem acknowledgeRetrievedBatch_cases {binding : ValidatedHelperBinding}
    {request : AcknowledgeRequest} {store next : FakePersist}
    {answer : IdempotentResult AcknowledgeResult}
    (acknowledged : acknowledgeRetrievedBatch binding request store =
      .ok (answer, next)) :
    (∃ grant, store.authenticateBinding binding .acknowledge = .ok grant) ∧
    store.enforceUnrevoked binding = .ok () ∧
    canonicalAckBodyDigest (canonicalBindingDigest binding) request.requestId
      request.retrievalId request.cursor = request.canonicalBodyDigest ∧
    store.retrieveReplays[request.requestId]? = none ∧
    ((∃ stored, store.ackReplays[request.requestId]? = some stored ∧
        stored.bindingDigest = canonicalBindingDigest binding ∧
        stored.canonicalBodyDigest = request.canonicalBodyDigest ∧
        stored.retrievalId = request.retrievalId ∧
        stored.cursor = request.cursor ∧
        answer = .exactReplay stored.result ∧ next = store) ∨
      (store.ackReplays[request.requestId]? = none ∧
        store.authorizeFreshUse binding = .ok () ∧
        ∃ retrieval claim position proved furthest cursor,
          store.retrievals[request.retrievalId]? = some retrieval ∧
          retrieval.bindingDigest = canonicalBindingDigest binding ∧
          store.claimForAttempt binding.attemptId = some claim ∧
          retrieval.result.claimPayloadRef = claim.payloadRef ∧
          claim.eventRefs.asSlice.idxOf? request.cursor = some position ∧
          provedAckIndex claim claim.eventRefs.asSlice
            store.payloads[claim.payloadRef]? = .ok proved ∧
          position ≤ proved ∧
          store.furthestPosition binding.attemptId claim.eventRefs.asSlice
            position = some furthest ∧
          claim.eventRefs.asSlice[furthest]? = some cursor ∧
          answer = .recorded (store.acknowledgeResult binding request) ∧
          next = store.withAcknowledge binding request cursor
            (decide (furthest = claim.eventRefs.asSlice.length - 1)))) := by
  unfold acknowledgeRetrievedBatch at acknowledged
  split at acknowledged
  · cases acknowledged
  next grant authenticated =>
  split at acknowledged
  · cases acknowledged
  next unrevoked =>
  split at acknowledged
  · cases acknowledged
  next digest =>
  split at acknowledged
  · cases acknowledged
  next unretrieved =>
  refine ⟨⟨grant, authenticated⟩, unrevoked, by simpa using digest,
    (BTreeMap.contains_eq_false_iff _ _).1 (eq_false_of_ne_true unretrieved), ?_⟩
  split at acknowledged
  · next stored replayed =>
    split at acknowledged
    · next same =>
      simp only [Except.ok.injEq, Prod.mk.injEq] at acknowledged
      exact .inl ⟨stored, replayed, same.1, same.2.1, same.2.2.1, same.2.2.2,
        acknowledged.1.symm, acknowledged.2.symm⟩
    · cases acknowledged
  next unseen =>
  split at acknowledged
  · cases acknowledged
  next authorized =>
  split at acknowledged
  · cases acknowledged
  next retrieval retrieved =>
  split at acknowledged
  · cases acknowledged
  next sameBinding =>
  split at acknowledged
  · cases acknowledged
  next claim claimed =>
  split at acknowledged
  · cases acknowledged
  next samePayload =>
  split at acknowledged
  · cases acknowledged
  next position placed =>
  split at acknowledged
  · cases acknowledged
  next proved provedThrough =>
  split at acknowledged
  · cases acknowledged
  next within =>
  split at acknowledged
  · cases acknowledged
  split at acknowledged
  · cases acknowledged
  next furthest advanced =>
  split at acknowledged
  · cases acknowledged
  next cursor covered =>
  simp only [Except.ok.injEq, Prod.mk.injEq] at acknowledged
  exact .inr ⟨unseen, authorized, retrieval, claim, position, proved, furthest,
    cursor, retrieved, by simpa using sameBinding, claimed,
    by simpa using samePayload, placed, provedThrough, by omega, advanced, covered,
    acknowledged.1.symm, acknowledged.2.symm⟩

end Exchanges

/-! ## Re-arm join -/

/-- Join handled coverage and a recognized terminal, once. -/
def tryRearmJoin (scope : RearmJoinScope) (store : FakePersist) :
    Except PersistError (RearmJoinResult × FakePersist) :=
  if store.rearmed.contains scope.join then
    if store.scopeMatchesClaim scope.join && store.handledThroughNewest scope.join &&
        store.attemptTerminal scope.attemptId then
      .ok (.alreadyRearmed, store)
    else .error .conflict
  else if !store.scopeMatchesClaim scope.join ||
      !store.handledThroughNewest scope.join then
    .ok (.waitingForHandled, store)
  else if !store.attemptTerminal scope.attemptId then
    .ok (.waitingForRecognizedTerminal, store)
  else .ok (.rearmed, { store with rearmed := store.rearmed.insert scope.join () })

/-- A join call changes the store only when it rearms, and rearms only when both
sides are there and the join is not. -/
theorem tryRearmJoin_cases {scope : RearmJoinScope} {store next : FakePersist}
    {result : RearmJoinResult}
    (joined : tryRearmJoin scope store = .ok (result, next)) :
    (result ≠ .rearmed ∧ next = store) ∨
      (result = .rearmed ∧ store.rearmed[scope.join]? = none ∧
        store.scopeMatchesClaim scope.join = true ∧
        store.handledThroughNewest scope.join = true ∧
        store.attemptTerminal scope.attemptId = true ∧
        next = { store with rearmed := store.rearmed.insert scope.join () }) := by
  unfold tryRearmJoin at joined
  split at joined
  · split at joined
    · simp only [Except.ok.injEq, Prod.mk.injEq] at joined
      exact .inl ⟨by simp [← joined.1], joined.2.symm⟩
    · cases joined
  next vacant =>
  split at joined
  · simp only [Except.ok.injEq, Prod.mk.injEq] at joined
    exact .inl ⟨by simp [← joined.1], joined.2.symm⟩
  next both =>
  split at joined
  · simp only [Except.ok.injEq, Prod.mk.injEq] at joined
    exact .inl ⟨by simp [← joined.1], joined.2.symm⟩
  next terminal =>
  simp only [Except.ok.injEq, Prod.mk.injEq] at joined
  simp only [Bool.or_eq_true, Bool.not_eq_true', not_or, Bool.not_eq_false] at both
  exact .inr ⟨joined.1.symm,
    (BTreeMap.contains_eq_false_iff _ _).1 (eq_false_of_ne_true vacant), both.1, both.2,
    by simpa using terminal, joined.2.symm⟩

/-- A join that is there and complete answers so and changes nothing. -/
theorem tryRearmJoin_alreadyRearmed {scope : RearmJoinScope} {store : FakePersist}
    (present : store.rearmed.contains scope.join = true)
    (matched : store.scopeMatchesClaim scope.join = true)
    (handled : store.handledThroughNewest scope.join = true)
    (terminal : store.attemptTerminal scope.attemptId = true) :
    tryRearmJoin scope store = .ok (.alreadyRearmed, store) := by
  simp [tryRearmJoin, present, matched, handled, terminal]

end FakePersist
end Gearwit
