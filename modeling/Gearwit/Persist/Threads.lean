import Gearwit.Persist.Store

/-!
# Controller births, thread creation and native coordinates

A birth is reserved together with its thread creation; the creation is resolved
once, and private coordinates open only under the exact scope they were sealed
for.
-/

namespace Gearwit
namespace FakePersist

/-! ## Births -/

/-- The store after a fresh birth reservation. -/
def withBirth (store : FakePersist) (birth : PersistedControllerBirth)
    (create : ThreadCreateReservation) : FakePersist :=
  { store with
    births := store.births.insert birth.birthId birth
    creates := store.creates.insert birth.birthId create
    ownership := store.ownership.insert birth.birthId
      (.reserved create.createAttemptId) }

/-- Reserve a controller birth and its thread creation. -/
def reserveControllerBirth (birth : PersistedControllerBirth)
    (create : ThreadCreateReservation) (store : FakePersist) :
    Except PersistError (ReserveBirthOutcome × FakePersist) :=
  match store.births[birth.birthId]? with
  | some existing =>
      if existing = birth ∧ store.creates[birth.birthId]? = some create then
        .ok (.exactReplay, store)
      else .ok (.conflict, store)
  | none =>
      if birth.birthId ≠ create.birthId then .error .conflict
      else .ok (.reserved, store.withBirth birth create)

/-- A birth reservation changes the store only under a vacant birth. -/
theorem reserveControllerBirth_cases {birth : PersistedControllerBirth}
    {create : ThreadCreateReservation} {store next : FakePersist}
    {outcome : ReserveBirthOutcome}
    (reserved : reserveControllerBirth birth create store = .ok (outcome, next)) :
    (next = store ∧ ∃ existing, store.births[birth.birthId]? = some existing ∧
        outcome ≠ .reserved ∧
        (outcome = .exactReplay ↔
          existing = birth ∧ store.creates[birth.birthId]? = some create)) ∨
      (outcome = .reserved ∧ store.births[birth.birthId]? = none ∧
        birth.birthId = create.birthId ∧ next = store.withBirth birth create) := by
  unfold reserveControllerBirth at reserved
  split at reserved
  · next existing stored =>
    left
    split at reserved
    · next same =>
      simp only [Except.ok.injEq, Prod.mk.injEq] at reserved
      obtain ⟨rfl, rfl⟩ := reserved
      exact ⟨rfl, existing, stored, by decide, by simp [same]⟩
    · next different =>
      simp only [Except.ok.injEq, Prod.mk.injEq] at reserved
      obtain ⟨rfl, rfl⟩ := reserved
      exact ⟨rfl, existing, stored, by decide, by simp [different]⟩
  · next vacant =>
    right
    split at reserved
    · cases reserved
    next sameBirth =>
    simp only [Except.ok.injEq, Prod.mk.injEq] at reserved
    obtain ⟨rfl, rfl⟩ := reserved
    exact ⟨rfl, vacant, by simpa using sameBirth, rfl⟩

/-! ## Thread creation -/

/-- Whether an ownership state may move to another one. -/
def ownershipMoves : ThreadOwnershipState → ThreadOwnershipState → Bool
  | .reserved _, _ => true
  | .unknown _, .owned _ _ => true
  | .unknown _, .provenNotAccepted _ => true
  | _, _ => false

/-- The store after a resolved creation. -/
def withOwnership (store : FakePersist) (birthId : ControllerBirthId)
    (state : ThreadOwnershipState) (evidenceRef : VerifierRef) : FakePersist :=
  { store with
    createEvidenceRefs := store.createEvidenceRefs.insert birthId evidenceRef
    ownership := store.ownership.insert birthId state }

/-- Resolve a reserved thread creation. -/
def resolveThreadCreate (commit : ThreadCreateCommit) (store : FakePersist) :
    Except PersistError (IdempotentWrite × FakePersist) :=
  match store.creates[commit.birthId]? with
  | none => .error .invalidTransition
  | some create =>
      if create.createAttemptId ≠ commit.createAttemptId then .error .conflict
      else
        match store.ownership[commit.birthId]? with
        | none => .error .invalidTransition
        | some current =>
            if current = commit.resolution.state commit.createAttemptId then
              if store.createEvidenceRefs[commit.birthId]? =
                  some commit.evidenceRef then
                .ok (.exactReplay, store)
              else .error .conflict
            else if ownershipMoves current
                (commit.resolution.state commit.createAttemptId) then
              .ok (.recorded, store.withOwnership commit.birthId
                (commit.resolution.state commit.createAttemptId)
                commit.evidenceRef)
            else .error .conflict

/-- A resolution that succeeds replays the stored state or moves it. -/
theorem resolveThreadCreate_cases {commit : ThreadCreateCommit}
    {store next : FakePersist} {outcome : IdempotentWrite}
    (resolved : resolveThreadCreate commit store = .ok (outcome, next)) :
    ∃ create current, store.creates[commit.birthId]? = some create ∧
      create.createAttemptId = commit.createAttemptId ∧
      store.ownership[commit.birthId]? = some current ∧
      ((outcome = .exactReplay ∧ next = store ∧
          current = commit.resolution.state commit.createAttemptId ∧
          store.createEvidenceRefs[commit.birthId]? = some commit.evidenceRef) ∨
        (outcome = .recorded ∧
          ownershipMoves current
            (commit.resolution.state commit.createAttemptId) = true ∧
          current ≠ commit.resolution.state commit.createAttemptId ∧
          next = store.withOwnership commit.birthId
            (commit.resolution.state commit.createAttemptId)
            commit.evidenceRef)) := by
  unfold resolveThreadCreate at resolved
  split at resolved
  · cases resolved
  next create stored =>
  split at resolved
  · cases resolved
  next sameAttempt =>
  split at resolved
  · cases resolved
  next current owned =>
  refine ⟨create, current, stored, by simpa using sameAttempt, owned, ?_⟩
  split at resolved
  · next same =>
    split at resolved
    · next sameEvidence =>
      simp only [Except.ok.injEq, Prod.mk.injEq] at resolved
      exact .inl ⟨resolved.1.symm, resolved.2.symm, same, sameEvidence⟩
    · cases resolved
  · next different =>
    split at resolved
    · next moves =>
      simp only [Except.ok.injEq, Prod.mk.injEq] at resolved
      exact .inr ⟨resolved.1.symm, moves, different, resolved.2.symm⟩
    · cases resolved

/-- Exact ownership state of a birth. -/
def threadOwnershipState (birthId : ControllerBirthId) (store : FakePersist) :
    Except PersistError ThreadOwnershipState :=
  .ok ((store.ownership[birthId]?).getD .absent)

/-! ## Native coordinates -/

/-- Whether an ownership state is open for sealing under a creation attempt. -/
def sealableUnder (createAttemptId : RequestNonce) :
    Option ThreadOwnershipState → Bool
  | some (.reserved reserved) => decide (reserved = createAttemptId)
  | some (.unknown reserved) => decide (reserved = createAttemptId)
  | _ => false

/-- Whether an ownership state owns a thread under a creation attempt. -/
def ownsUnder (createAttemptId : RequestNonce) (nativeRef : Option PrivateNativeRef) :
    Option ThreadOwnershipState → Bool
  | some (.owned owned threadRef) =>
      decide (owned = createAttemptId ∧ some threadRef = nativeRef)
  | _ => false

/-- Whether the store lets a coordinate scope be sealed or opened. -/
def validateCoordinateScope (store : FakePersist) (scope : NativeCoordinateScope)
    (nativeRef : Option PrivateNativeRef) (opening : Bool) :
    Except PersistError Unit :=
  match scope with
  | .thread birthId createAttemptId =>
      match store.creates[birthId]? with
      | none => .error .unauthorized
      | some create =>
          if create.createAttemptId ≠ createAttemptId then .error .unauthorized
          else
            match store.births[birthId]? with
            | none => .error .unauthorized
            | some birth =>
                if birth.revoked then .error .unauthorized
                else if birth.birthId ≠ birthId then .error .unauthorized
                else if !opening && !sealableUnder createAttemptId
                    store.ownership[birthId]? then
                  .error .unauthorized
                else if opening && !ownsUnder createAttemptId nativeRef
                    store.ownership[birthId]? then
                  .error .unauthorized
                else .ok ()
  | .turn birthId attemptId signalId turnWriteId =>
      match store.reservations[attemptId]? with
      | none => .error .unauthorized
      | some reservation =>
          match store.attachments[attemptId]? with
          | none => .error .unauthorized
          | some attachment =>
              if attachment.revoked then .error .unauthorized
              else
                match store.births[birthId]? with
                | none => .error .unauthorized
                | some birth =>
                    if birth.revoked then .error .unauthorized
                    else if reservation.correlation.birthId ≠ birthId ∨
                        reservation.correlation.attemptId ≠ attemptId ∨
                        reservation.correlation.signalId ≠ signalId ∨
                        reservation.correlation.turnWriteId ≠ turnWriteId ∨
                        attachment.birthId ≠ birthId ∨
                        attachment.armId ≠ birth.armId ∨
                        attachment.generation ≠ birth.generation ∨
                        attachment.seatId ≠ birth.seatId ∨
                        attachment.capability ≠ birth.capability ∨
                        (opening = true ∧
                          reservation.correlation.turnRef ≠ nativeRef) ∨
                        (opening = false ∧
                          reservation.correlation.turnRef ≠ none) then
                      .error .unauthorized
                    else .ok ()

/-- Whether sealing again what is already sealed counts as an opening. -/
def replayOpens (store : FakePersist) (scope : NativeCoordinateScope)
    (nativeRef : PrivateNativeRef) : Bool :=
  match scope with
  | .turn _ attemptId _ _ =>
      match store.reservations[attemptId]? with
      | none => false
      | some reservation => decide (reservation.correlation.turnRef = some nativeRef)
  | .thread birthId _ =>
      match store.ownership[birthId]? with
      | some (.owned _ threadRef) => decide (threadRef = nativeRef)
      | _ => false

/-- The store after a fresh seal. -/
def withCoordinate (store : FakePersist) (nativeRef : PrivateNativeRef)
    (scope : NativeCoordinateScope) (coordinate : SecretNativeCoordinate) :
    FakePersist :=
  { store with
    privateRecovery :=
      store.privateRecovery.insert nativeRef ⟨scope, coordinate.plaintext⟩ }

/-- Seal a private coordinate under a scope.  The references are the random
draws in order; the first unused one is taken, and running out of draws is an
entropy failure. -/
def sealNativeCoordinate (scope : NativeCoordinateScope)
    (coordinate : SecretNativeCoordinate) (draws : List PrivateNativeRef)
    (store : FakePersist) : Except PersistError (PrivateNativeRef × FakePersist) :=
  if scope.kind ≠ coordinate.kind then .error .unauthorized
  else
    match store.privateRecovery.toList.find? fun entry =>
        decide (entry.2.scope = scope ∧ entry.2.plaintext = coordinate.plaintext) with
    | some (nativeRef, _) =>
        match store.validateCoordinateScope scope (some nativeRef)
            (store.replayOpens scope nativeRef) with
        | .error refusal => .error refusal
        | .ok () => .ok (nativeRef, store)
    | none =>
        match store.validateCoordinateScope scope none false with
        | .error refusal => .error refusal
        | .ok () =>
            match draws.find? fun nativeRef =>
                !store.privateRecovery.contains nativeRef with
            | none => .error .storageUnavailable
            | some nativeRef =>
                .ok (nativeRef, store.withCoordinate nativeRef scope coordinate)

/-- A seal that succeeds finds its coordinate or stores it under an unused
reference. -/
theorem sealNativeCoordinate_cases {scope : NativeCoordinateScope}
    {coordinate : SecretNativeCoordinate} {draws : List PrivateNativeRef}
    {store next : FakePersist} {nativeRef : PrivateNativeRef}
    (sealed : sealNativeCoordinate scope coordinate draws store =
      .ok (nativeRef, next)) :
    scope.kind = coordinate.kind ∧
      ((next = store ∧ store.privateRecovery[nativeRef]? =
          some ⟨scope, coordinate.plaintext⟩) ∨
        (store.privateRecovery[nativeRef]? = none ∧
          store.validateCoordinateScope scope none false = .ok () ∧
          next = store.withCoordinate nativeRef scope coordinate)) := by
  unfold sealNativeCoordinate at sealed
  split at sealed
  · cases sealed
  next kinds =>
  refine ⟨by simpa using kinds, ?_⟩
  split at sealed
  · next found stored first =>
    split at sealed
    · cases sealed
    simp only [Except.ok.injEq, Prod.mk.injEq] at sealed
    obtain ⟨rfl, rfl⟩ := sealed
    have matched := List.find?_some first
    simp only [decide_eq_true_eq] at matched
    have present := Std.ExtTreeMap.mem_toList_iff_getElem?_eq_some.1
      (List.mem_of_find?_eq_some first)
    refine .inl ⟨rfl, ?_⟩
    rw [present, ← matched.1, ← matched.2]
  · split at sealed
    · cases sealed
    next valid =>
    split at sealed
    · cases sealed
    next drawn picked =>
    simp only [Except.ok.injEq, Prod.mk.injEq] at sealed
    obtain ⟨rfl, rfl⟩ := sealed
    have unused := List.find?_some picked
    simp only [Bool.not_eq_true'] at unused
    exact .inr ⟨(BTreeMap.contains_eq_false_iff _ _).1 unused, valid, rfl⟩

/-- Open a private coordinate under its exact scope. -/
def openNativeCoordinate (scope : NativeCoordinateScope)
    (nativeRef : PrivateNativeRef) (store : FakePersist) :
    Except PersistError (List UInt8) :=
  match store.validateCoordinateScope scope (some nativeRef) true with
  | .error refusal => .error refusal
  | .ok () =>
      match store.privateRecovery[nativeRef]? with
      | none => .error .unauthorized
      | some coordinate =>
          if coordinate.scope = scope then .ok coordinate.plaintext
          else .error .unauthorized

end FakePersist
end Gearwit
