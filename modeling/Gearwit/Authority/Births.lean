import Gearwit.Authority.Mirror

/-!
# Thread creation is reserved once and resolved once

The store accepts any vacant birth; only the image of the authority knows which arms and
generations have one.  No two births share an arm and a generation, across crashes,
refusals and recoveries, unless an authority that came up over births and never recovered
operates.  The store alone keeps the creations moving forward, and a claim is admitted
only under a birth that is owned there.
-/

namespace Gearwit

open FakePersist

/-! ## Births of a store -/

namespace FakePersist

/-- Moves of a thread creation: it is reserved once and resolved once, possibly through
a quarantine. -/
inductive CreationMoves : Option ThreadOwnershipState → Option ThreadOwnershipState → Prop
  | stays (state : Option ThreadOwnershipState) : CreationMoves state state
  | reserved (createAttemptId : RequestNonce) :
      CreationMoves none (some (.reserved createAttemptId))
  | quarantined (createAttemptId other : RequestNonce) :
      CreationMoves (some (.reserved createAttemptId)) (some (.unknown other))
  | owned (createAttemptId other : RequestNonce) (threadRef : PrivateNativeRef) :
      CreationMoves (some (.reserved createAttemptId)) (some (.owned other threadRef))
  | notAccepted (createAttemptId other : RequestNonce) :
      CreationMoves (some (.reserved createAttemptId)) (some (.provenNotAccepted other))
  | ownedLate (createAttemptId other : RequestNonce) (threadRef : PrivateNativeRef) :
      CreationMoves (some (.unknown createAttemptId)) (some (.owned other threadRef))
  | notAcceptedLate (createAttemptId other : RequestNonce) :
      CreationMoves (some (.unknown createAttemptId)) (some (.provenNotAccepted other))

/-- A resolution is one of the moves. -/
theorem creationMoves_of_moves {current : ThreadOwnershipState}
    (resolution : ThreadCreateResolution) (createAttemptId : RequestNonce)
    (moves : current = resolution.state createAttemptId ∨
      ownershipMoves current (resolution.state createAttemptId) = true) :
    CreationMoves (some current) (some (resolution.state createAttemptId)) := by
  rcases moves with rfl | moves
  · exact .stays _
  · cases current with
    | reserved known =>
        cases resolution with
        | owned threadRef => exact .owned known createAttemptId threadRef
        | provenNotAccepted => exact .notAccepted known createAttemptId
        | unknown => exact .quarantined known createAttemptId
    | unknown known =>
        cases resolution with
        | owned threadRef => exact .ownedLate known createAttemptId threadRef
        | provenNotAccepted => exact .notAcceptedLate known createAttemptId
        | unknown => cases moves
    | absent | owned _ _ | provenNotAccepted _ => cases moves

/-- No two births share an arm and a generation. -/
def BirthsDistinct (store : FakePersist) : Prop :=
  ∀ (first second : ControllerBirthId) birth other,
    store.births[first]? = some birth → store.births[second]? = some other →
      birth.armId = other.armId → birth.generation = other.generation → first = second

/-- Stores with the same births keep them distinct alike. -/
theorem BirthsDistinct.congr {store next : FakePersist} (distinct : BirthsDistinct store)
    (same : next.image.births = store.image.births) : BirthsDistinct next := by
  change next.births = store.births at same
  unfold BirthsDistinct
  rw [same]
  exact distinct

/-- A birth of an unborn arm and generation keeps births distinct. -/
theorem BirthsDistinct.insert {store next : FakePersist} (distinct : BirthsDistinct store)
    {birth : PersistedControllerBirth}
    (unborn : ∀ row ∈ BTreeMap.rows store.births,
      ¬(row.armId = birth.armId ∧ row.generation = birth.generation))
    (same : next.image.births = store.births.insert birth.birthId birth) :
    BirthsDistinct next := by
  change next.births = _ at same
  have other : ∀ (birthId : ControllerBirthId) row, store.births[birthId]? = some row →
      row.armId = birth.armId → row.generation ≠ birth.generation :=
    fun birthId row stored sameArm sameGeneration =>
      unborn row ((BTreeMap.mem_rows _ _).2 ⟨birthId, stored⟩) ⟨sameArm, sameGeneration⟩
  intro first second row known firstStored secondStored sameArm sameGeneration
  rw [same, BTreeMap.getElem?_insert_eq] at firstStored secondStored
  split at firstStored <;> split at secondStored
  · next firstKey secondKey => exact firstKey.symm.trans secondKey
  · obtain rfl := Option.some.inj firstStored
    exact absurd sameGeneration.symm (other second known secondStored sameArm.symm)
  · obtain rfl := Option.some.inj secondStored
    exact absurd sameGeneration (other first row firstStored sameArm)
  · exact distinct first second row known firstStored secondStored sameArm sameGeneration

/-- Every creation, reserved or in a state, is that of a birth. -/
structure CreationsBorn (store : FakePersist) : Prop where
  reserved : ∀ (birthId : ControllerBirthId) create,
    store.creates[birthId]? = some create → ∃ birth, store.births[birthId]? = some birth
  stated : ∀ (birthId : ControllerBirthId) state,
    store.ownership[birthId]? = some state → ∃ birth, store.births[birthId]? = some birth

section Runs

variable [Blake3] {store next : FakePersist}

/-- Every operation keeps creations with their births. -/
theorem Effect.creationsBorn {operation : PortOp} (effect : Effect store operation next)
    (born : CreationsBorn store) : CreationsBorn next := by
  cases effect with
  | birth birth create =>
      refine ⟨fun birthId row present => ?_, fun birthId state present => ?_⟩
      · simp only [withBirth, BTreeMap.getElem?_insert_eq] at present ⊢
        split at present
        · next same => exact ⟨birth, if_pos same⟩
        · next other =>
          rw [if_neg other]
          exact born.reserved birthId row present
      · simp only [withBirth, BTreeMap.getElem?_insert_eq] at present ⊢
        split at present
        · next same => exact ⟨birth, if_pos same⟩
        · next other =>
          rw [if_neg other]
          exact born.stated birthId state present
  | ownership request current owned moves =>
      refine ⟨born.reserved, fun birthId state present => ?_⟩
      simp only [withOwnership, BTreeMap.getElem?_insert_eq] at present
      split at present
      · next same => exact same ▸ born.stated _ current owned
      · exact born.stated birthId state present
  | recovered draws =>
      rw [classified_frame]
      refine ⟨born.reserved, fun birthId state present => ?_⟩
      rw [Std.ExtTreeMap.getElem?_map, Option.map_eq_some_iff] at present
      obtain ⟨before, stored, _⟩ := present
      exact born.stated birthId before stored
  | _ => exact ⟨born.reserved, born.stated⟩

/-- Creations belong to births in every reachable store. -/
theorem creationsBorn_after (activeMacKey : Bytes32) (operations : List PortOp) :
    CreationsBorn (after activeMacKey operations) :=
  Transition.invariant_run _ (fun store operation born =>
    (step_effect store operation).creationsBorn born)
    ⟨fun _ _ present => by simp [FakePersist.default] at present,
      fun _ _ present => by simp [FakePersist.default] at present⟩ operations

end Runs

end FakePersist

/-! ## One move of a daemon -/

namespace DaemonRun

section Runs

variable [Blake3] [Rfc3339] {activeMacKey : Bytes32} {run : DaemonRun}

omit [Rfc3339] in
/-- Creations of a run belong to births. -/
theorem Coherent.creationsBorn (coherent : Coherent activeMacKey run) :
    CreationsBorn run.world.store := by
  obtain ⟨operations, same⟩ := coherent.reached.exists_after
  rw [same]
  exact creationsBorn_after activeMacKey operations

/-- A move makes one joint change, or it recovers: then it quarantines the creations of
the store, unless it failed before. -/
theorem Coherent.move_cases (coherent : Coherent activeMacKey run) (move : DaemonMove) :
    (¬move.Rebuilds ∧ ∃ completes, DaemonAuthority.Joint (run.world.allow completes).authority
        (run.step move).world.authority) ∨
      (move.Rebuilds ∧
        ((run.step move).world.store.image = run.world.store.image.quarantined ∨
          ((run.step move).footing ≠ .whole ∧
            (run.step move).world.store.image = run.world.store.image))) := by
  by_cases rebuilds : move.Rebuilds
  · refine .inr ⟨rebuilds, ?_⟩
    obtain ⟨authority, draws, stored, _, reached, refusal⟩ :=
      coherent.rebuilds_recovery rebuilds
    have keyed : TablesKeyed authority.store := stored ▸ coherent.keyed
    change (run.step move).world.authority.store.image = _ ∨
      (_ ∧ (run.step move).world.authority.store.image = _)
    cases done : authority.recover draws with
    | mk reply next =>
    rw [done] at reached refusal
    rw [reached, ← stored]
    rcases DaemonAuthority.recover_image keyed done with
      ⟨_, _, quarantined⟩ | ⟨refused, _, same | quarantined⟩
    · exact .inl quarantined
    · exact .inr ⟨(refusal refused).1, same⟩
    · exact .inl quarantined
  · refine .inl ⟨rebuilds, ?_⟩
    cases move with
    | recover draws => exact absurd trivial rebuilds
    | event event =>
        exact ⟨event.completes, AuthorityWorld.perform_joint _ _
          fun now draws called => rebuilds ⟨now, draws, called⟩⟩

/-- Births stay distinct unless an authority that came up over births and never recovered
operates. -/
theorem Coherent.birthsDistinct (coherent : Coherent activeMacKey run) {move : DaemonMove}
    (used : run.footing ≠ .unrecovered ∨ move.Rebuilds)
    (distinct : BirthsDistinct run.world.store) :
    BirthsDistinct (run.step move).world.store := by
  have kept : ∀ {stored : Image},
      (run.step move).world.authority.store.image = stored →
      stored.births = run.world.store.births →
      BirthsDistinct (run.step move).world.store := fun same births =>
    distinct.congr ((congrArg Image.births same).trans births)
  rcases coherent.move_cases move with ⟨operates, completes, joint⟩ | ⟨_, stored⟩
  · have births : run.world.authority.births = run.world.store.births :=
      coherent.bears.births (used.resolve_right operates)
    cases joint with
    | keeps joined => exact kept joined.stored rfl
    | birth birth create unborn vacant image stored =>
        refine distinct.insert ?_ (congrArg Image.births stored)
        rw [← births]
        exact unborn coherent.trails.armsKeyed
    | claim admission attachment payloadRef counted numbered carried unclaimed unused
        unattached image stored =>
        exact kept (congrArg FakePersist.image stored) rfl
    | arm arm image stored => exact kept stored rfl
    | ownership birthId current state resolved owned moves image stored =>
        exact kept stored rfl
    | revoked attemptId attachment row found present image stored => exact kept stored rfl
  · rcases stored with stored | ⟨_, stored⟩ <;> exact kept stored rfl

omit [Blake3] [Rfc3339] in
/-- A quarantine is one of the moves. -/
theorem creationMoves_quarantine (state : Option ThreadOwnershipState) :
    CreationMoves state (state.map quarantineReserved) := by
  cases state with
  | none => exact .stays none
  | some state =>
      cases state with
      | reserved createAttemptId => exact .quarantined _ _
      | absent | unknown _ | owned _ _ | provenNotAccepted _ => exact .stays _

/-- Every creation moves forward. -/
theorem Coherent.creationMoves (coherent : Coherent activeMacKey run) (move : DaemonMove)
    (birthId : ControllerBirthId) :
    CreationMoves run.world.store.ownership[birthId]?
      (run.step move).world.store.ownership[birthId]? := by
  have inserted : ∀ {stored : Image} {other : ControllerBirthId}
      {state : ThreadOwnershipState},
      stored.ownership = run.world.store.ownership.insert other state →
      CreationMoves run.world.store.ownership[other]? (some state) →
      CreationMoves run.world.store.ownership[birthId]? stored.ownership[birthId]? := by
    intro stored other state same moves
    rw [same, BTreeMap.getElem?_insert_eq]
    split
    · next here => exact here ▸ moves
    · exact .stays _
  have kept : ∀ {stored : Image}, stored.ownership = run.world.store.ownership →
      CreationMoves run.world.store.ownership[birthId]? stored.ownership[birthId]? :=
    fun same => by rw [same]; exact .stays _
  have quarantined : ∀ {stored : Image}, stored = run.world.store.image.quarantined →
      CreationMoves run.world.store.ownership[birthId]? stored.ownership[birthId]? := by
    intro stored same
    rw [same]
    change CreationMoves _ (run.world.store.ownership.map _)[birthId]?
    rw [Std.ExtTreeMap.getElem?_map]
    exact creationMoves_quarantine _
  rcases coherent.move_cases move with ⟨_, completes, joint⟩ | ⟨_, stored⟩
  · cases joint with
    | keeps joined => exact kept (congrArg Image.ownership joined.stored)
    | arm arm image stored => exact kept (congrArg Image.ownership stored)
    | birth birth create unborn vacant image stored =>
        refine inserted (congrArg Image.ownership stored) ?_
        have absent : run.world.store.ownership[birth.birthId]? = none := by
          cases present : run.world.store.ownership[birth.birthId]? with
          | none => rfl
          | some state =>
              obtain ⟨row, born⟩ := coherent.creationsBorn.stated _ _ present
              change run.world.store.births[birth.birthId]? = none at vacant
              rw [vacant] at born
              cases born
        rw [absent]
        exact .reserved _
    | ownership other current state resolved owned moves image stored =>
        refine inserted (congrArg Image.ownership stored) ?_
        change run.world.store.ownership[other]? = some current at owned
        obtain ⟨resolution, createAttemptId, rfl⟩ := resolved
        rw [owned]
        exact creationMoves_of_moves resolution createAttemptId moves
    | claim admission attachment payloadRef counted numbered carried unclaimed unused
        unattached image stored =>
        exact kept (congrArg (fun store => store.image.ownership) stored)
    | revoked attemptId attachment row found present image stored =>
        exact kept (congrArg Image.ownership stored)
  · rcases stored with stored | ⟨_, stored⟩
    · exact quarantined stored
    · exact kept (congrArg Image.ownership stored)

/-- A move that leaves a rebuilt daemon whole turns every reserved creation unknown and
leaves every other one. -/
theorem Coherent.quarantines (coherent : Coherent activeMacKey run) {move : DaemonMove}
    (rebuilds : move.Rebuilds) (whole : (run.step move).footing = .whole)
    (birthId : ControllerBirthId) :
    (run.step move).world.store.ownership[birthId]? =
      run.world.store.ownership[birthId]?.map quarantineReserved := by
  rcases coherent.move_cases move with ⟨operates, _⟩ | ⟨_, stored | ⟨unwhole, _⟩⟩
  · exact absurd rebuilds operates
  · have same := congrArg Image.ownership stored
    change (run.step move).world.store.ownership = run.world.store.ownership.map _ at same
    rw [same, Std.ExtTreeMap.getElem?_map]
  · exact absurd whole unwhole

omit [Blake3] [Rfc3339] in
/-- Stores with the same claims by attempt have the same claims. -/
theorem claim_kept {store next : FakePersist} (keyed : TablesKeyed store)
    (keyedNext : TablesKeyed next) (identified : ClaimsIdentified store)
    (identifiedNext : ClaimsIdentified next)
    (same : next.image.claims = store.image.claims) {requestId : ClaimRequestId}
    {claim : PersistedClaimRecord} (stored : next.claims[requestId]? = some claim) :
    store.claims[requestId]? = some claim := by
  have listed := (image_claims_eq_some_iff identifiedNext claim.attemptId claim).2
    ⟨(BTreeMap.mem_rows _ _).2 ⟨requestId, stored⟩, rfl⟩
  rw [same, image_claims_eq_some_iff identified] at listed
  have present := keyed.claims.stored_of_mem listed.1
  rwa [keyedNext.claims requestId claim stored] at present

/-- A claim the move admits is carried by a birth of its arm and generation that is owned
in the store. -/
theorem Coherent.admitted (coherent : Coherent activeMacKey run) {move : DaemonMove}
    {requestId : ClaimRequestId} {claim : PersistedClaimRecord}
    (stored : (run.step move).world.store.claims[requestId]? = some claim)
    (fresh : run.world.store.claims[requestId]? = none) :
    ∃ attachment birth createAttemptId threadRef,
      (run.step move).world.store.attachments[claim.attemptId]? = some attachment ∧
      run.world.store.births[attachment.birthId]? = some birth ∧
      birth.armId = claim.armId ∧ birth.generation = claim.generation ∧
      run.world.store.ownership[attachment.birthId]? =
        some (.owned createAttemptId threadRef) := by
  have after := coherent.step move
  have kept : ∀ {image : Image}, (run.step move).world.authority.store.image = image →
      image.claims = run.world.store.image.claims → False := by
    intro image same claims
    have known := claim_kept coherent.keyed after.keyed coherent.identified
      after.identified ((congrArg Image.claims same).trans claims) stored
    rw [fresh] at known
    cases known
  rcases coherent.move_cases move with ⟨_, completes, joint⟩ | ⟨_, same | ⟨_, same⟩⟩
  · cases joint with
    | keeps joined => exact (kept joined.stored rfl).elim
    | arm arm image same => exact (kept same rfl).elim
    | birth birth create unborn vacant image same => exact (kept same rfl).elim
    | ownership birthId current state resolved owned moves image same =>
        exact (kept same rfl).elim
    | claim admission attachment payloadRef counted numbered carried unclaimed unused
        unattached image reached =>
        obtain ⟨birth, createAttemptId, threadRef, born, owned, sameGeneration, sameArm⟩ :=
          carried
        change (run.step move).world.store = _ at reached
        rw [reached] at stored ⊢
        simp only [withClaim, BTreeMap.getElem?_insert_eq] at stored ⊢
        split at stored
        · obtain rfl := Option.some.inj stored
          exact ⟨attachment, birth, createAttemptId, threadRef, if_pos rfl,
            coherent.trails.born _ _ born, sameArm coherent.trails.armsKeyed,
            sameGeneration, coherent.trails.owned _ _ _ owned⟩
        · change run.world.store.claims[requestId]? = some claim at stored
          rw [fresh] at stored
          cases stored
    | revoked attemptId attachment row found present image same =>
        exact (kept same rfl).elim
  · exact (kept same rfl).elim
  · exact (kept same rfl).elim

/-- What one move does to thread creations and to the claims they carry. -/
structure CreationStep (run next : DaemonRun) (move : DaemonMove) : Prop where
  births : ∀ (birthId : ControllerBirthId) birth,
    run.world.store.births[birthId]? = some birth →
      next.world.store.births[birthId]? = some birth
  moves : ∀ birthId : ControllerBirthId, CreationMoves run.world.store.ownership[birthId]?
    next.world.store.ownership[birthId]?
  quarantines : move.Rebuilds → next.footing = .whole → ∀ birthId : ControllerBirthId,
    next.world.store.ownership[birthId]? =
      run.world.store.ownership[birthId]?.map quarantineReserved
  carries : ∀ (requestId : ClaimRequestId) claim,
    next.world.store.claims[requestId]? = some claim →
    run.world.store.claims[requestId]? = none →
      ∃ attachment birth createAttemptId threadRef,
        next.world.store.attachments[claim.attemptId]? = some attachment ∧
        run.world.store.births[attachment.birthId]? = some birth ∧
        birth.armId = claim.armId ∧ birth.generation = claim.generation ∧
        run.world.store.ownership[attachment.birthId]? =
          some (.owned createAttemptId threadRef)

/-- Births are never removed, creations belong to births and only move forward, a
recovery quarantines the reserved ones, and claims are carried by owned ones; while no
authority operates that came up over births and never recovered, an arm and a generation
have one birth. -/
theorem thread_creation_once (activeMacKey : Bytes32) (now : OffsetDateTime)
    (moves : List DaemonMove) :
    (Transition.Along step (fun run move => run.footing ≠ .unrecovered ∨ move.Rebuilds)
        (initial activeMacKey now) moves →
      BirthsDistinct (after activeMacKey now moves).world.store) ∧
    CreationsBorn (after activeMacKey now moves).world.store ∧
    ∀ move, CreationStep (after activeMacKey now moves)
      ((after activeMacKey now moves).step move) move := by
  have coherent := Coherent.after activeMacKey now moves
  refine ⟨fun used => ?_, coherent.creationsBorn, fun move => ?_⟩
  · have kept := Transition.invariant_along
      (fun run => Coherent activeMacKey run ∧ BirthsDistinct run.world.store)
      (fun run move used held =>
        ⟨held.1.step move, held.1.birthsDistinct used held.2⟩)
      ⟨.initial activeMacKey now, fun _ _ _ _ stored => by
        simp [initial, AuthorityWorld.initial, DaemonAuthority.new, DaemonAuthority.store,
          AuthorityWorld.store, FakePersist.default] at stored⟩ used
    exact kept.2
  · obtain ⟨operations, reached⟩ := (after activeMacKey now moves).step_reaches move
    refine ⟨fun birthId birth stored => ?_, coherent.creationMoves move,
      coherent.quarantines, fun requestId claim => coherent.admitted⟩
    rw [reached]
    exact (run_grows _ operations).births birthId birth stored

end Runs

/-! ## An authority that was not recovered -/

namespace Sample

open Gearwit.Sample

/-- A daemon whose recovery fails for want of entropy and that is used all the same. -/
def rebornRun : List DaemonMove :=
  authorizedRun ++
    [.event ⟨.restart OffsetDateTime.unixEpoch [], none⟩,
      .event ⟨.registerManagedArm ⟨"arm-a", 1, "seat-a", lease⟩, none⟩,
      .event ⟨.reserveControllerBirth "arm-a" (some (PrivateId.fixture 2))
        (some (PrivateId.fixture 2)) (some (PrivateId.fixture 2)), none⟩]

/-- Its empty image lets it reserve a second birth for the same arm and generation. -/
theorem unrecovered_authority_bears_twice :
    ¬∀ (activeMacKey : Bytes32) (now : OffsetDateTime) (moves : List DaemonMove),
      BirthsDistinct (after activeMacKey now moves).world.store := by
  intro distinct
  have first : (after (PrivateId.fixture 0) OffsetDateTime.unixEpoch
      rebornRun).world.store.births[(PrivateId.fixture 1 : ControllerBirthId)]? =
        some (birth firstArm 1) := by
    decide +kernel
  have second : (after (PrivateId.fixture 0) OffsetDateTime.unixEpoch
      rebornRun).world.store.births[(PrivateId.fixture 2 : ControllerBirthId)]? =
        some (birth firstArm 2) := by
    decide +kernel
  have same := distinct _ _ rebornRun _ _ _ _ first second rfl rfl
  exact absurd same (by decide)

end Sample

end DaemonRun

end Gearwit
