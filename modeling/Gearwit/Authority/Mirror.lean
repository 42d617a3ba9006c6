import Gearwit.Authority.Joint
import Gearwit.Authority.TurnRuns

/-!
# The image mirrors the store

In every run a whole daemon mirrors its store after each operation, refused ones included,
and attempts are numbered without gaps.  A recovery that fails may have quarantined
creations in the store, so after it the image agrees with the store but for creations it
still shows as reserved.  The births of the image are those of the store as long as the
authority did not come up over births it never recovered.
-/

namespace Gearwit

open FakePersist

/-! ## Numbering -/

/-- Text of the attempt of a number. -/
def attemptTextOf (number : Nat) : String :=
  "attempt-" ++ toString number

namespace Image

/-- The attempts of the claims are the first ones in order, each once. -/
def Numbered (image : Image) : Prop :=
  (image.claims.keys.map SafeToken.text).Perm
    ((List.range image.attemptSeq.toNat).map fun index => attemptTextOf (index + 1))

variable {image : Image}

/-- As many claims as the counter says. -/
theorem Numbered.counted (numbered : image.Numbered) :
    image.claims.size = image.attemptSeq.toNat := by
  simpa using List.Perm.length_eq numbered

/-- An attempt of a number that is used has a claim. -/
theorem Numbered.claimed (numbered : image.Numbered) {attemptId : AttemptId} {number : Nat}
    (named : attemptId.text = attemptTextOf (number + 1))
    (used : number < image.attemptSeq.toNat) :
    ∃ claim, image.claims[attemptId]? = some claim := by
  have listed : attemptTextOf (number + 1) ∈ image.claims.keys.map SafeToken.text :=
    (List.Perm.mem_iff numbered).2 (List.mem_map.2 ⟨number, List.mem_range.2 used, rfl⟩)
  obtain ⟨known, among, same⟩ := List.mem_map.1 listed
  obtain rfl := SafeToken.text_injective (same.trans named.symm)
  exact (BTreeMap.contains_iff _ _).1
    (Std.ExtTreeMap.mem_iff_contains.1 (Std.ExtTreeMap.mem_keys.1 among))

/-- A claim of the next number keeps the claims numbered. -/
theorem Numbered.withClaim (numbered : image.Numbered) {claim : PersistedClaimRecord}
    (attachment : PersistedControllerAttachment)
    (unclaimed : image.claims[claim.attemptId]? = none)
    (room : image.attemptSeq.toNat ≠ UInt64.size - 1)
    (named : claim.attemptId.text = attemptTextOf (image.attemptSeq.toNat + 1)) :
    (image.withClaim claim attachment).Numbered := by
  have advanced :
      (nextAttemptSeq image.attemptSeq).toNat = image.attemptSeq.toNat + 1 := by
    unfold nextAttemptSeq
    rw [if_neg room, UInt64.toNat_add]
    have bounded := image.attemptSeq.toNat_lt
    simp only [UInt64.size, UInt64.toNat_one] at room ⊢
    omega
  unfold Numbered at numbered ⊢
  change ((image.claims.insert claim.attemptId claim).keys.map _).Perm
    ((List.range (nextAttemptSeq image.attemptSeq).toNat).map _)
  rw [advanced, List.range_succ, List.map_append]
  refine ((BTreeMap.keys_insert_perm image.claims _ unclaimed).map _).trans ?_
  rw [List.map_cons, named]
  exact (numbered.cons _).trans (List.perm_append_singleton _ _).symm

/-! ## An image that trails its store -/

/-- An image, whole or not, never claims more than its store: its counter is not ahead,
its births are births of the store, and every creation it owns is owned in the store. -/
structure Trails (image stored : Image) : Prop where
  armsKeyed : BTreeMap.Keyed PersistedArm.armId image.arms
  born : ∀ (birthId : ControllerBirthId) birth, image.births[birthId]? = some birth →
    stored.births[birthId]? = some birth
  behind : image.attemptSeq.toNat ≤ stored.attemptSeq.toNat
  owned : ∀ (birthId : ControllerBirthId) createAttemptId threadRef,
    image.ownership[birthId]? = some (.owned createAttemptId threadRef) →
      stored.ownership[birthId]? = some (.owned createAttemptId threadRef)
  numbered : stored.Numbered

namespace Trails

variable {stored : Image}

/-- An image that trails its store trails it after both take an arm. -/
theorem withArm (trails : image.Trails stored) (arm : PersistedArm) :
    (image.withArm arm).Trails (stored.withArm arm) :=
  { trails with armsKeyed := trails.armsKeyed.insert rfl }

/-- An image that trails its store trails it after both take a birth. -/
theorem withBirth (trails : image.Trails stored) (birth : PersistedControllerBirth)
    (create : ThreadCreateReservation) :
    (image.withBirth birth create).Trails (stored.withBirth birth create) := by
  refine { trails with
    born := fun birthId row born => ?_
    owned := fun birthId createAttemptId threadRef owned => ?_ }
  · simp only [Image.withBirth, BTreeMap.getElem?_insert_eq] at born ⊢
    split at born
    · next same => rw [if_pos same, born]
    · next other =>
      rw [if_neg other]
      exact trails.born _ _ born
  · simp only [Image.withBirth, BTreeMap.getElem?_insert_eq] at owned ⊢
    split at owned
    · cases owned
    · next other =>
      rw [if_neg other]
      exact trails.owned _ _ _ owned

/-- An image that trails its store trails it after both take an ownership. -/
theorem withOwnership (trails : image.Trails stored) (birthId : ControllerBirthId)
    (state : ThreadOwnershipState) :
    (image.withOwnership birthId state).Trails (stored.withOwnership birthId state) := by
  refine { trails with owned := fun other createAttemptId threadRef owned => ?_ }
  simp only [Image.withOwnership, BTreeMap.getElem?_insert_eq] at owned ⊢
  split at owned
  · next same => rw [if_pos same, owned]
  · next different =>
    rw [if_neg different]
    exact trails.owned _ _ _ owned

/-- A creation the image owns moves no further in the store. -/
theorem storeOwnership (trails : image.Trails stored) {birthId : ControllerBirthId}
    {current state : ThreadOwnershipState}
    (present : stored.ownership[birthId]? = some current)
    (moves : current = state ∨ ownershipMoves current state = true) :
    image.Trails (stored.withOwnership birthId state) := by
  refine { trails with owned := fun other createAttemptId threadRef owned => ?_ }
  have before := trails.owned _ _ _ owned
  simp only [Image.withOwnership, BTreeMap.getElem?_insert_eq]
  split
  · next same =>
    subst same
    rw [present] at before
    obtain rfl := Option.some.inj before
    rcases moves with rfl | impossible
    · rfl
    · cases impossible
  · exact before

/-- An image that trails its store trails it whatever attachments both take. -/
theorem withAttachment (trails : image.Trails stored) (attemptId other : AttemptId)
    (attachment row : PersistedControllerAttachment) :
    (image.withAttachment attemptId attachment).Trails
      (stored.withAttachment other row) :=
  { trails with }

/-- The next claim of an image that is behind is refused, so one that is admitted has
the next number of the store. -/
theorem withClaim (trails : image.Trails stored) {claim : PersistedClaimRecord}
    (attachment : PersistedControllerAttachment)
    (unclaimed : stored.claims[claim.attemptId]? = none)
    (room : image.attemptSeq.toNat ≠ UInt64.size - 1)
    (named : claim.attemptId.text =
      DaemonAuthority.attemptText (image.attemptSeq + 1)) :
    (image.withClaim claim attachment).Trails (stored.withClaim claim attachment) := by
  have counter : (image.attemptSeq + 1).toNat = image.attemptSeq.toNat + 1 := by
    rw [UInt64.toNat_add]
    have bounded := image.attemptSeq.toNat_lt
    simp only [UInt64.size, UInt64.toNat_one] at room ⊢
    omega
  have text : claim.attemptId.text = attemptTextOf (image.attemptSeq.toNat + 1) := by
    rw [named, DaemonAuthority.attemptText, counter]
    rfl
  have even : image.attemptSeq.toNat = stored.attemptSeq.toNat := by
    refine Nat.le_antisymm trails.behind (Nat.le_of_not_lt fun used => ?_)
    obtain ⟨known, present⟩ := trails.numbered.claimed text used
    rw [unclaimed] at present
    cases present
  refine { trails with behind := ?_, numbered := ?_ }
  · have same : image.attemptSeq = stored.attemptSeq := UInt64.toNat_inj.1 even
    exact Nat.le_of_eq
      (congrArg (fun counter => (nextAttemptSeq counter).toNat) same)
  · exact trails.numbered.withClaim attachment unclaimed (even ▸ room) (even ▸ text)

/-- An image that trails its store trails it after a quarantine. -/
theorem quarantined (trails : image.Trails stored) : image.Trails stored.quarantined := by
  refine { trails with owned := fun birthId createAttemptId threadRef owned => ?_ }
  have before := trails.owned _ _ _ owned
  simp only [Image.quarantined, Std.ExtTreeMap.getElem?_map, before, Option.map_some,
    quarantineReserved]

end Trails

/-! ## An image that agrees with its store -/

/-- The creation is in the same state, or reserved in the image and unknown in the
store. -/
def OwnershipAgrees (shown stored : Option ThreadOwnershipState) : Prop :=
  shown = stored ∨ ∃ createAttemptId,
    shown = some (.reserved createAttemptId) ∧ stored = some (.unknown createAttemptId)

/-- The tables of an image are those of its store, but for creations it shows as reserved
that are unknown in the store. -/
structure Agrees (image stored : Image) : Prop where
  arms : image.arms = stored.arms
  births : image.births = stored.births
  ownership : ∀ birthId : ControllerBirthId,
    OwnershipAgrees image.ownership[birthId]? stored.ownership[birthId]?
  claims : image.claims = stored.claims
  attachments : image.attachments = stored.attachments
  attemptSeq : image.attemptSeq = stored.attemptSeq

namespace Agrees

variable {stored : Image}

/-- An image agrees with itself. -/
theorem refl (image : Image) : image.Agrees image :=
  ⟨rfl, rfl, fun _ => .inl rfl, rfl, rfl, rfl⟩

/-- An image that agrees with its store agrees with it after both take an arm. -/
theorem withArm (agrees : image.Agrees stored) (arm : PersistedArm) :
    (image.withArm arm).Agrees (stored.withArm arm) :=
  { agrees with
    arms := congrArg (fun arms : BTreeMap ArmId PersistedArm =>
      arms.insert arm.armId arm) agrees.arms }

/-- A creation set to one state on both sides agrees. -/
theorem withOwnership (agrees : image.Agrees stored) (birthId : ControllerBirthId)
    (state : ThreadOwnershipState) :
    (image.withOwnership birthId state).Agrees (stored.withOwnership birthId state) := by
  refine { agrees with ownership := fun other => ?_ }
  simp only [Image.withOwnership, BTreeMap.getElem?_insert_eq]
  split
  · exact .inl rfl
  · exact agrees.ownership other

/-- An image that agrees with its store agrees with it after both take a birth. -/
theorem withBirth (agrees : image.Agrees stored) (birth : PersistedControllerBirth)
    (create : ThreadCreateReservation) :
    (image.withBirth birth create).Agrees (stored.withBirth birth create) := by
  have reserved := agrees.withOwnership birth.birthId (.reserved create.createAttemptId)
  exact { reserved with
    births := congrArg (fun births : BTreeMap ControllerBirthId PersistedControllerBirth =>
      births.insert birth.birthId birth) agrees.births }

/-- An image that agrees with its store agrees with it after both take an attachment. -/
theorem withAttachment (agrees : image.Agrees stored) (attemptId : AttemptId)
    (attachment : PersistedControllerAttachment) :
    (image.withAttachment attemptId attachment).Agrees
      (stored.withAttachment attemptId attachment) :=
  { agrees with
    attachments := congrArg
      (fun attachments : BTreeMap AttemptId PersistedControllerAttachment =>
        attachments.insert attemptId attachment) agrees.attachments }

/-- An image that agrees with its store agrees with it after both take a claim. -/
theorem withClaim (agrees : image.Agrees stored) (claim : PersistedClaimRecord)
    (attachment : PersistedControllerAttachment) :
    (image.withClaim claim attachment).Agrees (stored.withClaim claim attachment) := by
  have attached := agrees.withAttachment attachment.attemptId attachment
  exact { attached with
    claims := congrArg (fun claims : BTreeMap AttemptId PersistedClaimRecord =>
      claims.insert claim.attemptId claim) agrees.claims
    attemptSeq := congrArg nextAttemptSeq agrees.attemptSeq }

/-- A quarantine of the store leaves the image with reserved creations at most. -/
theorem quarantined (agrees : image.Agrees stored) : image.Agrees stored.quarantined := by
  refine { agrees with ownership := fun birthId => ?_ }
  simp only [Image.quarantined, Std.ExtTreeMap.getElem?_map]
  rcases agrees.ownership birthId with same | ⟨createAttemptId, shown, unknown⟩
  · rw [same]
    cases present : stored.ownership[birthId]? with
    | none => exact .inl rfl
    | some state =>
        cases state with
        | reserved createAttemptId => exact .inr ⟨createAttemptId, rfl, rfl⟩
        | absent | unknown _ | owned _ _ | provenNotAccepted _ => exact .inl rfl
  · exact .inr ⟨createAttemptId, shown, by rw [unknown]; rfl⟩

end Agrees

end Image

/-! ## One operation -/

namespace DaemonAuthority

variable {authority next : DaemonAuthority (Interrupted FakePersist)}

/-- A mirror shows the creations of the store. -/
theorem Mirrors.ownership (mirrors : authority.Mirrors) :
    authority.ownership = authority.store.ownership :=
  congrArg Image.ownership mirrors

/-- The image of an authority trails its store. -/
def Trails (authority : DaemonAuthority (Interrupted FakePersist)) : Prop :=
  authority.image.Trails authority.store.image

/-- The image of an authority agrees with its store, but for reserved creations. -/
def Agrees (authority : DaemonAuthority (Interrupted FakePersist)) : Prop :=
  authority.image.Agrees authority.store.image

/-- A mirror agrees. -/
theorem Mirrors.agrees (mirrors : authority.Mirrors) : authority.Agrees := by
  unfold Agrees
  rw [show authority.image = authority.store.image from mirrors]
  exact .refl _

/-- Both sides of a claim gain it under the number of its attempt. -/
theorem vacant_image {store : FakePersist} (identified : ClaimsIdentified store)
    {attemptId : AttemptId} (unattached : store.attachments[attemptId]? = none) :
    store.image.claims[attemptId]? = none := by
  cases found : store.image.claims[attemptId]? with
  | none => rfl
  | some claim =>
      obtain ⟨listed, named⟩ := (image_claims_eq_some_iff identified _ _).1 found
      obtain ⟨requestId, stored⟩ := (BTreeMap.mem_rows _ _).1 listed
      obtain ⟨_, attached⟩ := identified.attached requestId claim stored
      rw [named, unattached] at attached
      cases attached

section Calls

variable [Blake3]

/-- A joint change keeps the image behind its store. -/
theorem Joint.trails (joint : Joint authority next)
    (identified : ClaimsIdentified authority.store) (trails : authority.Trails) :
    next.Trails := by
  unfold DaemonAuthority.Trails at trails ⊢
  cases joint with
  | keeps kept => rwa [kept.image, kept.stored]
  | arm arm image stored =>
      rw [image, stored]
      exact trails.withArm arm
  | birth birth create unborn vacant image stored =>
      rw [image, stored]
      exact trails.withBirth birth create
  | ownership birthId current state resolved owned moves image stored =>
      rw [stored]
      rcases image with image | ⟨image, _⟩
      · rw [image]
        exact trails.withOwnership birthId state
      · rw [image]
        exact trails.storeOwnership owned moves
  | claim admission attachment payloadRef counted numbered carried unclaimed unused
      unattached image stored =>
      rw [image, stored, image_withClaim identified payloadRef unclaimed unused unattached]
      exact trails.withClaim attachment (vacant_image identified unattached) counted
        numbered
  | revoked attemptId attachment row found present image stored =>
      rw [image, stored]
      exact trails.withAttachment _ _ _ _

/-- A joint change over a store that never stops keeps the mirror. -/
theorem Joint.mirrors (joint : Joint authority next)
    (identified : ClaimsIdentified authority.store) (keyed : TablesKeyed authority.store)
    (endless : authority.persist.remaining = none) (mirrors : authority.Mirrors) :
    next.Mirrors := by
  unfold Mirrors at mirrors ⊢
  cases joint with
  | keeps kept => rw [kept.image, kept.stored, mirrors]
  | arm arm image stored => rw [image, stored, mirrors]
  | birth birth create unborn vacant image stored => rw [image, stored, mirrors]
  | ownership birthId current state resolved owned moves image stored =>
      rcases image with image | ⟨_, interrupted⟩
      · rw [image, stored, mirrors]
      · exact absurd endless interrupted
  | claim admission attachment payloadRef counted numbered carried unclaimed unused
      unattached image stored =>
      rw [image, stored, image_withClaim identified payloadRef unclaimed unused unattached,
        mirrors]
  | revoked attemptId attachment row found present image stored =>
      have kept : authority.store.attachments[attemptId]? = some attachment := by
        have same := congrArg (fun image : Image => image.attachments[attemptId]?) mirrors
        exact same.symm.trans found
      have named := keyed.attachments attemptId attachment kept
      rw [named, kept] at present
      obtain rfl := Option.some.inj present
      rw [image, stored, mirrors, named]

/-- A joint change over a store that never stops keeps image and store in agreement. -/
theorem Joint.agrees (joint : Joint authority next)
    (identified : ClaimsIdentified authority.store) (keyed : TablesKeyed authority.store)
    (endless : authority.persist.remaining = none) (agrees : authority.Agrees) :
    next.Agrees := by
  unfold Agrees at agrees ⊢
  cases joint with
  | keeps kept => rwa [kept.image, kept.stored]
  | arm arm image stored =>
      rw [image, stored]
      exact agrees.withArm arm
  | birth birth create unborn vacant image stored =>
      rw [image, stored]
      exact agrees.withBirth birth create
  | ownership birthId current state resolved owned moves image stored =>
      rcases image with image | ⟨_, interrupted⟩
      · rw [image, stored]
        exact agrees.withOwnership birthId state
      · exact absurd endless interrupted
  | claim admission attachment payloadRef counted numbered carried unclaimed unused
      unattached image stored =>
      rw [image, stored, image_withClaim identified payloadRef unclaimed unused unattached]
      exact agrees.withClaim _ attachment
  | revoked attemptId attachment row found present image stored =>
      have kept : authority.store.attachments[attemptId]? = some attachment := by
        have same := congrArg (fun attachments : BTreeMap AttemptId
          PersistedControllerAttachment => attachments[attemptId]?) agrees.attachments
        exact same.symm.trans found
      have named := keyed.attachments attemptId attachment kept
      rw [named, kept] at present
      obtain rfl := Option.some.inj present
      rw [image, stored, named]
      exact agrees.withAttachment _ _

omit [Blake3] in
/-- A joint change keeps the births of both sides equal, also over a store that stops. -/
theorem Joint.births (joint : Joint authority next)
    (same : authority.image.births = authority.store.image.births) :
    next.image.births = next.store.image.births := by
  cases joint with
  | keeps kept => rwa [kept.image, kept.stored]
  | arm arm image stored => rwa [image, stored]
  | birth birth create unborn vacant image stored =>
      rw [image, stored]
      exact congrArg (fun births : BTreeMap ControllerBirthId PersistedControllerBirth =>
        births.insert birth.birthId birth) same
  | ownership birthId current state resolved owned moves image stored =>
      rw [stored]
      rcases image with image | ⟨image, _⟩ <;> rw [image] <;> exact same
  | claim admission attachment payloadRef counted numbered carried unclaimed unused
      unattached image stored =>
      rw [image, stored]
      exact same
  | revoked attemptId attachment row found present image stored =>
      rw [image, stored]
      exact same

/-- A recovery keeps the image behind its store. -/
theorem recover_trails (keyed : TablesKeyed authority.store) {draws : List VerifierRef}
    {reply : Except AuthorityError AuthorityRecovery}
    (done : authority.recover draws = (reply, next)) (trails : authority.Trails) :
    next.Trails := by
  have keyedAfter : BTreeMap.Keyed PersistedArm.armId authority.store.image.arms :=
    keyed.arms
  unfold DaemonAuthority.Trails at trails ⊢
  rcases recover_image keyed done with ⟨_, mirrors, stored⟩ | ⟨_, image, stored⟩
  · rw [mirrors, stored]
    exact ⟨keyedAfter, fun _ _ born => born, Nat.le_refl _, fun _ _ _ owned => owned,
      trails.numbered⟩
  · rw [image]
    rcases stored with stored | stored <;> rw [stored]
    · exact trails
    · exact trails.quarantined

end Calls

end DaemonAuthority

/-! ## Runs -/

/-- What the image of an authority is worth on a footing. -/
def Footing.Bears (authority : DaemonAuthority (Interrupted FakePersist)) :
    Footing → Prop
  | .whole => authority.Mirrors
  | .quarantined => authority.Agrees
  | .torn => authority.image.births = authority.store.image.births
  | .unrecovered => True

namespace Footing.Bears

variable {authority : DaemonAuthority (Interrupted FakePersist)} {footing : Footing}

/-- Only an authority that never recovered may miss births. -/
theorem births (bears : footing.Bears authority) (recovered : footing ≠ .unrecovered) :
    authority.image.births = authority.store.image.births := by
  cases footing with
  | unrecovered => exact absurd rfl recovered
  | torn => exact bears
  | quarantined => exact Image.Agrees.births bears
  | whole => exact Image.Agrees.births (DaemonAuthority.Mirrors.agrees bears)

/-- A crash leaves the births. -/
theorem crashed (bears : footing.Bears authority) : footing.crashed.Bears authority := by
  cases footing with
  | unrecovered => trivial
  | torn => exact bears.births Footing.noConfusion
  | quarantined => exact bears.births Footing.noConfusion
  | whole => exact bears.births Footing.noConfusion

end Footing.Bears

namespace DaemonRun

section Runs

variable [Blake3]

/-- A run over reached stores whose image trails its store and is worth what its footing
bears. -/
structure Coherent (activeMacKey : Bytes32) (run : DaemonRun) : Prop where
  reached : run.world.Reached activeMacKey
  trails : run.world.authority.Trails
  bears : run.footing.Bears run.world.authority

namespace Coherent

variable {activeMacKey : Bytes32} {run : DaemonRun}

/-- The tables of a coherent run are keyed by their rows. -/
theorem keyed (coherent : Coherent activeMacKey run) : TablesKeyed run.world.store :=
  coherent.reached.keyed

/-- The claims of a coherent run are told apart by their identities. -/
theorem identified (coherent : Coherent activeMacKey run) :
    ClaimsIdentified run.world.store := by
  obtain ⟨operations, same⟩ := coherent.reached.exists_after
  rw [same]
  exact claimsIdentified_after activeMacKey operations

/-- A daemon comes up coherent on an empty store. -/
theorem initial (activeMacKey : Bytes32) (now : OffsetDateTime) :
    Coherent activeMacKey (.initial activeMacKey now) where
  reached := .initial activeMacKey now
  trails := by
    refine ⟨.empty _, fun _ _ born => born, Nat.le_refl _, fun _ _ _ owned => owned, ?_⟩
    simp [Image.Numbered, DaemonRun.initial, AuthorityWorld.initial, DaemonAuthority.new,
      DaemonAuthority.store, FakePersist.image, FakePersist.default, BTreeMap.fromRows]
  bears := by
    simp [Footing.Bears, DaemonAuthority.Mirrors, DaemonRun.initial,
      AuthorityWorld.initial, DaemonAuthority.new, DaemonAuthority.store,
      DaemonAuthority.image, FakePersist.image, FakePersist.default, BTreeMap.fromRows]

variable [Rfc3339]

omit [Rfc3339] in
/-- A fresh authority over the store of a run trails it. -/
theorem fresh_trails (coherent : Coherent activeMacKey run)
    (persist : Interrupted FakePersist) (stored : persist.store = run.world.store)
    (now : OffsetDateTime) : (DaemonAuthority.new persist now).Trails := by
  refine ⟨.empty _, fun birthId birth born => ?_, Nat.zero_le _,
    fun birthId createAttemptId threadRef owned => ?_, ?_⟩
  · simp [DaemonAuthority.image, DaemonAuthority.new] at born
  · simp [DaemonAuthority.image, DaemonAuthority.new] at owned
  · change persist.store.image.Numbered
    rw [stored]
    exact coherent.trails.numbered

/-- A move that rebuilds is one recovery over the store, by the running authority or by a
new one, and only its success leaves the daemon whole. -/
theorem rebuilds_recovery (coherent : Coherent activeMacKey run) {move : DaemonMove}
    (rebuilds : move.Rebuilds) :
    ∃ (authority : DaemonAuthority (Interrupted FakePersist)) (draws : List VerifierRef),
      authority.store = run.world.store ∧ authority.Trails ∧
        (run.step move).world.authority = (authority.recover draws).2 ∧
        ((authority.recover draws).1.isOk = false →
          (run.step move).footing ≠ .whole ∧
          ((run.step move).footing = run.footing.refused ∧
              authority.image = run.world.authority.image ∨
            authority.image.births = run.world.store.births ∧
              (run.step move).footing = .torn ∨
            (run.step move).footing = .unrecovered)) := by
  have unwhole : run.footing.refused ≠ .whole := by
    cases run.footing <;> exact Footing.noConfusion
  cases move with
  | recover draws =>
      refine ⟨(run.world.allow none).authority, draws, rfl, coherent.trails,
        (run.world.allow none).recoverAgain_authority draws, fun refused => ?_⟩
      have stands : (run.step (.recover draws)).footing = run.footing.refused := by
        simp [DaemonRun.step, refused]
      exact ⟨stands ▸ unwhole, .inl ⟨stands, rfl⟩⟩
  | event event =>
      obtain ⟨now, draws, called⟩ := rebuilds
      refine ⟨.new (run.world.allow event.completes).authority.persist now, draws, rfl,
        coherent.fresh_trails _ rfl now, ?_, fun refused => ?_⟩
      · change (run.world.step event).authority = _
        unfold AuthorityWorld.step
        rw [called]
        simp only [AuthorityWorld.perform, AuthorityWorld.restart]
        split <;> next done => rw [done]; rfl
      · have stands : (run.step (.event event)).footing =
            if run.world.store.births.isEmpty then .torn else .unrecovered := by
          change run.footingAfter event = _
          simp only [footingAfter, called, AuthorityWorld.comesUp, refused]
          rfl
        rw [stands]
        cases bare : run.world.store.births.isEmpty with
        | true =>
            refine ⟨Footing.noConfusion, .inr (.inl ⟨?_, rfl⟩)⟩
            exact (Std.ExtTreeMap.isEmpty_iff.1 bare).symm
        | false => exact ⟨Footing.noConfusion, .inr (.inr rfl)⟩

/-- A move that rebuilds leaves the image worth what the footing after it bears. -/
theorem rebuilds_bears (coherent : Coherent activeMacKey run) {move : DaemonMove}
    (rebuilds : move.Rebuilds) :
    (run.step move).footing.Bears (run.step move).world.authority := by
  obtain ⟨authority, draws, stored, trails, reached, refusal⟩ :=
    coherent.rebuilds_recovery rebuilds
  have keyed : TablesKeyed authority.store := stored ▸ coherent.keyed
  cases done : authority.recover draws with
  | mk reply next =>
  rw [done] at reached refusal
  rw [reached]
  rcases DaemonAuthority.recover_image keyed done with
    ⟨_, mirrors, _⟩ | ⟨refused, image, quarantines⟩
  · cases (run.step move).footing with
    | whole => exact mirrors
    | quarantined => exact mirrors.agrees
    | torn => exact mirrors.agrees.births
    | unrecovered => trivial
  · have births : next.store.image.births = run.world.store.births := by
      rw [← stored]
      rcases quarantines with same | same <;> rw [same] <;> rfl
    obtain ⟨_, ⟨stands, kept⟩ | ⟨bare, stands⟩ | stands⟩ := refusal refused
    · rw [stands]
      have bears : ∀ {footing : Footing}, run.footing = footing →
          footing.Bears run.world.authority := fun same => same ▸ coherent.bears
      have agreed : run.world.authority.Agrees → next.Agrees := by
        intro agrees
        unfold DaemonAuthority.Agrees at agrees ⊢
        rw [image, kept]
        change _ = run.world.authority.store at stored
        rw [← stored] at agrees
        rcases quarantines with same | same <;> rw [same]
        · exact agrees
        · exact agrees.quarantined
      cases footing : run.footing with
      | whole => exact agreed (DaemonAuthority.Mirrors.agrees (bears footing))
      | quarantined => exact agreed (bears footing)
      | torn =>
          change next.image.births = next.store.image.births
          rw [births, image, kept]
          exact (bears footing).births Footing.noConfusion
      | unrecovered => trivial
    · rw [stands]
      change next.image.births = next.store.image.births
      rw [births, image, bare]
    · rw [stands]
      trivial

/-- A move that rebuilds keeps a run coherent. -/
theorem rebuilt (coherent : Coherent activeMacKey run) {move : DaemonMove}
    (rebuilds : move.Rebuilds) : Coherent activeMacKey (run.step move) := by
  obtain ⟨authority, draws, stored, trails, reached, _⟩ :=
    coherent.rebuilds_recovery rebuilds
  have keyed : TablesKeyed authority.store := stored ▸ coherent.keyed
  exact ⟨coherent.reached.trans (run.step_reaches move),
    reached ▸ DaemonAuthority.recover_trails keyed rfl trails,
    coherent.rebuilds_bears rebuilds⟩

/-- Every move keeps a run coherent. -/
theorem step (coherent : Coherent activeMacKey run) (move : DaemonMove) :
    Coherent activeMacKey (run.step move) := by
  by_cases rebuilds : move.Rebuilds
  · exact coherent.rebuilt rebuilds
  · cases move with
    | recover draws => exact absurd trivial rebuilds
    | event event =>
        have stays : ∀ now draws, event.call ≠ .restart now draws :=
          fun now draws called => rebuilds ⟨now, draws, called⟩
        have joint := AuthorityWorld.perform_joint (run.world.allow event.completes)
          event.call stays
        refine ⟨coherent.reached.trans (AuthorityWorld.step_reaches run.world event),
          joint.trails coherent.identified coherent.trails, ?_⟩
        have stands : (run.step (.event event)).footing =
            if event.completes.isNone then run.footing else run.footing.crashed := by
          change run.footingAfter event = _
          unfold footingAfter
          split
          · next now draws called => exact absurd called (stays now draws)
          · rfl
        have bears : ∀ {footing : Footing}, run.footing = footing →
            footing.Bears run.world.authority := fun same => same ▸ coherent.bears
        have births : run.footing ≠ .unrecovered →
            (run.step (.event event)).world.authority.image.births =
              (run.step (.event event)).world.authority.store.image.births :=
          fun recovered => joint.births (coherent.bears.births recovered)
        rw [stands]
        split
        · next endless =>
          rw [Option.isNone_iff_eq_none] at endless
          cases footing : run.footing with
          | whole =>
              exact joint.mirrors coherent.identified coherent.keyed endless
                (bears footing)
          | quarantined =>
              exact joint.agrees coherent.identified coherent.keyed endless
                (bears footing)
          | torn => exact births (by rw [footing]; exact Footing.noConfusion)
          | unrecovered => trivial
        · cases footing : run.footing with
          | unrecovered => trivial
          | _ => exact births (by rw [footing]; exact Footing.noConfusion)

/-- Every run is coherent. -/
theorem after (activeMacKey : Bytes32) (now : OffsetDateTime) (moves : List DaemonMove) :
    Coherent activeMacKey (DaemonRun.after activeMacKey now moves) :=
  Transition.invariant_run (Coherent activeMacKey)
    (fun _ move coherent => coherent.step move) (.initial activeMacKey now) moves

end Coherent

/-- Operations leave a daemon whole, or quarantined when a recovery failed. -/
theorem operating_footing [Rfc3339] (activeMacKey : Bytes32) (now : OffsetDateTime)
    (moves : List DaemonMove) (operates : ∀ move ∈ moves, move.Operates) :
    (after activeMacKey now moves).footing = .whole ∨
      (after activeMacKey now moves).footing = .quarantined := by
  induction moves using List.reverseRecOn with
  | nil => exact .inl rfl
  | append_singleton performed move inductionHypothesis =>
      have before := inductionHypothesis fun earlier listed =>
        operates earlier (List.mem_append_left _ listed)
      have last := operates move (List.mem_append_right _ (List.mem_singleton_self move))
      have reached : after activeMacKey now (performed ++ [move]) =
          (after activeMacKey now performed).step move :=
        Transition.run_append DaemonRun.step _ _ _
      rw [reached]
      cases move with
      | recover draws =>
          simp only [DaemonRun.step]
          split
          · exact .inl rfl
          · rcases before with whole | quarantined
            · exact .inr (by rw [whole]; rfl)
            · exact .inr (by rw [quarantined]; rfl)
      | event event =>
          obtain ⟨endless, stays⟩ := last
          have stands : ((after activeMacKey now performed).step (.event event)).footing =
              (after activeMacKey now performed).footing := by
            change footingAfter _ event = _
            unfold footingAfter
            split
            · next now draws called => exact absurd called (stays now draws)
            · rw [endless]
              rfl
          rwa [stands]

/-! ## The attempts of the claims -/

omit [Blake3] in
/-- The attempts of the stored claims are the keys of the claims by attempt. -/
theorem claim_attempts_perm {store : FakePersist} (identified : ClaimsIdentified store) :
    ((BTreeMap.rows store.claims).map PersistedClaimRecord.attemptId).Perm
      store.image.claims.keys := by
  have once : ((BTreeMap.rows store.claims).map
      PersistedClaimRecord.attemptId).Nodup := by
    unfold BTreeMap.rows
    rw [List.map_map]
    refine List.Nodup.map_on ?_ (BTreeMap.toList_nodup store.claims)
    rintro ⟨first, claim⟩ firstListed ⟨second, other⟩ secondListed same
    have firstStored := Std.ExtTreeMap.mem_toList_iff_getElem?_eq_some.1 firstListed
    have secondStored := Std.ExtTreeMap.mem_toList_iff_getElem?_eq_some.1 secondListed
    obtain rfl := identified.byAttempt _ _ _ _ firstStored secondStored same
    rw [firstStored] at secondStored
    rw [Option.some.inj secondStored]
  refine (List.perm_ext_iff_of_nodup once Std.ExtTreeMap.nodup_keys).2 fun attemptId => ?_
  rw [List.mem_map, Std.ExtTreeMap.mem_keys, Std.ExtTreeMap.mem_iff_contains,
    BTreeMap.contains_iff]
  constructor
  · rintro ⟨claim, listed, named⟩
    exact ⟨claim, (image_claims_eq_some_iff identified _ _).2 ⟨listed, named⟩⟩
  · rintro ⟨claim, found⟩
    exact ⟨claim, (image_claims_eq_some_iff identified _ _).1 found⟩

/-- In every run a whole daemon mirrors its store, and one whose last recovery failed
agrees with it but for reserved creations that are unknown in the store; the attempts of
the claims are the first ones in order, and no claim ever leaves its attempt. -/
theorem whole_image_mirrors [Rfc3339] (activeMacKey : Bytes32) (now : OffsetDateTime)
    (moves : List DaemonMove) :
    ((after activeMacKey now moves).footing = .whole →
      (after activeMacKey now moves).world.authority.Mirrors) ∧
    ((after activeMacKey now moves).footing = .quarantined →
      (after activeMacKey now moves).world.authority.Agrees) ∧
    ((BTreeMap.rows (after activeMacKey now moves).world.store.claims).map
      fun claim => claim.attemptId.text).Perm
        ((List.range (after activeMacKey now moves).world.store.claims.size).map
          fun index => attemptTextOf (index + 1)) ∧
    ∀ performed, performed <+: moves → ∀ (requestId : ClaimRequestId) claim,
      (after activeMacKey now performed).world.store.claims[requestId]? = some claim →
        (after activeMacKey now moves).world.store.claims[requestId]? = some claim := by
  have coherent := Coherent.after activeMacKey now moves
  have bears := coherent.bears
  refine ⟨fun whole => ?_, fun quarantined => ?_, ?_, ?_⟩
  · rwa [whole] at bears
  · rwa [quarantined] at bears
  · have keys := claim_attempts_perm coherent.identified
    have texts := (keys.map SafeToken.text).trans coherent.trails.numbered
    have counted := texts.length_eq
    simp only [List.length_map, List.length_range, BTreeMap.rows,
      Std.ExtTreeMap.length_toList] at counted
    rw [counted]
    simpa [List.map_map, Function.comp_def] using texts
  · rintro performed ⟨rest, rfl⟩ requestId claim stored
    obtain ⟨operations, reached⟩ := (after activeMacKey now performed).run_reaches rest
    unfold after at stored ⊢
    rw [Transition.run_append]
    unfold after at reached
    rw [reached]
    exact (run_grows _ operations).claims requestId claim stored

end Runs

/-! ## A recovery that fails late -/

namespace Sample

open Gearwit.Sample

/-- A running daemon with one open write and one reserved creation whose entropy source
fails while it recovers. -/
def tornRun : List DaemonMove :=
  authorizedRun ++
    [.event ⟨.registerManagedArm ⟨"arm-b", 1, "seat-a", lease⟩, none⟩,
      .event ⟨.reserveControllerBirth "arm-b" (some (PrivateId.fixture 2))
        (some (PrivateId.fixture 2)) (some (PrivateId.fixture 2)), none⟩,
      .recover []]

/-- The failed recovery leaves the image with a reserved creation that is unknown in the
store. -/
theorem failed_recovery_tears_image :
    ¬∀ (activeMacKey : Bytes32) (now : OffsetDateTime) (moves : List DaemonMove),
      (∀ move ∈ moves, move.Operates) →
        (after activeMacKey now moves).world.authority.Mirrors := by
  intro mirrors
  have operates : ∀ move ∈ tornRun, move.Operates := by
    simp only [tornRun, authorizedRun, List.map_cons, List.map_nil, List.cons_append,
      List.nil_append, List.forall_mem_cons, DaemonMove.Operates]
    simp
  have torn := mirrors (PrivateId.fixture 0) OffsetDateTime.unixEpoch tornRun operates
  have reserved : (after (PrivateId.fixture 0) OffsetDateTime.unixEpoch
      tornRun).world.authority.ownership[(PrivateId.fixture 2 : ControllerBirthId)]? =
        some (.reserved (PrivateId.fixture 2)) := by
    decide +kernel
  have unknown : (after (PrivateId.fixture 0) OffsetDateTime.unixEpoch
      tornRun).world.authority.store.ownership[(PrivateId.fixture 2 :
        ControllerBirthId)]? = some (.unknown (PrivateId.fixture 2)) := by
    decide +kernel
  rw [torn.ownership, unknown] at reserved
  cases reserved

end Sample

end DaemonRun

end Gearwit
