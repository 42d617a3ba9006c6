import Gearwit.Authority.Runs
import Gearwit.Persist.ClaimIdentity

/-!
# At most one command for a claimed generation

Commands are distinct by attempt because each crosses the write boundary of its
attempt.  They are distinct by arm and generation because every attachment, in the
store, in the image and in a prepared dispatch, is that of the one claim of its arm
and generation.
-/

namespace Gearwit

open FakePersist

/-! ## Attachments of claims -/

/-- The attachment is that of the claim of an attempt. -/
def FakePersist.ClaimedUnder (store : FakePersist) (attemptId : AttemptId)
    (attachment : ControllerAttachment) : Prop :=
  attachment.attemptId = attemptId ∧
    ∃ claim ∈ BTreeMap.rows store.claims, claim.attemptId = attemptId ∧
      claim.armId = attachment.armId ∧ claim.generation = attachment.generation

namespace FakePersist

section Runs

variable [Blake3] {store next : FakePersist}

/-- Claims are never lost. -/
theorem ClaimedUnder.reaches {attemptId : AttemptId} {attachment : ControllerAttachment}
    (claimed : store.ClaimedUnder attemptId attachment) (reaches : Reaches store next) :
    next.ClaimedUnder attemptId attachment := by
  obtain ⟨operations, rfl⟩ := reaches
  obtain ⟨named, claim, listed, identified⟩ := claimed
  obtain ⟨requestId, stored⟩ := (BTreeMap.mem_rows _ _).1 listed
  exact ⟨named, claim, (BTreeMap.mem_rows _ _).2
    ⟨requestId, (run_grows store operations).claims requestId claim stored⟩, identified⟩

omit [Blake3] in
/-- One arm and generation is claimed for one attempt. -/
theorem ClaimedUnder.unique (identified : ClaimsIdentified store)
    {first second : AttemptId} {attachment other : ControllerAttachment}
    (claimed : store.ClaimedUnder first attachment)
    (claiming : store.ClaimedUnder second other) (sameArm : attachment.armId = other.armId)
    (sameGeneration : attachment.generation = other.generation) : first = second := by
  obtain ⟨_, claim, listed, named, arm, generation⟩ := claimed
  obtain ⟨_, rival, present, naming, otherArm, otherGeneration⟩ := claiming
  have same := identified.claim_eq_of_generation listed present
    (arm.trans (sameArm.trans otherArm.symm))
    (generation.trans (sameGeneration.trans otherGeneration.symm))
  rw [← named, ← naming, same]

/-- An operation that admits nothing adds no attachment. -/
theorem Effect.attachment {operation : PortOp} (effect : Effect store operation next)
    (plain : operation.isAdmission = false) {attemptId : AttemptId}
    {attachment : PersistedControllerAttachment}
    (stored : next.attachments[attemptId]? = some attachment) :
    ∃ before, store.attachments[attemptId]? = some before ∧
      attachment.controller = before.controller := by
  cases effect with
  | claim => cases plain
  | attachmentRevoked scope revoked present =>
      simp only [BTreeMap.getElem?_insert_eq] at stored
      split at stored
      · next same =>
        cases stored
        exact ⟨revoked, same ▸ present, rfl⟩
      · exact ⟨attachment, stored, rfl⟩
  | recovered draws =>
      rw [classified_frame] at stored
      exact ⟨attachment, stored, rfl⟩
  | _ => exact ⟨attachment, stored, rfl⟩

/-- Operations that admit nothing add no attachment. -/
theorem Settles.attachment (settles : Settles store next) {attemptId : AttemptId}
    {attachment : PersistedControllerAttachment}
    (stored : next.attachments[attemptId]? = some attachment) :
    ∃ before, store.attachments[attemptId]? = some before ∧
      attachment.controller = before.controller := by
  obtain ⟨operations, plain, rfl⟩ := settles
  induction operations generalizing store with
  | nil => exact ⟨attachment, stored, rfl⟩
  | cons operation rest inductionHypothesis =>
      obtain ⟨middle, present, same⟩ := inductionHypothesis
        (fun other listed => plain other (List.mem_cons_of_mem _ listed)) stored
      obtain ⟨before, kept, equal⟩ := (step_effect store operation).attachment
        (plain operation List.mem_cons_self) present
      exact ⟨before, kept, same.trans equal⟩

end Runs

end FakePersist

namespace AuthorityWorld

/-- Every attachment of a world is that of a claim. -/
structure Attributed (world : AuthorityWorld) : Prop where
  stored : ∀ (attemptId : AttemptId) attachment,
    world.store.attachments[attemptId]? = some attachment →
      world.store.ClaimedUnder attemptId attachment.controller
  imaged : ∀ (attemptId : AttemptId) attachment,
    world.authority.attachments[attemptId]? = some attachment →
      world.store.ClaimedUnder attemptId attachment.controller
  prepared : ∀ dispatch ∈ world.prepared,
    world.store.ClaimedUnder dispatch.correlation.attemptId dispatch.attachment.controller
  commands : ∀ command ∈ world.commands,
    world.store.ClaimedUnder command.correlation.attemptId command.attachment

section Steps

variable [Blake3] [Rfc3339]

/-! ## Attachments after an operation -/

/-- An attachment of the store was there before, or is that of a fresh claim. -/
theorem perform_stored {world : AuthorityWorld} (attributed : Attributed world)
    (call : AuthorityCall) {attemptId : AttemptId}
    {attachment : PersistedControllerAttachment}
    (stored : (world.perform call).store.attachments[attemptId]? = some attachment) :
    (world.perform call).store.ClaimedUnder attemptId attachment.controller := by
  rcases perform_settles world call with settles |
    ⟨_, _, admission, admitted, payloadRef, admits⟩
  · obtain ⟨before, present, same⟩ := settles.attachment stored
    rw [same]
    exact (attributed.stored attemptId before present).reaches settles.reaches
  · have kept : world.store.attachments[attemptId]? = some attachment →
        (world.perform call).store.ClaimedUnder attemptId attachment.controller :=
      fun present => (attributed.stored attemptId attachment present).reaches
        admits.reaches
    change (world.perform call).authority.store.attachments[attemptId]? = _ at stored
    rw [admits.stored] at stored
    simp only [withClaim, BTreeMap.getElem?_insert_eq] at stored
    split at stored
    · next same =>
      cases stored
      refine ⟨same, claimRecord admission attachment.attemptId payloadRef, ?_, same,
        admits.sameArm.symm, admits.sameGeneration.symm⟩
      rw [BTreeMap.mem_rows]
      exact ⟨admission.requestId, by
        change (world.perform call).authority.store.claims[_]? = _
        rw [admits.stored]
        exact BTreeMap.getElem?_insert_same _ _ _⟩
    · exact kept stored

omit [Rfc3339] in
/-- Concluding leaves the image alone. -/
theorem conclude_attachments (world : AuthorityWorld) (prepared : PreparedDispatch)
    (disposition : Except ControllerWriteError NativeWriteDisposition)
    (evidenceDraw factDraw : Option VerifierRef) :
    (world.conclude prepared disposition evidenceDraw factDraw).authority.attachments =
      world.authority.attachments := by
  unfold conclude
  split <;> next done => exact DaemonAuthority.concludeNativeWrite_attachments done

omit [Rfc3339] in
/-- The image of a restarted daemon shows attachments of the store. -/
theorem restart_imaged {world : AuthorityWorld} (keyed : TablesKeyed world.store)
    (now : OffsetDateTime) (draws : List VerifierRef) {attemptId : AttemptId}
    {attachment : PersistedControllerAttachment}
    (imaged : (world.restart now draws).authority.attachments[attemptId]? =
      some attachment) :
    world.store.attachments[attemptId]? = some attachment := by
  unfold restart at imaged
  simp only at imaged
  split at imaged
  · next done =>
    rcases DaemonAuthority.recover_attachments done with same | ⟨_, impossible, _⟩
    · have vacant : ((DaemonAuthority.new world.authority.persist
          now).attachments)[attemptId]? = some attachment := same ▸ imaged
      simp [DaemonAuthority.new] at vacant
    · cases impossible
  · next recovery authority done =>
    change authority.attachments[attemptId]? = some attachment at imaged
    have rebuilt := DaemonAuthority.recover_attachments done
    rcases DaemonAuthority.recover_store done with
      ⟨_, _, impossible⟩ | ⟨_, _, ⟨_, impossible⟩ | ⟨_, answered, recovered, _⟩⟩
    · cases impossible
    · cases impossible
    · cases answered
      rcases rebuilt with same | ⟨_, answered, same⟩
      · rw [same] at imaged
        simp [DaemonAuthority.new] at imaged
      · cases answered
        obtain ⟨_, dumped, _, _⟩ := recoverAuthorityState_ok recovered
        rw [same, dumped] at imaged
        obtain ⟨row, listed, named, rfl⟩ :=
          BTreeMap.getElem?_fromRows_cases _ _ imaged
        obtain ⟨key, stored⟩ := (BTreeMap.mem_rows _ _).1 listed
        rw [classified_frame] at stored
        have unique := keyed.attachments key row stored
        rw [← named, unique]
        exact stored

/-- An attachment of the image was there before, or is one of the store. -/
theorem perform_imaged {world : AuthorityWorld} (keyed : TablesKeyed world.store)
    (call : AuthorityCall) {attemptId : AttemptId}
    {attachment : PersistedControllerAttachment}
    (imaged : (world.perform call).authority.attachments[attemptId]? = some attachment) :
    ∃ origin, (world.authority.attachments[attemptId]? = some origin ∨
        (world.perform call).store.attachments[attemptId]? = some origin) ∧
      attachment.controller = origin.controller := by
  have unchanged : (world.perform call).authority.attachments =
      world.authority.attachments → ∃ origin,
        (world.authority.attachments[attemptId]? = some origin ∨
          (world.perform call).store.attachments[attemptId]? = some origin) ∧
        attachment.controller = origin.controller := fun same =>
    ⟨attachment, .inl (same ▸ imaged), rfl⟩
  cases call with
  | setNow now => exact unchanged rfl
  | registerManagedArm arm =>
      exact unchanged (DaemonAuthority.registerManagedArm_attachments rfl)
  | reserveControllerBirth armText birthDraw createDraw verifierDraw =>
      apply unchanged
      simp only [perform]
      split <;> next done =>
        exact DaemonAuthority.reserveControllerBirth_attachments done
  | resolveThreadCreate reservation resolution evidenceDraw =>
      apply unchanged
      simp only [perform]
      split
      · split <;> next done =>
          exact DaemonAuthority.resolveThreadCreate_attachments done
      · rfl
  | resolveQuarantinedThreadCreate reservation resolution evidenceDraw =>
      apply unchanged
      simp only [perform]
      split
      · exact DaemonAuthority.resolveQuarantinedThreadCreate_attachments rfl
      · rfl
  | admitClaim request verifierDraw payloadDraw =>
      have admitted : ∀ {reply} {next : DaemonAuthority (Interrupted FakePersist)},
          world.authority.admitClaim request verifierDraw payloadDraw = (reply, next) →
          next.attachments[attemptId]? = some attachment →
          ∃ origin, (world.authority.attachments[attemptId]? = some origin ∨
              next.store.attachments[attemptId]? = some origin) ∧
            attachment.controller = origin.controller := by
        intro reply next done present
        rcases DaemonAuthority.admitClaim_store done with
          ⟨_, same, _⟩ | ⟨admission, admitted, payloadRef, admits⟩
        · exact ⟨attachment, .inl (same ▸ present), rfl⟩
        · rw [admits.imaged, BTreeMap.getElem?_insert_eq] at present
          refine ⟨attachment, ?_, rfl⟩
          split at present
          · next same =>
            refine .inr ?_
            rw [admits.stored, ← present, ← same]
            exact BTreeMap.getElem?_insert_same _ _ _
          · exact .inl present
      revert imaged
      simp only [perform]
      split <;> next done => exact admitted done
  | prepareHandleClaimedSignal receipt writeDraw probeDraw =>
      apply unchanged
      simp only [perform]
      split
      · split <;> next done =>
          exact DaemonAuthority.prepareHandleClaimedSignal_attachments done
      · rfl
  | authorizeProbe prepared result =>
      apply unchanged
      simp only [perform]
      split
      · split <;> next done => exact DaemonAuthority.authorizeProbe_attachments done
      · rfl
  | concludePrepared prepared disposition evidenceDraw factDraw =>
      apply unchanged
      simp only [perform]
      split
      · exact conclude_attachments _ prepared disposition evidenceDraw factDraw
      · rfl
  | concludeAuthorized authorized disposition evidenceDraw factDraw =>
      apply unchanged
      simp only [perform]
      split
      · exact conclude_attachments _ authorized.prepared disposition evidenceDraw
          factDraw
      · rfl
  | recordExactObservation scope fact evidenceDraw =>
      apply unchanged
      simp only [perform]
      split
      · split <;> next done =>
          exact DaemonAuthority.recordExactObservation_attachments done
      · rfl
  | recordReconciliation scope disposition factDraw =>
      apply unchanged
      simp only [perform]
      split
      · split <;> next done =>
          exact DaemonAuthority.recordReconciliation_attachments done
      · rfl
  | revokeAttachment attemptText =>
      clear unchanged
      revert imaged
      simp only [perform]
      cases done : world.authority.revokeAttachment attemptText with
      | mk reply next =>
      intro imaged
      change next.attachments[attemptId]? = some attachment at imaged
      rcases DaemonAuthority.revokeAttachment_attachments done with
        same | ⟨revokedId, before, present, same⟩
      · exact ⟨attachment, .inl (same ▸ imaged), rfl⟩
      · rw [same, BTreeMap.getElem?_insert_eq] at imaged
        split at imaged
        · next equal =>
          cases imaged
          exact ⟨before, .inl (equal ▸ present), rfl⟩
        · exact ⟨attachment, .inl imaged, rfl⟩
  | sealNativeCoordinate scope coordinate draws =>
      exact unchanged (DaemonAuthority.call_attachments rfl)
  | restart now draws =>
      have stored := restart_imaged keyed now draws imaged
      obtain ⟨operations, plain, reached⟩ := restart_settles world now draws
      obtain ⟨kept, present, grown⟩ :=
        (run_grows world.store operations).attachments attemptId attachment stored
      refine ⟨kept, .inr ?_, ?_⟩
      · change (world.restart now draws).store.attachments[attemptId]? = _
        rw [reached]
        exact present
      · rcases grown with rfl | rfl <;> rfl

/-! ## Dispatches and commands after an operation -/

/-- A prepared dispatch was at hand, or carries the attachment of its attempt. -/
theorem perform_prepared {world : AuthorityWorld} (call : AuthorityCall)
    {dispatch : PreparedDispatch} (present : dispatch ∈ (world.perform call).prepared) :
    dispatch ∈ world.prepared ∨
      world.authority.attachments[dispatch.correlation.attemptId]? =
        some dispatch.attachment := by
  cases call with
  | prepareHandleClaimedSignal receipt writeDraw probeDraw =>
      simp only [perform] at present
      split at present
      · split at present
        · exact .inl present
        · next done =>
          rcases DaemonAuthority.prepareHandleClaimedSignal_store done with
            ⟨_, _, impossible⟩ |
              ⟨correlation, _, named, _, _, _, ⟨_, impossible⟩ |
                ⟨prepared, scope, answer, same, attached⟩⟩
          · cases impossible
          · cases impossible
          · cases answer
            rcases List.mem_cons.1 present with rfl | kept
            · refine .inr ?_
              rw [same, named]
              exact attached
            · exact .inl kept
      · exact .inl present
  | authorizeProbe prepared result =>
      simp only [perform] at present
      split at present
      · split at present <;> exact .inl (List.mem_of_mem_erase present)
      · exact .inl present
  | concludePrepared prepared disposition evidenceDraw factDraw =>
      simp only [perform, conclude] at present
      split at present
      · split at present <;> exact .inl (List.mem_of_mem_erase present)
      · exact .inl present
  | restart now draws =>
      simp only [perform, restart] at present
      split at present <;> cases present
  | _ =>
      simp only [perform, conclude] at present
      repeat' split at present
      all_goals exact .inl present

/-- The store holds the open reservation of a command. -/
def ReservedFor (world : AuthorityWorld) (command : ControllerCommand) : Prop :=
  ∃ row, world.store.reservations[command.correlation.attemptId]? = some row ∧
    row.correlation = command.correlation ∧ row.concluded = false

/-- A command was produced before, or carries the attachment and the correlation of a
prepared dispatch that was at hand and has just been reserved. -/
theorem perform_commands {world : AuthorityWorld} (call : AuthorityCall)
    {command : ControllerCommand} (produced : command ∈ (world.perform call).commands) :
    command ∈ world.commands ∨ ∃ dispatch ∈ world.prepared,
      command.correlation = dispatch.correlation ∧
        command.attachment = dispatch.attachment.controller ∧
        (world.perform call).ReservedFor command := by
  cases call with
  | authorizeProbe prepared result =>
      simp only [perform] at produced
      split at produced
      · next atHand =>
        split at produced
        · next done =>
          rcases DaemonAuthority.authorizeProbe_store done with
            ⟨_, _, impossible⟩ | ⟨_, ⟨_, _, _, _, impossible⟩ |
              ⟨_, _, _, impossible⟩ | ⟨_, _, _, _, _, reserved, answer⟩⟩
          · cases impossible
          · cases impossible
          · cases impossible
          · cases answer
            obtain ⟨rfl, stored, sameAttempt, _⟩ := reserveNativeTurnWrite_cases reserved
            rcases List.mem_cons.1 produced with rfl | kept
            · refine .inr ⟨prepared, atHand, rfl, rfl, ?_⟩
              simp only [perform, if_pos atHand, done]
              have inserted := congrArg (fun store : FakePersist =>
                store.reservations[prepared.correlation.attemptId]?) stored
              simp only [sameAttempt, BTreeMap.getElem?_insert_same] at inserted
              exact ⟨_, inserted, rfl, rfl⟩
            · exact .inl kept
        · exact .inl produced
      · exact .inl produced
  | restart now draws =>
      simp only [perform, restart] at produced
      split at produced <;> exact .inl produced
  | _ =>
      simp only [perform, conclude] at produced
      repeat' split at produced
      all_goals exact .inl produced

/-- No command is forgotten. -/
theorem perform_commands_kept (world : AuthorityWorld) (call : AuthorityCall) :
    world.commands <:+ (world.perform call).commands := by
  cases call with
  | authorizeProbe prepared result =>
      simp only [perform]
      split
      · split
        · exact List.suffix_cons _ _
        · exact List.suffix_rfl
      · exact List.suffix_rfl
  | restart now draws =>
      simp only [perform, restart]
      split <;> exact List.suffix_rfl
  | _ =>
      simp only [perform, conclude]
      repeat' split
      all_goals exact List.suffix_rfl

/-! ## Runs -/

/-- Every operation keeps attachments those of claims. -/
theorem Attributed.perform {world : AuthorityWorld} (attributed : Attributed world)
    (keyed : TablesKeyed world.store) (call : AuthorityCall) :
    Attributed (world.perform call) where
  stored _ _ stored := perform_stored attributed call stored
  imaged attemptId attachment imaged := by
    obtain ⟨origin, present | present, same⟩ := perform_imaged keyed call imaged
    · rw [same]
      exact (attributed.imaged attemptId origin present).reaches
        (perform_reaches world call)
    · rw [same]
      exact perform_stored attributed call present
  prepared dispatch present := by
    rcases perform_prepared call present with kept | attached
    · exact (attributed.prepared dispatch kept).reaches (perform_reaches world call)
    · exact (attributed.imaged _ _ attached).reaches (perform_reaches world call)
  commands command produced := by
    rcases perform_commands call produced with
      kept | ⟨dispatch, present, correlation, attachment, _⟩
    · exact (attributed.commands command kept).reaches (perform_reaches world call)
    · rw [correlation, attachment]
      exact (attributed.prepared dispatch present).reaches (perform_reaches world call)

/-- In every world of a run the attachments are those of claims. -/
theorem attributed_after (activeMacKey : Bytes32) (now : OffsetDateTime)
    (events : List AuthorityEvent) : Attributed (after activeMacKey now events) := by
  have initially : Attributed (initial activeMacKey now) :=
    { stored := fun _ _ stored => by
        simp [store, DaemonAuthority.store, initial, DaemonAuthority.new,
          FakePersist.default] at stored
      imaged := fun _ _ imaged => by simp [initial, DaemonAuthority.new] at imaged
      prepared := fun _ present => by cases present
      commands := fun _ present => by cases present }
  have kept : ∀ (world : AuthorityWorld) (event : AuthorityEvent),
      Reached activeMacKey world ∧ Attributed world →
        Reached activeMacKey (world.step event) ∧ Attributed (world.step event) := by
    rintro world event ⟨reached, attributed⟩
    have allowed : Attributed (world.allow event.completes) := { attributed with }
    exact ⟨reached.trans (step_reaches world event),
      allowed.perform reached.keyed event.call⟩
  exact (Transition.invariant_run _ kept ⟨.initial activeMacKey now, initially⟩ events).2

/-- No command of a run is forgotten. -/
theorem run_commands_kept (world : AuthorityWorld) (events : List AuthorityEvent) :
    world.commands <:+ (Transition.run step world events).commands := by
  induction events generalizing world with
  | nil => exact List.suffix_rfl
  | cons event rest inductionHypothesis =>
      have kept := perform_commands_kept (world.allow event.completes) event.call
      exact List.IsSuffix.trans kept (inductionHypothesis (world.step event))

/-- Commands of a run are for different arms or generations. -/
theorem generations_distinct (activeMacKey : Bytes32) (now : OffsetDateTime)
    (events : List AuthorityEvent) :
    ((after activeMacKey now events).commands.map fun command =>
      (command.attachment.armId, command.attachment.generation)).Nodup := by
  obtain ⟨phases, tracks⟩ := tracked_after activeMacKey now events
  obtain ⟨operations, reached⟩ := reached_after activeMacKey now events
  have attributed := attributed_after activeMacKey now events
  have identified : ClaimsIdentified (after activeMacKey now events).store := by
    rw [reached]
    exact claimsIdentified_after activeMacKey operations
  rw [List.Nodup, List.pairwise_map]
  refine (List.pairwise_map.1 tracks.commandsDistinct).imp_of_mem ?_
  intro first second listed present different same
  rw [Prod.mk.injEq] at same
  exact different ((attributed.commands first listed).unique identified
    (attributed.commands second present) same.1 same.2)

/-- What the store held when a command was produced: before the operation the claim
and the prepared dispatch of its attempt and no reservation, after it the
reservation. -/
structure Preceded (before world : AuthorityWorld) (command : ControllerCommand) :
    Prop where
  claimed : before.store.ClaimedUnder command.correlation.attemptId command.attachment
  prepared : before.store.prepared[command.correlation.attemptId]? =
    some command.correlation
  unreserved : before.store.reservations[command.correlation.attemptId]? = none
  reserved : world.ReservedFor command

/-- A new command is preceded in the store by its claim, dispatch and reservation. -/
theorem step_preceded {world : AuthorityWorld} {phases : AttemptId → Phase}
    (tracks : Tracks world phases) (attributed : Attributed world)
    (event : AuthorityEvent) {command : ControllerCommand}
    (produced : command ∈ (world.step event).commands)
    (unproduced : command ∉ world.commands) :
    Preceded world (world.step event) command := by
  rcases perform_commands event.call produced with
    kept | ⟨dispatch, present, correlation, attachment, reserved⟩
  · exact absurd kept unproduced
  have rows := tracks.rows dispatch.correlation.attemptId
  rw [(tracks.prepared dispatch present).1] at rows
  constructor
  · rw [correlation, attachment]
    exact attributed.prepared dispatch present
  · rw [correlation]
    exact congrArg AttemptRows.prepared rows
  · rw [correlation]
    exact congrArg AttemptRows.reservation rows
  · exact reserved

/-- Along every run with restarts at most one command is produced for each attempt and
for each arm and generation, and each is preceded in the store by the claim, the
prepared dispatch and the reservation of its attempt. -/
theorem one_command_per_claimed_generation (activeMacKey : Bytes32)
    (now : OffsetDateTime) (events : List AuthorityEvent) :
    ((after activeMacKey now events).commands.map
        fun command => command.correlation.attemptId).Nodup ∧
      ((after activeMacKey now events).commands.map
        fun command => (command.attachment.armId, command.attachment.generation)).Nodup ∧
      ∀ before event rest, events = before ++ event :: rest →
        (after activeMacKey now (before ++ [event])).commands <:+
            (after activeMacKey now events).commands ∧
          ∀ command ∈ (after activeMacKey now (before ++ [event])).commands,
            command ∉ (after activeMacKey now before).commands →
              Preceded (after activeMacKey now before)
                (after activeMacKey now (before ++ [event])) command := by
  refine ⟨?_, generations_distinct activeMacKey now events, ?_⟩
  · obtain ⟨phases, tracks⟩ := tracked_after activeMacKey now events
    exact tracks.commandsDistinct
  · rintro before event rest rfl
    have split : ∀ first second, after activeMacKey now (first ++ second) =
        Transition.run step (after activeMacKey now first) second :=
      fun _ _ => Transition.run_append _ _ _ _
    refine ⟨?_, ?_⟩
    · rw [List.append_cons before event rest, split (before ++ [event]) rest]
      exact run_commands_kept _ rest
    · obtain ⟨phases, tracks⟩ := tracked_after activeMacKey now before
      rw [split]
      intro command produced unproduced
      exact step_preceded tracks (attributed_after activeMacKey now before) event produced
        unproduced

end Steps

end AuthorityWorld
end Gearwit
