import Gearwit.Authority.World
import Gearwit.Persist.ClaimIdentity

/-!
# Runs follow the lifecycle

In every run each attempt has a phase that explains all its rows, each product at
hand belongs to the phase it can still change, and no two products of one kind
belong to one attempt.  Every event moves every phase along the lifecycle.
-/

namespace Gearwit

open FakePersist

namespace AuthorityWorld

/-- No product that could still change an attempt is at hand. -/
structure Free (world : AuthorityWorld) (attemptId : AttemptId) : Prop where
  receipts : ∀ receipt ∈ world.receipts, receipt.attemptId ≠ attemptId
  prepared : ∀ dispatch ∈ world.prepared, dispatch.correlation.attemptId ≠ attemptId
  authorized : ∀ write ∈ world.authorized,
    write.prepared.correlation.attemptId ≠ attemptId

/-- The phases explain the store, the products at hand and the commands. -/
structure Tracks (world : AuthorityWorld) (phases : AttemptId → Phase) : Prop where
  rows : ∀ attemptId, world.store.attemptRows attemptId = (phases attemptId).rows
  receipts : ∀ receipt ∈ world.receipts, phases receipt.attemptId = .admitted
  receiptsDistinct : (world.receipts.map AdmissionReceipt.attemptId).Nodup
  prepared : ∀ dispatch ∈ world.prepared,
    phases dispatch.correlation.attemptId = .dispatched dispatch.correlation ∧
      dispatch.correlation.turnRef = none
  preparedDistinct :
    (world.prepared.map fun dispatch => dispatch.correlation.attemptId).Nodup
  authorized : ∀ write ∈ world.authorized, ∃ probeId epoch,
    phases write.prepared.correlation.attemptId =
        .reserved ⟨write.prepared.correlation, probeId, epoch⟩ ∧
      write.prepared.correlation.turnRef = none
  authorizedDistinct :
    (world.authorized.map fun write => write.prepared.correlation.attemptId).Nodup
  observing : ∀ scope ∈ world.observationScopes,
    (phases scope.correlation.attemptId).Concluded
  reconciling : ∀ scope ∈ world.reconciliationScopes,
    (phases scope.correlation.attemptId).Concluded
  commands : ∀ command ∈ world.commands,
    (phases command.correlation.attemptId).Crossed
  commandsDistinct :
    (world.commands.map fun command => command.correlation.attemptId).Nodup

namespace Tracks

variable {world : AuthorityWorld} {phases : AttemptId → Phase}

/-- An attempt in a phase no product waits in is free. -/
theorem free_of_phase (tracks : Tracks world phases) {attemptId : AttemptId}
    (notAdmitted : phases attemptId ≠ .admitted)
    (notDispatched : ∀ correlation, phases attemptId ≠ .dispatched correlation)
    (notReserved : ∀ reservation, phases attemptId ≠ .reserved reservation) :
    Free world attemptId where
  receipts := by
    rintro receipt present rfl
    exact notAdmitted (tracks.receipts receipt present)
  prepared := by
    rintro dispatch present rfl
    exact notDispatched _ (tracks.prepared dispatch present).1
  authorized := by
    rintro write present rfl
    obtain ⟨_, _, reserved, _⟩ := tracks.authorized write present
    exact notReserved _ reserved

/-- A concluded attempt is free. -/
theorem free_of_concluded (tracks : Tracks world phases) {attemptId : AttemptId}
    (concluded : (phases attemptId).Concluded) : Free world attemptId := by
  obtain ⟨reservation, outcome, isConcluded⟩ := concluded
  refine tracks.free_of_phase ?_ ?_ ?_ <;> rw [isConcluded] <;> intros <;> simp

/-- Other rows of the store do not matter. -/
theorem withAuthority_quiet (tracks : Tracks world phases)
    {authority : DaemonAuthority (Interrupted FakePersist)}
    (same : ∀ attemptId,
      authority.store.attemptRows attemptId = world.store.attemptRows attemptId) :
    Tracks (world.withAuthority authority) phases :=
  { tracks with
    rows := fun attemptId => (same attemptId).trans (tracks.rows attemptId) }

/-- A free attempt advances with its rows. -/
theorem withAuthority_change (tracks : Tracks world phases)
    {authority : DaemonAuthority (Interrupted FakePersist)}
    {attemptId : AttemptId} {phase : Phase} (free : Free world attemptId)
    (leads : Phase.Leads (phases attemptId) phase)
    (change : RowsChange world.store authority.store attemptId phase.rows) :
    Tracks (world.withAuthority authority) (Function.update phases attemptId phase) where
  rows other := by
    by_cases same : other = attemptId
    · subst same
      rw [Function.update_self]
      exact change.here
    · rw [Function.update_of_ne same]
      exact (change.elsewhere other same).trans (tracks.rows other)
  receipts receipt present := by
    rw [Function.update_of_ne (free.receipts receipt present)]
    exact tracks.receipts receipt present
  receiptsDistinct := tracks.receiptsDistinct
  prepared dispatch present := by
    rw [Function.update_of_ne (free.prepared dispatch present)]
    exact tracks.prepared dispatch present
  preparedDistinct := tracks.preparedDistinct
  authorized write present := by
    rw [Function.update_of_ne (free.authorized write present)]
    exact tracks.authorized write present
  authorizedDistinct := tracks.authorizedDistinct
  observing scope present := by
    by_cases same : scope.correlation.attemptId = attemptId
    · rw [same, Function.update_self]
      exact leads.concluded (same ▸ tracks.observing scope present)
    · rw [Function.update_of_ne same]
      exact tracks.observing scope present
  reconciling scope present := by
    by_cases same : scope.correlation.attemptId = attemptId
    · rw [same, Function.update_self]
      exact leads.concluded (same ▸ tracks.reconciling scope present)
    · rw [Function.update_of_ne same]
      exact tracks.reconciling scope present
  commands command present := by
    by_cases same : command.correlation.attemptId = attemptId
    · rw [same, Function.update_self]
      exact leads.crossed (same ▸ tracks.commands command present)
    · rw [Function.update_of_ne same]
      exact tracks.commands command present
  commandsDistinct := tracks.commandsDistinct

private theorem not_mem_erase_of_nodup {α β : Type} [DecidableEq α] {list : List α}
    {key : α → β} (distinct : (list.map key).Nodup) {taken : α}
    (present : taken ∈ list) :
    ∀ other ∈ list.erase taken, key other ≠ key taken := by
  intro other kept same
  have listed := List.Nodup.of_map _ distinct
  have different : other ≠ taken := ((listed.mem_erase_iff).1 kept).1
  exact different (List.inj_on_of_nodup_map distinct ((listed.mem_erase_iff).1 kept).2
    present same)

/-- A taken receipt frees its attempt. -/
theorem takeReceipt (tracks : Tracks world phases) {receipt : AdmissionReceipt}
    (present : receipt ∈ world.receipts) :
    Tracks { world with receipts := world.receipts.erase receipt } phases ∧
      Free { world with receipts := world.receipts.erase receipt }
        receipt.attemptId := by
  have admitted := tracks.receipts receipt present
  refine ⟨{ tracks with
    receipts := fun other kept => tracks.receipts other (List.mem_of_mem_erase kept)
    receiptsDistinct :=
      (List.erase_sublist.map _).nodup tracks.receiptsDistinct }, ?_, ?_, ?_⟩
  · exact not_mem_erase_of_nodup tracks.receiptsDistinct present
  · intro dispatch kept same
    rw [← same, (tracks.prepared dispatch kept).1] at admitted
    cases admitted
  · intro write kept same
    obtain ⟨_, _, reserved, _⟩ := tracks.authorized write kept
    rw [← same, reserved] at admitted
    cases admitted

/-- A taken dispatch frees its attempt. -/
theorem takePrepared (tracks : Tracks world phases) {prepared : PreparedDispatch}
    (present : prepared ∈ world.prepared) :
    Tracks { world with prepared := world.prepared.erase prepared } phases ∧
      Free { world with prepared := world.prepared.erase prepared }
        prepared.correlation.attemptId := by
  have dispatched := (tracks.prepared prepared present).1
  refine ⟨{ tracks with
    prepared := fun other kept => tracks.prepared other (List.mem_of_mem_erase kept)
    preparedDistinct :=
      (List.erase_sublist.map _).nodup tracks.preparedDistinct }, ?_, ?_, ?_⟩
  · intro receipt kept same
    rw [← same, tracks.receipts receipt kept] at dispatched
    cases dispatched
  · exact not_mem_erase_of_nodup tracks.preparedDistinct present
  · intro write kept same
    obtain ⟨_, _, reserved, _⟩ := tracks.authorized write kept
    rw [← same, reserved] at dispatched
    cases dispatched

/-- A taken write frees its attempt. -/
theorem takeAuthorized (tracks : Tracks world phases)
    {authorized : AuthorizedNativeWrite} (present : authorized ∈ world.authorized) :
    Tracks { world with authorized := world.authorized.erase authorized } phases ∧
      Free { world with authorized := world.authorized.erase authorized }
        authorized.prepared.correlation.attemptId := by
  obtain ⟨_, _, reserved, _⟩ := tracks.authorized authorized present
  refine ⟨{ tracks with
    authorized := fun other kept =>
      tracks.authorized other (List.mem_of_mem_erase kept)
    authorizedDistinct :=
      (List.erase_sublist.map _).nodup tracks.authorizedDistinct }, ?_, ?_, ?_⟩
  · intro receipt kept same
    rw [← same, tracks.receipts receipt kept] at reserved
    cases reserved
  · intro dispatch kept same
    rw [← same, (tracks.prepared dispatch kept).1] at reserved
    cases reserved
  · exact not_mem_erase_of_nodup tracks.authorizedDistinct present

/-- A handed-out receipt belongs to an admitted, free attempt. -/
theorem giveReceipt (tracks : Tracks world phases) (receipt : AdmissionReceipt)
    (free : Free world receipt.attemptId)
    (admitted : phases receipt.attemptId = .admitted) :
    Tracks { world with receipts := receipt :: world.receipts } phases :=
  { tracks with
    receipts := by
      intro other present
      rcases List.mem_cons.1 present with rfl | kept
      · exact admitted
      · exact tracks.receipts other kept
    receiptsDistinct := by
      rw [List.map_cons, List.nodup_cons]
      refine ⟨?_, tracks.receiptsDistinct⟩
      intro repeated
      obtain ⟨other, kept, same⟩ := List.mem_map.1 repeated
      exact free.receipts other kept same }

/-- A handed-out dispatch belongs to a dispatched, free attempt. -/
theorem givePrepared (tracks : Tracks world phases) (prepared : PreparedDispatch)
    (free : Free world prepared.correlation.attemptId)
    (dispatched : phases prepared.correlation.attemptId =
      .dispatched prepared.correlation)
    (unnamed : prepared.correlation.turnRef = none) :
    Tracks { world with prepared := prepared :: world.prepared } phases :=
  { tracks with
    prepared := by
      intro other present
      rcases List.mem_cons.1 present with rfl | kept
      · exact ⟨dispatched, unnamed⟩
      · exact tracks.prepared other kept
    preparedDistinct := by
      rw [List.map_cons, List.nodup_cons]
      refine ⟨?_, tracks.preparedDistinct⟩
      intro repeated
      obtain ⟨other, kept, same⟩ := List.mem_map.1 repeated
      exact free.prepared other kept same }

/-- A handed-out write and its command belong to a reserved, free attempt that no
command was produced for. -/
theorem giveAuthorized (tracks : Tracks world phases)
    (authorized : AuthorizedNativeWrite) {probeId : RequestNonce}
    {epoch : NativeMutationEpoch}
    (free : Free world authorized.prepared.correlation.attemptId)
    (reserved : phases authorized.prepared.correlation.attemptId =
      .reserved ⟨authorized.prepared.correlation, probeId, epoch⟩)
    (unnamed : authorized.prepared.correlation.turnRef = none)
    (same : authorized.command.correlation = authorized.prepared.correlation)
    (uncommanded : ∀ command ∈ world.commands,
      command.correlation.attemptId ≠ authorized.prepared.correlation.attemptId) :
    Tracks { world with
      authorized := authorized :: world.authorized
      commands := authorized.command :: world.commands } phases :=
  { tracks with
    authorized := by
      intro other present
      rcases List.mem_cons.1 present with rfl | kept
      · exact ⟨probeId, epoch, reserved, unnamed⟩
      · exact tracks.authorized other kept
    authorizedDistinct := by
      rw [List.map_cons, List.nodup_cons]
      refine ⟨?_, tracks.authorizedDistinct⟩
      intro repeated
      obtain ⟨other, kept, equal⟩ := List.mem_map.1 repeated
      exact free.authorized other kept equal
    commands := by
      intro other present
      rcases List.mem_cons.1 present with rfl | kept
      · rw [same, reserved]
        trivial
      · exact tracks.commands other kept
    commandsDistinct := by
      rw [List.map_cons, List.nodup_cons]
      refine ⟨?_, tracks.commandsDistinct⟩
      intro repeated
      obtain ⟨other, kept, equal⟩ := List.mem_map.1 repeated
      rw [same] at equal
      exact uncommanded other kept equal }

/-- Handed-out scopes belong to concluded attempts. -/
theorem giveScopes (tracks : Tracks world phases) {observing : List ObservationScope}
    {reconciling : List ReconciliationScope}
    (observed : ∀ scope ∈ observing, (phases scope.correlation.attemptId).Concluded)
    (reconciled : ∀ scope ∈ reconciling,
      (phases scope.correlation.attemptId).Concluded) :
    Tracks { world with
      observationScopes := observing ++ world.observationScopes
      reconciliationScopes := reconciling ++ world.reconciliationScopes } phases :=
  { tracks with
    observing := by
      intro scope present
      rcases List.mem_append.1 present with new | kept
      · exact observed scope new
      · exact tracks.observing scope kept
    reconciling := by
      intro scope present
      rcases List.mem_append.1 present with new | kept
      · exact reconciled scope new
      · exact tracks.reconciling scope kept }

end Tracks

end AuthorityWorld
end Gearwit
