import Gearwit.Simulator.Lifecycle
import Gearwit.Simulator.Reports
import Gearwit.Simulator.Scenarios

/-!
# Generated chains

A generated chain is a chain with room whatever its seed is, and the fault its seed selects
shows in it.  Over an adapter that answers its stimuli as the oracle does it therefore passes.
-/

namespace Gearwit
namespace Simulator

open Transition

/-! ## Spacing -/

private theorem delay_bounds (draw : UInt64) :
    0 < (1 + draw % 3).toNat ∧ (1 + draw % 3).toNat ≤ 3 := by
  have one : (1 : UInt64).toNat = 1 := rfl
  have three : (3 : UInt64).toNat = 3 := rfl
  have small := Nat.mod_lt draw.toNat (by decide : 0 < 3)
  rw [UInt64.toNat_add, UInt64.toNat_mod, one, three]
  omega

private theorem spaced_due {due delay : UInt64} {room : Nat}
    (fits : due.toNat + 3 * (room + 1) < UInt64.size) (short : delay.toNat ≤ 3) :
    (saturatingAdd due delay).toNat = due.toNat + delay.toNat := by
  have size : UInt64.size = 18446744073709551616 := rfl
  rw [saturatingAdd, if_pos (by omega), UInt64.toNat_add, Nat.mod_eq_of_lt]
  omega

/-- Spaced stimuli are due one after the other, each waiting for the one before. -/
private theorem space_linked (scheduler : SplitMix64) (due : UInt64) (prior : Option String)
    (stimuli : List Stimulus) (fits : due.toNat + 3 * stimuli.length < UInt64.size) :
    (space scheduler due prior stimuli).IsChain Awaits ∧
      (∀ first ∈ (space scheduler due prior stimuli).head?,
        due < first.dueTick ∧ first.causalParent = prior) ∧
      ∀ spaced ∈ space scheduler due prior stimuli,
        spaced.dueTick.toNat ≤ due.toNat + 3 * stimuli.length := by
  induction stimuli generalizing scheduler due prior with
  | nil => exact ⟨.nil, by simp [space], by simp [space]⟩
  | cons item rest inductionHypothesis =>
      rw [List.length_cons] at fits
      obtain ⟨forward, short⟩ := delay_bounds scheduler.next.1
      have exact := spaced_due fits short
      obtain ⟨linked, head, bounded⟩ := inductionHypothesis scheduler.next.2
        (saturatingAdd due (1 + scheduler.next.1 % 3)) (some item.operationId) (by omega)
      rw [space]
      generalize saturatingAdd due (1 + scheduler.next.1 % 3) = later at exact linked head bounded
      refine ⟨linked.cons fun next member => head next member, ?_, ?_⟩
      · intro first member
        obtain rfl := Option.some.inj member
        exact ⟨by rw [UInt64.lt_iff_toNat_lt, exact]; omega, rfl⟩
      · intro spaced member
        rw [List.length_cons]
        rcases List.mem_cons.1 member with rfl | later
        · rw [exact]
          omega
        · have bound := bounded spaced later
          omega

/-- What a stimulus asks for. -/
def Stimulus.request (stimulus : Stimulus) : String × Action :=
  (stimulus.operationId, stimulus.action)

@[simp] private theorem space_requests (scheduler : SplitMix64) (due : UInt64)
    (prior : Option String) (stimuli : List Stimulus) :
    (space scheduler due prior stimuli).map Stimulus.request =
      stimuli.map Stimulus.request := by
  induction stimuli generalizing scheduler due prior with
  | nil => rfl
  | cons item rest inductionHypothesis =>
      rw [space, List.map_cons, List.map_cons, inductionHypothesis]
      simp only [Stimulus.request]

@[simp] private theorem length_retryCycles (scheduler : UInt64) (retrieve acknowledge : String)
    (cycles cycle : Nat) (sequence : UInt64) :
    (retryCycles scheduler retrieve acknowledge cycles cycle sequence).length = 3 * cycles := by
  induction cycles generalizing cycle sequence with
  | zero => rfl
  | succ cycles inductionHypothesis =>
      simp only [retryCycles, List.length_cons, inductionHypothesis]
      omega

@[simp] private theorem length_sequenced (sequence : UInt64)
    (operations : List (String × Action)) :
    (sequenced sequence operations).length = operations.length := by
  induction operations generalizing sequence with
  | nil => rfl
  | cons operation rest inductionHypothesis =>
      rw [sequenced, List.length_cons, List.length_cons, inductionHypothesis]

private theorem generatedCycles_bounds (seeds : SeedSet) :
    2 ≤ generatedCycles seeds ∧ generatedCycles seeds ≤ 4 := by
  have three : (3 : UInt64).toNat = 3 := rfl
  have small := Nat.mod_lt seeds.source.toNat (by decide : 0 < 3)
  rw [generatedCycles, UInt64.toNat_mod, three]
  omega

/-- A generated stream has fourteen stimuli and three for every retry cycle. -/
theorem length_generatedStimuli (seeds : SeedSet) :
    (generatedStimuli seeds).length = 14 + 3 * generatedCycles seeds := by
  simp only [generatedStimuli, List.length_append, length_retryCycles, length_sequenced]
  simp only [firstAcknowledgedChain, closingOperations, List.length_cons, List.length_nil]
  omega

/-- Spacing keeps every stimulus. -/
theorem length_space (scheduler : SplitMix64) (due : UInt64) (prior : Option String)
    (stimuli : List Stimulus) : (space scheduler due prior stimuli).length = stimuli.length := by
  have lengths := congrArg List.length (space_requests scheduler due prior stimuli)
  rwa [List.length_map, List.length_map] at lengths

private theorem generatedStimuli_fit (seeds : SeedSet) :
    (0 : UInt64).toNat + 3 * (generatedStimuli seeds).length ≤ 78 := by
  have cycles := generatedCycles_bounds seeds
  have zero : (0 : UInt64).toNat = 0 := rfl
  rw [length_generatedStimuli, zero]
  omega

/-- A generated chain is a chain. -/
theorem generatedChain_chain (seed : UInt64) (store : SimulatorStore) :
    Chain (generatedChain seed store).stimuli := by
  obtain ⟨linked, head, _⟩ := space_linked ⟨(deriveSeeds seed).scheduler⟩ 0 none _
    ((generatedStimuli_fit (deriveSeeds seed)).trans_lt (by decide))
  exact ⟨fun first member => (head first member).2, linked⟩

/-- Names of the generated cases. -/
theorem generatedChain_caseId (seed : UInt64) (store : SimulatorStore) :
    (generatedChain seed store).caseId ∈ ["SIM-GENERATED-NORMAL", "SIM-GENERATED-ORACLE-01",
      "SIM-GENERATED-ORACLE-02", "SIM-GENERATED-ORACLE-03", "SIM-GENERATED-ORACLE-04"] := by
  have small : ((deriveSeeds seed).fault % 5).toNat < 5 := by
    rw [UInt64.toNat_mod]
    exact Nat.mod_lt _ (by decide)
  have name : (generatedChain seed store).caseId =
      generatedCaseId ((deriveSeeds seed).fault % 5) := rfl
  rw [name]
  generalize (deriveSeeds seed).fault % 5 = index at small
  obtain rfl | rfl | rfl | rfl | rfl :
      index = 0 ∨ index = 1 ∨ index = 2 ∨ index = 3 ∨ index = 4 := by
    have zero : (0 : UInt64).toNat = 0 := rfl
    have one : (1 : UInt64).toNat = 1 := rfl
    have two : (2 : UInt64).toNat = 2 := rfl
    have three : (3 : UInt64).toNat = 3 := rfl
    have four : (4 : UInt64).toNat = 4 := rfl
    simp only [← UInt64.toNat_inj]
    omega
  · decide
  · decide
  · decide
  · decide
  · decide

/-- A generated case is not the queue case. -/
theorem generatedChain_unqueued (seed : UInt64) (store : SimulatorStore) :
    (generatedChain seed store).caseId ≠ "SIM-QUEUE-01" := by
  have cases := generatedChain_caseId seed store
  generalize (generatedChain seed store).caseId = caseId at cases
  revert cases caseId
  decide

/-! ## Faults that show in streams -/

private theorem shows_at {fault : FaultMode} {before after : List Stimulus}
    {stimulus : Stimulus}
    (shows : fault.shows stimulus.action
      ((run Oracle.step .default before).apply stimulus).1 = true) :
    Shows fault (before ++ stimulus :: after) := by
  refine ⟨(stimulus, ((run Oracle.step .default before).apply stimulus).1), ?_, shows⟩
  rw [Oracle.observe_append, List.zip_append (by simp), Oracle.observe_cons, List.zip_cons_cons]
  exact List.mem_append_right _ List.mem_cons_self

private theorem ne_maxTick {number : UInt64} (small : number.toNat < UInt64.size - 1) :
    number ≠ maxTick := by
  rintro rfl
  rw [Scheduler.toNat_maxTick] at small
  have size : UInt64.size = 18446744073709551616 := rfl
  omega

/-- An admission is seen to be duplicated. -/
private theorem shows_duplicate {stimuli : List Stimulus} (short : stimuli.length < 1024)
    {stimulus : Stimulus} (member : stimulus ∈ stimuli) {event : String}
    (admits : stimulus.action = .admitEvent event) : Shows .duplicateAdmission stimuli := by
  obtain ⟨before, after, rfl⟩ := List.append_of_mem member
  refine shows_at ?_
  have bound := (Oracle.run_growth .default (before ++ [stimulus])).1
  rw [run_append, run_cons, run_nil, ← Oracle.apply_effects] at bound
  rw [admits]
  refine decide_eq_true (ne_maxTick ?_)
  have none : Oracle.default.logicalEffects.toNat = 0 := rfl
  have size : UInt64.size = 18446744073709551616 := rfl
  rw [List.length_append] at bound short
  rw [List.length_cons] at short bound
  rw [List.length_nil] at bound
  omega

/-- An acknowledgement is seen to be published falsely. -/
private theorem shows_publication {stimuli : List Stimulus} (short : stimuli.length < 1024)
    {stimulus : Stimulus} (member : stimulus ∈ stimuli) {request : String}
    (acknowledges : stimulus.action = .acknowledge request) :
    Shows .falsePublication stimuli := by
  obtain ⟨before, after, rfl⟩ := List.append_of_mem member
  refine shows_at ?_
  have bound := (Oracle.run_growth .default (before ++ [stimulus])).2.1
  rw [run_append, run_cons, run_nil, ← Oracle.apply_revision] at bound
  rw [acknowledges]
  refine decide_eq_true (ne_maxTick ?_)
  have none : Oracle.default.revision.toNat = 0 := rfl
  have size : UInt64.size = 18446744073709551616 := rfl
  rw [List.length_append] at bound short
  rw [List.length_cons] at short bound
  rw [List.length_nil] at bound
  omega

/-- A restart after an arm is seen to lose a revision. -/
private theorem shows_loss {first : Stimulus} {rest : List Stimulus}
    (short : rest.length < 1024) (arms : first.action = .arm) {stimulus : Stimulus}
    (member : stimulus ∈ rest) (restarts : stimulus.action = .restart) :
    Shows .loseAcknowledgment (first :: rest) := by
  obtain ⟨before, after, rfl⟩ := List.append_of_mem member
  rw [← List.cons_append]
  refine shows_at ?_
  have armed : (Oracle.default.step first).revision.toNat = 1 := by
    have fresh : Oracle.default.seenOperations[first.operationId]? = none := by
      simp [Oracle.default]
    rw [Oracle.step, Oracle.apply_fresh fresh, arms]
    rfl
  have forward := (Oracle.run_growth (Oracle.default.step first) (before ++ [stimulus])).2.2
  rw [armed, run_append, run_cons, run_nil, ← Oracle.apply_revision] at forward
  rw [restarts, run_cons]
  refine decide_eq_true fun none => ?_
  rw [none] at forward
  rw [List.length_append, List.length_cons] at short
  rw [List.length_append, List.length_cons, List.length_nil] at forward
  have size : UInt64.size = 18446744073709551616 := rfl
  have fits := forward (by omega)
  exact absurd fits (by decide)

/-- A repeated retrieval is seen to be resurrected. -/
private theorem shows_resurrection {front back : List Stimulus} {earlier stimulus : Stimulus}
    (listed : earlier ∈ front) (member : stimulus ∈ back)
    (same : earlier.operationId = stimulus.operationId) {request : String}
    (retrieves : stimulus.action = .retrieve request) :
    Shows .resurrectRevokedGrant (front ++ back) := by
  obtain ⟨before, after, rfl⟩ := List.append_of_mem member
  rw [← List.append_assoc]
  refine shows_at ?_
  rw [retrieves]
  refine decide_eq_true fun retrieved => ?_
  rcases Oracle.apply_cases (run Oracle.step .default (front ++ before)) stimulus with
    ⟨_, outcome⟩ | ⟨fresh, _⟩
  · rw [retrieved] at outcome
    exact absurd outcome (by decide)
  · rw [Oracle.run_seen] at fresh
    have unseen := List.find?_eq_none.1 (Option.map_eq_none_iff.1 (Option.or_eq_none_iff.1 fresh).2)
      earlier (List.mem_append_left _ listed)
    exact unseen (decide_eq_true same)

/-! ## Generated chains pass -/

/-- Every cycle restarts and retries the retrieval. -/
private theorem retryCycles_requests (scheduler : UInt64) (retrieve acknowledge : String)
    (cycles cycle : Nat) (sequence : UInt64) :
    ("restart-" ++ toString cycle, .restart) ∈
        (retryCycles scheduler retrieve acknowledge (cycles + 1) cycle sequence).map
          Stimulus.request ∧
      ("retrieve-1", .retrieve retrieve) ∈
        (retryCycles scheduler retrieve acknowledge (cycles + 1) cycle sequence).map
          Stimulus.request := by
  rw [retryCycles]
  split_ifs <;> simp [Stimulus.request, stimulus]

private theorem exists_request {stimuli : List Stimulus} {operationId : String}
    {action : Action} (listed : (operationId, action) ∈ stimuli.map Stimulus.request) :
    ∃ stimulus ∈ stimuli, stimulus.operationId = operationId ∧ stimulus.action = action := by
  obtain ⟨stimulus, member, same⟩ := List.mem_map.1 listed
  exact ⟨stimulus, member, congrArg Prod.fst same, congrArg Prod.snd same⟩

/-- A generated chain arms, goes on to an acknowledgement, and retries. -/
private theorem generated_requests (seed : UInt64) (store : SimulatorStore) :
    ∃ first front back, (generatedChain seed store).stimuli = first :: (front ++ back) ∧
      first.action = .arm ∧
      front.map Stimulus.request =
        ((firstAcknowledgedChain (named "event-" (deriveSeeds seed).actor)
          (named "retrieve-" (deriveSeeds seed).actor)
          (named "ack-" (deriveSeeds seed).actor)).map Stimulus.request).tail ∧
      ("restart-" ++ toString 0, .restart) ∈ back.map Stimulus.request ∧
      ("retrieve-1", .retrieve (named "retrieve-" (deriveSeeds seed).actor)) ∈
        back.map Stimulus.request := by
  have requests : (generatedChain seed store).stimuli.map Stimulus.request =
      (generatedStimuli (deriveSeeds seed)).map Stimulus.request := space_requests _ _ _ _
  rw [generatedStimuli, List.append_assoc, List.map_append] at requests
  obtain ⟨start, back, split, begins, closes⟩ := List.map_eq_append_iff.1 requests
  obtain ⟨first, front, rfl, arms, follows⟩ := List.map_eq_cons_iff.1 begins
  obtain ⟨cycles, more⟩ : ∃ cycles, generatedCycles (deriveSeeds seed) = cycles + 1 :=
    Nat.exists_eq_succ_of_ne_zero (by
      have bounds := generatedCycles_bounds (deriveSeeds seed)
      omega)
  rw [List.map_append, more] at closes
  obtain ⟨restarts, retrieves⟩ := retryCycles_requests (deriveSeeds seed).scheduler
    (named "retrieve-" (deriveSeeds seed).actor) (named "ack-" (deriveSeeds seed).actor)
    cycles 0 6
  refine ⟨first, front, back, split, congrArg Prod.snd arms, follows, ?_, ?_⟩
  · rw [closes]
    exact List.mem_append_left _ restarts
  · rw [closes]
    exact List.mem_append_left _ retrieves

/-- Most stimuli of a generated chain. -/
theorem length_generatedChain (seed : UInt64) (store : SimulatorStore) :
    (generatedChain seed store).stimuli.length ≤ 26 := by
  have bounds := generatedCycles_bounds (deriveSeeds seed)
  have length := length_generatedStimuli (deriveSeeds seed)
  rw [generatedChain, length_space]
  omega

/-- The fault of a generated chain shows. -/
theorem generatedChain_exposed (seed : UInt64) (store : SimulatorStore) :
    Exposed (generatedChain seed store).caseId (generatedChain seed store).stimuli := by
  have short := length_generatedChain seed store
  obtain ⟨first, front, back, split, arms, follows, restarts, retries⟩ :=
    generated_requests seed store
  rw [split] at short ⊢
  rw [List.length_cons, List.length_append] at short
  obtain ⟨claim, claimed, _, admits⟩ := @exists_request front "claim-1"
    (.admitEvent (named "event-" (deriveSeeds seed).actor))
    (by rw [follows]; simp [firstAcknowledgedChain, Stimulus.request, stimulus])
  obtain ⟨retrieve, retrieved, named, _⟩ := @exists_request front "retrieve-1"
    (.retrieve (named "retrieve-" (deriveSeeds seed).actor))
    (by rw [follows]; simp [firstAcknowledgedChain, Stimulus.request, stimulus])
  obtain ⟨acknowledge, answered, _, acknowledges⟩ := @exists_request front "ack-1"
    (.acknowledge (Simulator.named "ack-" (deriveSeeds seed).actor))
    (by rw [follows]; simp [firstAcknowledgedChain, Stimulus.request, stimulus])
  obtain ⟨restart, restarted, _, resumes⟩ := exists_request restarts
  obtain ⟨retry, retried, again, retries⟩ := exists_request retries
  have cases := generatedChain_caseId seed store
  generalize (generatedChain seed store).caseId = caseId at cases
  simp only [List.mem_cons, List.not_mem_nil, or_false] at cases
  rcases cases with rfl | rfl | rfl | rfl | rfl
  · exact fun fault => absurd (by decide) fault
  · have fault : FaultMode.forCase "SIM-GENERATED-ORACLE-01" = .duplicateAdmission := by decide
    rw [Exposed, fault]
    exact fun _ => shows_duplicate (by simp; omega)
      (List.mem_cons_of_mem _ (List.mem_append_left _ claimed)) admits
  · have fault : FaultMode.forCase "SIM-GENERATED-ORACLE-02" = .loseAcknowledgment := by decide
    rw [Exposed, fault]
    exact fun _ => shows_loss (by simp; omega) arms (List.mem_append_right _ restarted) resumes
  · have fault : FaultMode.forCase "SIM-GENERATED-ORACLE-03" = .resurrectRevokedGrant := by
      decide
    rw [Exposed, fault, ← List.cons_append]
    exact fun _ => shows_resurrection (List.mem_cons_of_mem _ retrieved) retried
      (named.trans again.symm) retries
  · have fault : FaultMode.forCase "SIM-GENERATED-ORACLE-04" = .falsePublication := by decide
    rw [Exposed, fault]
    exact fun _ => shows_publication (by simp; omega)
      (List.mem_cons_of_mem _ (List.mem_append_left _ answered)) acknowledges

/-- A generated chain has room. -/
theorem generatedChain_roomy (seed : UInt64) (store : SimulatorStore) :
    Roomy (generatedChain seed store).toScenarioEnvelope := by
  have short := length_generatedChain seed store
  have cases := generatedChain_caseId seed store
  refine ⟨?_, show 0 < 64 by decide, short.trans (show 26 ≤ 1024 by decide), ?_⟩
  · generalize (generatedChain seed store).caseId = caseId at cases
    revert cases caseId
    decide
  · intro spaced member
    have fits := generatedStimuli_fit (deriveSeeds seed)
    obtain ⟨_, _, bounded⟩ := space_linked ⟨(deriveSeeds seed).scheduler⟩ 0 none _
      (fits.trans_lt (by decide))
    have bound := (bounded spaced member).trans fits
    have limits : (generatedChain seed store).limits = .default := rfl
    rw [limits, UInt64.le_iff_toNat_le]
    exact bound.trans (by decide)

/-- Generated cases demand nothing of the observations. -/
theorem generatedChain_undemanding (seed : UInt64) (store : SimulatorStore)
    (observations : List Observation) :
    validateObservations (generatedChain seed store).caseId observations = [] ∧
      (generatedChain seed store).caseId ≠ "SIM-PROC-01" := by
  have cases := generatedChain_caseId seed store
  generalize (generatedChain seed store).caseId = caseId at cases
  have other : caseId ∉ demanding ∧ caseId ≠ "SIM-PROC-01" := by
    revert cases caseId
    decide
  exact ⟨validateObservations_undemanding other.1 observations, other.2⟩

variable {A : Type} [StoreStreamAdapter A]

/-- Whatever its seed is, a generated chain that runs over an adapter that answers its stimuli
as the oracle does passes. -/
theorem generatedChain_passes {adapter : A} {seed : UInt64} {store : SimulatorStore}
    (answers : AnswersAs adapter .default (generatedChain seed store).stimuli) :
    ∃ fuel last,
      Scheduler.executeStream fuel (generatedChain seed store).toScenarioEnvelope adapter =
        .ended last ∧
      last.executed = (generatedChain seed store).stimuli ∧
      (report (generatedChain seed store).toScenarioEnvelope last).status = .passed := by
  have roomy := generatedChain_roomy seed store
  obtain ⟨fuel, last, ended, executed, idle, exact, conformed⟩ :=
    Scheduler.chain_ends answers (generatedChain_chain seed store) roomy
  obtain ⟨undemanding, unprocessed⟩ := generatedChain_undemanding seed store
    (observed (.forCase (generatedChain seed store).caseId) (generatedChain seed store).stimuli)
  refine ⟨fuel, last, ended, executed, ?_⟩
  refine (runStatus_passed_iff conformed roomy executed idle exact).2
    ⟨?_, unprocessed, undemanding, generatedChain_exposed seed store⟩
  obtain ⟨first, front, back, split, _⟩ := generated_requests seed store
  rw [split]
  exact List.cons_ne_nil _ _

end Simulator
end Gearwit
