import Gearwit.Simulator.Chains

/-!
# Reports of runs

A run is judged by what the oracle finds, by what its case demands of the observations, and
by the checks of the host.  A case that injects a fault passes when the fault is found.
-/

namespace Gearwit
namespace Simulator

open Transition

/-! ## What a case demands -/

/-- Whether an observation ended so. -/
def Observation.endedAs (outcome : String) (observation : Observation) : Bool :=
  decide (observation.outcome = outcome)

/-- Whether the last observation, if there is one, ended otherwise. -/
def lastOtherwise (outcome : String) (observations : List Observation) : Bool :=
  observations.getLast?.any fun observation => !observation.endedAs outcome

/-- Effects of the last observation. -/
def lastEffects (observations : List Observation) : UInt64 :=
  (observations.getLast?.map Observation.logicalEffects).getD 0

/-- Findings of a named case. -/
def validateObservations (caseId : String) (observations : List Observation) : List String :=
  (if caseId = "SIM-CHAIN-01" ∧ (observations.any (·.endedAs "rearmed")) = false then
      ["complete chain did not rearm"] else []) ++
  (if caseId = "SIM-CHAIN-02" ∧ observations.countP (·.endedAs "exact_replay") < 2 then
      ["exact retries created a second result"] else []) ++
  (if caseId = "SIM-CHAIN-03" ∧ lastOtherwise "conflict" observations = true then
      ["changed-content operation identity did not conflict after restart"] else []) ++
  (if caseId = "SIM-CHAIN-04" ∧ lastOtherwise "unauthorized" observations = true then
      ["revoked authority returned after restart"] else []) ++
  (if caseId = "SIM-CHAIN-05" ∧ lastOtherwise "unauthorized" observations = true then
      ["stale authority regained access after restart"] else []) ++
  (if caseId = "SIM-CHAIN-06" ∧ (observations.any (·.endedAs "waiting_for_terminal")) = false then
      ["early rearm did not wait for terminal state"] else []) ++
  (if caseId = "SIM-CHAIN-06" ∧ (observations.any fun observation =>
        decide (observation.operationId = "claim-during-rearm") &&
          observation.endedAs "conflict") = false then
      ["event admission was not deferred while rearm waited"] else []) ++
  (if caseId = "SIM-CHAIN-06" ∧ (observations.any fun observation =>
        decide (observation.operationId = "claim-after-rearm") &&
          observation.endedAs "admitted") = false then
      ["deferred event was not admitted in the next lifecycle"] else []) ++
  (if caseId = "SIM-CHAIN-07" ∧ lastOtherwise "rearmed" observations = true then
      ["post-ack restart did not preserve state through rearm"] else []) ++
  (if caseId = "SIM-CHAIN-08" ∧ lastOtherwise "inactive" observations = true then
      ["omitted rearm was not reported inactive"] else []) ++
  (if caseId = "SIM-CHAIN-01" ∧ lastEffects observations ≠ 2 then
      ["complete chain admitted " ++ toString (lastEffects observations) ++
        " logical effects, expected 2"]
    else []) ++
  (if caseId = "SIM-REPLAY-01" ∧ (observations.any (·.endedAs "waiting_for_terminal")) = false then
      ["controlled replay failure was not observed"] else [])

/-- Cases that demand something. -/
def demanding : List String :=
  ["SIM-CHAIN-01", "SIM-CHAIN-02", "SIM-CHAIN-03", "SIM-CHAIN-04", "SIM-CHAIN-05",
    "SIM-CHAIN-06", "SIM-CHAIN-07", "SIM-CHAIN-08", "SIM-REPLAY-01"]

/-- Any other case demands nothing. -/
theorem validateObservations_undemanding {caseId : String} (other : caseId ∉ demanding)
    (observations : List Observation) : validateObservations caseId observations = [] := by
  simp only [demanding, List.mem_cons, List.not_mem_nil, or_false, not_or] at other
  obtain ⟨first, second, third, fourth, fifth, sixth, seventh, eighth, replay⟩ := other
  unfold validateObservations
  rw [if_neg fun both => first both.1, if_neg fun both => second both.1,
    if_neg fun both => third both.1, if_neg fun both => fourth both.1,
    if_neg fun both => fifth both.1, if_neg fun both => sixth both.1,
    if_neg fun both => sixth both.1, if_neg fun both => sixth both.1,
    if_neg fun both => seventh both.1, if_neg fun both => eighth both.1,
    if_neg fun both => first both.1, if_neg fun both => replay both.1]
  rfl

/-! ## The report -/

/-- Status of a case. -/
inductive CaseStatus
  | passed
  | failed
  | incomplete
  deriving DecidableEq

/-- What of an artifact a run decides. -/
structure RunArtifact where
  scenario : ScenarioEnvelope
  observations : List Observation
  hostChecks : List HostCheck
  queue : QueueAccounting
  oracleFindings : List String
  status : CaseStatus

variable {A : Type}

/-- All findings of a run. -/
def findings (envelope : ScenarioEnvelope) (last : Scheduler A) : List String :=
  (if envelope.caseId = "SIM-QUEUE-01" then []
    else oracleFindings last.executed last.observations) ++
  validateObservations envelope.caseId last.observations ++
  (if envelope.caseId ≠ "SIM-QUEUE-01" ∧ last.executed.length ≠ envelope.stimuli.length then
      ["mandatory stream completed " ++ toString last.observations.length ++ " of " ++
        toString envelope.stimuli.length ++ " operations"]
    else [])

/-- Checks of the host, and whether a fault was found. -/
def hostChecks (envelope : ScenarioEnvelope) (last : Scheduler A) : List HostCheck :=
  [last.hostCheck envelope.store] ++
  (if FaultMode.forCase envelope.caseId ≠ .none then
      [{ store := envelope.store
         check := "oracle-detects-" ++ (FaultMode.forCase envelope.caseId).name
         passed := !(findings envelope last).isEmpty
         detail :=
          if (findings envelope last).isEmpty then
            "deliberate adapter receipt violation escaped the independent oracle"
          else
            "independent oracle reported " ++ toString (findings envelope last).length ++
              " mismatch(es)" }]
    else []) ++
  (if envelope.caseId = "SIM-PROC-01" then
      [⟨.sqlite, "real-process-runner", false,
        "use run_process_case so a separate child can be killed"⟩]
    else [])

/-- Status of a run. -/
def runStatus (envelope : ScenarioEnvelope) (last : Scheduler A) : CaseStatus :=
  if last.limited = true ∨
      envelope.caseId ≠ "SIM-QUEUE-01" ∧ last.observations.isEmpty = true then
    .incomplete
  else if (validateObservations envelope.caseId last.observations).isEmpty = true ∧
      (FaultMode.forCase envelope.caseId ≠ .none ∨
        (findings envelope last).isEmpty = true) ∧
      (hostChecks envelope last).all HostCheck.passed = true then
    .passed
  else if envelope.caseId = "SIM-PROC-01" then .incomplete
  else .failed

/-- Report a run of the scheduler. -/
def report (envelope : ScenarioEnvelope) (last : Scheduler A) : RunArtifact where
  scenario := envelope
  observations := last.observations
  hostChecks := hostChecks envelope last
  queue := last.accounting
  oracleFindings := findings envelope last
  status := runStatus envelope last

/-! ## Chains over an adapter that answers as the oracle -/

/-- Some answer to the stimuli shows a fault. -/
def Shows (fault : FaultMode) (stimuli : List Stimulus) : Prop :=
  ∃ answered ∈ stimuli.zip (Oracle.default.observe stimuli),
    fault.shows answered.1.action answered.2 = true

/-- The fault of a case shows, if the case has one. -/
def Exposed (caseId : String) (stimuli : List Stimulus) : Prop :=
  FaultMode.forCase caseId ≠ .none → Shows (.forCase caseId) stimuli

private theorem shows_none (action : Action) (observation : Observation) :
    FaultMode.none.shows action observation = false := by
  cases action <;> rfl

private theorem oracleFindings_isEmpty (fault : FaultMode) (stimuli : List Stimulus) :
    (oracleFindings stimuli (observed fault stimuli)).isEmpty = true ↔
      ∀ answered ∈ stimuli.zip (Oracle.default.observe stimuli),
        fault.shows answered.1.action answered.2 = false := by
  rw [oracleFindings_observed, List.isEmpty_iff, List.map_eq_nil_iff, List.filter_eq_nil_iff]
  simp

@[simp] theorem length_observed (fault : FaultMode) (stimuli : List Stimulus) :
    (observed fault stimuli).length = stimuli.length := by
  simp [observed]

private theorem runStatus_passed {envelope : ScenarioEnvelope} {last : Scheduler A}
    (unlimited : last.limited = false) (ordinary : envelope.caseId ≠ "SIM-QUEUE-01") :
    runStatus envelope last = .passed ↔
      last.observations.isEmpty = false ∧
        validateObservations envelope.caseId last.observations = [] ∧
        (FaultMode.forCase envelope.caseId ≠ .none ∨
          (findings envelope last).isEmpty = true) ∧
        (hostChecks envelope last).all HostCheck.passed = true := by
  rw [runStatus, unlimited, ← List.isEmpty_iff]
  generalize (hostChecks envelope last).all HostCheck.passed = checked
  generalize (findings envelope last).isEmpty = found
  generalize (validateObservations envelope.caseId last.observations).isEmpty = accepted
  generalize last.observations.isEmpty = empty
  cases empty with
  | true => simp [ordinary]
  | false =>
      simp only [Bool.false_eq_true, and_false, or_false, if_false, true_and]
      split_ifs with passes process
      · simpa using passes
      · simpa using passes
      · simpa using passes

/-- A chain that was executed and answered as the oracle does passes exactly if there is
something to execute, its case needs no process and demands nothing more, and its fault, if
there is one, shows. -/
theorem runStatus_passed_iff {envelope : ScenarioEnvelope}
    {last : Scheduler A} (conformed : Conformed envelope.caseId last.record)
    (roomy : Roomy envelope) (executed : last.executed = envelope.stimuli)
    (idle : last.idle = true) (exact : Scheduler.Exact last) :
    runStatus envelope last = .passed ↔
      envelope.stimuli ≠ [] ∧ envelope.caseId ≠ "SIM-PROC-01" ∧
        validateObservations envelope.caseId
          (observed (.forCase envelope.caseId) envelope.stimuli) = [] ∧
        Exposed envelope.caseId envelope.stimuli := by
  have ordinary : envelope.caseId ≠ "SIM-QUEUE-01" := by
    intro queue
    have prompt := roomy.prompt
    rw [serviceTicks, if_pos queue] at prompt
    exact absurd prompt (by decide)
  have observations : last.observations =
      observed (.forCase envelope.caseId) envelope.stimuli := by
    rw [← executed]
    exact conformed.observations
  have unlimited : last.limited = false := by
    rw [Scheduler.limited, exact.unlimited, idle]
    rfl
  have errors : last.errors = [] := conformed.errors
  have found : findings envelope last =
      oracleFindings envelope.stimuli (observed (.forCase envelope.caseId) envelope.stimuli) ++
        validateObservations envelope.caseId
          (observed (.forCase envelope.caseId) envelope.stimuli) := by
    rw [findings, if_neg ordinary, executed, observations, if_neg (by simp), List.append_nil]
  have empty := oracleFindings_isEmpty (.forCase envelope.caseId) envelope.stimuli
  have occupied : last.observations.isEmpty = envelope.stimuli.isEmpty := by
    rw [observations, Bool.eq_iff_iff, List.isEmpty_iff_length_eq_zero,
      List.isEmpty_iff_length_eq_zero, length_observed]
  have checked : (hostChecks envelope last).all HostCheck.passed = true ↔
      envelope.stimuli ≠ [] ∧
        (FaultMode.forCase envelope.caseId ≠ .none →
          (findings envelope last).isEmpty = false) ∧
        envelope.caseId ≠ "SIM-PROC-01" := by
    unfold hostChecks
    rw [List.all_append, List.all_append, Bool.and_eq_true, Bool.and_eq_true, and_assoc]
    refine and_congr ?_ (and_congr ?_ ?_)
    · simp [Scheduler.hostCheck, errors, occupied]
    · split_ifs with fault <;> simp [fault]
    · split_ifs with process <;> simp [process]
  rw [runStatus_passed unlimited ordinary, occupied, checked, observations]
  have some : envelope.stimuli.isEmpty = false ↔ envelope.stimuli ≠ [] := by simp
  rw [some]
  have settled (accepted : validateObservations envelope.caseId
        (observed (.forCase envelope.caseId) envelope.stimuli) = []) :
      ((FaultMode.forCase envelope.caseId ≠ .none ∨ (findings envelope last).isEmpty = true) ∧
          (FaultMode.forCase envelope.caseId ≠ .none →
            (findings envelope last).isEmpty = false)) ↔
        Exposed envelope.caseId envelope.stimuli := by
    rw [found, accepted, List.append_nil]
    by_cases faultless : FaultMode.forCase envelope.caseId = .none
    · have quiet := empty.2 fun answered _ => by rw [faultless, shows_none]
      rw [quiet, Exposed]
      simp [faultless]
    · rw [Exposed, Shows, ← Bool.not_eq_true, empty]
      simp [faultless]
  constructor
  · rintro ⟨occupied, accepted, found, _, exposed, unprocessed⟩
    exact ⟨occupied, unprocessed, accepted, (settled accepted).1 ⟨found, exposed⟩⟩
  · rintro ⟨occupied, unprocessed, accepted, exposed⟩
    obtain ⟨found, exposed⟩ := (settled accepted).2 exposed
    exact ⟨occupied, accepted, found, occupied, exposed, unprocessed⟩

/-- Chains pass exactly when they should: over an adapter that answers its stimuli as the
oracle does, a chain with room is executed completely and in order with every stimulus
offered, admitted and completed once, and it passes exactly if there is something to execute,
its case needs no process and demands nothing more, and its fault, if there is one, shows. -/
theorem chain_passes_iff [StoreStreamAdapter A] {adapter : A} {envelope : ScenarioEnvelope}
    (answers : AnswersAs adapter .default envelope.stimuli) (chain : Chain envelope.stimuli)
    (roomy : Roomy envelope) :
    ∃ fuel last, Scheduler.executeStream fuel envelope adapter = .ended last ∧
      last.executed = envelope.stimuli ∧
      last.accounting = ⟨envelope.stimuli.length, envelope.stimuli.length, 0,
        envelope.stimuli.length, envelope.stimuli.length, 0, 0, last.maxDepth⟩ ∧
      last.maxDepth ≤ 1 ∧
      ((report envelope last).status = .passed ↔
        envelope.stimuli ≠ [] ∧ envelope.caseId ≠ "SIM-PROC-01" ∧
          validateObservations envelope.caseId
            (observed (.forCase envelope.caseId) envelope.stimuli) = [] ∧
          Exposed envelope.caseId envelope.stimuli) := by
  obtain ⟨fuel, last, ended, executed, idle, exact, conformed⟩ :=
    Scheduler.chain_ends answers chain roomy
  have completed : last.observations.length = envelope.stimuli.length := by
    rw [show last.observations = observed (.forCase envelope.caseId) last.executed from
      conformed.observations, length_observed, executed]
  refine ⟨fuel, last, ended, executed, ?_, exact.depth,
    runStatus_passed_iff conformed roomy executed idle exact⟩
  rw [Scheduler.accounting, exact.offered, exact.admitted, exact.rejected, executed, completed]

namespace Sample

open scoped Gearwit.Sample

/-- The lost revision is found, so the chain passes. -/
theorem losing_chain_passes_iff :
    (∃ fuel last, Scheduler.executeStream fuel losing stream = .ended last ∧
      last.executed = losing.stimuli ∧
      last.accounting = ⟨losing.stimuli.length, losing.stimuli.length, 0,
        losing.stimuli.length, losing.stimuli.length, 0, 0, last.maxDepth⟩ ∧
      last.maxDepth ≤ 1 ∧
      ((report losing last).status = .passed ↔
        losing.stimuli ≠ [] ∧ losing.caseId ≠ "SIM-PROC-01" ∧
          validateObservations losing.caseId
            (observed (.forCase losing.caseId) losing.stimuli) = [] ∧
          Exposed losing.caseId losing.stimuli)) ∧
      losing.stimuli ≠ [] ∧ losing.caseId ≠ "SIM-PROC-01" ∧
        validateObservations losing.caseId
          (observed (.forCase losing.caseId) losing.stimuli) = [] ∧
        Exposed losing.caseId losing.stimuli :=
  ⟨chain_passes_iff stream_answers ⟨by decide, by decide⟩
      ⟨by decide, by decide, by decide, by decide⟩,
    by decide, by decide, by decide, fun _ => ⟨_, List.mem_of_getElem? (i := 5) rfl, by decide⟩⟩

end Sample

end Simulator
end Gearwit
