import Gearwit.Simulator.Oracle
import Gearwit.Simulator.Records
import Gearwit.Simulator.StreamDriver

/-!
# What the oracle finds in a run

The observations of a run are compared with what the oracle says of the stimuli that were
executed.  Over an adapter that answers as the oracle does, what is found is what the case's
fault changed.
-/

namespace Gearwit
namespace Simulator

open Transition

/-! ## Findings -/

/-- The text of one mismatch. -/
def mismatch (expected actual : Observation) : String :=
  actual.operationId ++ " expected outcome=" ++ expected.outcome ++ " effects=" ++
    toString expected.logicalEffects ++ " revision=" ++ toString expected.authorityRevision ++
    ", observed outcome=" ++ actual.outcome ++ " effects=" ++ toString actual.logicalEffects ++
    " revision=" ++ toString actual.authorityRevision

/-- Compare observations with what the oracle says of the stimuli. -/
def oracleFindings (stimuli : List Stimulus) (observations : List Observation) : List String :=
  (((Oracle.default.observe stimuli).zip observations).filter fun pair =>
    decide (pair.1 ≠ pair.2)).map fun pair => mismatch pair.1 pair.2

/-- Name of a fault. -/
def FaultMode.name : FaultMode → String
  | .none => "none"
  | .duplicateAdmission => "duplicate-admission"
  | .loseAcknowledgment => "lost-committed-ack"
  | .resurrectRevokedGrant => "revoked-grant-resurrection"
  | .falsePublication => "false-durable-publication"

/-- Whether a fault shows in an observation of an action. -/
def FaultMode.shows (fault : FaultMode) (action : Action) (observation : Observation) : Bool :=
  match fault, action with
  | .duplicateAdmission, .admitEvent _ => decide (observation.logicalEffects ≠ maxTick)
  | .loseAcknowledgment, .restart => decide (observation.authorityRevision ≠ 0)
  | .resurrectRevokedGrant, .retrieve _ | .resurrectRevokedGrant, .staleRetrieve _ =>
      decide (observation.outcome ≠ "retrieved")
  | .falsePublication, .acknowledge _ => decide (observation.authorityRevision ≠ maxTick)
  | _, _ => false

/-- Observations of stimuli under a fault, when the answers are the oracle's. -/
def observed (fault : FaultMode) (stimuli : List Stimulus) : List Observation :=
  List.zipWith (fun stimulus => injectReceiptFault fault stimulus.action) stimuli
    (Oracle.default.observe stimuli)

/-! ## Faults that show -/

private theorem saturatingAdd_ne (number : UInt64) :
    saturatingAdd number 1 ≠ number ↔ number ≠ maxTick := by
  rw [Scheduler.saturatingAdd_one]
  split_ifs with last
  · simp [last]
  · refine ⟨fun _ => last, fun _ same => ?_⟩
    have wrapped := congrArg UInt64.toNat same
    have bound := number.toNat_lt
    have one : (1 : UInt64).toNat = 1 := rfl
    rw [UInt64.toNat_add] at wrapped
    omega

private theorem saturatingSub_ne (number : UInt64) :
    saturatingSub number 1 ≠ number ↔ number ≠ 0 := by
  have one : (1 : UInt64).toNat = 1 := rfl
  unfold saturatingSub
  split_ifs with positive
  · rw [UInt64.le_iff_toNat_le, one] at positive
    constructor
    · rintro _ rfl
      exact absurd positive (by decide)
    · intro _ same
      have wrapped := congrArg UInt64.toNat same
      have bound := number.toNat_lt
      rw [UInt64.toNat_sub, one] at wrapped
      omega
  · rw [UInt64.le_iff_toNat_le, one] at positive
    have none : number = 0 := UInt64.toNat_inj.1 (by
      rw [show (0 : UInt64).toNat = 0 from rfl]
      omega)
    simp [none]

/-- A fault changes the observations in which it shows. -/
theorem injectReceiptFault_ne (fault : FaultMode) (action : Action) (observation : Observation) :
    injectReceiptFault fault action observation ≠ observation ↔
      fault.shows action observation = true := by
  obtain ⟨version, operationId, outcome, effects, revision⟩ := observation
  unfold injectReceiptFault FaultMode.shows
  split
  · simpa using saturatingAdd_ne effects
  · simpa using saturatingSub_ne revision
  · simpa using eq_comm.not
  · simpa using eq_comm.not
  · simpa using saturatingAdd_ne revision
  · simp_all

/-- What is found is what a fault changed. -/
theorem oracleFindings_observed (fault : FaultMode) (stimuli : List Stimulus) :
    oracleFindings stimuli (observed fault stimuli) =
      ((stimuli.zip (Oracle.default.observe stimuli)).filter fun answered =>
          fault.shows answered.1.action answered.2).map fun answered =>
        mismatch answered.2 (injectReceiptFault fault answered.1.action answered.2) := by
  unfold oracleFindings observed
  generalize Oracle.default.observe stimuli = answers
  induction stimuli generalizing answers with
  | nil => cases answers <;> rfl
  | cons stimulus rest inductionHypothesis =>
      cases answers with
      | nil => rfl
      | cons answer answers =>
          have changes := injectReceiptFault_ne fault stimulus.action answer
          rw [List.zipWith_cons_cons, List.zip_cons_cons, List.zip_cons_cons]
          cases shows : fault.shows stimulus.action answer with
          | true =>
              rw [List.filter_cons_of_pos (by simpa using (changes.2 shows).symm),
                List.filter_cons_of_pos (by simpa using shows), List.map_cons, List.map_cons,
                inductionHypothesis]
          | false =>
              have same : injectReceiptFault fault stimulus.action answer = answer := by
                by_contra other
                rw [changes.1 other] at shows
                cases shows
              rw [List.filter_cons_of_neg (by simp [same]),
                List.filter_cons_of_neg (by simp [shows]), inductionHypothesis]

/-! ## Adapters that answer as the oracle -/

variable {A : Type} [StoreStreamAdapter A]

/-- The receipt of an observation. -/
def Observation.receipt (observation : Observation) : StoreStreamReceipt :=
  ⟨observation.outcome, observation.logicalEffects, observation.authorityRevision⟩

/-- The adapter answers these stimuli, one after the other, as the oracle does. -/
def AnswersAs : A → Oracle → List Stimulus → Prop
  | _, _, [] => True
  | adapter, oracle, stimulus :: rest =>
      let answered :=
        StoreStreamAdapter.apply stimulus.operationId (storeAction stimulus.action) adapter
      answered.1 = .ok (oracle.apply stimulus).1.receipt ∧
        AnswersAs answered.2 (oracle.step stimulus) rest

/-- An answer of the adapter is compared with that of the oracle. -/
instance decidableAnswersAs :
    ∀ (adapter : A) (oracle : Oracle) (stimuli : List Stimulus),
      Decidable (AnswersAs adapter oracle stimuli)
  | _, _, [] => .isTrue trivial
  | adapter, oracle, stimulus :: rest =>
      have := decidableAnswersAs (StoreStreamAdapter.apply stimulus.operationId
        (storeAction stimulus.action) adapter).2 (oracle.step stimulus) rest
      inferInstanceAs (Decidable (_ ∧ _))

/-- A record holds what the oracle says, changed by the fault of the case. -/
structure Conformed (caseId : String) (record : Scheduler.Record A) : Prop where
  executed : record.executed = record.calls
  observations : record.observations = observed (.forCase caseId) record.executed
  errors : record.errors = []

private theorem observed_append (fault : FaultMode) (stimuli : List Stimulus)
    (stimulus : Stimulus) :
    observed fault (stimuli ++ [stimulus]) =
      observed fault stimuli ++ [injectReceiptFault fault stimulus.action
        ((run Oracle.step .default stimuli).apply stimulus).1] := by
  rw [observed, Oracle.observe_append, List.zipWith_append (by simp)]
  rfl

/-- A call that is answered as the oracle does keeps what a record holds. -/
theorem call_conformed {caseId : String} {record : Scheduler.Record A}
    {stimulus : Stimulus} {rest : List Stimulus} (conformed : Conformed caseId record)
    (answers : AnswersAs record.adapter (run Oracle.step .default record.executed)
      (stimulus :: rest)) :
    Conformed caseId (record.call caseId stimulus) ∧
      AnswersAs (record.call caseId stimulus).adapter
        (run Oracle.step .default (record.call caseId stimulus).executed) rest := by
  obtain ⟨accepted, onward⟩ := answers
  generalize answered : StoreStreamAdapter.apply stimulus.operationId
    (storeAction stimulus.action) record.adapter = reply at accepted onward
  obtain ⟨receipt, after⟩ := reply
  obtain rfl : receipt = _ := accepted
  rw [Scheduler.Record.call, answered]
  refine ⟨⟨?_, ?_, conformed.errors⟩, ?_⟩
  · rw [conformed.executed]
  · rw [observed_append, conformed.observations]
    generalize run Oracle.step .default record.executed = oracle
    cases seen : oracle.seenOperations[stimulus.operationId]? with
    | some original => rw [Oracle.apply_seen seen]; rfl
    | none => rw [Oracle.apply_fresh seen]; rfl
  · rw [run_append]
    exact onward

/-- Calls that are answered as the oracle does keep what a record holds. -/
theorem calls_conformed {caseId : String} {record : Scheduler.Record A}
    {stimuli : List Stimulus} (conformed : Conformed caseId record)
    (answers : AnswersAs record.adapter (run Oracle.step .default record.executed) stimuli) :
    Conformed caseId (run (Scheduler.Record.call caseId) record stimuli) := by
  induction stimuli generalizing record with
  | nil => exact conformed
  | cons stimulus rest inductionHypothesis =>
      obtain ⟨kept, onward⟩ := call_conformed conformed answers
      exact inductionHypothesis kept onward

/-- The oracle raises no false alarm and misses no fault: when a run ends and the adapter
answered the stimuli it was called with as the oracle does, all of them were executed without
errors, and what the oracle finds is, one for one, what the case's fault changed in the
answers. -/
theorem faults_found {adapter : A} {envelope : ScenarioEnvelope} {fuel : Nat}
    {last : Scheduler A}
    (ended : Scheduler.executeStream fuel envelope adapter = .ended last)
    (answers : AnswersAs adapter .default last.called.reverse) :
    last.executed = last.called.reverse ∧ last.errors = [] ∧
      oracleFindings last.executed last.observations =
        ((last.executed.zip (Oracle.default.observe last.executed)).filter fun answered =>
            (FaultMode.forCase envelope.caseId).shows answered.1.action answered.2).map
          fun answered => mismatch answered.2
            (injectReceiptFault (.forCase envelope.caseId) answered.1.action answered.2) := by
  have conformed : Conformed envelope.caseId last.record := by
    rw [Scheduler.executeStream_record ended]
    exact calls_conformed ⟨rfl, rfl, rfl⟩ answers
  refine ⟨conformed.executed, conformed.errors, ?_⟩
  rw [show last.observations = observed (.forCase envelope.caseId) last.executed from
    conformed.observations]
  exact oracleFindings_observed _ _

/-- Whether a run ended in a scheduler that passes a test. -/
def Scheduler.Turn.endsIn {A : Type} (test : Scheduler A → Bool) : Scheduler.Turn A → Bool
  | .ended last => test last
  | _ => false

theorem Scheduler.Turn.endsIn_iff {A : Type} {test : Scheduler A → Bool}
    {turn : Scheduler.Turn A} :
    turn.endsIn test = true ↔ ∃ last, turn = .ended last ∧ test last = true := by
  cases turn <;> simp [endsIn]

namespace Sample

open scoped Gearwit.Sample

/-- A cycle with a restart before its terminal fact, in a case that loses acknowledgements. -/
def losing : ScenarioEnvelope :=
  ⟨"SIM-ORACLE-02", .fake, ⟨4, 16, 16⟩,
    [⟨0, 0, "arm-1", none, .arm⟩,
      ⟨1, 1, "offer-1", some "arm-1", .offer "event-1"⟩,
      ⟨3, 2, "claim-1", some "offer-1", .admitEvent "event-1"⟩,
      ⟨4, 3, "retrieve-1", some "claim-1", .retrieve "retrieve-1"⟩,
      ⟨6, 4, "ack-1", some "retrieve-1", .acknowledge "ack-1"⟩,
      ⟨7, 5, "restart-1", some "ack-1", .restart⟩,
      ⟨8, 6, "terminal-1", some "restart-1", .terminal⟩,
      ⟨9, 7, "rearm-1", some "terminal-1", .rearm⟩]⟩

/-- The simulator's own adapter answers the cycle as the oracle does. -/
theorem stream_answers : AnswersAs stream .default losing.stimuli := by
  decide +kernel

/-- The restart of the cycle is found to have lost a revision. -/
theorem losing_faults_found :
    ∃ last, Scheduler.executeStream 8 losing stream = .ended last ∧
      oracleFindings last.executed last.observations ≠ [] ∧
      last.executed = last.called.reverse ∧ last.errors = [] ∧
      oracleFindings last.executed last.observations =
        ((last.executed.zip (Oracle.default.observe last.executed)).filter fun answered =>
            (FaultMode.forCase losing.caseId).shows answered.1.action answered.2).map
          fun answered => mismatch answered.2
            (injectReceiptFault (.forCase losing.caseId) answered.1.action answered.2) := by
  have sorted : losing.stimuli.mergeSort keyLe = losing.stimuli :=
    List.mergeSort_of_pairwise (by decide)
  have started : Scheduler.start losing stream =
      { Scheduler.start losing stream with scheduled := losing.stimuli } := by
    rw [Scheduler.start, sorted]
  have ends : (Scheduler.executeStream 8 losing stream).endsIn (fun last =>
      decide (last.called.reverse = losing.stimuli ∧
        oracleFindings last.executed last.observations ≠ [])) = true := by
    rw [Scheduler.executeStream, started]
    decide +kernel
  obtain ⟨last, ended, tested⟩ := Scheduler.Turn.endsIn_iff.1 ends
  obtain ⟨called, found⟩ := of_decide_eq_true tested
  exact ⟨last, ended, found, faults_found ended (called ▸ stream_answers)⟩

end Sample

end Simulator
end Gearwit
