import Gearwit.Evidence.Interrupt
import Gearwit.Foundations.EvidenceLog
import Gearwit.Foundations.Transition

/-!
# Evidence of managed doorbell attempts

The trace of an attempt takes receipts from observers that can support them, in the partial
order of the attempt's phases.  Whatever is proposed to it, it is left a numbered order of a
part of the phases that nothing outruns, and it can still be completed.
-/

namespace Gearwit
namespace Evidence

/-! ## Data -/

/-- One independently recorded phase of a managed attempt. -/
inductive DoorbellAttemptPhase
  | observed
  | drained
  | durableClaimed
  | dispatchPrepared
  | nativeAccepted
  | exactTurnStarted
  | claimedBatchRetrieved
  | handledAcknowledged
  | handledCursorRecorded
  | exactTerminalObserved
  | seatActed
  | coverageRearmed
  deriving DecidableEq

/-- The phases in one canonical order. -/
def managedDoorbellPhases : List DoorbellAttemptPhase :=
  [.observed, .drained, .durableClaimed, .dispatchPrepared, .nativeAccepted, .exactTurnStarted,
    .claimedBatchRetrieved, .handledAcknowledged, .handledCursorRecorded,
    .exactTerminalObserved, .seatActed, .coverageRearmed]

instance : Fintype DoorbellAttemptPhase where
  elems := managedDoorbellPhases.toFinset
  complete phase := by cases phase <;> decide

/-- Phases that must have been recorded before. -/
def DoorbellAttemptPhase.prerequisites : DoorbellAttemptPhase → List DoorbellAttemptPhase
  | .observed => []
  | .drained => [.observed]
  | .durableClaimed => [.drained]
  | .dispatchPrepared => [.durableClaimed]
  | .nativeAccepted => [.dispatchPrepared]
  | .exactTurnStarted => [.nativeAccepted]
  | .claimedBatchRetrieved | .exactTerminalObserved => [.exactTurnStarted]
  | .handledAcknowledged => [.claimedBatchRetrieved]
  | .handledCursorRecorded => [.handledAcknowledged]
  | .seatActed => [.handledCursorRecorded]
  | .coverageRearmed => [.handledCursorRecorded, .exactTerminalObserved]

/-- Producer that observed the phase. -/
inductive DoorbellAttemptSource
  | controlPlane
  | provider
  | controller
  | claimedBatchHelper
  | seat
  deriving DecidableEq

/-- Phases the source can observe. -/
def DoorbellAttemptSource.supports : DoorbellAttemptSource → DoorbellAttemptPhase → Bool
  | .controlPlane, .observed | .controlPlane, .drained | .controlPlane, .durableClaimed
  | .controlPlane, .dispatchPrepared | .controlPlane, .handledCursorRecorded
  | .controlPlane, .coverageRearmed => true
  | .provider, .observed | .provider, .drained => true
  | .controller, .nativeAccepted | .controller, .exactTurnStarted
  | .controller, .exactTerminalObserved => true
  | .claimedBatchHelper, .claimedBatchRetrieved | .claimedBatchHelper, .handledAcknowledged =>
      true
  | .seat, .seatActed => true
  | _, _ => false

/-- Invalid receipt or append. -/
inductive DoorbellAttemptError
  | zeroSequence
  | unsupportedEvidence (source : DoorbellAttemptSource) (phase : DoorbellAttemptPhase)
  | unexpectedSequence (expected actual : Nat)
  | duplicatePhase (phase : DoorbellAttemptPhase)
  | missingPrerequisite (phase prerequisite : DoorbellAttemptPhase)
  deriving DecidableEq

/-- One phase with its number and its observer, which supports it. -/
structure DoorbellAttemptReceipt where
  sequence : Nat
  phase : DoorbellAttemptPhase
  source : DoorbellAttemptSource
  positive : sequence ≠ 0
  supported : source.supports phase = true
  deriving DecidableEq

/-- A receipt for a phase its source can support. -/
def DoorbellAttemptReceipt.tryNew (sequence : Nat) (phase : DoorbellAttemptPhase)
    (source : DoorbellAttemptSource) : Except DoorbellAttemptError DoorbellAttemptReceipt :=
  if positive : sequence = 0 then .error .zeroSequence
  else if supported : source.supports phase = true then
    .ok ⟨sequence, phase, source, positive, supported⟩
  else .error (.unsupportedEvidence source phase)

/-- What the trace shows of one phase. -/
inductive DoorbellAttemptObservation
  | observed (source : DoorbellAttemptSource)
  | unknown
  deriving DecidableEq

/-- Receipts of one attempt, in the order they were appended. -/
structure DoorbellAttemptTrace where
  receipts : List DoorbellAttemptReceipt := []
  deriving DecidableEq

namespace DoorbellAttemptTrace

/-- A receipt for the phase was appended. -/
def contains (trace : DoorbellAttemptTrace) (phase : DoorbellAttemptPhase) : Bool :=
  trace.receipts.any fun receipt => receipt.phase == phase

/-- Append the next receipt; a refused one leaves the trace as it was. -/
def append (trace : DoorbellAttemptTrace) (receipt : DoorbellAttemptReceipt) :
    Except DoorbellAttemptError DoorbellAttemptTrace :=
  let expected := nextSequence trace.receipts.length
  if receipt.sequence ≠ expected then
    .error (.unexpectedSequence expected receipt.sequence)
  else if trace.contains receipt.phase then .error (.duplicatePhase receipt.phase)
  else
    match receipt.phase.prerequisites.find? fun phase => !trace.contains phase with
    | some missing => .error (.missingPrerequisite receipt.phase missing)
    | none => .ok ⟨trace.receipts ++ [receipt]⟩

/-- Show one phase. -/
def observe (trace : DoorbellAttemptTrace) (phase : DoorbellAttemptPhase) :
    DoorbellAttemptObservation :=
  match trace.receipts.find? fun receipt => receipt.phase == phase with
  | some receipt => .observed receipt.source
  | none => .unknown

end DoorbellAttemptTrace

/-! ## Proposals -/

/-- What a caller proposes to record. -/
structure Proposal where
  sequence : Nat
  phase : DoorbellAttemptPhase
  source : DoorbellAttemptSource

/-- The proposal the receipt was made from. -/
def DoorbellAttemptReceipt.proposal (receipt : DoorbellAttemptReceipt) : Proposal :=
  ⟨receipt.sequence, receipt.phase, receipt.source⟩

/-- Make the receipt and append it, unless either is refused. -/
def Proposal.record (proposal : Proposal) (trace : DoorbellAttemptTrace) :
    Except DoorbellAttemptError DoorbellAttemptTrace := do
  let receipt ← DoorbellAttemptReceipt.tryNew proposal.sequence proposal.phase proposal.source
  trace.append receipt

namespace DoorbellAttemptTrace

/-- The trace after a proposal. -/
def step (trace : DoorbellAttemptTrace) (proposal : Proposal) : DoorbellAttemptTrace :=
  match proposal.record trace with
  | .ok after => after
  | .error _ => trace

/-- Every receipt stands behind the receipts its phase requires. -/
abbrev Ordered (trace : DoorbellAttemptTrace) : Prop :=
  EvidenceLog.Ordered DoorbellAttemptReceipt.phase DoorbellAttemptReceipt.sequence
    DoorbellAttemptPhase.prerequisites trace.receipts

/-- The receipt may stand next on the trace. -/
abbrev Admits (trace : DoorbellAttemptTrace) (receipt : DoorbellAttemptReceipt) : Prop :=
  EvidenceLog.Admits DoorbellAttemptReceipt.phase DoorbellAttemptReceipt.sequence
    DoorbellAttemptPhase.prerequisites trace.receipts receipt

/-! ## Appending -/

/-- A trace contains a phase exactly if one of its receipts shows it. -/
theorem contains_iff {trace : DoorbellAttemptTrace} {phase : DoorbellAttemptPhase} :
    trace.contains phase = true ↔ phase ∈ trace.receipts.map DoorbellAttemptReceipt.phase := by
  simp [contains]

/-- An ordered trace has at most a receipt for each phase. -/
theorem Ordered.length_le_twelve {trace : DoorbellAttemptTrace} (ordered : trace.Ordered) :
    trace.receipts.length ≤ 12 :=
  ordered.length_le

/-- A receipt is appended exactly when it may stand next. -/
theorem append_eq_ok_iff {trace after : DoorbellAttemptTrace} (ordered : trace.Ordered)
    {receipt : DoorbellAttemptReceipt} :
    trace.append receipt = .ok after ↔
      trace.Admits receipt ∧ after = ⟨trace.receipts ++ [receipt]⟩ := by
  have short := ordered.length_le_twelve
  have expected : nextSequence trace.receipts.length = trace.receipts.length + 1 :=
    nextSequence_eq (by omega)
  unfold append
  simp only [expected]
  split_ifs with misnumbered repeated
  · refine iff_of_false (by simp) ?_
    rintro ⟨admits, _⟩
    exact misnumbered admits.numbered
  · refine iff_of_false (by simp) ?_
    rintro ⟨admits, _⟩
    exact admits.fresh (contains_iff.1 repeated)
  · cases sought : receipt.phase.prerequisites.find? fun phase => !trace.contains phase with
    | some missing =>
        refine iff_of_false (by simp) ?_
        rintro ⟨admits, _⟩
        have present := contains_iff.2 (admits.ready missing (List.mem_of_find?_eq_some sought))
        have never := List.find?_some sought
        rw [present] at never
        exact absurd never (by decide)
    | none =>
        have ready : ∀ phase ∈ receipt.phase.prerequisites,
            phase ∈ trace.receipts.map DoorbellAttemptReceipt.phase := by
          intro phase demanded
          have held := List.find?_eq_none.1 sought phase demanded
          exact contains_iff.1 (by simpa using held)
        have fresh : receipt.phase ∉ trace.receipts.map DoorbellAttemptReceipt.phase :=
          fun member => repeated (contains_iff.2 member)
        constructor
        · intro same
          exact ⟨⟨not_not.1 misnumbered, fresh, ready⟩, (Except.ok.inj same).symm⟩
        · rintro ⟨_, rfl⟩
          rfl

/-- A receipt's own proposal makes the receipt. -/
theorem record_proposal (receipt : DoorbellAttemptReceipt) (trace : DoorbellAttemptTrace) :
    receipt.proposal.record trace = trace.append receipt := by
  have made : DoorbellAttemptReceipt.tryNew receipt.sequence receipt.phase receipt.source =
      .ok receipt := by
    unfold DoorbellAttemptReceipt.tryNew
    rw [dif_neg receipt.positive, dif_pos receipt.supported]
  simp only [DoorbellAttemptReceipt.proposal, Proposal.record, made]
  rfl

/-- A proposal appends one receipt that may stand next, or changes nothing. -/
theorem step_cases {trace : DoorbellAttemptTrace} (ordered : trace.Ordered)
    (proposal : Proposal) :
    trace.step proposal = trace ∨
      ∃ receipt, trace.Admits receipt ∧
        trace.step proposal = ⟨trace.receipts ++ [receipt]⟩ := by
  unfold step
  cases recorded : proposal.record trace with
  | error refusal => exact Or.inl rfl
  | ok after =>
      unfold Proposal.record at recorded
      cases made : DoorbellAttemptReceipt.tryNew proposal.sequence proposal.phase
          proposal.source with
      | error refusal =>
          rw [made] at recorded
          cases recorded
      | ok receipt =>
          rw [made] at recorded
          obtain ⟨admits, same⟩ := (append_eq_ok_iff ordered).1 recorded
          exact Or.inr ⟨receipt, admits, same⟩

/-- The trace stays ordered. -/
theorem Ordered.step {trace : DoorbellAttemptTrace} (ordered : trace.Ordered)
    (proposal : Proposal) : (trace.step proposal).Ordered := by
  rcases step_cases ordered proposal with same | ⟨receipt, admits, same⟩
  · rwa [same]
  · rw [same]
    exact EvidenceLog.ordered_concat.2 ⟨ordered, admits⟩

/-- Receipts that may follow one another are recorded one after the other. -/
theorem run_proposals {trace : DoorbellAttemptTrace} {more : List DoorbellAttemptReceipt}
    (ordered : Ordered ⟨trace.receipts ++ more⟩) :
    Transition.run DoorbellAttemptTrace.step trace (more.map DoorbellAttemptReceipt.proposal) =
      ⟨trace.receipts ++ more⟩ := by
  induction more generalizing trace with
  | nil => simp
  | cons receipt rest inductionHypothesis =>
      have prefixed : trace.receipts ++ receipt :: rest =
          (trace.receipts ++ [receipt]) ++ rest := by simp
      rw [Ordered, prefixed] at ordered
      obtain ⟨earlier, admits⟩ := EvidenceLog.ordered_concat.1 ordered.of_append
      have stepped : trace.step receipt.proposal = ⟨trace.receipts ++ [receipt]⟩ := by
        unfold DoorbellAttemptTrace.step
        rw [record_proposal, (append_eq_ok_iff earlier).2 ⟨admits, rfl⟩]
      rw [List.map_cons, Transition.run_cons, stepped, prefixed]
      exact @inductionHypothesis ⟨trace.receipts ++ [receipt]⟩ ordered

/-! ## What proposals leave behind -/

/-- The trace after proposals. -/
def after (proposals : List Proposal) : DoorbellAttemptTrace :=
  Transition.run DoorbellAttemptTrace.step {} proposals

/-- Whatever was proposed, the trace is ordered. -/
theorem after_ordered (proposals : List Proposal) : (after proposals).Ordered :=
  Transition.invariant_run Ordered (fun _ proposal ordered => ordered.step proposal)
    EvidenceLog.ordered_nil proposals

/-- The first receipts of a trace stay. -/
theorem prefix_run (trace : DoorbellAttemptTrace) (ordered : trace.Ordered)
    (proposals : List Proposal) :
    trace.receipts <+: (Transition.run DoorbellAttemptTrace.step trace proposals).receipts := by
  induction proposals generalizing trace with
  | nil => exact List.prefix_rfl
  | cons proposal rest inductionHypothesis =>
      refine List.IsPrefix.trans ?_ (inductionHypothesis _ (ordered.step proposal))
      rcases step_cases ordered proposal with same | ⟨receipt, _, same⟩
      · rw [same]
      · rw [same]
        exact List.prefix_append ..

/-- The traces that proposals can leave are exactly the ordered ones: numbered from one, with a
receipt for a phase at most, each behind the receipts its phase requires. -/
theorem traces_ordered (trace : DoorbellAttemptTrace) :
    (∃ proposals, after proposals = trace) ↔ trace.Ordered := by
  constructor
  · rintro ⟨proposals, rfl⟩
    exact after_ordered proposals
  · intro ordered
    exact ⟨_, @run_proposals {} trace.receipts ordered⟩

/-- Evidence stands on evidence, and stays: a receipt is never taken back, and whatever its
phase rests on was recorded before it, by a source that can observe it. -/
theorem evidence_stands (proposals more : List Proposal) {receipt : DoorbellAttemptReceipt}
    (member : receipt ∈ (after proposals).receipts) :
    receipt ∈ (after (proposals ++ more)).receipts ∧
      ∀ earlier, EvidenceLog.RestsOn DoorbellAttemptPhase.prerequisites receipt.phase earlier →
        ∃ cause ∈ (after proposals).receipts, cause.phase = earlier ∧
          cause.sequence < receipt.sequence ∧ cause.source.supports earlier = true := by
  constructor
  · rw [after, Transition.run_append]
    exact (prefix_run _ (after_ordered proposals) more).subset member
  · intro earlier rests
    obtain ⟨cause, recorded, same, sooner⟩ := (after_ordered proposals).behind rests member rfl
    exact ⟨cause, recorded, same, sooner, same ▸ cause.supported⟩

namespace Sample

/-- A drained signal that was observed, and a receipt that skips a phase. -/
def drained : List Proposal :=
  [⟨1, .observed, .provider⟩, ⟨2, .durableClaimed, .controlPlane⟩, ⟨2, .drained, .provider⟩]

/-- The drain of a trace stands on an observation before it. -/
theorem drained_evidence_stands :
    ∃ cause ∈ (after drained).receipts, cause.phase = .observed ∧ cause.sequence < 2 ∧
      cause.source.supports .observed = true :=
  (@evidence_stands drained [] ⟨2, .drained, .provider, by decide, by decide⟩ (by decide)).2
    .observed (.single (by decide))

end Sample

end DoorbellAttemptTrace

/-! ## Completion -/

/-- Phases and observers of one managed attempt. -/
def managedDoorbellProofSteps : List (DoorbellAttemptPhase × DoorbellAttemptSource) :=
  [(.observed, .provider), (.drained, .provider), (.durableClaimed, .controlPlane),
    (.dispatchPrepared, .controlPlane), (.nativeAccepted, .controller),
    (.exactTurnStarted, .controller), (.claimedBatchRetrieved, .claimedBatchHelper),
    (.handledAcknowledged, .claimedBatchHelper), (.handledCursorRecorded, .controlPlane),
    (.exactTerminalObserved, .controller), (.seatActed, .seat),
    (.coverageRearmed, .controlPlane)]

namespace DoorbellAttemptPhase

/-- Observer of the phase in a managed attempt. -/
def observer (phase : DoorbellAttemptPhase) : DoorbellAttemptSource :=
  (managedDoorbellProofSteps.lookup phase).getD .controlPlane

/-- The observer of a phase may report it. -/
theorem observer_supports (phase : DoorbellAttemptPhase) :
    phase.observer.supports phase = true := by
  cases phase <;> decide

/-- Place of the phase in the canonical order. -/
def rank (phase : DoorbellAttemptPhase) : Nat :=
  managedDoorbellPhases.idxOf phase

/-- A phase ranks above all it requires. -/
theorem rank_lt (phase : DoorbellAttemptPhase) :
    ∀ required ∈ phase.prerequisites, rank required < rank phase := by
  cases phase <;> decide

/-- The receipt of the phase's observer after so many others. -/
def receipt (count : Nat) (phase : DoorbellAttemptPhase) : DoorbellAttemptReceipt where
  sequence := count + 1
  phase
  source := phase.observer
  positive := Nat.succ_ne_zero count
  supported := phase.observer_supports

end DoorbellAttemptPhase

namespace DoorbellAttemptTrace

/-- A trace shows a phase exactly when it has a receipt for it. -/
theorem observe_ne_unknown_iff {trace : DoorbellAttemptTrace} {phase : DoorbellAttemptPhase} :
    trace.observe phase ≠ .unknown ↔
      phase ∈ trace.receipts.map DoorbellAttemptReceipt.phase := by
  unfold observe
  split
  · rename_i receipt found
    simp only [ne_eq, reduceCtorEq, not_false_eq_true, true_iff, List.mem_map]
    exact ⟨receipt, List.mem_of_find?_eq_some found, by simpa using List.find?_some found⟩
  · rename_i absent
    simpa using absent

/-- No trace is stuck: whatever was proposed, further receipts can be recorded, every one of
them, until all phases are shown, and then nothing can be recorded any more. -/
theorem trace_completes (proposals : List Proposal) :
    ∃ more, (after (proposals ++ more)).receipts.length =
        (after proposals).receipts.length + more.length ∧
      (after (proposals ++ more)).receipts.length = 12 ∧
      (∀ phase, (after (proposals ++ more)).observe phase ≠ .unknown) ∧
      ∀ further, after (proposals ++ more ++ further) = after (proposals ++ more) := by
  have ordered := after_ordered proposals
  obtain ⟨added, grown, every⟩ := ordered.completes DoorbellAttemptPhase.receipt
    (fun _ _ => rfl) (fun _ _ => rfl) DoorbellAttemptPhase.rank_lt
  have whole : after (proposals ++ added.map DoorbellAttemptReceipt.proposal) =
      ⟨(after proposals).receipts ++ added⟩ := by
    rw [after, Transition.run_append]
    exact run_proposals grown
  have full : ((after proposals).receipts ++ added).length = 12 :=
    grown.length_of_complete every
  refine ⟨added.map DoorbellAttemptReceipt.proposal, ?_, ?_, fun phase => ?_, fun further => ?_⟩
  · rw [whole, List.length_append, List.length_map]
  · rw [whole, full]
  · rw [whole, observe_ne_unknown_iff]
    exact every phase
  · have longer := (after_ordered (proposals ++ added.map DoorbellAttemptReceipt.proposal ++
      further)).length_le_twelve
    have kept := prefix_run ⟨(after proposals).receipts ++ added⟩ grown further
    rw [after, Transition.run_append, ← after, whole] at longer ⊢
    have same := kept.eq_of_length_le (longer.trans_eq full.symm)
    generalize Transition.run DoorbellAttemptTrace.step _ further = final at same ⊢
    cases final
    exact congrArg DoorbellAttemptTrace.mk same.symm

end DoorbellAttemptTrace
end Evidence
end Gearwit
