import Gearwit.Simulator.Generated
import Gearwit.Simulator.Queues
import Gearwit.Simulator.Renaming

/-!
# Campaigns

A named case is judged on fixed names, because the oracle does not look at them.
-/

namespace Gearwit
namespace Simulator

open Transition

/-! ## Named cases -/

/-- Cases that run as chains. -/
def chainCases : List String :=
  candidates.filter fun caseId => decide (caseId ≠ "SIM-QUEUE-01")

/-- Seeds that stand for any in cases that do not look at them. -/
def SeedSet.zero : SeedSet := ⟨0, 0, 0, 0⟩

/-- Stimuli of a case under fixed names. -/
def plainStimuli (caseId : String) : List Stimulus :=
  link none (caseStimuli caseId .zero "event" "retrieve" "ack")

/-- Names that occur in plain stimuli. -/
def plainNames : List String :=
  ["event", "retrieve", "ack", "event-next", "changed-event", "event-during-rearm"]

/-- A plain stream is a chain with room, meets what its case demands, and shows its
fault. -/
def Sound (caseId : String) : Prop :=
  plainStimuli caseId ≠ [] ∧
    (∀ first ∈ (plainStimuli caseId).head?, first.causalParent = none) ∧
    (plainStimuli caseId).IsChain Awaits ∧
    (plainStimuli caseId).length ≤ 13 ∧
    (∀ stimulus ∈ plainStimuli caseId, stimulus.dueTick ≤ 12) ∧
    (∀ stimulus ∈ plainStimuli caseId, ∀ name ∈ stimulus.action.names, name ∈ plainNames) ∧
    validateObservations caseId (observed (.forCase caseId) (plainStimuli caseId)) = [] ∧
    (FaultMode.forCase caseId = .none ∨
      ((plainStimuli caseId).zip (Oracle.default.observe (plainStimuli caseId))).any
        (fun answered => (FaultMode.forCase caseId).shows answered.1.action answered.2) = true)

instance (caseId : String) : Decidable (Sound caseId) :=
  inferInstanceAs (Decidable (_ ∧ _ ∧ _ ∧ _ ∧ _ ∧ _ ∧ _ ∧ _))

/-- Every case that runs as a chain is sound. -/
theorem chainCases_sound : ∀ caseId ∈ chainCases, Sound caseId := by
  decide +kernel

/-- Replace the fixed names. -/
def relabelPlain (event retrieve acknowledge name : String) : String :=
  if name = "event" then event
  else if name = "retrieve" then retrieve
  else if name = "ack" then acknowledge
  else name

/-- A case under other names is the plain stream with its names replaced. -/
theorem plainStimuli_rename {caseId : String} (listed : caseId ∈ chainCases) (seeds : SeedSet)
    (event retrieve acknowledge : String) :
    (plainStimuli caseId).map (Stimulus.rename (relabelPlain event retrieve acknowledge)) =
      link none (caseStimuli caseId seeds event retrieve acknowledge) := by
  have cases : caseId ∈ ["SIM-CHAIN-01", "SIM-CHAIN-02", "SIM-CHAIN-03", "SIM-CHAIN-04",
      "SIM-CHAIN-05", "SIM-CHAIN-06", "SIM-CHAIN-08", "SIM-REPLAY-01", "SIM-ORACLE-01",
      "SIM-ORACLE-02", "SIM-ORACLE-03", "SIM-ORACLE-04"] := by
    revert caseId
    decide
  simp only [List.mem_cons, List.not_mem_nil, or_false] at cases
  rcases cases with rfl | rfl | rfl | rfl | rfl | rfl | rfl | rfl | rfl | rfl | rfl | rfl <;> rfl

/-! ## Names of a seed -/

private theorem length_named (word : String) (value : UInt64) :
    (named word value).length = word.length + 16 := by
  have digits : (Nat.toDigits 16 value.toNat).length ≤ 16 :=
    Nat.toDigits_length 16 value.toNat 16 (by decide) value.toNat_lt
  rw [named, String.length_append, String.length_ofList, hexName, List.length_leftpad]
  omega

/-- Length of what stands for a fixed name. -/
private def plainSize (name : String) : Nat :=
  if name = "event" then 22 else if name = "retrieve" then 25 else if name = "ack" then 20
  else name.length

private theorem plainSize_injective :
    ∀ first ∈ plainNames, ∀ second ∈ plainNames, plainSize first = plainSize second →
      first = second := by
  decide

/-- The names of a seed are told apart by their lengths. -/
private theorem relabelPlain_faithful (actor : UInt64) :
    Oracle.Faithful
      (relabelPlain (named "event-" actor) (named "retrieve-" actor) (named "ack-" actor))
      (· ∈ plainNames) := by
  have sized (name : String) :
      (relabelPlain (named "event-" actor) (named "retrieve-" actor) (named "ack-" actor)
        name).length = plainSize name := by
    unfold relabelPlain plainSize
    split_ifs
    · exact length_named "event-" actor
    · exact length_named "retrieve-" actor
    · exact length_named "ack-" actor
    · rfl
  intro first second listed member same
  refine plainSize_injective first listed second member ?_
  rw [← sized, ← sized, same]

/-! ## Streams under other names -/

@[simp] private theorem injectReceiptFault_rename (fault : FaultMode)
    (relabel : String → String) (action : Action) (observation : Observation) :
    injectReceiptFault fault (action.rename relabel) observation =
      injectReceiptFault fault action observation := by
  cases fault <;> cases action <;> rfl

@[simp] private theorem shows_rename (fault : FaultMode) (relabel : String → String)
    (action : Action) (observation : Observation) :
    fault.shows (action.rename relabel) observation = fault.shows action observation := by
  cases fault <;> cases action <;> rfl

variable {relabel : String → String} {known : String → Prop}

private theorem observed_rename (faithful : Oracle.Faithful relabel known) (fault : FaultMode)
    {stimuli : List Stimulus}
    (mentions : ∀ stimulus ∈ stimuli, Oracle.Mentions known stimulus.action) :
    observed fault (stimuli.map (Stimulus.rename relabel)) = observed fault stimuli := by
  rw [observed, observed, Oracle.observe_renamed faithful stimuli mentions
    (Oracle.default_renamed relabel known), List.zipWith_map_left]
  simp [Stimulus.rename]

private theorem shows_of_any (faithful : Oracle.Faithful relabel known) {fault : FaultMode}
    {stimuli : List Stimulus}
    (mentions : ∀ stimulus ∈ stimuli, Oracle.Mentions known stimulus.action)
    (any : (stimuli.zip (Oracle.default.observe stimuli)).any
      (fun answered => fault.shows answered.1.action answered.2) = true) :
    Shows fault (stimuli.map (Stimulus.rename relabel)) := by
  obtain ⟨answered, member, shows⟩ := List.any_eq_true.1 any
  refine ⟨(answered.1.rename relabel, answered.2), ?_, ?_⟩
  · rw [Oracle.observe_renamed faithful stimuli mentions
      (Oracle.default_renamed relabel known), List.zip_map_left]
    exact List.mem_map_of_mem member
  · rw [← shows]
    exact shows_rename fault relabel answered.1.action answered.2

/-! ## Cases and campaigns pass -/

variable {A : Type} [StoreStreamAdapter A]

/-- A run of an envelope over an adapter comes to an end and passes. -/
def Passes (adapter : A) (envelope : ScenarioEnvelope) : Prop :=
  ∃ fuel last, Scheduler.executeStream fuel envelope adapter = .ended last ∧
    (report envelope last).status = .passed

/-- An adapter suits an envelope when it answers its stimuli as the oracle does; for the queue
case it suffices that it accepts them. -/
def Suits (adapter : A) (envelope : ScenarioEnvelope) : Prop :=
  if envelope.caseId = "SIM-QUEUE-01" then Scheduler.Willing envelope.stimuli adapter
  else AnswersAs adapter .default envelope.stimuli

/-- A named case that runs as a chain passes. -/
private theorem chainCase_passes {caseId : String} (listed : caseId ∈ chainCases)
    (seed : UInt64) (store : SimulatorStore) (adapter : A) :
    ∃ envelope, scenario caseId seed store = .ok envelope ∧ envelope.seed = seed ∧
      envelope.stimuli.length ≤ 26 ∧ (Suits adapter envelope.toScenarioEnvelope →
        Passes adapter envelope.toScenarioEnvelope) := by
  obtain ⟨occupied, root, linked, short, early, mentions, demands, exposes⟩ :=
    chainCases_sound caseId listed
  have cataloged : caseId ∈ caseIds ∧ caseId ≠ "SIM-QUEUE-01" ∧ caseId ≠ "SIM-PROC-01" := by
    clear occupied root linked short early mentions demands exposes
    revert caseId
    decide
  obtain ⟨known, unqueued, unprocessed⟩ := cataloged
  have faithful := relabelPlain_faithful (deriveSeeds seed).actor
  have stimuli := plainStimuli_rename listed (deriveSeeds seed)
    (named "event-" (deriveSeeds seed).actor) (named "retrieve-" (deriveSeeds seed).actor)
    (named "ack-" (deriveSeeds seed).actor)
  generalize relabelPlain (named "event-" (deriveSeeds seed).actor)
    (named "retrieve-" (deriveSeeds seed).actor) (named "ack-" (deriveSeeds seed).actor) =
      relabel at faithful stimuli
  have chain : Chain ((plainStimuli caseId).map (Stimulus.rename relabel)) := by
    constructor
    · intro first member
      rw [List.head?_map] at member
      obtain ⟨plain, head, rfl⟩ := Option.mem_map.1 member
      exact root plain head
    · exact (List.isChain_map _).2 linked
  refine ⟨⟨⟨caseId, store, .default, (plainStimuli caseId).map (Stimulus.rename relabel)⟩,
    seed, deriveSeeds seed⟩, ?_, rfl, ?_, ?_⟩
  · rw [scenario, if_neg (not_not.2 known), stimuli]
    simp only [if_neg unqueued]
  · rw [List.length_map]
    omega
  · intro suits
    rw [Suits, if_neg unqueued] at suits
    have roomy : Roomy ⟨caseId, store, .default,
        (plainStimuli caseId).map (Stimulus.rename relabel)⟩ := by
      refine ⟨if_neg unqueued, show 0 < 64 by decide, ?_, ?_⟩
      · rw [List.length_map]
        exact short.trans (show 13 ≤ 1024 by decide)
      · intro renamed member
        obtain ⟨plain, inner, rfl⟩ := List.mem_map.1 member
        exact UInt64.le_trans (early plain inner) (show (12 : UInt64) ≤ 10000 by decide)
    obtain ⟨fuel, last, ended, executed, idle, exact, conformed⟩ :=
      Scheduler.chain_ends suits chain roomy
    refine ⟨fuel, last, ended, (runStatus_passed_iff conformed roomy executed idle exact).2
      ⟨?_, unprocessed, ?_, ?_⟩⟩
    · exact fun none => occupied (List.map_eq_nil_iff.1 none)
    · rw [observed_rename faithful _ mentions]
      exact demands
    · intro fault
      exact shows_of_any faithful mentions (exposes.resolve_left fault)

private theorem queueArrivals_due (count index : Nat) (arrivals : SplitMix64) :
    (queueArrivals count index arrivals).length = count ∧
      ∀ stimulus ∈ queueArrivals count index arrivals,
        stimulus.causalParent = none ∧ stimulus.dueTick.toNat ≤ 5 := by
  induction count generalizing index arrivals with
  | zero => exact ⟨rfl, by simp [queueArrivals]⟩
  | succ count inductionHypothesis =>
      obtain ⟨length, rest⟩ := inductionHypothesis (index + 1) arrivals.next.2
      rw [queueArrivals]
      refine ⟨by rw [List.length_cons, length], fun arrival member => ?_⟩
      rcases List.mem_cons.1 member with rfl | later
      · refine ⟨rfl, ?_⟩
        have six : (6 : UInt64).toNat = 6 := rfl
        have small := Nat.mod_lt arrivals.next.1.toNat (by decide : 0 < 6)
        simp only [stimulus, UInt64.toNat_mod, six]
        omega
      · exact rest arrival later

/-- The queue case passes. -/
private theorem queueCase_passes (seed : UInt64) (store : SimulatorStore) (adapter : A) :
    ∃ envelope, scenario "SIM-QUEUE-01" seed store = .ok envelope ∧ envelope.seed = seed ∧
      envelope.stimuli.length ≤ 26 ∧ (Suits adapter envelope.toScenarioEnvelope →
        Passes adapter envelope.toScenarioEnvelope) := by
  obtain ⟨length, due⟩ := queueArrivals_due 24 0 ⟨(deriveSeeds seed).scheduler⟩
  refine ⟨⟨⟨"SIM-QUEUE-01", store, { RunLimits.default with queueCapacity := 8 },
    queueArrivals 24 0 ⟨(deriveSeeds seed).scheduler⟩⟩, seed, deriveSeeds seed⟩, ?_, rfl, ?_, ?_⟩
  · rw [scenario, if_neg (by decide)]
    rfl
  · rw [length]
    decide
  · intro suits
    rw [Suits, if_pos rfl] at suits
    have unhurried : Scheduler.Unhurried ⟨"SIM-QUEUE-01", store,
        { RunLimits.default with queueCapacity := 8 },
        queueArrivals 24 0 ⟨(deriveSeeds seed).scheduler⟩⟩ 5 := by
      refine ⟨rfl, show 0 < 8 by decide, ?_, due, ?_⟩
      · rw [length]
        exact show 24 < 1024 by decide
      · rw [length]
        exact show 5 + 2 + 2 * 24 ≤ (10000 : UInt64).toNat by decide
    obtain ⟨fuel, last, ended, unlimited, _, errors, occupied⟩ :=
      Scheduler.queue_ends suits unhurried
    refine ⟨fuel, last, ended,
      (queue_status unhurried.slow unlimited errors).2 (occupied.2 fun none => ?_)⟩
    exact absurd (length.symm.trans (congrArg List.length none)) (by decide)

/-- A case of a campaign resolves and passes. -/
private theorem candidate_passes {caseId : String} (listed : caseId ∈ candidates)
    (seed : UInt64) (store : SimulatorStore) (adapter : A) :
    ∃ envelope, scenario caseId seed store = .ok envelope ∧ envelope.seed = seed ∧
      envelope.stimuli.length ≤ 26 ∧ (Suits adapter envelope.toScenarioEnvelope →
        Passes adapter envelope.toScenarioEnvelope) := by
  by_cases queue : caseId = "SIM-QUEUE-01"
  · rw [queue]
    exact queueCase_passes seed store adapter
  · exact chainCase_passes (List.mem_filter.2 ⟨listed, decide_eq_true queue⟩) seed store
      adapter

private theorem drawn_candidate (draw : UInt64) :
    candidates.getD (draw % .ofNat candidates.length).toNat "" ∈ candidates := by
  have bound : (draw % .ofNat candidates.length).toNat < candidates.length := by
    rw [UInt64.toNat_mod]
    exact Nat.mod_lt _ (by decide)
  rw [List.getD_eq_getElem _ _ bound]
  exact List.getElem_mem bound

/-- The runs of a campaign resolve, in the order of their seeds, and pass. -/
private theorem campaignRuns_pass (adapter : A) (store : SimulatorStore) (runs : Nat)
    (runIndex : Nat) (source schedule : SplitMix64) :
    ∃ envelopes, campaignRuns store runs runIndex source schedule = .ok envelopes ∧
      envelopes.map SeededEnvelope.seed = schedule.draws runs ∧
      ∀ envelope ∈ envelopes, envelope.stimuli.length ≤ 26 ∧
        (Suits adapter envelope.toScenarioEnvelope →
          Passes adapter envelope.toScenarioEnvelope) := by
  induction runs generalizing runIndex source schedule with
  | zero => exact ⟨[], rfl, rfl, by simp⟩
  | succ runs inductionHypothesis =>
      rw [campaignRuns]
      split_ifs with generated
      · obtain ⟨rest, resolved, seeds, pass⟩ :=
          inductionHypothesis (runIndex + 1) source schedule.next.2
        refine ⟨generatedChain schedule.next.1 store :: rest, ?_, ?_, ?_⟩
        · change (campaignRuns store runs (runIndex + 1) source schedule.next.2 >>= fun rest =>
            pure (generatedChain schedule.next.1 store :: rest)) = _
          rw [resolved]
          rfl
        · rw [List.map_cons, seeds]
          rfl
        · intro envelope member
          rcases List.mem_cons.1 member with rfl | later
          · refine ⟨length_generatedChain schedule.next.1 store, fun suits => ?_⟩
            rw [Suits, if_neg (generatedChain_unqueued schedule.next.1 store)] at suits
            obtain ⟨fuel, last, ended, _, passed⟩ := generatedChain_passes suits
            exact ⟨fuel, last, ended, passed⟩
          · exact pass envelope later
      · obtain ⟨first, found, seed, short, passed⟩ :=
          candidate_passes (drawn_candidate source.next.1) schedule.next.1 store adapter
        obtain ⟨rest, resolved, seeds, pass⟩ :=
          inductionHypothesis (runIndex + 1) source.next.2 schedule.next.2
        refine ⟨first :: rest, ?_, ?_, ?_⟩
        · change (scenario (candidates.getD
              (source.next.1 % .ofNat candidates.length).toNat "") schedule.next.1 store >>=
            fun envelope =>
              campaignRuns store runs (runIndex + 1) source.next.2 schedule.next.2 >>=
                fun rest => pure (envelope :: rest)) = _
          rw [found]
          change (campaignRuns store runs (runIndex + 1) source.next.2 schedule.next.2 >>=
            fun rest => pure (first :: rest)) = _
          rw [resolved]
          rfl
        · rw [List.map_cons, seeds, seed]
          rfl
        · intro envelope member
          rcases List.mem_cons.1 member with rfl | later
          · exact ⟨short, passed⟩
          · exact pass envelope later

/-- Campaigns pass: a campaign resolves exactly if it is allowed that many runs, and then it
has that many, no two with the same seed, and every one of them that the adapter suits comes
to an end and passes. -/
theorem campaign_passes (adapter : A) (seed : UInt64) (runs : Nat) (store : SimulatorStore) :
    (∃ envelopes, campaignEnvelopes seed runs store = .ok envelopes ∧
      envelopes.length = runs ∧ (envelopes.map SeededEnvelope.seed).Nodup ∧
      ∀ envelope ∈ envelopes, Suits adapter envelope.toScenarioEnvelope →
        Passes adapter envelope.toScenarioEnvelope) ↔
    runs ≤ maxCampaignRuns := by
  obtain ⟨envelopes, resolved, seeds, pass⟩ := campaignRuns_pass adapter store runs 0
    ⟨seed ^^^ 0x736f75726365⟩ ⟨seed ^^^ 0x7363686564756c65⟩
  have length : envelopes.length = runs := by
    rw [← List.length_map SeededEnvelope.seed, seeds, SplitMix64.length_draws]
  constructor
  · rintro ⟨_, allowed, _⟩
    by_contra many
    rw [campaignEnvelopes, if_pos (Nat.lt_of_not_le many)] at allowed
    cases allowed
  · intro allowed
    have few : (envelopes.map fun envelope => envelope.stimuli.length).sum ≤
        maxCampaignEvents := by
      have bounded := List.sum_le_card_nsmul
        (envelopes.map fun envelope => envelope.stimuli.length) 26 (by
          intro events member
          obtain ⟨envelope, listed, rfl⟩ := List.mem_map.1 member
          exact (pass envelope listed).1)
      rw [List.length_map, length, smul_eq_mul] at bounded
      exact bounded.trans ((Nat.mul_le_mul_right 26 allowed).trans (by decide))
    refine ⟨envelopes, ?_, length, ?_, fun envelope member => (pass envelope member).2⟩
    · rw [campaignEnvelopes, if_neg (Nat.not_lt.2 allowed)]
      change (campaignRuns store runs 0 ⟨seed ^^^ 0x736f75726365⟩ ⟨seed ^^^ 0x7363686564756c65⟩ >>=
        fun envelopes => if maxCampaignEvents <
            (envelopes.map fun envelope => envelope.stimuli.length).sum then _ else _) = _
      rw [resolved]
      exact if_neg (Nat.not_lt.2 few)
    · rw [seeds]
      exact SplitMix64.draws_nodup (allowed.trans (by decide)) _

namespace Sample

open scoped Gearwit.Sample

/-- The simulator's own adapter answers the scenarios of a campaign as the oracle does. -/
theorem stream_suits :
    ((campaignEnvelopes 2 2 .fake).toOption.any fun envelopes => envelopes.all fun envelope =>
      decide (envelope.caseId ≠ "SIM-QUEUE-01" ∧
        AnswersAs stream .default envelope.stimuli)) = true := by
  decide +kernel

/-- All runs of a campaign over the simulator's own adapter pass. -/
theorem stream_campaign_passes :
    ∃ envelopes, campaignEnvelopes 2 2 .fake = .ok envelopes ∧ envelopes.length = 2 ∧
      (envelopes.map SeededEnvelope.seed).Nodup ∧
      ∀ envelope ∈ envelopes, Passes stream envelope.toScenarioEnvelope := by
  obtain ⟨envelopes, resolved, length, seeds, pass⟩ :=
    (campaign_passes stream 2 2 .fake).2 (by decide)
  have suits := stream_suits
  rw [resolved] at suits
  refine ⟨envelopes, resolved, length, seeds, fun envelope member => pass envelope member ?_⟩
  obtain ⟨unqueued, answers⟩ := of_decide_eq_true (List.all_eq_true.1 suits envelope member)
  rw [Suits, if_neg unqueued]
  exact answers

end Sample

end Simulator
end Gearwit
