import Gearwit.Simulator.Seeds

/-!
# Scenarios

A named case resolves to a fixed list of stimuli whose events and requests are named after a
seed.  A campaign alternates generated chains with cases drawn from the catalog.
-/

namespace Gearwit
namespace Simulator

/-! ## Parts of scenarios -/

/-- Names of the cases. -/
def caseIds : List String :=
  ["SIM-CHAIN-01", "SIM-CHAIN-02", "SIM-CHAIN-03", "SIM-CHAIN-04", "SIM-CHAIN-05",
    "SIM-CHAIN-06", "SIM-CHAIN-07", "SIM-CHAIN-08", "SIM-QUEUE-01", "SIM-REPLAY-01",
    "SIM-PROC-01", "SIM-ORACLE-01", "SIM-ORACLE-02", "SIM-ORACLE-03", "SIM-ORACLE-04"]

/-- Limits unless a case sets its own. -/
def RunLimits.default : RunLimits := ⟨64, 1024, 10000⟩

/-- An envelope with the seeds it was resolved from. -/
structure SeededEnvelope extends ScenarioEnvelope where
  seed : UInt64
  seeds : SeedSet

/-- A number in lower-case hexadecimal digits, at least sixteen of them. -/
def hexName (value : UInt64) : List Char :=
  (Nat.toDigits 16 value.toNat).leftpad 16 '0'

/-- A name made of a word and a number. -/
def named (word : String) (value : UInt64) : String :=
  word ++ String.ofList (hexName value)

/-- A stimulus without a parent. -/
def stimulus (dueTick sequence : UInt64) (operationId : String) (action : Action) : Stimulus :=
  ⟨dueTick, sequence, operationId, none, action⟩

/-- A lifecycle up to its acknowledgement. -/
def firstAcknowledgedChain (event retrieve acknowledge : String) : List Stimulus :=
  [stimulus 0 1 "arm-1" .arm,
    stimulus 1 2 "offer-1" (.offer event),
    stimulus 2 3 "claim-1" (.admitEvent event),
    stimulus 3 4 "retrieve-1" (.retrieve retrieve),
    stimulus 4 5 "ack-1" (.acknowledge acknowledge)]

/-- A lifecycle and the admission of the next. -/
def completeChain (event retrieve acknowledge : String) : List Stimulus :=
  firstAcknowledgedChain event retrieve acknowledge ++
    [stimulus 5 6 "terminal-1" .terminal,
      stimulus 6 7 "rearm-1" .rearm,
      stimulus 7 8 "arm-2" .arm,
      stimulus 8 9 "offer-2" (.offer "event-next"),
      stimulus 9 10 "claim-2" (.admitEvent "event-next")]

/-- A lifecycle that is revoked after its admission. -/
def revokedChain (event retrieve : String) : List Stimulus :=
  [stimulus 0 1 "arm-1" .arm,
    stimulus 1 2 "offer-1" (.offer event),
    stimulus 2 3 "claim-1" (.admitEvent event),
    stimulus 3 4 "revoke-1" .revoke,
    stimulus 4 5 "restart-1" .restart,
    stimulus 5 6 "retrieve-after-revoke" (.retrieve retrieve)]

/-- Offers that arrive in six ticks. -/
def queueArrivals : Nat → Nat → SplitMix64 → List Stimulus
  | 0, _, _ => []
  | count + 1, index, arrivals =>
      stimulus (arrivals.next.1 % 6) (.ofNat index) ("queue-" ++ toString index)
          (.offer ("event-" ++ toString index)) ::
        queueArrivals count (index + 1) arrivals.next.2

/-- Stimuli of a named case before they are linked. -/
def caseStimuli (caseId : String) (seeds : SeedSet) (event retrieve acknowledge : String) :
    List Stimulus :=
  let first := firstAcknowledgedChain event retrieve acknowledge
  if caseId = "SIM-CHAIN-01" then completeChain event retrieve acknowledge
  else if caseId = "SIM-REPLAY-01" then first ++ [stimulus 5 6 "controlled-early-rearm" .rearm]
  else if caseId = "SIM-CHAIN-02" then
    first ++
      [stimulus 5 6 "restart-1" .restart,
        stimulus 6 7 "retrieve-1" (.retrieve retrieve),
        stimulus 7 8 "ack-1" (.acknowledge acknowledge)]
  else if caseId = "SIM-CHAIN-03" then
    [stimulus 0 1 "arm-1" .arm,
      stimulus 1 2 "offer-1" (.offer event),
      stimulus 2 3 "claim-1" (.admitEvent event),
      stimulus 3 4 "restart-1" .restart,
      stimulus 4 5 "claim-1" (.admitEvent "changed-event")]
  else if caseId = "SIM-CHAIN-04" then revokedChain event retrieve
  else if caseId = "SIM-CHAIN-05" then
    [stimulus 0 1 "arm-1" .arm,
      stimulus 1 2 "offer-1" (.offer event),
      stimulus 2 3 "claim-1" (.admitEvent event),
      stimulus 3 4 "restart-1" .restart,
      stimulus 4 5 "stale-retrieve" (.staleRetrieve retrieve)]
  else if caseId = "SIM-CHAIN-06" then
    first ++
      [stimulus 5 6 "rearm-wait" .rearm,
        stimulus 6 7 "offer-during-rearm" (.offer "event-during-rearm"),
        stimulus 7 8 "claim-during-rearm" (.admitEvent "event-during-rearm"),
        stimulus 8 9 "terminal-1" .terminal,
        stimulus 9 10 "restart-terminal" .restart,
        stimulus 10 11 "rearm-1" .rearm,
        stimulus 11 12 "arm-2" .arm,
        stimulus 12 13 "claim-after-rearm" (.admitEvent "event-during-rearm")]
  else if caseId = "SIM-CHAIN-07" ∨ caseId = "SIM-PROC-01" then
    first ++
      [stimulus 5 6 "restart-after-ack" .restart,
        stimulus 6 7 "terminal-1" .terminal,
        stimulus 7 8 "rearm-1" .rearm]
  else if caseId = "SIM-CHAIN-08" then
    first ++
      [stimulus 5 6 "terminal-1" .terminal,
        stimulus 6 7 "omit-rearm" .omitRearm]
  else if caseId = "SIM-QUEUE-01" then queueArrivals 24 0 ⟨seeds.scheduler⟩
  else if caseId = "SIM-ORACLE-01" then
    [stimulus 0 1 "arm-1" .arm,
      stimulus 1 2 "offer-1" (.offer event),
      stimulus 2 3 "claim-1" (.admitEvent event)]
  else if caseId = "SIM-ORACLE-02" then
    first ++
      [stimulus 5 6 "restart-1" .restart,
        stimulus 6 7 "terminal-1" .terminal,
        stimulus 7 8 "rearm-1" .rearm]
  else if caseId = "SIM-ORACLE-03" then revokedChain event retrieve
  else first

/-- Link every stimulus to the one before. -/
def link : Option String → List Stimulus → List Stimulus
  | _, [] => []
  | prior, first :: rest =>
      { first with causalParent := prior } :: link (some first.operationId) rest

/-- Resolve a named case. -/
def scenario (caseId : String) (seed : UInt64) (store : SimulatorStore) :
    Except String SeededEnvelope :=
  if caseId ∉ caseIds then .error ("unknown scenario id: " ++ caseId)
  else
    let seeds := deriveSeeds seed
    let stimuli := caseStimuli caseId seeds (named "event-" seeds.actor)
      (named "retrieve-" seeds.actor) (named "ack-" seeds.actor)
    .ok
      { caseId, store, seed, seeds
        limits :=
          if caseId = "SIM-QUEUE-01" then { RunLimits.default with queueCapacity := 8 }
          else .default
        stimuli := if caseId = "SIM-QUEUE-01" then stimuli else link none stimuli }

/-! ## Generated chains -/

/-- Cycles of a restart and two retries, in one of two orders each. -/
def retryCycles (scheduler : UInt64) (retrieve acknowledge : String) :
    Nat → Nat → UInt64 → List Stimulus
  | 0, _, _ => []
  | cycles + 1, cycle, sequence =>
      let restart := ("restart-" ++ toString cycle, Action.restart)
      let retrieveRetry := ("retrieve-1", Action.retrieve retrieve)
      let ackRetry := ("ack-1", Action.acknowledge acknowledge)
      let ordered :=
        if (scheduler >>> UInt64.ofNat cycle) &&& 1 = 0 then (restart, retrieveRetry, ackRetry)
        else (retrieveRetry, ackRetry, restart)
      stimulus sequence sequence ordered.1.1 ordered.1.2 ::
        stimulus (sequence + 1) (sequence + 1) ordered.2.1.1 ordered.2.1.2 ::
        stimulus (sequence + 2) (sequence + 2) ordered.2.2.1 ordered.2.2.2 ::
        retryCycles scheduler retrieve acknowledge cycles (cycle + 1) (sequence + 3)

/-- Operations one after the other. -/
def sequenced : UInt64 → List (String × Action) → List Stimulus
  | _, [] => []
  | sequence, (operationId, action) :: rest =>
      stimulus sequence sequence operationId action :: sequenced (sequence + 1) rest

/-- Space the stimuli by one to three ticks and link them. -/
def space : SplitMix64 → UInt64 → Option String → List Stimulus → List Stimulus
  | _, _, _, [] => []
  | scheduler, due, prior, item :: rest =>
      let due := saturatingAdd due (1 + scheduler.next.1 % 3)
      { item with dueTick := due, causalParent := prior } ::
        space scheduler.next.2 due (some item.operationId) rest

/-- Rotate a number to the left. -/
def rotateLeft (value count : UInt64) : UInt64 :=
  (value <<< count) ||| (value >>> (64 - count))

/-- Cycles of a generated chain. -/
def generatedCycles (seeds : SeedSet) : Nat := 2 + (seeds.source % 3).toNat

/-- The operations that end the first lifecycle and go through the second. -/
def closingOperations (seeds : SeedSet) : List (String × Action) :=
  let second := rotateLeft seeds.actor 17
  [("terminal-generated", .terminal), ("rearm-generated", .rearm), ("arm-generated-2", .arm),
    ("offer-generated-2", .offer (named "event-second-" second)),
    ("claim-generated-2", .admitEvent (named "event-second-" second)),
    ("retrieve-generated-2", .retrieve (named "retrieve-second-" second)),
    ("ack-generated-2", .acknowledge (named "ack-second-" second)),
    ("terminal-generated-2", .terminal), ("rearm-generated-2", .rearm)]

/-- Stimuli of a generated chain before they are spaced. -/
def generatedStimuli (seeds : SeedSet) : List Stimulus :=
  let retrieve := named "retrieve-" seeds.actor
  let acknowledge := named "ack-" seeds.actor
  let cycles := generatedCycles seeds
  firstAcknowledgedChain (named "event-" seeds.actor) retrieve acknowledge ++
    retryCycles seeds.scheduler retrieve acknowledge cycles 0 6 ++
    sequenced (6 + 3 * UInt64.ofNat cycles) (closingOperations seeds)

/-- Name of a generated case. -/
def generatedCaseId (faultIndex : UInt64) : String :=
  if faultIndex = 0 then "SIM-GENERATED-NORMAL"
  else "SIM-GENERATED-ORACLE-" ++
    String.ofList ((Nat.toDigits 10 faultIndex.toNat).leftpad 2 '0')

/-- A chain of one lifecycle with retries and one without. -/
def generatedChain (seed : UInt64) (store : SimulatorStore) : SeededEnvelope :=
  let seeds := deriveSeeds seed
  { caseId := generatedCaseId (seeds.fault % 5)
    store, seed, seeds
    limits := .default
    stimuli := space ⟨seeds.scheduler⟩ 0 none (generatedStimuli seeds) }

/-! ## Campaigns -/

/-- Most runs of a campaign. -/
def maxCampaignRuns : Nat := 256

/-- Most events of a campaign. -/
def maxCampaignEvents : Nat := 16384

/-- Cases a campaign draws from. -/
def candidates : List String :=
  caseIds.filter fun caseId => decide (caseId ≠ "SIM-CHAIN-07" ∧ caseId ≠ "SIM-PROC-01")

/-- Resolve the runs of a campaign one by one. -/
def campaignRuns (store : SimulatorStore) :
    Nat → Nat → SplitMix64 → SplitMix64 → Except String (List SeededEnvelope)
  | 0, _, _, _ => pure []
  | runs + 1, runIndex, source, schedule => do
      let (runSeed, schedule) := schedule.next
      if runIndex % 2 = 0 then
        let rest ← campaignRuns store runs (runIndex + 1) source schedule
        pure (generatedChain runSeed store :: rest)
      else
        let (draw, source) := source.next
        let index := (draw % .ofNat candidates.length).toNat
        let envelope ← scenario (candidates.getD index "") runSeed store
        let rest ← campaignRuns store runs (runIndex + 1) source schedule
        pure (envelope :: rest)

/-- Resolve a campaign. -/
def campaignEnvelopes (seed : UInt64) (runs : Nat) (store : SimulatorStore) :
    Except String (List SeededEnvelope) := do
  if maxCampaignRuns < runs then
    throw ("campaign exceeds " ++ toString maxCampaignRuns ++ " run limit")
  let envelopes ← campaignRuns store runs 0 ⟨seed ^^^ 0x736f75726365⟩
    ⟨seed ^^^ 0x7363686564756c65⟩
  let totalEvents := (envelopes.map fun envelope => envelope.stimuli.length).sum
  if maxCampaignEvents < totalEvents then
    throw ("campaign resolves " ++ toString totalEvents ++ " events, exceeding " ++
      toString maxCampaignEvents ++ " event limit")
  pure envelopes

end Simulator
end Gearwit
