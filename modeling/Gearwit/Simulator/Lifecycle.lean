import Gearwit.Simulator.Oracle

/-!
# The lifecycle the oracle allows

What a first answer can do is said once, as a relation; from it follow the order of the
lifecycle's flags, the account of logical effects, and what a revocation ends.
-/

namespace Gearwit
namespace Simulator
namespace Oracle

open Transition

/-! ## Moves -/

/-- Outcomes that come with no change. -/
def quiet : List String :=
  ["unauthorized", "conflict", "invalid_transition", "waiting_for_handled",
    "waiting_for_terminal", "reopened", "inactive"]

/-- What a first answer can do: the action, the outcome and the oracle it leads to. -/
inductive Moves (oracle : Oracle) : Action → String → Oracle → Prop
  | refused (action : Action) {outcome : String} (listed : outcome ∈ quiet) :
      Moves oracle action outcome oracle
  | recalledRetrieval {request result : String} (authorized : oracle.revoked = false)
      (recorded : oracle.requestResults[request]? = some result) :
      Moves oracle (.retrieve request) result oracle
  | recalledAcknowledgement {request result : String} (authorized : oracle.revoked = false)
      (recorded : oracle.requestResults[request]? = some result) :
      Moves oracle (.acknowledge request) result oracle
  | armed :
      Moves oracle .arm "armed"
        { oracle with armed := true, revision := oracle.revision + 1 }
  | offered (event : String) (ready : oracle.armed = true) :
      Moves oracle (.offer event) "offered"
        { oracle with offered := oracle.offered + 1, revision := oracle.revision + 1 }
  | admitted (event : String) (ready : oracle.armed = true)
      (authorized : oracle.revoked = false) (waiting : 0 < oracle.offered)
      (unclaimed : oracle.claimed = false) :
      Moves oracle (.admitEvent event) "admitted"
        { oracle with
          claimed := true
          logicalEffects := oracle.logicalEffects + 1
          requestResults := oracle.requestResults.insert event "admitted"
          revision := oracle.revision + 1 }
  | retrieved (request : String) (claimed : oracle.claimed = true)
      (authorized : oracle.revoked = false) (unacknowledged : oracle.acknowledged = false)
      (unrecorded : oracle.requestResults[request]? = none) :
      Moves oracle (.retrieve request) "retrieved"
        { oracle with
          retrieved := true
          requestResults := oracle.requestResults.insert request "retrieved"
          revision := oracle.revision + 1 }
  | acknowledged (request : String) (retrieved : oracle.retrieved = true)
      (authorized : oracle.revoked = false)
      (unrecorded : oracle.requestResults[request]? = none) :
      Moves oracle (.acknowledge request) "acknowledged"
        { oracle with
          acknowledged := true
          requestResults := oracle.requestResults.insert request "acknowledged"
          revision := oracle.revision + 1 }
  | terminal (claimed : oracle.claimed = true) :
      Moves oracle .terminal "terminal"
        { oracle with terminal := true, revision := oracle.revision + 1 }
  | rearmed (acknowledged : oracle.acknowledged = true) (terminal : oracle.terminal = true) :
      Moves oracle .rearm "rearmed"
        { oracle with
          rearmed := true
          claimed := false
          retrieved := false
          acknowledged := false
          terminal := false
          revision := oracle.revision + 1 }
  | revoked :
      Moves oracle .revoke "revoked"
        { oracle with revoked := true, revision := oracle.revision + 1 }

private theorem retrieve_moves (request : String) (oracle : Oracle) :
    Moves oracle (.retrieve request) (applyFresh (.retrieve request) oracle).1
      (applyFresh (.retrieve request) oracle).2 := by
  simp only [applyFresh, commit]
  split
  · rename_i authorized
    obtain ⟨claimed, unrevoked⟩ : oracle.claimed = true ∧ oracle.revoked = false := by
      simpa using authorized
    split
    · rename_i recorded
      exact .recalledRetrieval unrevoked recorded
    · rename_i unrecorded
      split_ifs with finished
      · exact .refused _ (show "invalid_transition" ∈ quiet by decide)
      · exact .retrieved request claimed unrevoked (by simpa using finished) unrecorded
  · exact .refused _ (show "unauthorized" ∈ quiet by decide)

private theorem acknowledge_moves (request : String) (oracle : Oracle) :
    Moves oracle (.acknowledge request) (applyFresh (.acknowledge request) oracle).1
      (applyFresh (.acknowledge request) oracle).2 := by
  simp only [applyFresh, commit]
  split_ifs with authorized
  · obtain ⟨retrieved, unrevoked⟩ : oracle.retrieved = true ∧ oracle.revoked = false := by
      simpa using authorized
    split
    · rename_i recorded
      exact .recalledAcknowledgement unrevoked recorded
    · rename_i unrecorded
      exact .acknowledged request retrieved unrevoked unrecorded
  · exact .refused _ (show "unauthorized" ∈ quiet by decide)

/-- A first answer is one of the moves. -/
theorem applyFresh_moves (action : Action) (oracle : Oracle) :
    Moves oracle action (applyFresh action oracle).1 (applyFresh action oracle).2 := by
  cases action with
  | arm => exact .armed
  | offer event =>
      simp only [applyFresh]
      split_ifs with ready
      · exact .offered event ready
      · exact .refused _ (show "unauthorized" ∈ quiet by decide)
  | admitEvent event =>
      simp only [applyFresh]
      split_ifs with authorized claimed
      · exact .refused _ (show "conflict" ∈ quiet by decide)
      · obtain ⟨⟨ready, unrevoked⟩, waiting⟩ :
            (oracle.armed = true ∧ oracle.revoked = false) ∧ 0 < oracle.offered := by
          simpa using authorized
        exact .admitted event ready unrevoked waiting (by simpa using claimed)
      · exact .refused _ (show "unauthorized" ∈ quiet by decide)
  | retrieve request => exact retrieve_moves request oracle
  | staleRetrieve request => exact .refused _ (show "unauthorized" ∈ quiet by decide)
  | acknowledge request => exact acknowledge_moves request oracle
  | terminal =>
      simp only [applyFresh]
      split_ifs with claimed
      · exact .terminal claimed
      · exact .refused _ (show "unauthorized" ∈ quiet by decide)
  | rearm =>
      simp only [applyFresh]
      split_ifs with finished unacknowledged
      · obtain ⟨acknowledged, terminal⟩ :
            oracle.acknowledged = true ∧ oracle.terminal = true := by simpa using finished
        exact .rearmed acknowledged terminal
      · exact .refused _ (show "waiting_for_handled" ∈ quiet by decide)
      · exact .refused _ (show "waiting_for_terminal" ∈ quiet by decide)
  | revoke => exact .revoked
  | restart => exact .refused _ (show "reopened" ∈ quiet by decide)
  | omitRearm => exact .refused _ (show "inactive" ∈ quiet by decide)

/-- The oracle with one more operation remembered. -/
def remember (oracle : Oracle) (stimulus : Stimulus) : Oracle :=
  { oracle with
    seenOperations := oracle.seenOperations.insert stimulus.operationId stimulus.action }

/-- A stimulus is a repetition that changes nothing or a first move. -/
theorem apply_cases (oracle : Oracle) (stimulus : Stimulus) :
    (oracle.step stimulus = oracle ∧
        ((oracle.apply stimulus).1.outcome = "exact_replay" ∨
          (oracle.apply stimulus).1.outcome = "conflict")) ∨
      oracle.seenOperations[stimulus.operationId]? = none ∧
        Moves (oracle.remember stimulus) stimulus.action (oracle.apply stimulus).1.outcome
          (oracle.step stimulus) := by
  cases seen : oracle.seenOperations[stimulus.operationId]? with
  | some original =>
      rw [step, apply_seen seen]
      refine .inl ⟨rfl, ?_⟩
      by_cases same : original = stimulus.action
      · exact .inl (by rw [if_pos same]; rfl)
      · exact .inr (by rw [if_neg same]; rfl)
  | none =>
      rw [step, apply_fresh seen]
      exact .inr ⟨rfl, applyFresh_moves stimulus.action (oracle.remember stimulus)⟩

/-- A stimulus reports the effects there are after it. -/
theorem apply_effects (oracle : Oracle) (stimulus : Stimulus) :
    (oracle.apply stimulus).1.logicalEffects = (oracle.step stimulus).logicalEffects := by
  cases seen : oracle.seenOperations[stimulus.operationId]? with
  | some original => rw [step, apply_seen seen]; rfl
  | none => rw [step, apply_fresh seen]; rfl

/-- A stimulus reports the revision there is after it. -/
theorem apply_revision (oracle : Oracle) (stimulus : Stimulus) :
    (oracle.apply stimulus).1.authorityRevision = (oracle.step stimulus).revision := by
  cases seen : oracle.seenOperations[stimulus.operationId]? with
  | some original => rw [step, apply_seen seen]; rfl
  | none => rw [step, apply_fresh seen]; rfl

/-! ## The order of the flags -/

/-- The flags are raised in the order of the lifecycle. -/
structure Ordered (oracle : Oracle) : Prop where
  retrieved : oracle.retrieved = true → oracle.claimed = true
  acknowledged : oracle.acknowledged = true → oracle.retrieved = true
  terminal : oracle.terminal = true → oracle.claimed = true

private theorem default_ordered : Ordered default where
  retrieved raised := by cases raised
  acknowledged raised := by cases raised
  terminal raised := by cases raised

private theorem Moves.ordered {oracle after : Oracle} {action : Action} {outcome : String}
    (moves : Moves oracle action outcome after) (ordered : Ordered oracle) : Ordered after := by
  cases moves with
  | refused | recalledRetrieval | recalledAcknowledgement => exact ordered
  | armed | offered | revoked =>
      exact ⟨ordered.retrieved, ordered.acknowledged, ordered.terminal⟩
  | admitted => exact ⟨fun _ => rfl, ordered.acknowledged, fun _ => rfl⟩
  | retrieved request claimed => exact ⟨fun _ => claimed, fun _ => rfl, ordered.terminal⟩
  | acknowledged request retrieved =>
      exact ⟨ordered.retrieved, fun _ => retrieved, ordered.terminal⟩
  | terminal claimed => exact ⟨ordered.retrieved, ordered.acknowledged, fun _ => claimed⟩
  | rearmed => exact ⟨fun raised => raised, fun raised => raised, fun raised => raised⟩

private theorem step_ordered (oracle : Oracle) (stimulus : Stimulus) (ordered : Ordered oracle) :
    Ordered (oracle.step stimulus) := by
  rcases apply_cases oracle stimulus with ⟨still, _⟩ | ⟨_, moves⟩
  · rw [still]
    exact ordered
  · exact moves.ordered ⟨ordered.retrieved, ordered.acknowledged, ordered.terminal⟩

/-- The flags are in order after every stream. -/
theorem run_ordered (stimuli : List Stimulus) : Ordered (run step default stimuli) :=
  invariant_run Ordered step_ordered default_ordered stimuli

/-! ## The account of effects -/

/-- Whether a stimulus admits an event. -/
def admits (oracle : Oracle) (stimulus : Stimulus) : Nat :=
  match stimulus.action with
  | .admitEvent _ => if (oracle.apply stimulus).1.outcome = "admitted" then 1 else 0
  | _ => 0

/-- Whether a stimulus completes a lifecycle. -/
def completes (oracle : Oracle) (stimulus : Stimulus) : Nat :=
  match stimulus.action with
  | .rearm => if (oracle.apply stimulus).1.outcome = "rearmed" then 1 else 0
  | _ => 0

/-- Lifecycles that are under way. -/
def underway (oracle : Oracle) : Nat := if oracle.claimed then 1 else 0

private theorem admits_eq_zero {oracle : Oracle} {stimulus : Stimulus}
    (other : (oracle.apply stimulus).1.outcome ≠ "admitted") : admits oracle stimulus = 0 := by
  unfold admits
  split
  · rw [if_neg other]
  · rfl

private theorem completes_eq_zero {oracle : Oracle} {stimulus : Stimulus}
    (other : (oracle.apply stimulus).1.outcome ≠ "rearmed") : completes oracle stimulus = 0 := by
  unfold completes
  split
  · rw [if_neg other]
  · rfl

private theorem quiet_loud {outcome : String} (listed : outcome ∈ quiet) :
    outcome ≠ "admitted" ∧ outcome ≠ "rearmed" := by
  revert outcome
  decide

/-- What a stimulus does to the effects and to the lifecycle under way. -/
private theorem step_balance (oracle : Oracle) (stimulus : Stimulus) (ordered : Ordered oracle) :
    (oracle.step stimulus).logicalEffects =
        oracle.logicalEffects + UInt64.ofNat (admits oracle stimulus) ∧
      (oracle.step stimulus).underway + completes oracle stimulus =
        oracle.underway + admits oracle stimulus := by
  have still (same : (oracle.step stimulus).logicalEffects = oracle.logicalEffects)
      (kept : (oracle.step stimulus).claimed = oracle.claimed)
      (admitted : admits oracle stimulus = 0) (completed : completes oracle stimulus = 0) :
      (oracle.step stimulus).logicalEffects =
          oracle.logicalEffects + UInt64.ofNat (admits oracle stimulus) ∧
        (oracle.step stimulus).underway + completes oracle stimulus =
          oracle.underway + admits oracle stimulus := by
    rw [admitted, completed, same, underway, underway, kept]
    exact ⟨(UInt64.add_zero _).symm, rfl⟩
  rcases apply_cases oracle stimulus with ⟨same, outcome⟩ | ⟨_, moves⟩
  · refine still (by rw [same]) (by rw [same]) (admits_eq_zero ?_) (completes_eq_zero ?_) <;>
      rcases outcome with outcome | outcome <;> rw [outcome] <;> decide
  · generalize answered : (oracle.apply stimulus).1.outcome = outcome at moves
    generalize acted : stimulus.action = action at moves
    generalize led : oracle.step stimulus = after at moves still ⊢
    cases moves with
    | refused _ listed =>
        obtain ⟨unadmitted, unrearmed⟩ := quiet_loud listed
        exact still rfl rfl (admits_eq_zero (by rwa [answered]))
          (completes_eq_zero (by rwa [answered]))
    | recalledRetrieval | recalledAcknowledgement | armed | offered | retrieved |
      acknowledged | terminal | revoked =>
        exact still rfl rfl (by rw [admits, acted]) (by rw [completes, acted])
    | admitted event _ _ _ unclaimed =>
        have one : admits oracle stimulus = 1 := by rw [admits, acted]; exact if_pos answered
        have none : completes oracle stimulus = 0 := by rw [completes, acted]
        have before : oracle.claimed = false := unclaimed
        rw [one, none, underway, underway, before]
        exact ⟨rfl, rfl⟩
    | rearmed acknowledged terminal =>
        have none : admits oracle stimulus = 0 := by rw [admits, acted]
        have one : completes oracle stimulus = 1 := by
          rw [completes, acted]; exact if_pos answered
        have before : oracle.claimed = true := ordered.terminal terminal
        rw [one, none, underway, underway, before]
        exact ⟨(UInt64.add_zero _).symm, rfl⟩

private theorem run_effects (oracle : Oracle) (ordered : Ordered oracle)
    (stimuli : List Stimulus) :
    (run step oracle stimuli).logicalEffects =
      oracle.logicalEffects + UInt64.ofNat (tally step admits oracle stimuli) := by
  induction stimuli generalizing oracle with
  | nil => exact (UInt64.add_zero _).symm
  | cons stimulus rest inductionHypothesis =>
      rw [run_cons, inductionHypothesis _ (step_ordered oracle stimulus ordered), tally_cons,
        (step_balance oracle stimulus ordered).1, UInt64.ofNat_add, UInt64.add_assoc]

/-- Logical effects are accounted for: every observation of a stream reports the number of
events admitted so far, and of the events admitted every one has completed its lifecycle
but the one under way. -/
theorem effects_accounted (before : List Stimulus) (stimulus : Stimulus) :
    ((run step default before).apply stimulus).1.logicalEffects =
        UInt64.ofNat (tally step admits default (before ++ [stimulus])) ∧
      tally step admits default (before ++ [stimulus]) =
        tally step completes default (before ++ [stimulus]) +
          underway (run step default (before ++ [stimulus])) := by
  constructor
  · have effects := run_effects default default_ordered (before ++ [stimulus])
    rw [run_append, run_cons, run_nil, ← apply_effects] at effects
    rw [effects]
    exact UInt64.zero_add _
  · have balance := tally_balance Ordered step_ordered
      (fun oracle stimulus ordered => (step_balance oracle stimulus ordered).2)
      default_ordered (before ++ [stimulus])
    have none : underway default = 0 := rfl
    omega

/-! ## The growth of the counters -/

private theorem Moves.growth {oracle after : Oracle} {action : Action} {outcome : String}
    (moves : Moves oracle action outcome after) :
    (after.logicalEffects = oracle.logicalEffects ∨
        after.logicalEffects = oracle.logicalEffects + 1) ∧
      (after.revision = oracle.revision ∨ after.revision = oracle.revision + 1) := by
  cases moves with
  | refused | recalledRetrieval | recalledAcknowledgement => exact ⟨.inl rfl, .inl rfl⟩
  | admitted => exact ⟨.inr rfl, .inr rfl⟩
  | armed | offered | retrieved | acknowledged | terminal | rearmed | revoked =>
      exact ⟨.inl rfl, .inr rfl⟩

private theorem step_growth (oracle : Oracle) (stimulus : Stimulus) :
    ((oracle.step stimulus).logicalEffects = oracle.logicalEffects ∨
        (oracle.step stimulus).logicalEffects = oracle.logicalEffects + 1) ∧
      ((oracle.step stimulus).revision = oracle.revision ∨
        (oracle.step stimulus).revision = oracle.revision + 1) := by
  rcases apply_cases oracle stimulus with ⟨still, _⟩ | ⟨_, moves⟩
  · rw [still]
    exact ⟨.inl rfl, .inl rfl⟩
  · exact moves.growth

/-- A counter that grows by at most one. -/
private theorem grown_bounds {number grown : UInt64} (grows : grown = number ∨ grown = number + 1) :
    grown.toNat ≤ number.toNat + 1 ∧
      (number.toNat + 1 < UInt64.size → number.toNat ≤ grown.toNat) := by
  have one : (1 : UInt64).toNat = 1 := rfl
  have size : UInt64.size = 18446744073709551616 := rfl
  rcases grows with rfl | rfl
  · omega
  · rw [UInt64.toNat_add, one]
    omega

/-- Over a stream the counters grow by at most one for every stimulus, and they fall only by
running over. -/
theorem run_growth (oracle : Oracle) (stimuli : List Stimulus) :
    (run step oracle stimuli).logicalEffects.toNat ≤
        oracle.logicalEffects.toNat + stimuli.length ∧
      (run step oracle stimuli).revision.toNat ≤ oracle.revision.toNat + stimuli.length ∧
      (oracle.revision.toNat + stimuli.length < UInt64.size →
        oracle.revision.toNat ≤ (run step oracle stimuli).revision.toNat) := by
  induction stimuli generalizing oracle with
  | nil => exact ⟨le_rfl, le_rfl, fun _ => le_rfl⟩
  | cons stimulus rest inductionHypothesis =>
      obtain ⟨effects, revision⟩ := step_growth oracle stimulus
      obtain ⟨fewEffects, fewRevisions, forward⟩ := inductionHypothesis (oracle.step stimulus)
      have moreEffects := grown_bounds effects
      have moreRevisions := grown_bounds revision
      rw [run_cons, List.length_cons]
      refine ⟨by omega, by omega, fun fits => ?_⟩
      exact (moreRevisions.2 (by omega)).trans (forward (by omega))

/-! ## Revocation -/

/-- Outcomes by which authority is used. -/
def authorized : List String := ["admitted", "retrieved", "acknowledged"]

private theorem quiet_unauthorized {outcome : String} (listed : outcome ∈ quiet) :
    outcome ∉ authorized := by
  revert outcome
  decide

private theorem Moves.fenced {oracle after : Oracle} {action : Action} {outcome : String}
    (moves : Moves oracle action outcome after) (revoked : oracle.revoked = true) :
    after.revoked = true ∧ after.logicalEffects = oracle.logicalEffects ∧
      outcome ∉ authorized := by
  cases moves with
  | refused _ listed => exact ⟨revoked, rfl, quiet_unauthorized listed⟩
  | recalledRetrieval unrevoked | recalledAcknowledgement unrevoked =>
      rw [revoked] at unrevoked
      cases unrevoked
  | armed | offered | terminal | rearmed => exact ⟨revoked, rfl, by decide⟩
  | admitted _ _ unrevoked | retrieved _ _ unrevoked | acknowledged _ _ unrevoked =>
      rw [revoked] at unrevoked
      cases unrevoked
  | revoked => exact ⟨rfl, rfl, by decide⟩

private theorem step_fenced (oracle : Oracle) (stimulus : Stimulus)
    (revoked : oracle.revoked = true) :
    (oracle.step stimulus).revoked = true ∧
      (oracle.step stimulus).logicalEffects = oracle.logicalEffects ∧
      (oracle.apply stimulus).1.outcome ∉ authorized := by
  rcases apply_cases oracle stimulus with ⟨still, outcome⟩ | ⟨_, moves⟩
  · rw [still]
    refine ⟨revoked, rfl, ?_⟩
    rcases outcome with outcome | outcome <;> rw [outcome] <;> decide
  · exact moves.fenced revoked

private theorem observe_fenced (oracle : Oracle) (revoked : oracle.revoked = true)
    (stimuli : List Stimulus) :
    (∀ observation ∈ oracle.observe stimuli,
        observation.logicalEffects = oracle.logicalEffects ∧
          observation.outcome ∉ authorized) ∧
      tally step admits oracle stimuli = 0 := by
  induction stimuli generalizing oracle with
  | nil => exact ⟨by simp, rfl⟩
  | cons stimulus rest inductionHypothesis =>
      obtain ⟨later, effects, outcome⟩ := step_fenced oracle stimulus revoked
      obtain ⟨observed, none⟩ := inductionHypothesis _ later
      constructor
      · intro observation member
        rw [observe_cons] at member
        rcases List.mem_cons.1 member with rfl | member
        · exact ⟨(apply_effects oracle stimulus).trans effects, outcome⟩
        · rw [← effects]
          exact observed observation member
      · have unadmitted : (oracle.apply stimulus).1.outcome ≠ "admitted" := by
          intro same
          exact outcome (by rw [same]; decide)
        rw [tally_cons, admits_eq_zero unadmitted, none]

/-- A revocation is final: once it was answered, whatever follows changes no logical effect
and uses no authority, and at most the lifecycle under way is completed. -/
theorem revocation_fences (before after : List Stimulus) (stimulus : Stimulus)
    (revokes : stimulus.action = .revoke)
    (fresh : ∀ earlier ∈ before, earlier.operationId ≠ stimulus.operationId) :
    (∀ observation ∈ (run step default (before ++ [stimulus])).observe after,
        observation.logicalEffects =
            (run step default (before ++ [stimulus])).logicalEffects ∧
          observation.outcome ∉ authorized) ∧
      tally step completes (run step default (before ++ [stimulus])) after ≤
        underway (run step default (before ++ [stimulus])) := by
  have unseen :
      (run step default before).seenOperations[stimulus.operationId]? = none := by
    rw [run_seen, List.find?_eq_none.2 (by simpa using fresh)]
    rfl
  have revoked : (run step default (before ++ [stimulus])).revoked = true := by
    rw [run_append, run_cons, run_nil, step, apply_fresh unseen, revokes]
    rfl
  obtain ⟨observed, none⟩ := observe_fenced _ revoked after
  refine ⟨observed, ?_⟩
  have balance := tally_balance Ordered step_ordered
    (fun oracle stimulus ordered => (step_balance oracle stimulus ordered).2)
    (run_ordered (before ++ [stimulus])) after
  omega

namespace Sample

/-- A lifecycle that is interrupted by a restart and ended by a revocation. -/
def interrupted : List Stimulus :=
  [⟨0, 1, "arm-1", none, .arm⟩, ⟨1, 2, "offer-1", none, .offer "event"⟩,
    ⟨2, 3, "restart-1", none, .restart⟩, ⟨3, 4, "claim-1", none, .admitEvent "event"⟩]

/-- The revocation. -/
def revocation : Stimulus := ⟨4, 5, "revoke-1", none, .revoke⟩

/-- What is asked after the revocation. -/
def later : List Stimulus :=
  [⟨5, 6, "retrieve-1", none, .retrieve "request"⟩, ⟨6, 7, "rearm-1", none, .rearm⟩]

/-- After the interrupted stream was revoked nothing takes effect any more. -/
theorem interrupted_revocation_fences :
    (∀ observation ∈ (run step default (interrupted ++ [revocation])).observe later,
        observation.logicalEffects =
            (run step default (interrupted ++ [revocation])).logicalEffects ∧
          observation.outcome ∉ authorized) ∧
      tally step completes (run step default (interrupted ++ [revocation])) later ≤
        underway (run step default (interrupted ++ [revocation])) :=
  revocation_fences interrupted later revocation rfl (by decide)

end Sample

/-! ## Actions without a trace -/

/-- Actions that change nothing but the memory of operations. -/
def traceless : Action → Bool
  | .staleRetrieve _ | .restart | .omitRearm => true
  | _ => false

/-- Two oracles that differ in what they remember of operations nobody names again. -/
structure Alike (named : String → Prop) (oracle other : Oracle) : Prop where
  state : other = { oracle with seenOperations := other.seenOperations }
  memory : ∀ operationId, named operationId →
    oracle.seenOperations[operationId]? = other.seenOperations[operationId]?

/-- A first answer does not look at the memory of operations. -/
private theorem applyFresh_memory (action : Action) (oracle : Oracle)
    (memory : BTreeMap String Action) :
    applyFresh action { oracle with seenOperations := memory } =
      ((applyFresh action oracle).1,
        { (applyFresh action oracle).2 with seenOperations := memory }) := by
  unfold applyFresh
  split <;> dsimp only <;> (try split_ifs) <;> (try split) <;> rfl

private theorem applyFresh_traceless {action : Action} (silent : traceless action = true)
    (oracle : Oracle) : (applyFresh action oracle).2 = oracle := by
  cases action with
  | staleRetrieve | restart | omitRearm => rfl
  | _ => cases silent

private theorem Alike.step {named : String → Prop} {oracle other : Oracle}
    (alike : Alike named oracle other) {stimulus : Stimulus} (heard : named stimulus.operationId) :
    (other.apply stimulus).1 = (oracle.apply stimulus).1 ∧
      Alike named (oracle.step stimulus) (other.step stimulus) := by
  obtain ⟨state, memory⟩ := alike
  have answers : (other.apply stimulus).1 = (oracle.apply stimulus).1 ∧
      other.step stimulus = { oracle.step stimulus with
        seenOperations := (other.step stimulus).seenOperations } := by
    generalize other.seenOperations = seen at state memory
    subst state
    cases found : oracle.seenOperations[stimulus.operationId]? with
    | some original =>
        have foundThere := (memory _ heard).symm.trans found
        rw [Oracle.step, Oracle.step, apply_seen found, apply_seen foundThere]
        exact ⟨rfl, rfl⟩
    | none =>
        have unfoundThere := (memory _ heard).symm.trans found
        rw [Oracle.step, Oracle.step, apply_fresh found, apply_fresh unfoundThere]
        refine ⟨?_, by simp only [applyFresh_memory]⟩
        simp only [applyFresh_memory]
        rfl
  refine ⟨answers.1, answers.2, fun operationId called => ?_⟩
  rw [step_seen, step_seen, memory operationId called]

private theorem Alike.skip {named : String → Prop} {oracle other : Oracle}
    (alike : Alike named oracle other) {stimulus : Stimulus}
    (silent : traceless stimulus.action = true) (unheard : ¬ named stimulus.operationId) :
    Alike named (oracle.step stimulus) other := by
  obtain ⟨state, memory⟩ := alike
  constructor
  · cases found : oracle.seenOperations[stimulus.operationId]? with
    | some original =>
        rw [Oracle.step, apply_seen found]
        exact state
    | none =>
        rw [Oracle.step, apply_fresh found, applyFresh_traceless silent]
        exact state
  · intro operationId called
    have apart : stimulus.operationId ≠ operationId := by
      rintro rfl
      exact unheard called
    rw [step_seen, if_neg apart, memory operationId called]

private theorem observe_alike {named : String → Prop} {oracle other : Oracle}
    (alike : Alike named oracle other) (stimuli : List Stimulus)
    (heard : ∀ stimulus ∈ stimuli,
      named stimulus.operationId ↔ traceless stimulus.action = false) :
    other.observe (stimuli.filter fun stimulus => !traceless stimulus.action) =
      ((stimuli.zip (oracle.observe stimuli)).filter fun observed =>
        !traceless observed.1.action).map Prod.snd := by
  induction stimuli generalizing oracle other with
  | nil => rfl
  | cons stimulus rest inductionHypothesis =>
      have now := heard stimulus List.mem_cons_self
      have later := fun other member => heard other (List.mem_cons_of_mem stimulus member)
      cases silent : traceless stimulus.action with
      | true =>
          have unheard : ¬ named stimulus.operationId := by
            rw [now, silent]
            exact Bool.noConfusion
          rw [observe_cons, List.zip_cons_cons, List.filter_cons_of_neg (by simp [silent]),
            List.filter_cons_of_neg (by simp [silent])]
          exact inductionHypothesis (alike.skip silent unheard) later
      | false =>
          obtain ⟨answers, alike⟩ := alike.step (now.2 silent)
          rw [observe_cons, List.zip_cons_cons, List.filter_cons_of_pos (by simp [silent]),
            List.filter_cons_of_pos (by simp [silent]), observe_cons, List.map_cons, answers,
            inductionHypothesis alike later]

/-- Restarts, stale retrievals and omitted rearms leave no trace: without them a stream is
answered as with them, provided their operations are not those of other stimuli. -/
theorem traceless_unseen (stimuli : List Stimulus)
    (apart : ∀ silent ∈ stimuli, ∀ other ∈ stimuli, traceless silent.action = true →
      traceless other.action = false → silent.operationId ≠ other.operationId) :
    default.observe (stimuli.filter fun stimulus => !traceless stimulus.action) =
      ((stimuli.zip (default.observe stimuli)).filter fun observed =>
        !traceless observed.1.action).map Prod.snd := by
  have alike : Alike (fun operationId => ∃ stimulus ∈ stimuli,
      traceless stimulus.action = false ∧ stimulus.operationId = operationId)
      default default := ⟨rfl, fun _ _ => rfl⟩
  refine observe_alike alike stimuli fun stimulus member => ⟨?_, ?_⟩
  · rintro ⟨other, listed, loud, same⟩
    by_contra silent
    exact apart stimulus member other listed (by simpa using silent) loud same.symm
  · intro loud
    exact ⟨stimulus, member, loud, rfl⟩

namespace Sample

/-- The interrupted stream is answered as if it had not been interrupted. -/
theorem interrupted_traceless_unseen :
    default.observe (interrupted.filter fun stimulus => !traceless stimulus.action) =
      ((interrupted.zip (default.observe interrupted)).filter fun observed =>
        !traceless observed.1.action).map Prod.snd :=
  traceless_unseen interrupted (by decide)

end Sample

end Oracle
end Simulator
end Gearwit
