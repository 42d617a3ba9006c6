import Gearwit.Foundations.BTreeMap
import Gearwit.Foundations.Tally
import Gearwit.Simulator.Scheduler

/-!
# The abstract oracle

The oracle judges a stream of stimuli on its own: it remembers what every operation was, and
it moves the one lifecycle of an arm.  Its counters are 64-bit numbers.
-/

namespace Gearwit
namespace Simulator

open Transition

/-- State of the oracle. -/
structure Oracle where
  armed : Bool
  claimed : Bool
  retrieved : Bool
  acknowledged : Bool
  terminal : Bool
  rearmed : Bool
  revoked : Bool
  offered : Nat
  logicalEffects : UInt64
  revision : UInt64
  requestResults : BTreeMap String String
  seenOperations : BTreeMap String Action

namespace Oracle

/-- The oracle before any stimulus. -/
def default : Oracle where
  armed := false
  claimed := false
  retrieved := false
  acknowledged := false
  terminal := false
  rearmed := false
  revoked := false
  offered := 0
  logicalEffects := 0
  revision := 0
  requestResults := ∅
  seenOperations := ∅

/-- Count a change and answer. -/
def commit (outcome : String) (oracle : Oracle) : String × Oracle :=
  (outcome, { oracle with revision := oracle.revision + 1 })

/-- Answer an operation for the first time. -/
def applyFresh (action : Action) (oracle : Oracle) : String × Oracle :=
  match action with
  | .arm => commit "armed" { oracle with armed := true }
  | .offer _ =>
      if oracle.armed then commit "offered" { oracle with offered := oracle.offered + 1 }
      else ("unauthorized", oracle)
  | .admitEvent event =>
      if oracle.armed && !oracle.revoked && decide (0 < oracle.offered) then
        if oracle.claimed then ("conflict", oracle)
        else commit "admitted" { oracle with
          claimed := true
          logicalEffects := oracle.logicalEffects + 1
          requestResults := oracle.requestResults.insert event "admitted" }
      else ("unauthorized", oracle)
  | .retrieve request =>
      if oracle.claimed && !oracle.revoked then
        match oracle.requestResults[request]? with
        | some result => (result, oracle)
        | none =>
            if oracle.acknowledged then ("invalid_transition", oracle)
            else commit "retrieved" { oracle with
              retrieved := true
              requestResults := oracle.requestResults.insert request "retrieved" }
      else ("unauthorized", oracle)
  | .staleRetrieve _ => ("unauthorized", oracle)
  | .acknowledge request =>
      if oracle.retrieved && !oracle.revoked then
        match oracle.requestResults[request]? with
        | some result => (result, oracle)
        | none => commit "acknowledged" { oracle with
            acknowledged := true
            requestResults := oracle.requestResults.insert request "acknowledged" }
      else ("unauthorized", oracle)
  | .terminal =>
      if oracle.claimed then commit "terminal" { oracle with terminal := true }
      else ("unauthorized", oracle)
  | .rearm =>
      if oracle.acknowledged && oracle.terminal then
        commit "rearmed" { oracle with
          rearmed := true
          claimed := false
          retrieved := false
          acknowledged := false
          terminal := false }
      else if !oracle.acknowledged then ("waiting_for_handled", oracle)
      else ("waiting_for_terminal", oracle)
  | .revoke => commit "revoked" { oracle with revoked := true }
  | .restart => ("reopened", oracle)
  | .omitRearm => ("inactive", oracle)

/-- What the oracle says of an operation that ended so. -/
def observation (operationId outcome : String) (oracle : Oracle) : Observation :=
  ⟨artifactVersion, operationId, outcome, oracle.logicalEffects, oracle.revision⟩

/-- Answer a stimulus.  An operation that was seen before is a replay or a conflict. -/
def apply (stimulus : Stimulus) (oracle : Oracle) : Observation × Oracle :=
  match oracle.seenOperations[stimulus.operationId]? with
  | some original =>
      (observation stimulus.operationId
        (if original = stimulus.action then "exact_replay" else "conflict") oracle, oracle)
  | none =>
      let (outcome, oracle) := applyFresh stimulus.action { oracle with
        seenOperations := oracle.seenOperations.insert stimulus.operationId stimulus.action }
      (observation stimulus.operationId outcome oracle, oracle)

/-- The oracle after a stimulus. -/
def step (oracle : Oracle) (stimulus : Stimulus) : Oracle := (oracle.apply stimulus).2

/-- What the oracle says of a stream. -/
def observe : Oracle → List Stimulus → List Observation
  | _, [] => []
  | oracle, stimulus :: rest => (oracle.apply stimulus).1 :: observe (oracle.step stimulus) rest

@[simp] theorem observe_nil (oracle : Oracle) : oracle.observe [] = [] := rfl

@[simp] theorem observe_cons (oracle : Oracle) (stimulus : Stimulus) (rest : List Stimulus) :
    oracle.observe (stimulus :: rest) =
      (oracle.apply stimulus).1 :: (oracle.step stimulus).observe rest := rfl

@[simp] theorem observe_append (oracle : Oracle) (first second : List Stimulus) :
    oracle.observe (first ++ second) =
      oracle.observe first ++ (run step oracle first).observe second := by
  induction first generalizing oracle with
  | nil => rfl
  | cons stimulus rest inductionHypothesis => simp [inductionHypothesis]

@[simp] theorem length_observe (oracle : Oracle) (stimuli : List Stimulus) :
    (oracle.observe stimuli).length = stimuli.length := by
  induction stimuli generalizing oracle with
  | nil => rfl
  | cons stimulus rest inductionHypothesis => simp [inductionHypothesis]

/-! ## Operations that were seen -/

/-- A first answer leaves the memory of operations alone. -/
@[simp] theorem applyFresh_seen (action : Action) (oracle : Oracle) :
    (oracle.applyFresh action).2.seenOperations = oracle.seenOperations := by
  unfold applyFresh
  split <;> (try split_ifs) <;> (try split) <;> rfl

/-- A stimulus seen before is answered as a replay or as a conflict. -/
theorem apply_seen {oracle : Oracle} {stimulus : Stimulus} {original : Action}
    (seen : oracle.seenOperations[stimulus.operationId]? = some original) :
    oracle.apply stimulus = (observation stimulus.operationId
      (if original = stimulus.action then "exact_replay" else "conflict") oracle, oracle) := by
  rw [apply, seen]

/-- A fresh stimulus is remembered and applied. -/
theorem apply_fresh {oracle : Oracle} {stimulus : Stimulus}
    (fresh : oracle.seenOperations[stimulus.operationId]? = none) :
    oracle.apply stimulus =
      (observation stimulus.operationId
        (applyFresh stimulus.action { oracle with
          seenOperations :=
            oracle.seenOperations.insert stimulus.operationId stimulus.action }).1
        (applyFresh stimulus.action { oracle with
          seenOperations :=
            oracle.seenOperations.insert stimulus.operationId stimulus.action }).2,
        (applyFresh stimulus.action { oracle with
          seenOperations :=
            oracle.seenOperations.insert stimulus.operationId stimulus.action }).2) := by
  rw [apply, fresh]

/-- A stimulus is remembered under the action its operation had first. -/
theorem step_seen (oracle : Oracle) (stimulus : Stimulus) (operationId : String) :
    (oracle.step stimulus).seenOperations[operationId]? =
      if stimulus.operationId = operationId then
        some ((oracle.seenOperations[operationId]?).getD stimulus.action)
      else oracle.seenOperations[operationId]? := by
  cases seen : oracle.seenOperations[stimulus.operationId]? with
  | some original =>
      have still : oracle.step stimulus = oracle := by rw [step, apply_seen seen]
      rw [still]
      split_ifs with same
      · rw [← same, seen]
        rfl
      · rfl
  | none =>
      rw [step, apply_fresh seen, applyFresh_seen, BTreeMap.getElem?_insert_eq]
      split_ifs with same
      · rw [← same, seen]
        rfl
      · rfl

/-- After a stream every operation is remembered under its first action. -/
theorem run_seen (oracle : Oracle) (stimuli : List Stimulus) (operationId : String) :
    (run step oracle stimuli).seenOperations[operationId]? =
      (oracle.seenOperations[operationId]?).or
        ((stimuli.find? fun stimulus => decide (stimulus.operationId = operationId)).map
          Stimulus.action) := by
  induction stimuli generalizing oracle with
  | nil => simp
  | cons stimulus rest inductionHypothesis =>
      rw [run_cons, inductionHypothesis, step_seen, List.find?_cons]
      by_cases same : stimulus.operationId = operationId
      · cases oracle.seenOperations[operationId]? <;> simp [same]
      · simp [same]

/-- Stimuli whose operation was not seen before in the stream. -/
def firsts (seen : List String) : List Stimulus → List Stimulus
  | [] => []
  | stimulus :: rest =>
      if stimulus.operationId ∈ seen then firsts seen rest
      else stimulus :: firsts (stimulus.operationId :: seen) rest

/-- Leaving out what is seen again does not change where a stream leads. -/
private theorem run_firsts (oracle : Oracle) (seen : List String) (stimuli : List Stimulus)
    (known : ∀ operationId ∈ seen, oracle.seenOperations[operationId]? ≠ none) :
    run step oracle (firsts seen stimuli) = run step oracle stimuli := by
  induction stimuli generalizing oracle seen with
  | nil => rfl
  | cons stimulus rest inductionHypothesis =>
      rw [firsts]
      split_ifs with member
      · obtain ⟨original, before⟩ := Option.ne_none_iff_exists'.1 (known _ member)
        have still : oracle.step stimulus = oracle := by rw [step, apply_seen before]
        rw [run_cons, still]
        exact inductionHypothesis oracle seen known
      · rw [run_cons, run_cons]
        refine inductionHypothesis _ _ fun operationId listed => ?_
        rw [step_seen]
        split_ifs with same
        · exact Option.some_ne_none _
        · exact known _ ((List.mem_cons.1 listed).resolve_left fun equal => same equal.symm)

/-- An operation has one effect: what comes again under its identifier is answered as a
replay of the first or as a conflict with it and changes nothing, so a stream leads where
its first operations lead. -/
theorem replays_inert (stimuli : List Stimulus) :
    run step default (firsts [] stimuli) = run step default stimuli ∧
      ∀ stimulus first,
        (stimuli.find? fun earlier => decide (earlier.operationId = stimulus.operationId)) =
          some first →
        (run step default stimuli).apply stimulus =
          (observation stimulus.operationId
            (if first.action = stimulus.action then "exact_replay" else "conflict")
            (run step default stimuli), run step default stimuli) := by
  refine ⟨run_firsts default [] stimuli (by simp), fun stimulus first found => ?_⟩
  refine apply_seen ?_
  rw [run_seen, found]
  rfl

end Oracle
end Simulator
end Gearwit
