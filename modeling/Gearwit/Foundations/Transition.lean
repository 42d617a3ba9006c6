import Mathlib.Data.List.Induction
import Mathlib.Tactic.Common

/-!
# Runs of a step function

A machine is a step function from a state and an operation to the next state; a
run folds a list of operations.  This module packages the inductions over runs:
an invariant kept by every step, an invariant kept by the steps that meet a
condition in the state they are taken in, a relation every step stays inside, and
an invariant that also mentions the operations already performed.
-/

namespace Gearwit
namespace Transition

variable {σ ο : Type*} (step : σ → ο → σ)

/-- State reached by performing the operations in order. -/
def run (start : σ) (operations : List ο) : σ :=
  operations.foldl step start

@[simp] theorem run_nil (start : σ) : run step start [] = start := rfl

@[simp] theorem run_cons (start : σ) (operation : ο) (rest : List ο) :
    run step start (operation :: rest) =
      run step (step start operation) rest := rfl

/-- Running two stretches one after the other. -/
@[simp] theorem run_append (start : σ) (first second : List ο) :
    run step start (first ++ second) =
      run step (run step start first) second :=
  List.foldl_append

/-- Every operation of the list meets the condition in the state it is
performed in. -/
def Along (good : σ → ο → Prop) : σ → List ο → Prop
  | _, [] => True
  | state, operation :: rest =>
      good state operation ∧ Along good (step state operation) rest

@[simp] theorem along_nil (good : σ → ο → Prop) (start : σ) :
    Along step good start [] := trivial

@[simp] theorem along_cons
    (good : σ → ο → Prop) (start : σ) (operation : ο) (rest : List ο) :
    Along step good start (operation :: rest) ↔
      good start operation ∧ Along step good (step start operation) rest :=
  Iff.rfl

/-- A decidable condition is decided along a run. -/
instance decidableAlong (good : σ → ο → Prop)
    [decide : ∀ state operation, Decidable (good state operation)] :
    ∀ (start : σ) (operations : List ο), Decidable (Along step good start operations)
  | _, [] => .isTrue trivial
  | start, operation :: rest =>
      match decide start operation, decidableAlong good (step start operation) rest with
      | .isTrue now, .isTrue later => .isTrue ⟨now, later⟩
      | .isFalse never, _ => .isFalse fun along => never along.1
      | _, .isFalse never => .isFalse fun along => never along.2

/-- A condition holds along a concatenation exactly when it holds along both
stretches. -/
theorem along_append
    (good : σ → ο → Prop) (start : σ) (first second : List ο) :
    Along step good start (first ++ second) ↔
      Along step good start first ∧
        Along step good (run step start first) second := by
  induction first generalizing start with
  | nil => simp
  | cons operation rest inductionHypothesis =>
      simp [inductionHypothesis, and_assoc]

variable {step}

/-- An invariant kept by every step that meets the condition holds at the end of
a run that meets it throughout. -/
theorem invariant_along
    {good : σ → ο → Prop} (invariant : σ → Prop)
    (kept : ∀ state operation, good state operation →
      invariant state → invariant (step state operation))
    {start : σ} (initially : invariant start)
    {operations : List ο} (along : Along step good start operations) :
    invariant (run step start operations) := by
  induction operations generalizing start with
  | nil => exact initially
  | cons operation rest inductionHypothesis =>
      exact inductionHypothesis (kept _ _ along.1 initially) along.2

/-- An invariant kept by every step holds at the end of every run. -/
theorem invariant_run
    (invariant : σ → Prop)
    (kept : ∀ state operation, invariant state → invariant (step state operation))
    {start : σ} (initially : invariant start) (operations : List ο) :
    invariant (run step start operations) := by
  induction operations generalizing start with
  | nil => exact initially
  | cons operation rest inductionHypothesis =>
      exact inductionHypothesis (kept _ _ initially)

/-- A reflexive and transitive relation that contains every step contains every
run. -/
theorem relation_run
    {relation : σ → σ → Prop}
    (reflexive : ∀ state, relation state state)
    (transitive : ∀ first second third,
      relation first second → relation second third → relation first third)
    (contained : ∀ state operation, relation state (step state operation))
    (start : σ) (operations : List ο) :
    relation start (run step start operations) := by
  induction operations generalizing start with
  | nil => exact reflexive start
  | cons operation rest inductionHypothesis =>
      exact transitive _ _ _ (contained start operation)
        (inductionHypothesis (step start operation))

/-- An invariant over the operations performed so far and the state they lead
to. -/
theorem history_run
    (start : σ) (invariant : List ο → σ → Prop)
    (initially : invariant [] start)
    (kept : ∀ performed operation,
      invariant performed (run step start performed) →
        invariant (performed ++ [operation])
          (step (run step start performed) operation))
    (operations : List ο) :
    invariant operations (run step start operations) := by
  induction operations using List.reverseRecOn with
  | nil => exact initially
  | append_singleton performed operation inductionHypothesis =>
      rw [run_append]
      exact kept performed operation inductionHypothesis

end Transition
end Gearwit
