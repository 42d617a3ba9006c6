import Gearwit.Foundations.Transition

/-!
# Tallies of runs

A tally adds up what the operations of a run contribute, each in the state it is performed
in.  A quantity that every step changes by what it takes in and gives out is balanced over
whole runs.
-/

namespace Gearwit
namespace Transition

variable {σ ο : Type*} (step : σ → ο → σ)

/-- What the operations of a run contribute. -/
def tally (measure : σ → ο → Nat) : σ → List ο → Nat
  | _, [] => 0
  | state, operation :: rest => measure state operation + tally measure (step state operation) rest

@[simp] theorem tally_nil (measure : σ → ο → Nat) (start : σ) :
    tally step measure start [] = 0 := rfl

@[simp] theorem tally_cons (measure : σ → ο → Nat) (start : σ) (operation : ο) (rest : List ο) :
    tally step measure start (operation :: rest) =
      measure start operation + tally step measure (step start operation) rest := rfl

variable {step}

/-- What every step balances is balanced over a run that keeps an invariant. -/
theorem tally_balance {amount : σ → Nat} {taken given : σ → ο → Nat} (invariant : σ → Prop)
    (kept : ∀ state operation, invariant state → invariant (step state operation))
    (balanced : ∀ state operation, invariant state →
      amount (step state operation) + given state operation =
        amount state + taken state operation)
    {start : σ} (initially : invariant start) (operations : List ο) :
    amount (run step start operations) + tally step given start operations =
      amount start + tally step taken start operations := by
  induction operations generalizing start with
  | nil => simp
  | cons operation rest inductionHypothesis =>
      have now := balanced start operation initially
      have later := inductionHypothesis (kept start operation initially)
      simp only [run_cons, tally_cons]
      omega

end Transition
end Gearwit
