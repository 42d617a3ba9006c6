import Gearwit.Foundations.Transition

/-!
# Simulation of runs

One machine simulates another under a relation of their states if every step of the other
is matched by a step of the one.  The relation then holds between the ends of whole runs.
-/

namespace Gearwit
namespace Transition

variable {σ τ ο κ : Type*} {step : σ → ο → σ} {imageStep : τ → κ → τ}

/-- Every operation is matched by one that keeps the states related. -/
def Simulates (step : σ → ο → σ) (imageStep : τ → κ → τ) (related : σ → τ → Prop) : Prop :=
  ∀ state image operation, related state image →
    ∃ matched, related (step state operation) (imageStep image matched)

/-- A run is matched by a run of the same length. -/
theorem Simulates.run {related : σ → τ → Prop} (simulates : Simulates step imageStep related)
    {start : σ} {image : τ} (initially : related start image) (operations : List ο) :
    ∃ images, images.length = operations.length ∧
      related (Transition.run step start operations)
        (Transition.run imageStep image images) := by
  induction operations generalizing start image with
  | nil => exact ⟨[], rfl, initially⟩
  | cons operation rest inductionHypothesis =>
      obtain ⟨first, related'⟩ := simulates start image operation initially
      obtain ⟨later, length, ends⟩ := inductionHypothesis related'
      exact ⟨first :: later, by rw [List.length_cons, List.length_cons, length], ends⟩

end Transition
end Gearwit
