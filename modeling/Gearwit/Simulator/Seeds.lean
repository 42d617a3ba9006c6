import Gearwit.Foundations.Mixing
import Gearwit.Simulator.Scheduler

/-!
# Seeds of scenarios

Random streams of the simulator are drawn from a 64-bit state that moves by a constant and
is mixed into a value.
-/

namespace Gearwit
namespace Simulator

/-- State of a random stream. -/
structure SplitMix64 where
  state : UInt64

namespace SplitMix64

/-- The constant the state moves by. -/
def increment : UInt64 := 0x9e3779b97f4a7c15

/-- Mix a state into a value. -/
def mix (state : UInt64) : UInt64 :=
  let value := (state ^^^ (state >>> 30)) * 0xbf58476d1ce4e5b9
  let value := (value ^^^ (value >>> 27)) * 0x94d049bb133111eb
  value ^^^ (value >>> 31)

/-- Draw the next value. -/
def next (stream : SplitMix64) : UInt64 × SplitMix64 :=
  let state := stream.state + increment
  (mix state, ⟨state⟩)

/-- Draw some values. -/
def draws : Nat → SplitMix64 → List UInt64
  | 0, _ => []
  | count + 1, stream => stream.next.1 :: draws count stream.next.2

/-- Mixing loses nothing. -/
theorem mix_injective : Function.Injective mix := by
  have first := @Mixing.fold_injective 30 (by decide)
  have second := @Mixing.fold_injective 27 (by decide)
  have third := @Mixing.fold_injective 31 (by decide)
  have scaled : Function.Injective fun value : UInt64 => value * 0xbf58476d1ce4e5b9 :=
    @Mixing.scale_injective _ 0x96de1b173f119089 (by decide)
  have rescaled : Function.Injective fun value : UInt64 => value * 0x94d049bb133111eb :=
    @Mixing.scale_injective _ 0x319642b2d24d8ec3 (by decide)
  exact third.comp (rescaled.comp (second.comp (scaled.comp first)))

@[simp] theorem length_draws (count : Nat) (stream : SplitMix64) :
    (draws count stream).length = count := by
  induction count generalizing stream with
  | zero => rfl
  | succ count inductionHypothesis => simp [draws, inductionHypothesis]

/-- The values of a stream, by their places. -/
theorem draws_eq (count : Nat) (stream : SplitMix64) :
    draws count stream = (List.range count).map fun place =>
      mix (stream.state + increment + UInt64.ofNat place * increment) := by
  induction count generalizing stream with
  | zero => rfl
  | succ count inductionHypothesis =>
      rw [draws, inductionHypothesis, List.range_succ_eq_map, List.map_cons, List.map_map]
      refine congrArg₂ List.cons ?_ (List.map_congr_left fun place _ => congrArg mix ?_)
      · simp [next]
      · have one : UInt64.ofNat 1 = 1 := rfl
        simp only [next, Nat.succ_eq_add_one, UInt64.ofNat_add, one]
        rw [add_mul, one_mul, add_comm (UInt64.ofNat place * increment), ← add_assoc]

/-- A stream repeats no value before it has drawn them all. -/
theorem draws_nodup {count : Nat} (small : count ≤ UInt64.size) (stream : SplitMix64) :
    (draws count stream).Nodup := by
  rw [draws_eq]
  refine List.Nodup.map_on ?_ List.nodup_range
  intro left listed right member same
  have inverted : increment * 0xf1de83e19937733d = 1 := by decide
  refine Mixing.steps_injective inverted ?_ ?_ (mix_injective same)
  · exact Nat.lt_of_lt_of_le (List.mem_range.1 listed) small
  · exact Nat.lt_of_lt_of_le (List.mem_range.1 member) small

end SplitMix64

/-- Seeds of the streams of a scenario. -/
structure SeedSet where
  source : UInt64
  actor : UInt64
  scheduler : UInt64
  fault : UInt64

/-- Derive the seeds of a scenario. -/
def deriveSeeds (seed : UInt64) : SeedSet :=
  let (source, stream) := SplitMix64.next ⟨seed⟩
  let (actor, stream) := stream.next
  let (scheduler, stream) := stream.next
  let (fault, _) := stream.next
  ⟨source, actor, scheduler, fault⟩

end Simulator
end Gearwit
