import Mathlib

/-!
# Mixing of 64-bit numbers

The steps that mixing functions are composed of lose nothing: a number folded with its own
upper bits, and a number multiplied by one that has an inverse, can be told from every
other.
-/

namespace Gearwit
namespace Mixing

/-- Bits of a word folded with its own upper bits determine the word. -/
private theorem fold_injective_bits {width shift : Nat} (positive : 0 < shift)
    {left right : BitVec width}
    (same : left ^^^ left >>> shift = right ^^^ right >>> shift) (distance : Nat) :
    ∀ index, width ≤ index + distance → left.getLsbD index = right.getLsbD index := by
  induction distance with
  | zero =>
      intro index beyond
      rw [BitVec.getLsbD_of_ge left index beyond, BitVec.getLsbD_of_ge right index beyond]
  | succ distance inductionHypothesis =>
      intro index within
      have bit := congrArg (fun word => word.getLsbD index) same
      simp only [BitVec.getLsbD_xor, BitVec.getLsbD_ushiftRight] at bit
      rw [inductionHypothesis (shift + index) (by omega)] at bit
      simpa using bit

/-- Folding with the upper bits loses nothing. -/
theorem fold_injective {shift : UInt64} (positive : 0 < shift.toNat % 64) :
    Function.Injective fun value : UInt64 => value ^^^ (value >>> shift) := by
  intro left right same
  have bits : left.toBitVec ^^^ left.toBitVec >>> (shift.toNat % 64) =
      right.toBitVec ^^^ right.toBitVec >>> (shift.toNat % 64) := by
    have words := congrArg UInt64.toBitVec same
    simpa [BitVec.ushiftRight_eq'] using words
  refine UInt64.toBitVec_inj.1 (BitVec.eq_of_getLsbD_eq fun index _ => ?_)
  exact fold_injective_bits positive bits 64 index (by omega)

/-- Multiplying by a number that has an inverse loses nothing. -/
theorem scale_injective {factor inverse : UInt64} (inverted : factor * inverse = 1) :
    Function.Injective fun value : UInt64 => value * factor := by
  intro left right same
  have scaled := congrArg (· * inverse) same
  simpa only [mul_assoc, inverted, mul_one] using scaled

/-- Steps of an invertible size come back only after all numbers. -/
theorem steps_injective {size inverse start : UInt64} (inverted : size * inverse = 1) :
    Set.InjOn (fun count : Nat => start + UInt64.ofNat count * size)
      {count | count < UInt64.size} := by
  intro left small right large same
  have counts : UInt64.ofNat left = UInt64.ofNat right :=
    scale_injective inverted (add_left_cancel same)
  have values := congrArg UInt64.toNat counts
  rwa [UInt64.toNat_ofNat_of_lt' small, UInt64.toNat_ofNat_of_lt' large] at values

end Mixing
end Gearwit
