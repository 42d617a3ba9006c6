import Mathlib

/-!
# Length-prefixed byte fields

A field is an eight-byte little-endian length followed by the bytes it counts.
A concatenation of fields determines the list of byte strings it was built from,
as long as no string reaches the length the prefix can count.
-/

namespace Gearwit
namespace FieldEncoding

/-- The low `width` bytes of a number, least significant first. -/
def littleEndian : (width number : Nat) → List UInt8
  | 0, _ => []
  | width + 1, number =>
      UInt8.ofNat number :: littleEndian width (number / 256)

@[simp] theorem length_littleEndian (width number : Nat) :
    (littleEndian width number).length = width := by
  induction width generalizing number with
  | zero => rfl
  | succ width inductionHypothesis =>
      simp [littleEndian, inductionHypothesis]

/-- Numbers that fit the width are determined by their bytes. -/
theorem littleEndian_injective
    (width : Nat) {left right : Nat}
    (leftFits : left < 256 ^ width) (rightFits : right < 256 ^ width)
    (equal : littleEndian width left = littleEndian width right) :
    left = right := by
  induction width generalizing left right with
  | zero =>
      simp only [Nat.pow_zero] at leftFits rightFits
      omega
  | succ width inductionHypothesis =>
      simp only [littleEndian, List.cons.injEq] at equal
      obtain ⟨lowByte, highBytes⟩ := equal
      have low : left % 256 = right % 256 := by
        have values := congrArg UInt8.toNat lowByte
        simpa using values
      have high : left / 256 = right / 256 := by
        apply inductionHypothesis _ _ highBytes
        · rw [Nat.div_lt_iff_lt_mul (by omega), ← Nat.pow_succ]
          exact leftFits
        · rw [Nat.div_lt_iff_lt_mul (by omega), ← Nat.pow_succ]
          exact rightFits
      omega

/-- One field: the length in eight bytes, then the bytes. -/
def field (value : List UInt8) : List UInt8 :=
  littleEndian 8 value.length ++ value

/-- A concatenation of fields. -/
def fields (values : List (List UInt8)) : List UInt8 :=
  values.flatMap field

@[simp] theorem fields_cons (value : List UInt8) (rest : List (List UInt8)) :
    fields (value :: rest) = field value ++ fields rest :=
  rfl

/-- A field is never empty, since its prefix has eight bytes. -/
theorem fields_cons_ne_nil (value : List UInt8) (rest : List (List UInt8)) :
    fields (value :: rest) ≠ fields [] := by
  intro equal
  have lengths := congrArg List.length equal
  rw [fields_cons, field, List.length_append, List.length_append,
    length_littleEndian] at lengths
  change 8 + value.length + (fields rest).length = 0 at lengths
  omega

/-- Lengths the prefix can count. -/
def Countable (value : List UInt8) : Prop :=
  value.length < 256 ^ 8

/-- A leading field can be split off in only one way. -/
theorem field_append_injective
    {left right leftRest rightRest : List UInt8}
    (leftCountable : Countable left) (rightCountable : Countable right)
    (equal : field left ++ leftRest = field right ++ rightRest) :
    left = right ∧ leftRest = rightRest := by
  simp only [field, List.append_assoc] at equal
  have prefixes := List.append_inj equal (by simp)
  have lengths : left.length = right.length :=
    littleEndian_injective 8 leftCountable rightCountable prefixes.1
  exact List.append_inj prefixes.2 lengths

/-- Field concatenation is injective on countable byte strings. -/
theorem fields_injective
    {left right : List (List UInt8)}
    (leftCountable : ∀ value ∈ left, Countable value)
    (rightCountable : ∀ value ∈ right, Countable value)
    (equal : fields left = fields right) :
    left = right := by
  induction left generalizing right with
  | nil =>
      cases right with
      | nil => rfl
      | cons value rest =>
          exact absurd equal.symm (fields_cons_ne_nil value rest)
  | cons value rest inductionHypothesis =>
      cases right with
      | nil => exact absurd equal (fields_cons_ne_nil value rest)
      | cons other others =>
          simp only [fields_cons] at equal
          obtain ⟨headEqual, tailEqual⟩ := field_append_injective
            (leftCountable value (by simp)) (rightCountable other (by simp)) equal
          have restEqual := inductionHypothesis
            (fun entry present => leftCountable entry (by simp [present]))
            (fun entry present => rightCountable entry (by simp [present])) tailEqual
          rw [headEqual, restEqual]

end FieldEncoding
end Gearwit
