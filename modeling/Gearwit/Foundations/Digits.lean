import Gearwit.Foundations.FieldEncoding
import Gearwit.Foundations.JsonText

/-!
# Numbers read from digits

A number written in decimal, a byte written as two hexadecimal digits and a number written
as little-endian bytes read back as themselves.
-/

namespace Gearwit
namespace Digits

/-! ## Reading -/

/-- Value of a digit or of a letter that stands for one. -/
def digitValue (character : Char) : Option Nat :=
  if 48 ≤ character.toNat ∧ character.toNat ≤ 57 then some (character.toNat - 48)
  else if 97 ≤ character.toNat ∧ character.toNat ≤ 122 then some (character.toNat - 87)
  else if 65 ≤ character.toNat ∧ character.toNat ≤ 90 then some (character.toNat - 55)
  else none

/-- Value of a digit of a radix. -/
def toDigit (radix : Nat) (character : Char) : Option Nat :=
  (digitValue character).filter fun value => decide (value < radix)

/-- Number that digits continue. -/
def readDigits (radix : Nat) : List Char → Nat → Option Nat
  | [], number => some number
  | character :: rest, number =>
      (toDigit radix character).bind fun digit => readDigits radix rest (radix * number + digit)

/-- Unsigned number below a limit, read from an optional plus sign and at least one
digit. -/
def fromStrRadix (radix limit : Nat) (text : List Char) : Option Nat :=
  let digits := if text.head? = some '+' then text.tail else text
  if digits = [] then none
  else (readDigits radix digits 0).filter fun number => decide (number < limit)

/-- Decimal text of an integer, as a JSON number has it. -/
def intText (number : Int) : String :=
  match number with
  | .ofNat number => String.ofList (JsonText.nat number)
  | .negSucc number => String.ofList ('-' :: JsonText.nat (number + 1))

/-- Integer a JSON number has as its text; a fraction, an exponent or a negative zero is no
integer. -/
def readInt (text : String) : Option Int :=
  if text.toList.head? = some '-' then
    (readDigits 10 text.toList.tail 0).bind fun number =>
      if number = 0 then none else some (-number)
  else (readDigits 10 text.toList 0).map Int.ofNat

/-! ## Decimal numbers -/

private theorem readDigits_decimal {characters : List Char} (number : Nat)
    (digits : ∀ character ∈ characters, character.isDigit = true) :
    readDigits 10 characters number = some (Nat.ofDigitChars 10 characters number) := by
  induction characters generalizing number with
  | nil => simp [readDigits]
  | cons character rest inductionHypothesis =>
      have digit := digits character (List.mem_cons_self ..)
      simp only [Char.isDigit, Bool.and_eq_true, decide_eq_true_eq] at digit
      have low : 48 ≤ character.toNat := UInt32.le_iff_toNat_le.1 digit.1
      have high : character.toNat ≤ 57 := UInt32.le_iff_toNat_le.1 digit.2
      have value : toDigit 10 character = some (character.toNat - 48) := by
        have small : character.toNat - 48 < 10 := by omega
        simp [toDigit, digitValue, low, high, small]
      rw [readDigits, value, Option.bind_some,
        inductionHypothesis _ fun other member => digits other (List.mem_cons_of_mem _ member),
        Nat.ofDigitChars_cons]
      rfl

@[simp] theorem readDigits_nat (number : Nat) :
    readDigits 10 (JsonText.nat number) 0 = some number := by
  rw [JsonText.nat, readDigits_decimal 0 fun character member =>
    Nat.isDigit_of_mem_toDigits (by decide) (by decide) member, Nat.ofDigitChars_ten_toDigits]

private theorem nat_head (number : Nat) :
    ∃ character rest, JsonText.nat number = character :: rest ∧ character.isDigit = true := by
  have filled : JsonText.nat number ≠ [] := by
    have long : 0 < (Nat.toDigits 10 number).length := Nat.length_toDigits_pos
    exact List.ne_nil_of_length_pos long
  obtain ⟨character, rest, same⟩ := List.exists_cons_of_ne_nil filled
  refine ⟨character, rest, same, ?_⟩
  have member : character ∈ Nat.toDigits 10 number := by
    rw [← JsonText.nat, same]
    exact List.mem_cons_self ..
  exact Nat.isDigit_of_mem_toDigits (by decide) (by decide) member

/-- A number below the limit reads back from its decimal text. -/
theorem fromStrRadix_nat {number limit : Nat} (bounded : number < limit) :
    fromStrRadix 10 limit (JsonText.nat number) = some number := by
  obtain ⟨character, rest, same, digit⟩ := nat_head number
  have unsigned : (JsonText.nat number).head? ≠ some '+' := by
    rw [same]
    rintro ⟨⟩
    cases digit
  have filled : JsonText.nat number ≠ [] := by
    rw [same]
    exact List.cons_ne_nil _ _
  unfold fromStrRadix
  simp only [if_neg unsigned]
  rw [if_neg filled, readDigits_nat]
  simp [bounded]

/-- An integer reads back from its text. -/
@[simp] theorem readInt_intText (number : Int) : readInt (intText number) = some number := by
  cases number with
  | ofNat number =>
      obtain ⟨character, rest, same, digit⟩ := nat_head number
      have unsigned : (JsonText.nat number).head? ≠ some '-' := by
        rw [same]
        rintro ⟨⟩
        cases digit
      unfold readInt intText
      simp only [String.toList_ofList]
      rw [if_neg unsigned, readDigits_nat]
      rfl
  | negSucc number =>
      unfold readInt intText
      simp only [String.toList_ofList, List.head?_cons, List.tail_cons, ↓reduceIte]
      rw [readDigits_nat, Option.bind_some, if_neg (Nat.succ_ne_zero _)]
      rfl

/-! ## Bytes -/

/-- Two lowercase hexadecimal digits of each byte. -/
def hexText (bytes : List UInt8) : List Char :=
  bytes.flatMap fun byte =>
    [JsonText.hexDigit (byte.toNat / 16), JsonText.hexDigit (byte.toNat % 16)]

/-- Bytes that pairs of hexadecimal digits name; the last pair may lack a digit. -/
def readHex : List Char → Option (List UInt8)
  | [] => some []
  | [single] => (fromStrRadix 16 256 [single]).map fun byte => [UInt8.ofNat byte]
  | high :: low :: rest =>
      (fromStrRadix 16 256 [high, low]).bind fun byte =>
        (readHex rest).map fun bytes => UInt8.ofNat byte :: bytes

private theorem fromStrRadix_hex : ∀ byte : Fin 256,
    fromStrRadix 16 256 [JsonText.hexDigit (byte.val / 16), JsonText.hexDigit (byte.val % 16)] =
      some byte.val := by
  decide +kernel

@[simp] theorem readHex_hexText (bytes : List UInt8) : readHex (hexText bytes) = some bytes := by
  induction bytes with
  | nil => rfl
  | cons byte rest inductionHypothesis =>
      have pair := fromStrRadix_hex ⟨byte.toNat, byte.toNat_lt⟩
      unfold hexText at inductionHypothesis ⊢
      rw [List.flatMap_cons, List.cons_append, List.cons_append, List.nil_append, readHex, pair,
        inductionHypothesis]
      simp

/-- Number whose low bytes are listed, least significant first. -/
def ofLittleEndian : List UInt8 → Nat
  | [] => 0
  | byte :: rest => byte.toNat + 256 * ofLittleEndian rest

/-- A number that fits is read back from its bytes. -/
theorem ofLittleEndian_littleEndian {width number : Nat} (fits : number < 256 ^ width) :
    ofLittleEndian (FieldEncoding.littleEndian width number) = number := by
  induction width generalizing number with
  | zero =>
      rw [Nat.pow_zero] at fits
      rw [FieldEncoding.littleEndian, ofLittleEndian]
      omega
  | succ width inductionHypothesis =>
      have high : number / 256 < 256 ^ width := by
        rw [Nat.div_lt_iff_lt_mul (by omega), ← Nat.pow_succ]
        exact fits
      have low : (UInt8.ofNat number).toNat = number % 256 := by simp
      rw [FieldEncoding.littleEndian, ofLittleEndian, inductionHypothesis high, low]
      omega

end Digits
end Gearwit
