import Gearwit.Foundations.BTreeMap
import Gearwit.Foundations.FieldEncoding

/-!
# Bounded identifiers, private identifiers and instants

Every identifier family of the host is its own type.  Textual families carry the
proof that their text passed the token check, private families are thirty-two
bytes, and an instant stays in the range the calendar type can hold.
-/

namespace Gearwit

open Std

/-! ## Textual identifiers -/

/-- Families of bounded textual identifiers. -/
inductive TokenFamily
  | arm
  | seat
  | attempt
  | signal
  | claimRequest
  | plain
  | eventRef
  | provider
  | actor
  deriving DecidableEq, Repr

/-- Refusal text of a family's constructor. -/
def TokenFamily.refusal : TokenFamily → String
  | .arm | .seat | .attempt | .signal | .claimRequest =>
      "invalid bounded identifier"
  | .plain | .eventRef | .provider | .actor => "invalid bounded token"

/-- ASCII alphanumerics and `-`, `_`, `:`, `.`. -/
def safeChar (character : Char) : Bool :=
  character.isAlphanum || character == '-' || character == '_' ||
    character == ':' || character == '.'

/-- Token check: nonempty, at most `max` bytes, only safe characters. -/
def safeText (max : Nat) (text : String) : Bool :=
  decide (text ≠ "") && decide (text.utf8ByteSize ≤ max) &&
    text.toList.all safeChar

/-- A text of one family that passed the token check. -/
structure SafeToken (family : TokenFamily) (max : Nat) where
  text : String
  valid : safeText max text = true
  deriving DecidableEq

namespace SafeToken

variable {family : TokenFamily} {max : Nat}

/-- Checked constructor of every textual family. -/
def new (value : String) : Except String (SafeToken family max) :=
  if valid : safeText max value = true then .ok ⟨value, valid⟩
  else .error family.refusal

/-- A constructed token has the text it was constructed from. -/
theorem text_of_new {value : String} {token : SafeToken family max}
    (constructed : SafeToken.new value = .ok token) : token.text = value := by
  unfold new at constructed
  split at constructed
  · cases constructed
    rfl
  · cases constructed

/-- A token is known by its text. -/
theorem text_injective : Function.Injective (text : SafeToken family max → String) := by
  intro left right equal
  cases left
  cases right
  simp_all

/-- UTF-8 bytes of the text. -/
def asBytes (token : SafeToken family max) : List UInt8 :=
  token.text.toByteArray.data.toList

/-- A token is known by its bytes. -/
theorem asBytes_injective :
    Function.Injective (asBytes : SafeToken family max → List UInt8) := by
  intro left right equal
  have arrays : left.text.toByteArray = right.text.toByteArray :=
    ByteArray.ext (Array.toList_inj.1 equal)
  have texts : left.text = right.text := String.toByteArray_inj.1 arrays
  cases left
  cases right
  simp_all

/-- A token is as long as its family allows. -/
theorem length_asBytes_le (token : SafeToken family max) :
    token.asBytes.length ≤ max := by
  have checked := token.valid
  simp only [safeText, Bool.and_eq_true, decide_eq_true_eq] at checked
  exact checked.1.2

instance : Ord (SafeToken family max) := ⟨compareOn SafeToken.text⟩

instance : TransOrd (SafeToken family max) :=
  inferInstanceAs (TransCmp (compareOn (SafeToken.text : SafeToken family max → String)))

instance : LawfulEqOrd (SafeToken family max) where
  eq_of_compare {left right} equal := by
    have texts : left.text = right.text :=
      LawfulEqOrd.eq_of_compare equal
    cases left
    cases right
    simp_all

end SafeToken

abbrev ArmId := SafeToken .arm 256
abbrev SeatId := SafeToken .seat 256
abbrev AttemptId := SafeToken .attempt 256
abbrev SignalId := SafeToken .signal 256
abbrev ClaimRequestId := SafeToken .claimRequest 256
abbrev BoundedToken (max : Nat) := SafeToken .plain max
abbrev EventRef := SafeToken .eventRef 256
abbrev ProviderName := SafeToken .provider 64
abbrev ActorName := SafeToken .actor 256

/-! Orders of the identifiers that index tables. -/

instance : TransOrd ArmId := SafeToken.instTransOrd
instance : TransOrd AttemptId := SafeToken.instTransOrd
instance : TransOrd SignalId := SafeToken.instTransOrd
instance : TransOrd ClaimRequestId := SafeToken.instTransOrd

/-- Producer labels may hold spaces: one to sixty-four printable ASCII bytes. -/
structure ProducerLabel where
  text : String
  valid : (decide (text ≠ "") && decide (text.utf8ByteSize ≤ 64) &&
    text.toList.all fun character =>
      decide (0x20 ≤ character.toNat ∧ character.toNat ≤ 0x7E)) = true
  deriving DecidableEq

/-- Checked constructor of a producer label. -/
def ProducerLabel.new (value : String) : Except String ProducerLabel :=
  if valid : (decide (value ≠ "") && decide (value.utf8ByteSize ≤ 64) &&
      value.toList.all fun character =>
        decide (0x20 ≤ character.toNat ∧ character.toNat ≤ 0x7E)) = true then
    .ok ⟨value, valid⟩
  else .error "invalid producer label"

/-- Untrusted body text under a byte cap. -/
structure BoundedBody (max : Nat) where
  text : String
  bounded : text.utf8ByteSize ≤ max
  deriving DecidableEq

/-- Checked constructor of a body. -/
def BoundedBody.new {max : Nat} (value : String) : Except String (BoundedBody max) :=
  if bounded : value.utf8ByteSize ≤ max then .ok ⟨value, bounded⟩
  else .error "body exceeds bound"

/-- A list whose length stays between two bounds. -/
structure BoundedVec (α : Type) (min max : Nat) where
  asSlice : List α
  bounds : min ≤ asSlice.length ∧ asSlice.length ≤ max
  deriving DecidableEq

/-- Checked constructor of a bounded list. -/
def BoundedVec.tryFrom {α : Type} {min max : Nat} (values : List α) :
    Except String (BoundedVec α min max) :=
  if bounds : min ≤ values.length ∧ values.length ≤ max then .ok ⟨values, bounds⟩
  else .error "vector length outside bounds"

/-- A counter in a closed range. -/
structure BoundedUsize (min max : Nat) where
  get : Nat
  bounds : min ≤ get ∧ get ≤ max
  deriving DecidableEq

/-! ## Private identifiers -/

/-- Families of private thirty-two byte identifiers. -/
inductive PrivateFamily
  | controllerBirth
  | nativeRef
  | requestNonce
  | activeFingerprint
  | activeEvidence
  | claimPayload
  | retrieval
  | claimDigest
  | bodyDigest
  | verifier
  | raw
  deriving DecidableEq, Repr

/-- Thirty-two bytes of one family, read as one big-endian number, so that the
order of the numbers is the order of the arrays. -/
structure PrivateId (family : PrivateFamily) where
  code : BitVec 256
  deriving DecidableEq

namespace PrivateId

variable {family : PrivateFamily}

/-- The thirty-two bytes, most significant first. -/
def bytes (id : PrivateId family) : List UInt8 :=
  (FieldEncoding.littleEndian 32 id.code.toNat).reverse

/-- A private identifier is known by its bytes. -/
theorem bytes_injective :
    Function.Injective (bytes : PrivateId family → List UInt8) := by
  intro left right equal
  have codes : left.code.toNat = right.code.toNat :=
    FieldEncoding.littleEndian_injective 32 left.code.isLt right.code.isLt
      (List.reverse_injective equal)
  cases left
  cases right
  exact congrArg PrivateId.mk (BitVec.eq_of_toNat_eq codes)

@[simp] theorem length_bytes (id : PrivateId family) : id.bytes.length = 32 := by
  simp [bytes]

/-- The identifier whose bytes all equal one byte. -/
def fixture (byte : UInt8) : PrivateId family :=
  ⟨BitVec.ofNat 256 (byte.toNat * ((256 ^ 32 - 1) / 255))⟩

instance : Ord (PrivateId family) := ⟨compareOn PrivateId.code⟩

instance : TransOrd (PrivateId family) :=
  inferInstanceAs (TransCmp (compareOn (PrivateId.code : PrivateId family → BitVec 256)))

instance : LawfulEqOrd (PrivateId family) where
  eq_of_compare {left right} equal := by
    have codes : left.code = right.code :=
      LawfulEqOrd.eq_of_compare equal
    cases left
    cases right
    simp_all

end PrivateId

abbrev ControllerBirthId := PrivateId .controllerBirth
abbrev PrivateNativeRef := PrivateId .nativeRef
abbrev RequestNonce := PrivateId .requestNonce
abbrev ActiveObservationFingerprint := PrivateId .activeFingerprint
abbrev ActiveObservationEvidenceRef := PrivateId .activeEvidence
abbrev ClaimPayloadRef := PrivateId .claimPayload
abbrev RetrievalId := PrivateId .retrieval
abbrev ClaimDigest := PrivateId .claimDigest
abbrev CanonicalBodyDigest := PrivateId .bodyDigest
abbrev VerifierRef := PrivateId .verifier

/-- A plain thirty-two byte array. -/
abbrev Bytes32 := PrivateId .raw

/-- The same bytes under another family. -/
def PrivateId.cast {source : PrivateFamily} (target : PrivateFamily)
    (id : PrivateId source) : PrivateId target :=
  ⟨id.code⟩

/-- Casting between families tells identifiers apart. -/
theorem PrivateId.cast_injective {source target : PrivateFamily} :
    Function.Injective (PrivateId.cast target : PrivateId source → PrivateId target) := by
  intro left right equal
  cases left
  cases right
  simpa [PrivateId.cast] using equal

/-! ## Instants -/

/-- Nanoseconds in one second. -/
def nanosPerSecond : Int := 1000000000

/-- Seconds of the first representable UTC second. -/
def minUnixSeconds : Int := -377705116800

/-- Seconds of the last representable UTC second. -/
def maxUnixSeconds : Int := 253402300799

/-- Largest distance of a local time from UTC, in seconds. -/
def maxOffsetSeconds : Int := 93599

/-- An instant, in nanoseconds from the Unix epoch.  The calendar bounds the
local date, so an offset can carry the instant slightly past the UTC range.
Equality and order are those of the instants. -/
structure OffsetDateTime where
  unixTimestampNanos : Int
  inRange :
    (minUnixSeconds - maxOffsetSeconds) * nanosPerSecond ≤ unixTimestampNanos ∧
      unixTimestampNanos <
        (maxUnixSeconds + maxOffsetSeconds + 1) * nanosPerSecond
  deriving DecidableEq

namespace OffsetDateTime

instance : LE OffsetDateTime :=
  ⟨fun left right => left.unixTimestampNanos ≤ right.unixTimestampNanos⟩

instance : LT OffsetDateTime :=
  ⟨fun left right => left.unixTimestampNanos < right.unixTimestampNanos⟩

instance (left right : OffsetDateTime) : Decidable (left ≤ right) :=
  inferInstanceAs (Decidable (left.unixTimestampNanos ≤ right.unixTimestampNanos))

instance (left right : OffsetDateTime) : Decidable (left < right) :=
  inferInstanceAs (Decidable (left.unixTimestampNanos < right.unixTimestampNanos))

/-- The Unix epoch. -/
def unixEpoch : OffsetDateTime := ⟨0, by decide⟩

/-- The last representable instant. -/
def last : OffsetDateTime :=
  ⟨(maxUnixSeconds + maxOffsetSeconds + 1) * nanosPerSecond - 1, by decide⟩

/-- The instant a nonnegative number of nanoseconds later.  The calendar type
panics past its last instant; clamping there gives the same value to every
caller that takes the minimum with another instant. -/
def addNanos (instant : OffsetDateTime) (nanos : Nat) : OffsetDateTime :=
  if fits : instant.unixTimestampNanos + nanos < last.unixTimestampNanos then
    ⟨instant.unixTimestampNanos + nanos, by
      have lower := instant.inRange.1
      have upper := last.inRange.2
      omega⟩
  else last

/-- The earlier of two instants. -/
def min (left right : OffsetDateTime) : OffsetDateTime :=
  if left ≤ right then left else right

/-- Nanoseconds from the second instant to the first. -/
def since (left right : OffsetDateTime) : Int :=
  left.unixTimestampNanos - right.unixTimestampNanos

/-- The nanosecond count as sixteen little-endian two's-complement bytes. -/
def nanosBytes (instant : OffsetDateTime) : List UInt8 :=
  FieldEncoding.littleEndian 16 (instant.unixTimestampNanos % (2 ^ 128)).toNat

end OffsetDateTime

/-- Eight little-endian bytes of a 64-bit number. -/
def UInt64.leBytes (number : UInt64) : List UInt8 :=
  FieldEncoding.littleEndian 8 number.toNat

/-- A number is known by its bytes. -/
theorem UInt64.leBytes_injective : Function.Injective UInt64.leBytes := by
  intro left right equal
  exact UInt64.toNat_inj.1
    (FieldEncoding.littleEndian_injective 8 left.toNat_lt right.toNat_lt equal)

@[simp] theorem UInt64.length_leBytes (number : UInt64) :
    (UInt64.leBytes number).length = 8 := by
  simp [UInt64.leBytes]

end Gearwit
