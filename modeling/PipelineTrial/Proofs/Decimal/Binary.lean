import Mathlib.Algebra.Order.Field.Power
import Mathlib.Data.Rat.Cast.Order
import Mathlib.Tactic.Linarith
import Mathlib.Tactic.NormNum
import Mathlib.Tactic.Positivity
import Mathlib.Tactic.Ring
import PipelineTrial.Decimal.Layout

/-! The exact values of floating-point numbers, and how far apart they lie. -/

namespace PipelineTrial

open Float.Model (UnpackedFloat)
open Float.Model.UnpackedFloat (Sign)

/-- The exact value of a number; infinities and what is no number have none. -/
def exactValue? (number : Float) : Option ℚ :=
  -- A finite number is a significand times a power of two.
  match number.toModel.unpack with
  | .zero _ => some 0
  | .finite sign significand power _ => some (sign.apply significand * (2 : ℚ) ^ power)
  | .infinity _ | .notANumber => none

/-- A significand and a power of two are those of a number of the format. -/
structure InFormat (significand : Nat) (power : Int) : Prop where
  short : significand < 2 ^ 53
  least : -1074 ≤ power
  /-- Only the smallest power may go with a significand that begins with zeros. -/
  full : 2 ^ 52 ≤ significand ∨ power = -1074

section Fields

/-- The low bits of a number, below the field of its exponent. -/
def fractionField (number : Float) : Nat := number.toBits.toNat % 2 ^ 52

/-- The field of a number's exponent. -/
def exponentField (number : Float) : Nat := number.toBits.toNat / 2 ^ 52 % 2048

/-- The significand of a number, whose first bit is not stored unless the field of the exponent is zero. -/
def significandOf (number : Float) : Nat :=
  -- Small numbers have no hidden bit.
  if exponentField number = 0 then fractionField number else 2 ^ 52 + fractionField number

/-- The power of two that belongs to the significand of a number. -/
def powerOf (number : Float) : Int :=
  -- Small numbers have the exponent of the smallest ones with a hidden bit.
  if exponentField number = 0 then -1074 else exponentField number - 1075

/-- The sign of a number. -/
def signOf (number : Float) : Sign :=
  .ofBitVec (@UnpackedFloat.unpackSign .binary64 number.toModel.toBits.toBitVec)

variable {number : Float}

/-- The bits of a number are those of its model. -/
private theorem toNat_toBits (number : Float) : number.toBits.toNat = number.toModel.toBits.toBitVec.toNat := rfl

/-- The low bits are what is unpacked as the mantissa. -/
private theorem toNat_unpackMantissa (number : Float) :
    (@UnpackedFloat.unpackMantissa .binary64 number.toModel.toBits.toBitVec).toNat = fractionField number := by
  -- A share of the bits is a remainder of their number.
  simp only [UnpackedFloat.unpackMantissa, fractionField, toNat_toBits, BitVec.toNat_cast, BitVec.extractLsb_toNat]
  simp

/-- The middle bits are what is unpacked as the exponent. -/
private theorem toNat_unpackExponent (number : Float) :
    (@UnpackedFloat.unpackExponent .binary64 number.toModel.toBits.toBitVec).toNat = exponentField number := by
  -- A share of the bits is a quotient of their number, up to a remainder.
  simp only [UnpackedFloat.unpackExponent, exponentField, toNat_toBits, BitVec.toNat_cast, BitVec.extractLsb_toNat]
  simp [Nat.shiftRight_eq_div_pow]

/-- The first bit is set exactly in the negative numbers. -/
theorem signOf_eq (number : Float) :
    signOf number = if number.toBits ≥ 0x8000000000000000 then .negative else .positive := by
  -- The first bit says whether the bits as a number reach half of all that there are.
  have bits := number.toBits.toNat_lt
  have bit : (@UnpackedFloat.unpackSign .binary64 number.toModel.toBits.toBitVec).toNat =
      number.toBits.toNat / 2 ^ 63 := by
    change (BitVec.cast _ (BitVec.extractLsb 63 63 number.toModel.toBits.toBitVec)).toNat = _
    rw [toNat_toBits] at bits ⊢
    simp only [BitVec.toNat_cast, BitVec.extractLsb_toNat, Nat.shiftRight_eq_div_pow]
    omega
  have top : number.toBits ≥ 0x8000000000000000 ↔ 2 ^ 63 ≤ number.toBits.toNat := UInt64.le_iff_toNat_le
  unfold signOf Sign.ofBitVec
  split
  · next clear =>
    have zero := congrArg BitVec.toNat clear
    rw [bit] at zero
    rw [if_neg]
    rw [top]
    simp at zero
    omega
  · next set =>
    rw [if_pos]
    rw [top]
    by_contra small
    refine set (BitVec.eq_of_toNat_eq ?_)
    rw [bit]
    simp
    omega

/-- The exponent that is unpacked is given by its field. -/
private theorem unpackExponent_eq_iff (value : BitVec 11) :
    @UnpackedFloat.unpackExponent .binary64 number.toModel.toBits.toBitVec = value ↔
      exponentField number = value.toNat := by
  rw [← toNat_unpackExponent]
  exact ⟨congrArg BitVec.toNat, BitVec.eq_of_toNat_eq⟩

/-- The mantissa that is unpacked is given by the low bits. -/
private theorem unpackMantissa_eq_iff (value : BitVec 52) :
    @UnpackedFloat.unpackMantissa .binary64 number.toModel.toBits.toBitVec = value ↔
      fractionField number = value.toNat := by
  rw [← toNat_unpackMantissa]
  exact ⟨congrArg BitVec.toNat, BitVec.eq_of_toNat_eq⟩

/-- Equal parts make equal finite numbers. -/
private theorem finite_congr {sign : Sign} {significand other : Nat} {power otherPower : Int}
    (same : significand = other) (samePower : power = otherPower) (some : 0 < significand) :
    UnpackedFloat.finite sign significand power some = .finite sign other otherPower (same ▸ some) := by
  subst same samePower
  rfl

/-- A number without a finite exponent is unpacked as an infinity or as no number. -/
private theorem unpack_special (special : exponentField number = 2047) :
    number.toModel.unpack = .infinity (signOf number) ∨ number.toModel.unpack = .notANumber := by
  have ones := (@unpackExponent_eq_iff number (-1#11)).2 special
  unfold Float.Model.unpack UnpackedFloat.unpack
  dsimp only
  rw [if_pos ones]
  split
  · exact .inl rfl
  · exact .inr rfl

/-- A number with a zero exponent is unpacked as its fraction, or as zero. -/
private theorem unpack_small (small : exponentField number = 0) :
    number.toModel.unpack =
      if some : 0 < fractionField number then .finite (signOf number) (fractionField number) (-1074) some
      else .zero (signOf number) := by
  -- The bits of the exponent are all zero, so the fraction alone decides.
  have notOnes := mt (@unpackExponent_eq_iff number (-1#11)).1 (by rw [small]; decide)
  have zeros := (@unpackExponent_eq_iff number 0#11).2 small
  have mantissa := @unpackMantissa_eq_iff number 0#52
  unfold Float.Model.unpack UnpackedFloat.unpack
  dsimp only
  rw [if_neg notOnes, if_pos zeros]
  by_cases none : fractionField number = 0
  · rw [dif_pos (mantissa.2 none), dif_neg (Nat.not_lt.2 (Nat.le_of_eq none))]
    rfl
  · rw [dif_neg (mt mantissa.1 none), dif_pos (Nat.pos_of_ne_zero none)]
    refine finite_congr (toNat_unpackMantissa number) ?_ _
    rw [toNat_unpackExponent, small]
    rfl

/-- A number with any other exponent is unpacked as its fraction behind the hidden bit. -/
private theorem unpack_normal (ordinary : exponentField number ≠ 2047) (normal : exponentField number ≠ 0) :
    number.toModel.unpack = .finite (signOf number) (2 ^ 52 + fractionField number)
      (exponentField number - 1075) (by omega) := by
  -- The bits of the exponent are neither all zero nor all one, so a bit is put before the fraction.
  have notOnes := mt (@unpackExponent_eq_iff number (-1#11)).1 ordinary
  have notZeros := mt (@unpackExponent_eq_iff number 0#11).1 normal
  have hidden : (1#1 ++ @UnpackedFloat.unpackMantissa .binary64 number.toModel.toBits.toBitVec).toNat =
      2 ^ 52 + fractionField number := by
    rw [BitVec.toNat_append, ← Nat.shiftLeft_add_eq_or_of_lt (BitVec.isLt _), toNat_unpackMantissa]
    simp [Nat.shiftLeft_eq]
  unfold Float.Model.unpack UnpackedFloat.unpack
  dsimp only
  rw [if_neg notOnes, if_neg notZeros]
  refine finite_congr hidden ?_ _
  rw [toNat_unpackExponent]
  rfl

/-- A number with a finite exponent is its significand times its power of two, with its sign. -/
theorem exactValue?_ordinary (ordinary : exponentField number ≠ 2047) :
    exactValue? number = some ((signOf number).apply (significandOf number) * (2 : ℚ) ^ powerOf number) := by
  -- What is unpacked has these three parts, or is zero.
  unfold exactValue? significandOf powerOf
  by_cases small : exponentField number = 0
  · rw [unpack_small small, if_pos small, if_pos small]
    by_cases some : 0 < fractionField number
    · rw [dif_pos some]
    · have none : fractionField number = 0 := by omega
      rw [dif_neg some, none]
      cases signOf number <;> simp [Sign.apply]
  · rw [unpack_normal ordinary small, if_neg small, if_neg small]

/-- A number without a finite exponent has no value. -/
theorem exactValue?_special (special : exponentField number = 2047) : exactValue? number = none := by
  obtain infinite | noNumber := unpack_special special
  · rw [exactValue?, infinite]
  · rw [exactValue?, noNumber]

/-- The finite numbers are those with a finite exponent. -/
theorem isFinite_iff : number.isFinite = true ↔ exponentField number ≠ 2047 := by
  -- What is unpacked tells, and only an exponent of ones is unpacked as no finite number.
  rw [Float.isFinite, Float.Model.isFinite]
  by_cases special : exponentField number = 2047
  · obtain infinite | noNumber := unpack_special special
    · rw [infinite]
      exact iff_of_false Bool.false_ne_true (not_not_intro special)
    · rw [noNumber]
      exact iff_of_false Bool.false_ne_true (not_not_intro special)
  · by_cases small : exponentField number = 0
    · rw [unpack_small small]
      by_cases some : 0 < fractionField number
      · rw [dif_pos some]
        exact iff_of_true rfl special
      · rw [dif_neg some]
        exact iff_of_true rfl special
    · rw [unpack_normal special small]
      exact iff_of_true rfl special

/-- A finite number with a significand is not zero. -/
private theorem compare_finite_zero (sign : Sign) (significand : Nat) (power : Int) (some : 0 < significand) :
    ((UnpackedFloat.finite sign significand power some).compare (.zero .positive) == Option.some Ordering.eq) =
      false := by
  cases sign <;> rfl

/-- The numbers equal to zero are those with a zero significand. -/
theorem beq_zero_iff (ordinary : exponentField number ≠ 2047) :
    (number == 0.0) = true ↔ significandOf number = 0 := by
  -- Both numbers are compared as they are unpacked, and the other one is a zero.
  have zero : (0.0 : Float).toModel.unpack = .zero .positive := by rfl
  have compared : (number == 0.0) = (number.toModel.unpack.compare (.zero .positive) == some Ordering.eq) := by
    rw [← zero]
    rfl
  rw [compared, significandOf]
  by_cases small : exponentField number = 0
  · -- Without a hidden bit the fraction is the significand.
    rw [unpack_small small, if_pos small]
    by_cases some : 0 < fractionField number
    · rw [dif_pos some, compare_finite_zero]
      exact iff_of_false Bool.false_ne_true (Nat.ne_of_gt some)
    · rw [dif_neg some]
      exact iff_of_true rfl (Nat.eq_zero_of_not_pos some)
  · -- The hidden bit keeps the significand from zero.
    rw [unpack_normal ordinary small, if_neg small, compare_finite_zero]
    exact iff_of_false Bool.false_ne_true (by omega)

/-- The parts of a number are those of its format. -/
theorem inFormat_of (number : Float) : InFormat (significandOf number) (powerOf number) := by
  have fraction : fractionField number < 2 ^ 52 := Nat.mod_lt _ (by decide)
  constructor <;> simp only [significandOf, powerOf] <;> split <;> omega

end Fields

section Spacing

/-- The significand is the smallest one of its power, so that the number below is half as far away as the one above. -/
def StartsBinade (significand : Nat) (power : Int) : Prop := significand = 2 ^ 52 ∧ power ≠ -1074

instance (significand : Nat) (power : Int) : Decidable (StartsBinade significand power) :=
  inferInstanceAs (Decidable (_ ∧ _))

/-- The distance from a number down to the next one of the format. -/
def gapBelow (significand : Nat) (power : Int) : ℚ :=
  if StartsBinade significand power then (2 : ℚ) ^ power / 2 else (2 : ℚ) ^ power

variable {significand other : Nat} {power otherPower : Int}

/-- Powers of two are positive. -/
private theorem two_zpow_pos (power : Int) : (0 : ℚ) < (2 : ℚ) ^ power := zpow_pos (by norm_num) _

/-- The gap below a number is positive, and at most the one above. -/
theorem gapBelow_bounds (significand : Nat) (power : Int) :
    0 < gapBelow significand power ∧ gapBelow significand power ≤ 2 ^ power := by
  have unit := two_zpow_pos power
  unfold gapBelow
  split <;> constructor <;> linarith

/-- A number with a greater power is a whole multiple of a smaller one. -/
private theorem eq_multiple (upward : power ≤ otherPower) :
    (other : ℚ) * 2 ^ otherPower = ((other * 2 ^ (otherPower - power).toNat : Nat) : ℚ) * 2 ^ power := by
  have split : (2 : ℚ) ^ otherPower = 2 ^ (otherPower - power).toNat * 2 ^ power := by
    rw [← zpow_natCast, ← zpow_add₀ (by norm_num)]
    congr 1
    omega
  rw [split]
  push_cast
  ring

/-- A number with a smaller power is below the least one that has a full significand of the greater power. -/
private theorem lt_full (short : other < 2 ^ 53) (downward : otherPower < power) :
    (other : ℚ) * 2 ^ otherPower ≤ (2 ^ 52 : ℚ) * 2 ^ power - (2 : ℚ) ^ power / 2 := by
  -- The significand is at most one less than a full one of twice the unit.
  have count : (other : ℚ) ≤ 2 ^ 53 - 1 := by
    have whole : other + 1 ≤ 2 ^ 53 := short
    have cast : (other : ℚ) + 1 ≤ 2 ^ 53 := by exact_mod_cast whole
    linarith
  have unit : (2 : ℚ) ^ otherPower ≤ (2 : ℚ) ^ power / 2 := by
    rw [div_eq_mul_inv, ← zpow_sub_one₀ (by norm_num : (2 : ℚ) ≠ 0)]
    exact zpow_le_zpow_right₀ (by norm_num) (by omega)
  have product := mul_le_mul count unit (two_zpow_pos _).le (by norm_num)
  linarith [product, show ((2 : ℚ) ^ 53 - 1) * (2 ^ power / 2) = 2 ^ 52 * 2 ^ power - 2 ^ power / 2 by ring]

/-- The next greater number of the format is a unit away. -/
private theorem add_unit_le (shape : InFormat significand power) (otherShape : InFormat other otherPower)
    (above : (significand : ℚ) * 2 ^ power < other * 2 ^ otherPower) :
    (significand : ℚ) * 2 ^ power + 2 ^ power ≤ other * 2 ^ otherPower := by
  have unit := two_zpow_pos power
  rcases le_or_gt power otherPower with upward | downward
  · -- Both are whole multiples of the unit.
    rw [eq_multiple upward] at above ⊢
    have more : significand < other * 2 ^ (otherPower - power).toNat := by
      exact_mod_cast lt_of_mul_lt_mul_right above unit.le
    have next : ((significand + 1 : Nat) : ℚ) ≤ ((other * 2 ^ (otherPower - power).toNat : Nat) : ℚ) := by
      exact_mod_cast more
    have product := mul_le_mul_of_nonneg_right next unit.le
    push_cast at product ⊢
    linarith
  · -- A number with a smaller power is not above.
    have full : 2 ^ 52 ≤ significand := shape.full.resolve_right fun least => by
      have := otherShape.least
      omega
    have cast : (2 ^ 52 : ℚ) ≤ significand := by exact_mod_cast full
    have product := mul_le_mul_of_nonneg_right cast unit.le
    have bound := lt_full otherShape.short downward
    linarith

/-- The next smaller number of the format is a gap away. -/
private theorem le_sub_gap (shape : InFormat significand power) (otherShape : InFormat other otherPower)
    (below : (other : ℚ) * 2 ^ otherPower < significand * 2 ^ power) :
    (other : ℚ) * 2 ^ otherPower ≤ significand * 2 ^ power - gapBelow significand power := by
  have unit := two_zpow_pos power
  obtain ⟨-, most⟩ := gapBelow_bounds significand power
  rcases le_or_gt power otherPower with upward | downward
  · -- Both are whole multiples of the unit.
    rw [eq_multiple upward] at below ⊢
    have less : other * 2 ^ (otherPower - power).toNat < significand := by
      exact_mod_cast lt_of_mul_lt_mul_right below unit.le
    have next : ((other * 2 ^ (otherPower - power).toNat + 1 : Nat) : ℚ) ≤ significand := by
      exact_mod_cast less
    have product := mul_le_mul_of_nonneg_right next unit.le
    push_cast at product ⊢
    linarith
  · -- A number with a smaller power is below the least full significand.
    have bound := lt_full otherShape.short downward
    have full : 2 ^ 52 ≤ significand := shape.full.resolve_right fun least => by
      have := otherShape.least
      omega
    by_cases start : StartsBinade significand power
    · have cast : (significand : ℚ) = 2 ^ 52 := by exact_mod_cast start.1
      rw [gapBelow, if_pos start, cast]
      exact bound
    · have notLeast : power ≠ -1074 := by
        have := otherShape.least
        omega
      have more : 2 ^ 52 + 1 ≤ significand := by
        have different : significand ≠ 2 ^ 52 := fun same => start ⟨same, notLeast⟩
        omega
      have cast : (2 ^ 52 + 1 : ℚ) ≤ significand := by exact_mod_cast more
      have product := mul_le_mul_of_nonneg_right cast unit.le
      rw [gapBelow, if_neg start]
      linarith

/-- The values of the format: its numbers, with either sign. -/
def IsValue (value : ℚ) : Prop :=
  -- Zero is among them, with a zero significand.
  ∃ significand power, InFormat significand power ∧
    (value = significand * (2 : ℚ) ^ power ∨ value = -(significand * (2 : ℚ) ^ power))

/-- What a number has as its value is a value of the format. -/
theorem isValue_of_exactValue? {number : Float} {value : ℚ} (exact : exactValue? number = some value) :
    IsValue value := by
  -- Parts of a number with a value are those of the format, and its sign is one of two.
  by_cases special : exponentField number = 2047
  · rw [exactValue?_special special] at exact
    cases exact
  · rw [exactValue?_ordinary special] at exact
    refine ⟨_, _, inFormat_of number, ?_⟩
    cases exact
    cases signOf number
    · exact .inr (by simp [Sign.apply])
    · exact .inl (by simp [Sign.apply])

/-- The values of the format are on both sides of zero. -/
theorem IsValue.neg {value : ℚ} (isValue : IsValue value) : IsValue (-value) := by
  obtain ⟨significand, power, shape, rfl | rfl⟩ := isValue
  · exact ⟨significand, power, shape, .inr rfl⟩
  · exact ⟨significand, power, shape, .inl (neg_neg _)⟩

/-- What is within half a gap of a positive number is not nearer to any other one. -/
theorem nearest_of_close (shape : InFormat significand power) (positive : 0 < significand) {close : ℚ}
    (low : significand * (2 : ℚ) ^ power - gapBelow significand power / 2 ≤ close)
    (high : close ≤ significand * (2 : ℚ) ^ power + (2 : ℚ) ^ power / 2) {value : ℚ} (isValue : IsValue value) :
    |close - significand * (2 : ℚ) ^ power| ≤ |close - value| := by
  have unit := two_zpow_pos power
  obtain ⟨gapPositive, most⟩ := gapBelow_bounds significand power
  have atLeast : (2 : ℚ) ^ power ≤ significand * 2 ^ power := by
    have one : (1 : ℚ) ≤ significand := by exact_mod_cast positive
    nlinarith
  -- The other value is the same, or on one side at least as far as the next number there.
  have apart : value = significand * 2 ^ power ∨ significand * 2 ^ power + 2 ^ power ≤ value ∨
      value ≤ significand * 2 ^ power - gapBelow significand power := by
    obtain ⟨other, otherPower, otherShape, rfl | rfl⟩ := isValue
    · rcases lt_trichotomy ((other : ℚ) * 2 ^ otherPower) (significand * 2 ^ power) with below | same | above
      · exact .inr (.inr (le_sub_gap shape otherShape below))
      · exact .inl same
      · exact .inr (.inl (add_unit_le shape otherShape above))
    · have negative : 0 ≤ (other : ℚ) * 2 ^ otherPower :=
        mul_nonneg (Nat.cast_nonneg _) (two_zpow_pos _).le
      exact .inr (.inr (by linarith))
  rcases apart with rfl | above | below
  · exact le_rfl
  · rw [abs_sub_comm close value, abs_of_nonneg (by linarith : 0 ≤ value - close), abs_le]
    constructor <;> linarith
  · rw [abs_of_nonneg (by linarith : 0 ≤ close - value), abs_le]
    constructor <;> linarith

end Spacing

end PipelineTrial
