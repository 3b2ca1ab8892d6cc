import PipelineTrial.Proofs.Decimal.Binary
import PipelineTrial.Proofs.Decimal.Shortest

/-! The shortest digits of a number are a decimal to which no other number of the format is nearer. -/

namespace PipelineTrial

open Float.Model.UnpackedFloat (Sign)

/-- A decimal rounds to a number: no other number is nearer to it. -/
def RoundsTo (decimal : ℚ) (number : Float) : Prop :=
  -- Only finite numbers have values to be near to.
  ∃ exact, exactValue? number = some exact ∧
    ∀ {other value}, exactValue? other = some value → |decimal - exact| ≤ |decimal - value|

namespace RoundingInterval

/-- The bounds of a number's interval are quarters of its unit. -/
private theorem ofBinary_eq (significand : Nat) (power : Int) (startsBinade : Bool) :
    (ofBinary significand power startsBinade).lower =
        ((if startsBinade then 4 * significand - 1 else 4 * significand - 2 : Nat) : ℚ) * ((2 : ℚ) ^ power / 4) ∧
      (ofBinary significand power startsBinade).center = ((4 * significand : Nat) : ℚ) * ((2 : ℚ) ^ power / 4) ∧
      (ofBinary significand power startsBinade).upper = ((4 * significand + 2 : Nat) : ℚ) * ((2 : ℚ) ^ power / 4) := by
  have quarter : (2 : ℚ) ^ power / 4 = (2 : ℚ) ^ (power - 2) := by
    rw [zpow_sub₀ (by norm_num)]
    norm_num
  rw [quarter]
  unfold lower center upper ofBinary
  dsimp only
  generalize (if startsBinade then 4 * significand - 1 else 4 * significand - 2 : Nat) = below
  by_cases large : 2 ≤ power
  · -- A quarter of the unit is a whole number.
    have unit : (2 : ℚ) ^ (power - 2) = ((Nat.pow 2 (power - 2).toNat : Nat) : ℚ) := by
      rw [Nat.pow_eq, Nat.cast_pow, ← zpow_natCast, Nat.cast_ofNat]
      congr 1
      omega
    simp only [if_pos large, unit]
    refine ⟨?_, ?_, ?_⟩ <;> push_cast <;> ring
  · -- A quarter of the unit is the inverse of a whole number.
    have unit : (2 : ℚ) ^ (power - 2) = ((Nat.pow 2 (2 - power).toNat : Nat) : ℚ)⁻¹ := by
      rw [Nat.pow_eq, Nat.cast_pow, ← zpow_natCast, Nat.cast_ofNat, ← zpow_neg]
      congr 1
      omega
    simp only [if_neg large, unit]
    exact ⟨rfl, rfl, rfl⟩

/-- The interval of a positive number encloses it. -/
private theorem proper_ofBinary {significand : Nat} (positive : 0 < significand) (power : Int) (startsBinade : Bool) :
    (ofBinary significand power startsBinade).Proper := by
  -- All bounds have the same scale.
  have scale (exponent : Nat) : 0 < Nat.pow 2 exponent := Nat.pow_pos (by decide)
  unfold ofBinary
  dsimp only
  by_cases large : 2 ≤ power
  · rw [if_pos large]
    refine ⟨Nat.one_pos, Nat.mul_lt_mul_of_pos_right ?_ (scale _), Nat.mul_lt_mul_of_pos_right ?_ (scale _)⟩
    · cases startsBinade <;> simp <;> omega
    · omega
  · rw [if_neg large]
    refine ⟨scale _, ?_, ?_⟩
    · cases startsBinade <;> simp <;> omega
    · simp

/-- The shortest decimal of a positive number is within half a gap of it. -/
theorem shortest_ofBinary_close {significand : Nat} {power : Int} (positive : 0 < significand)
    (short : significand < 2 ^ 53) :
    let decimal := (ofBinary significand power (StartsBinade significand power)).shortest
    significand * (2 : ℚ) ^ power - gapBelow significand power / 2 ≤ decimal.value ∧
      decimal.value ≤ significand * (2 : ℚ) ^ power + (2 : ℚ) ^ power / 2 ∧ 0 < decimal.coefficient := by
  intro decimal
  have unit : (0 : ℚ) < (2 : ℚ) ^ power := zpow_pos (by norm_num) _
  have one : (1 : ℚ) ≤ significand := by exact_mod_cast positive
  obtain ⟨lower, center, upper⟩ := ofBinary_eq significand power (StartsBinade significand power)
  -- The lower end lies half a gap below.
  have low : (ofBinary significand power (StartsBinade significand power)).lower =
      significand * (2 : ℚ) ^ power - gapBelow significand power / 2 := by
    rw [lower, gapBelow]
    by_cases start : StartsBinade significand power
    · simp only [start, decide_true, if_true]
      rw [Nat.cast_sub (by omega)]
      push_cast
      ring
    · simp only [start, decide_false, if_false, Bool.false_eq_true]
      rw [Nat.cast_sub (by omega)]
      push_cast
      ring
  have wide : (ofBinary significand power (StartsBinade significand power)).center <
      ((ofBinary significand power (StartsBinade significand power)).center -
        (ofBinary significand power (StartsBinade significand power)).lower) * 10 ^ 17 := by
    have most : (significand : ℚ) ≤ 2 ^ 53 := by exact_mod_cast short.le
    have narrow : (2 : ℚ) ^ power / 2 ≤ gapBelow significand power := by
      unfold gapBelow
      split <;> linarith
    rw [center, low]
    push_cast
    nlinarith
  obtain ⟨above, below, coefficient⟩ := shortest_mem (proper_ofBinary positive power _) wide
  rw [low] at above
  rw [upper] at below
  refine ⟨above, below.trans (le_of_eq ?_), coefficient⟩
  push_cast
  ring

end RoundingInterval

/-- The interval in which the digits of a number are sought is that of its significand and power. -/
private theorem shortestDecimal_eq (number : Float) : shortestDecimal number =
    (RoundingInterval.ofBinary (significandOf number) (powerOf number)
      (StartsBinade (significandOf number) (powerOf number))).shortest := by
  have fraction : fractionField number < 2 ^ 52 := Nat.mod_lt _ (by decide)
  have bits : number.toBits.toNat % Nat.pow 2 52 = fractionField number := rfl
  have middle : number.toBits.toNat / Nat.pow 2 52 % 2048 = exponentField number := rfl
  unfold shortestDecimal significandOf powerOf
  simp only [bits, middle, beq_iff_eq]
  split
  · next small =>
    -- No significand without a hidden bit is that of the start of a binade.
    have inside : ¬StartsBinade (fractionField number) (-1074) := fun start => start.2 rfl
    simp only [inside, decide_false]
  · next normal =>
    have same : (fractionField number == 0 && exponentField number != 1) =
        decide (StartsBinade (2 ^ 52 + fractionField number) (exponentField number - 1075)) := by
      rw [Bool.eq_iff_iff, decide_eq_true_iff]
      simp only [StartsBinade, Bool.and_eq_true, beq_iff_eq, bne_iff_ne]
      omega
    rw [same]
    rfl

/-- The digits of a number other than zero round to its magnitude, and with its sign to the number. -/
theorem roundsTo_shortestDecimal {number : Float} (finite : exponentField number ≠ 2047)
    (nonzero : 0 < significandOf number) :
    RoundsTo ((if number.toBits ≥ 0x8000000000000000 then -1 else 1) * (shortestDecimal number).value) number ∧
      0 < (shortestDecimal number).coefficient := by
  -- The magnitude is the nearest value, and the sign turns all values around.
  have shape := inFormat_of number
  rw [shortestDecimal_eq]
  obtain ⟨low, high, coefficient⟩ :=
    @RoundingInterval.shortest_ofBinary_close (significandOf number) (powerOf number) nonzero shape.short
  refine ⟨⟨_, exactValue?_ordinary finite, fun {other value} exact => ?_⟩, coefficient⟩
  have isValue := isValue_of_exactValue? exact
  rw [signOf_eq]
  split
  · have near := nearest_of_close shape nonzero low high isValue.neg
    rw [← abs_neg, ← abs_neg (_ - -value)] at near
    convert near using 2 <;> simp [Sign.apply] <;> ring
  · convert nearest_of_close shape nonzero low high isValue using 2 <;> simp [Sign.apply]

end PipelineTrial
