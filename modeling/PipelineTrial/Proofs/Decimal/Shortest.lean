import Mathlib.Algebra.Order.Field.Rat
import Mathlib.Algebra.Order.Field.Power
import Mathlib.Data.Rat.Cast.Order
import Mathlib.Tactic.FieldSimp
import Mathlib.Tactic.Linarith
import Mathlib.Tactic.NormNum
import Mathlib.Tactic.Positivity
import Mathlib.Tactic.Ring
import PipelineTrial.Decimal.Shortest

/-! The search for the shortest decimal of a rounding interval ends in the interval. -/

namespace PipelineTrial

/-- The number that a coefficient and a power of ten make up. -/
def Decimal.value (decimal : Decimal) : ℚ := decimal.coefficient * (10 : ℚ) ^ decimal.exponent

/-- A power of ten is the quotient of two whole ones, of which one is one. -/
private theorem ten_zpow_mul (exponent : Int) :
    (10 : ℚ) ^ exponent * (10 : ℚ) ^ (-exponent).toNat = (10 : ℚ) ^ exponent.toNat := by
  rw [← zpow_natCast, ← zpow_natCast, ← zpow_add₀ (by norm_num)]
  congr 1
  omega

/-- Taking trailing zeros off a coefficient does not change the number. -/
theorem Decimal.value_normalized (decimal : Decimal) : decimal.normalized.value = decimal.value := by
  -- Each zero taken off the coefficient is put into the exponent.
  have each (bound : Nat) (decimal : Decimal) : (normalized.go bound decimal).value = decimal.value := by
    induction bound generalizing decimal with
    | zero => rfl
    | succ bound ih =>
      unfold normalized.go
      split
      · next trailing =>
        have split : decimal.coefficient / 10 * 10 = decimal.coefficient := by
          simp only [Bool.and_eq_true, beq_iff_eq] at trailing
          omega
        have coefficient : ((decimal.coefficient / 10 : Nat) : ℚ) * 10 = decimal.coefficient := by
          exact_mod_cast split
        rw [ih, value, value, zpow_add_one₀ (by norm_num), ← coefficient]
        ring
      · rfl
  exact each _ decimal

/-- A number other than zero keeps a coefficient other than zero. -/
theorem Decimal.coefficient_normalized_pos {decimal : Decimal} (positive : 0 < decimal.coefficient) :
    0 < decimal.normalized.coefficient := by
  -- Both make up the same number, which is positive.
  have same := decimal.value_normalized
  have power (exponent : Int) : (0 : ℚ) < (10 : ℚ) ^ exponent := zpow_pos (by norm_num) _
  have above : 0 < decimal.normalized.value := by
    rw [same, value]
    exact mul_pos (by exact_mod_cast positive) (power _)
  rw [value] at above
  exact_mod_cast (pos_iff_pos_of_mul_pos above).2 (power _)

namespace RoundingInterval

variable {interval : RoundingInterval}

/-- The bounds of an interval enclose its value strictly, over a denominator that is not zero. -/
structure Proper (interval : RoundingInterval) : Prop where
  denominator : 0 < interval.denominator
  below : interval.low < interval.value
  above : interval.value < interval.high

/-- The value of an interval. -/
def center (interval : RoundingInterval) : ℚ := interval.value / interval.denominator

/-- The least number of an interval. -/
def lower (interval : RoundingInterval) : ℚ := interval.low / interval.denominator

/-- The greatest number of an interval. -/
def upper (interval : RoundingInterval) : ℚ := interval.high / interval.denominator

/-- Comparing whole numbers compares a decimal with a fraction. -/
private theorem scaled_le_iff (decimal : Decimal) (bound : Nat) {denominator : Nat} (positive : 0 < denominator) :
    (decimal.coefficient * 10 ^ decimal.exponent.toNat * denominator ≤ bound * 10 ^ (-decimal.exponent).toNat ↔
        decimal.value ≤ bound / denominator) ∧
      (bound * 10 ^ (-decimal.exponent).toNat ≤ decimal.coefficient * 10 ^ decimal.exponent.toNat * denominator ↔
        (bound : ℚ) / denominator ≤ decimal.value) := by
  -- Both sides are multiplied by the denominator and by a power of ten.
  have divisor : (0 : ℚ) < denominator := by exact_mod_cast positive
  have power : (0 : ℚ) < (10 : ℚ) ^ (-decimal.exponent).toNat := by positivity
  have scaled : decimal.value * denominator * (10 : ℚ) ^ (-decimal.exponent).toNat =
      ((decimal.coefficient * 10 ^ decimal.exponent.toNat * denominator : Nat) : ℚ) := by
    simp only [Decimal.value, Nat.cast_mul, Nat.cast_pow, Nat.cast_ofNat, ← ten_zpow_mul decimal.exponent]
    ring
  have limit : (bound : ℚ) * (10 : ℚ) ^ (-decimal.exponent).toNat =
      ((bound * 10 ^ (-decimal.exponent).toNat : Nat) : ℚ) := by
    simp
  constructor
  · rw [le_div_iff₀ divisor, ← mul_le_mul_iff_of_pos_right power, scaled, limit, Nat.cast_le]
  · rw [div_le_iff₀ divisor, ← mul_le_mul_iff_of_pos_right power, scaled, limit, Nat.cast_le]

/-- A decimal that rounds to the value lies between the bounds of its interval. -/
theorem mem_of_contains (proper : interval.Proper) {decimal : Decimal}
    (contained : interval.contains decimal = true) :
    interval.lower ≤ decimal.value ∧ decimal.value ≤ interval.upper := by
  -- Whether the ends count makes no difference here.
  refine ⟨(scaled_le_iff decimal interval.low proper.denominator).2.1 ?_,
    (scaled_le_iff decimal interval.high proper.denominator).1.1 ?_⟩ <;>
    simp only [contains, Nat.pow_eq] at contained <;> split at contained <;>
    simp only [Bool.and_eq_true, decide_eq_true_eq] at contained <;> omega

/-- A decimal strictly between the bounds of an interval rounds to its value. -/
theorem contains_of_mem (proper : interval.Proper) {decimal : Decimal}
    (above : interval.lower < decimal.value) (below : decimal.value < interval.upper) :
    interval.contains decimal = true := by
  have low := mt (scaled_le_iff decimal interval.low proper.denominator).1.1 (not_le.2 above)
  have high := mt (scaled_le_iff decimal interval.high proper.denominator).2.1 (not_le.2 below)
  simp only [contains, Nat.pow_eq]
  split <;> simp only [Bool.and_eq_true, decide_eq_true_eq] <;> omega

/-- The value of an interval lies between two neighbours on the grid of a power of ten. -/
private theorem floorAt_bounds (proper : interval.Proper) (exponent : Int) :
    (Decimal.mk (interval.floorAt exponent) exponent).value ≤ interval.center ∧
      interval.center < (Decimal.mk (interval.floorAt exponent) exponent).value + (10 : ℚ) ^ exponent := by
  -- The quotient of whole numbers is rounded down.
  have positive : 0 < interval.denominator * 10 ^ exponent.toNat := Nat.mul_pos proper.denominator (by positivity)
  have least : interval.floorAt exponent * (interval.denominator * 10 ^ exponent.toNat) ≤
      interval.value * 10 ^ (-exponent).toNat := Nat.div_mul_le_self _ _
  have most : interval.value * 10 ^ (-exponent).toNat <
      (interval.floorAt exponent + 1) * (interval.denominator * 10 ^ exponent.toNat) :=
    (Nat.div_lt_iff_lt_mul positive).1 (Nat.lt_succ_self _)
  have arranged (coefficient : Nat) : coefficient * 10 ^ exponent.toNat * interval.denominator =
      coefficient * (interval.denominator * 10 ^ exponent.toNat) := by ring
  have next : (Decimal.mk (interval.floorAt exponent) exponent).value + (10 : ℚ) ^ exponent =
      (Decimal.mk (interval.floorAt exponent + 1) exponent).value := by
    simp only [Decimal.value]
    push_cast
    ring
  rw [next]
  refine ⟨(scaled_le_iff _ _ proper.denominator).1.1 ?_, not_le.1 fun reached => ?_⟩
  · rw [arranged]
    exact least
  · have bounded := (scaled_le_iff _ _ proper.denominator).1.2 reached
    rw [arranged] at bounded
    exact absurd most (not_lt.2 bounded)

/-- What a grid hits rounds to the value, and is not zero. -/
private theorem contains_of_hitAt {exponent : Int} {decimal : Decimal}
    (hit : interval.hitAt exponent = some decimal) : interval.contains decimal = true ∧ 0 < decimal.coefficient := by
  -- Either neighbour is only taken when it is in the interval.
  simp only [hitAt] at hit
  split at hit
  · next both =>
    simp only [Bool.and_eq_true, bne_iff_ne] at both
    cases hit
    split
    · exact ⟨both.2, Nat.succ_pos _⟩
    · exact ⟨both.1.2, Nat.pos_of_ne_zero both.1.1⟩
  · split at hit
    · next lower =>
      simp only [Bool.and_eq_true, bne_iff_ne] at lower
      cases hit
      exact ⟨lower.2, Nat.pos_of_ne_zero lower.1⟩
    · split at hit
      · next upper =>
        cases hit
        exact ⟨upper, Nat.succ_pos _⟩
      · cases hit

/-- A grid finer than the distance from the value down to the end of the interval has a hit. -/
private theorem hitAt_ne_none (proper : interval.Proper) {exponent : Int}
    (fine : (10 : ℚ) ^ exponent < interval.center - interval.lower) : interval.hitAt exponent ≠ none := by
  -- The neighbour below the value is close enough to it.
  have divisor : (0 : ℚ) < interval.denominator := by exact_mod_cast proper.denominator
  obtain ⟨atMost, near⟩ := floorAt_bounds proper exponent
  have enclosed : interval.center < interval.upper := by
    rw [center, upper, div_lt_div_iff_of_pos_right divisor]
    exact_mod_cast proper.above
  have above : interval.lower < (Decimal.mk (interval.floorAt exponent) exponent).value := by linarith
  have contained := contains_of_mem proper above (lt_of_le_of_lt atMost enclosed)
  have start : 0 ≤ interval.lower := by
    rw [lower]
    positivity
  have nonzero : interval.floorAt exponent ≠ 0 := by
    intro zero
    rw [zero] at above
    simp only [Decimal.value, Nat.cast_zero, zero_mul] at above
    linarith
  simp only [hitAt, contained, nonzero, bne_iff_ne, ne_eq, not_false_eq_true, Bool.and_true]
  split <;> simp_all

/-- The search ends with a hit as soon as one of its grids has one. -/
private theorem search_spec {exponent : Int} {bound later : Nat} (early : later < bound)
    (hit : interval.hitAt (exponent - later) ≠ none) :
    interval.contains (shortest.search interval exponent bound) = true ∧
      0 < (shortest.search interval exponent bound).coefficient := by
  -- Each step without a hit brings that grid one step nearer.
  induction bound generalizing exponent later with
  | zero => omega
  | succ bound ih =>
    unfold shortest.search
    split
    · next decimal found => exact contains_of_hitAt found
    · next missed =>
      cases later with
      | zero => simp [missed] at hit
      | succ later =>
        refine ih (by omega : later < bound) ?_
        rwa [show exponent - 1 - (later : Int) = exponent - (later + 1 : Nat) by push_cast; omega]

/-- A number with as many digits as it has is below the power of ten of their number, and not below the one before. -/
private theorem length_toDigits_bounds (number : Nat) :
    number < 10 ^ (Nat.toDigits 10 number).length ∧
      (0 < number → 10 ^ ((Nat.toDigits 10 number).length - 1) ≤ number) := by
  refine ⟨(Nat.length_toDigits_le_iff (by decide) Nat.length_toDigits_pos).1 le_rfl, fun positive => ?_⟩
  rcases Nat.eq_zero_or_pos ((Nat.toDigits 10 number).length - 1) with single | more
  · rw [single]
    omega
  · have long := mt (Nat.length_toDigits_le_iff (by decide : 1 < 10) more (n := number)).2
    omega

/-- The magnitude of an interval is not too great: a tenth of its power of ten is no more than the value. -/
private theorem magnitude_le (proper : interval.Proper) :
    (10 : ℚ) ^ (interval.magnitude - 1) ≤ interval.center := by
  have divisor : (0 : ℚ) < interval.denominator := by exact_mod_cast proper.denominator
  have positive : 0 < interval.value := Nat.lt_of_le_of_lt (Nat.zero_le _) proper.below
  simp only [magnitude, bne_iff_ne, ne_eq]
  split
  · next whole =>
    -- The whole part has the first digit at that power of ten.
    obtain ⟨-, least⟩ := length_toDigits_bounds (interval.value / interval.denominator)
    have digits := @Nat.length_toDigits_pos 10 (interval.value / interval.denominator)
    have power : (10 : ℚ) ^ (((Nat.toDigits 10 (interval.value / interval.denominator)).length : Int) - 1) =
        ((10 ^ ((Nat.toDigits 10 (interval.value / interval.denominator)).length - 1) : Nat) : ℚ) := by
      rw [Nat.cast_pow, ← zpow_natCast]
      congr 1
      omega
    rw [power, center, le_div_iff₀ divisor]
    have product := Nat.mul_le_mul_right interval.denominator (least (Nat.pos_of_ne_zero whole))
    exact_mod_cast product.trans (Nat.div_mul_le_self _ _)
  · next fraction =>
    -- The inverse, rounded up, is at most the power of ten with as many zeros.
    obtain ⟨most, -⟩ :=
      length_toDigits_bounds ((interval.denominator + interval.value - 1) / interval.value - 1)
    generalize (Nat.toDigits 10 ((interval.denominator + interval.value - 1) / interval.value - 1)).length =
      zeros at most
    have covered : interval.denominator ≤
        (interval.denominator + interval.value - 1) / interval.value * interval.value := by
      have next := Nat.lt_div_mul_add (a := interval.denominator + interval.value - 1) positive
      omega
    have inverse : (interval.denominator + interval.value - 1) / interval.value ≤ 10 ^ zeros := by omega
    have product := covered.trans (Nat.mul_le_mul_right interval.value inverse)
    have cast : (interval.denominator : ℚ) ≤ (10 : ℚ) ^ zeros * interval.value := by exact_mod_cast product
    rw [show (1 - (zeros : Int)) - 1 = -(zeros : Int) by omega, zpow_neg, zpow_natCast, center,
      inv_le_comm₀ (by positivity) (div_pos (by exact_mod_cast positive) divisor), inv_div,
      div_le_iff₀ (by exact_mod_cast positive)]
    exact cast

/-- The shortest decimal of an interval lies in it, if the interval is not too narrow for seventeen digits. -/
theorem shortest_mem (proper : interval.Proper)
    (wide : interval.center < (interval.center - interval.lower) * 10 ^ 17) :
    interval.lower ≤ interval.shortest.value ∧ interval.shortest.value ≤ interval.upper ∧
      0 < interval.shortest.coefficient := by
  -- The eighteenth grid below the magnitude is fine enough.
  have step : (10 : ℚ) ^ (interval.magnitude - (18 : Nat)) * 10 ^ 17 = (10 : ℚ) ^ (interval.magnitude - 1) := by
    rw [← zpow_natCast, ← zpow_add₀ (by norm_num)]
    congr 1
    omega
  have fine : (10 : ℚ) ^ (interval.magnitude - (18 : Nat)) < interval.center - interval.lower := by
    have most := magnitude_le proper
    rw [← step] at most
    exact lt_of_mul_lt_mul_right (lt_of_le_of_lt most wide) (by positivity)
  obtain ⟨contained, positive⟩ := search_spec (by decide : 18 < 19) (hitAt_ne_none proper fine)
  obtain ⟨above, below⟩ := mem_of_contains proper contained
  rw [shortest, Decimal.value_normalized]
  exact ⟨above, below, Decimal.coefficient_normalized_pos positive⟩

end RoundingInterval

end PipelineTrial
