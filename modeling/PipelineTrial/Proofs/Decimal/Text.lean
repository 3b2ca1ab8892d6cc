import PipelineTrial.Decimal.Layout
import PipelineTrial.Proofs.Decimal.Nearest
import PipelineTrial.Proofs.Decimal.Numeral

/-! The texts of numbers: digits, a point and an exponent, and the number that they write. -/

namespace PipelineTrial

open Float.Model.UnpackedFloat (Sign)

/-- The end of a number text writes an exponent; without one it is zero. -/
inductive WritesExponent : Int → List Char → Prop where
  | none : WritesExponent 0 []
  | positive {number : Nat} {digits : List Char} (numeral : Numeral number digits) :
    WritesExponent number ('e' :: '+' :: digits)
  | negative {number : Nat} {digits : List Char} (numeral : Numeral number digits) :
    WritesExponent (-number) ('e' :: '-' :: digits)

/-- A text writes a number in decimal, with a fraction and an exponent or without. -/
inductive WritesNumber : ℚ → List Char → Prop where
  | signed (negative : Bool) {whole fraction ending : List Char} {number : Nat} {exponent : Int}
    (numeral : Numeral number whole) (digits : ∀ digit ∈ fraction, digit.isDigit = true)
    (ends : WritesExponent exponent ending) :
    WritesNumber ((if negative then -1 else 1) *
        (Nat.ofDigitChars 10 (whole ++ fraction) 0 * (10 : ℚ) ^ (exponent - fraction.length)))
      ((if negative then ['-'] else []) ++
        (whole ++ ((if fraction = [] then [] else '.' :: fraction) ++ ending)))

section Decimals

variable {decimal : Decimal} (negative : Bool)

/-- The digits of a decimal with a point among or behind them write it, when the exponent makes up for the point. -/
private theorem writesNumber_split (positive : 0 < decimal.coefficient) {whole fraction ending : List Char}
    {exponent : Int} (split : Nat.toDigits 10 decimal.coefficient = whole ++ fraction) (nonempty : whole ≠ [])
    (ends : WritesExponent exponent ending)
    (places : exponent - fraction.length = decimal.exponent) :
    WritesNumber ((if negative then -1 else 1) * decimal.value)
      ((if negative then ['-'] else []) ++
        (whole ++ ((if fraction = [] then [] else '.' :: fraction) ++ ending))) := by
  -- Read without their point the digits are the coefficient.
  have all := numeral_toDigits decimal.coefficient
  have fractionDigits : ∀ digit ∈ fraction, digit.isDigit = true := fun _ member =>
    all.digits _ (split ▸ List.mem_append_right whole member)
  have text := WritesNumber.signed negative (numeral_append positive split nonempty) fractionDigits ends
  have value := all.value
  rw [split] at value
  rw [value, places] at text
  exact text

/-- Zeros between the point and the digits of a decimal bring it down. -/
private theorem writesNumber_below {zeros : Nat}
    (places : -((zeros : Int) + decimal.digits.length) = decimal.exponent) :
    WritesNumber ((if negative then -1 else 1) * decimal.value)
      ((if negative then ['-'] else []) ++ '0' :: '.' :: (List.replicate zeros '0' ++ decimal.digits)) := by
  -- The zeros count as places behind the point, and add nothing to the coefficient.
  have all := numeral_toDigits decimal.coefficient
  have digits : ∀ digit ∈ List.replicate zeros '0' ++ decimal.digits, digit.isDigit = true := by
    intro digit member
    rcases List.mem_append.1 member with zero | other
    · rw [List.eq_of_mem_replicate zero]
      rfl
    · exact all.digits digit other
  have text := WritesNumber.signed negative (numeral_toDigits 0) digits .none
  have value : Nat.ofDigitChars 10 (Nat.toDigits 10 0 ++ (List.replicate zeros '0' ++ decimal.digits)) 0 =
      decimal.coefficient := by
    rw [Nat.ofDigitChars_append, Nat.ofDigitChars_append, Nat.ofDigitChars_toDigits (by decide) (by decide),
      Nat.ofDigitChars_replicate_zero, Nat.mul_zero]
    exact all.value
  have filled : List.replicate zeros '0' ++ decimal.digits ≠ [] := by simp [Decimal.digits]
  have length : (0 : Int) - (List.replicate zeros '0' ++ decimal.digits).length = decimal.exponent := by
    rw [List.length_append, List.length_replicate, ← places]
    push_cast
    omega
  rw [value, length, if_neg filled, List.append_nil] at text
  exact text

/-- Zeros behind the digits of a decimal bring it up, before a point and one more zero. -/
private theorem writesNumber_above (positive : 0 < decimal.coefficient) {zeros : Nat}
    (places : (zeros : Int) = decimal.exponent) :
    WritesNumber ((if negative then -1 else 1) * decimal.value)
      ((if negative then ['-'] else []) ++ (decimal.digits ++ List.replicate zeros '0' ++ ['.', '0'])) := by
  -- Each zero before the point is a factor of ten; the one behind it is a factor and a place.
  have all := numeral_toDigits decimal.coefficient
  have whole : Numeral (Nat.ofDigitChars 10 (decimal.digits ++ List.replicate zeros '0') 0)
      (decimal.digits ++ List.replicate zeros '0') := by
    refine ⟨fun digit member => ?_, by simp [Decimal.digits], rfl, fun zero => ?_⟩
    · rcases List.mem_append.1 member with other | zero
      · exact all.digits digit other
      · rw [List.eq_of_mem_replicate zero]
        rfl
    · rw [Decimal.digits, List.head?_append_of_ne_nil _ all.nonempty] at zero
      exact absurd zero (head?_toDigits positive)
  have text := WritesNumber.signed negative whole (by simp : ∀ digit ∈ ['0'], digit.isDigit = true) .none
  have value : Nat.ofDigitChars 10 (decimal.digits ++ List.replicate zeros '0' ++ ['0']) 0 =
      10 * (10 ^ zeros * decimal.coefficient) := by
    rw [Nat.ofDigitChars_append, Nat.ofDigitChars_append, Nat.ofDigitChars_replicate_zero,
      show Nat.ofDigitChars 10 decimal.digits 0 = decimal.coefficient from all.value]
    rfl
  have scaled : ((10 * (10 ^ zeros * decimal.coefficient) : Nat) : ℚ) *
      (10 : ℚ) ^ ((0 : Int) - (['0'] : List Char).length) = decimal.value := by
    rw [Decimal.value, ← places, zpow_natCast]
    norm_num
    ring
  rw [value, scaled] at text
  simpa using text

end Decimals

namespace NumberLayout

variable {layout : NumberLayout} {decimal : Decimal}

/-- An exponent is written with its sign. -/
private theorem writesExponent (signed : layout.plusSign = true) (exponent : Int) :
    WritesExponent exponent ('e' :: ((if exponent < 0 then ['-'] else if layout.plusSign then ['+'] else []) ++
      Nat.toDigits 10 exponent.natAbs)) := by
  -- The digits are those of the magnitude.
  have numeral := numeral_toDigits exponent.natAbs
  by_cases below : exponent < 0
  · have turned : exponent = -(exponent.natAbs : Int) := by omega
    rw [if_pos below]
    generalize exponent.natAbs = number at numeral turned
    rw [turned]
    exact .negative numeral
  · have same : exponent = (exponent.natAbs : Int) := by omega
    rw [if_neg below, if_pos signed]
    generalize exponent.natAbs = number at numeral same
    rw [same]
    exact .positive numeral

/-- The digits of a number with their point in position write it. -/
private theorem writesNumber_positional (pointed : layout.keepsPoint = true) (positive : 0 < decimal.coefficient)
    (negative : Bool) :
    WritesNumber ((if negative then -1 else 1) * decimal.value)
      ((if negative then ['-'] else []) ++ layout.positional decimal.digits decimal.leadingExponent) := by
  have leading : decimal.leadingExponent = decimal.exponent + decimal.digits.length - 1 := rfl
  have some : 0 < decimal.digits.length := Nat.length_toDigits_pos
  unfold positional
  by_cases small : decimal.leadingExponent < 0
  · -- The number is below one.
    rw [if_pos small]
    exact writesNumber_below negative (by omega)
  · rw [if_neg small]
    by_cases short : decimal.digits.length ≤ decimal.leadingExponent.toNat + 1
    · -- The point stands behind all digits.
      simp only [if_pos short, if_pos pointed]
      exact writesNumber_above negative positive (by omega)
    · -- The point stands among the digits.
      have parts := (List.take_append_drop (decimal.leadingExponent.toNat + 1) decimal.digits).symm
      have whole : decimal.digits.take (decimal.leadingExponent.toNat + 1) ≠ [] := by
        rw [ne_eq, List.take_eq_nil_iff]
        simp [Decimal.digits]
      have fraction : decimal.digits.drop (decimal.leadingExponent.toNat + 1) ≠ [] := by
        rw [ne_eq, List.drop_eq_nil_iff]
        omega
      have length := @List.length_drop _ (decimal.leadingExponent.toNat + 1) decimal.digits
      have text := writesNumber_split negative positive parts whole .none (by omega)
      rw [if_neg fraction, List.append_nil] at text
      simp only [if_neg short]
      exact text

/-- The digits of a number with one of them before the point and an exponent write it. -/
private theorem writesNumber_scientific (signed : layout.plusSign = true) (positive : 0 < decimal.coefficient)
    (negative : Bool) :
    WritesNumber ((if negative then -1 else 1) * decimal.value)
      ((if negative then ['-'] else []) ++ layout.scientific decimal.digits decimal.leadingExponent) := by
  -- The exponent counts the places from behind the first digit.
  have leading : decimal.leadingExponent = decimal.exponent + decimal.digits.length - 1 := rfl
  obtain ⟨first, rest, split⟩ := List.exists_cons_of_ne_nil (numeral_toDigits decimal.coefficient).nonempty
  have some : decimal.digits.length = rest.length + 1 := by
    rw [Decimal.digits, split, List.length_cons]
  have text := @writesNumber_split decimal negative positive [first] rest _ _ split (by simp)
    (writesExponent signed decimal.leadingExponent) (by omega)
  have spelled : layout.scientific decimal.digits decimal.leadingExponent =
      [first] ++ ((if rest = [] then [] else '.' :: rest) ++
        ('e' :: ((if decimal.leadingExponent < 0 then ['-'] else if layout.plusSign then ['+'] else []) ++
          Nat.toDigits 10 decimal.leadingExponent.natAbs))) := by
    simp only [scientific, Decimal.digits, split]
    cases rest <;> simp
  rw [spelled]
  exact text

/-- A layout that keeps points and signs writes every positive decimal, and with a sign the negative ones. -/
theorem writesNumber_writeDecimal (signed : layout.plusSign = true) (pointed : layout.keepsPoint = true)
    (positive : 0 < decimal.coefficient) (negative : Bool) :
    WritesNumber ((if negative then -1 else 1) * decimal.value)
      ((if negative then ['-'] else []) ++ layout.writeDecimal decimal) := by
  -- The exponent of the leading digit chooses between two forms.
  by_cases inRange : (layout.positionalFrom ≤ decimal.leadingExponent && decimal.leadingExponent <
      layout.positionalBelow) = true
  · rw [writeDecimal, if_pos inRange]
    exact writesNumber_positional pointed positive negative
  · rw [writeDecimal, if_neg inRange]
    exact writesNumber_scientific signed positive negative

/-- A layout that keeps points and signs writes every finite number as a decimal that rounds to it. -/
theorem exists_writesNumber (signed : layout.plusSign = true) (pointed : layout.keepsPoint = true) {number : Float}
    (finite : number.isFinite = true) :
    ∃ value, WritesNumber value (layout.write number).toList ∧ RoundsTo value number := by
  have ordinary := isFinite_iff.1 finite
  by_cases zero : (number == 0.0) = true
  · -- A zero is written with or without its sign.
    have none := (beq_zero_iff ordinary).1 zero
    have exact : exactValue? number = some 0 := by
      rw [exactValue?_ordinary ordinary, none]
      cases signOf number <;> simp [Sign.apply]
    have text (negative : Bool) := WritesNumber.signed negative (numeral_toDigits 0)
      (by simp : ∀ digit ∈ ['0'], digit.isDigit = true) .none
    have value : (Nat.ofDigitChars 10 (Nat.toDigits 10 0 ++ ['0']) 0 : ℚ) = 0 := by norm_num [Nat.ofDigitChars]
    simp only [value, zero_mul, mul_zero] at text
    refine ⟨0, ?_, 0, exact, fun {other value} _ => by simp⟩
    have spelled := text (number.toBits ≥ 0x8000000000000000 && layout.signedZero)
    rw [write, if_pos zero, if_pos pointed]
    simpa [apply_ite String.toList] using spelled
  · have nonzero : 0 < significandOf number :=
      Nat.pos_of_ne_zero fun none => zero ((beq_zero_iff ordinary).2 none)
    obtain ⟨rounds, positive⟩ := roundsTo_shortestDecimal ordinary nonzero
    refine ⟨_, ?_, rounds⟩
    have text := writesNumber_writeDecimal signed pointed positive (number.toBits ≥ 0x8000000000000000)
    rw [write, if_neg zero]
    simpa [apply_ite String.toList] using text

end NumberLayout

end PipelineTrial
