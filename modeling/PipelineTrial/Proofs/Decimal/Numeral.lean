import Mathlib.Data.List.Basic

/-! Decimal digits as the texts of natural numbers. -/

namespace PipelineTrial

/-- Decimal digits write a natural number. -/
structure Numeral (number : Nat) (chars : List Char) : Prop where
  digits : ∀ char ∈ chars, char.isDigit = true
  nonempty : chars ≠ []
  value : Nat.ofDigitChars 10 chars 0 = number
  /-- No zero stands before other digits. -/
  plain : chars.head? = some '0' → chars = ['0']

/-- The digits of a positive number do not start with a zero. -/
theorem head?_toDigits {value : Nat} (positive : 0 < value) : (Nat.toDigits 10 value).head? ≠ some '0' := by
  -- By induction on the number: all digits but the last are those of its tenth.
  induction value using Nat.strongRecOn with
  | ind value ih =>
    by_cases small : value < 10
    · have digit : ∀ digit : Fin 10, 0 < digit.val → Nat.digitChar digit.val ≠ '0' := by decide
      rw [Nat.toDigits_of_lt_base small]
      simpa using digit ⟨value, small⟩ positive
    · have tenth := ih (value / 10) (by omega) (by omega)
      rw [Nat.toDigits_of_base_le (by decide) (by omega), List.head?_append_of_ne_nil _ Nat.toDigits_ne_nil]
      exact tenth

/-- The digits of a natural number write it. -/
theorem numeral_toDigits (number : Nat) : Numeral number (Nat.toDigits 10 number) where
  digits := fun _ => Nat.isDigit_of_mem_toDigits (by decide) (by decide)
  nonempty := Nat.toDigits_ne_nil
  value := Nat.ofDigitChars_toDigits (by decide) (by decide)
  plain := by
    intro zero
    rcases Nat.eq_zero_or_pos number with rfl | positive
    · rfl
    · exact absurd zero (head?_toDigits positive)

/-- The first digits of a positive number write a number themselves. -/
theorem numeral_append {number : Nat} (positive : 0 < number) {whole rest : List Char}
    (split : Nat.toDigits 10 number = whole ++ rest) (nonempty : whole ≠ []) :
    Numeral (Nat.ofDigitChars 10 whole 0) whole where
  digits := fun _ member =>
    (numeral_toDigits number).digits _ (split ▸ List.mem_append_left rest member)
  nonempty := nonempty
  value := rfl
  plain := by
    -- The first digit is that of the whole number, which is not zero.
    intro zero
    have head := head?_toDigits positive
    rw [split, List.head?_append_of_ne_nil _ nonempty] at head
    exact absurd zero head

end PipelineTrial
