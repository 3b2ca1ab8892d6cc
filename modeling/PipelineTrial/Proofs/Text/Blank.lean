import Mathlib.Data.List.DropRight
import PipelineTrial.Text.Blank

/-! A trimmed text has no blanks at its ends, so trimming it again changes nothing. -/

namespace PipelineTrial

/-- Characters that do not start with a blank still do not when their end is trimmed. -/
theorem dropWhile_trimRight {chars : List Char} (kept : chars.dropWhile isBlank = chars) :
    (trimRight chars).dropWhile isBlank = trimRight chars := by
  -- What is left starts as before, if anything is left.
  have shorter : trimRight chars <+: chars := List.rdropWhile_prefix isBlank chars
  cases left : trimRight chars with
  | nil => rfl
  | cons first rest =>
    rw [left] at shorter
    obtain ⟨cut, rfl⟩ := shorter
    have visible := List.dropWhile_eq_self_iff.1 kept (by simp)
    rw [List.dropWhile_cons_of_neg (by simpa using visible)]

/-- Trimming a trimmed text changes nothing. -/
@[simp] theorem trimBlanks_trimBlanks (text : String) : trimBlanks (trimBlanks text) = trimBlanks text := by
  -- The start stays trimmed when the end is, and each end is trimmed once and for all.
  have started : (trimLeft text.toList).dropWhile isBlank = trimLeft text.toList :=
    List.dropWhile_idempotent isBlank text.toList
  have ended : trimRight (trimRight (trimLeft text.toList)) = trimRight (trimLeft text.toList) :=
    List.rdropWhile_idempotent isBlank _
  simp only [trimBlanks, String.toList_ofList]
  rw [show trimLeft (trimRight (trimLeft text.toList)) = trimRight (trimLeft text.toList) from
    dropWhile_trimRight started, ended]

end PipelineTrial
