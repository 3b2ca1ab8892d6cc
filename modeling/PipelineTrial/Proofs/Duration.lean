import PipelineTrial.Duration

/-! Spans of time add up and compare like their numbers of nanoseconds. -/

namespace PipelineTrial

namespace Duration

/-- A span is its number of nanoseconds. -/
@[ext] theorem ext {left right : Duration} (same : left.nanoseconds = right.nanoseconds) : left = right := by
  -- There is nothing else to it.
  cases left
  cases right
  exact congrArg Duration.mk same

@[simp] theorem nanoseconds_zero : zero.nanoseconds = 0 := rfl

@[simp] theorem nanoseconds_add (left right : Duration) :
    (left + right).nanoseconds = left.nanoseconds + right.nanoseconds := rfl

@[simp] theorem nanoseconds_sub (left right : Duration) :
    (left - right).nanoseconds = left.nanoseconds - right.nanoseconds := rfl

theorem le_iff {left right : Duration} : left ≤ right ↔ left.nanoseconds ≤ right.nanoseconds := Iff.rfl

theorem lt_iff {left right : Duration} : left < right ↔ left.nanoseconds < right.nanoseconds := Iff.rfl

@[simp] theorem add_zero (span : Duration) : span + zero = span := by
  ext
  simp

theorem add_assoc (first second third : Duration) : first + second + third = first + (second + third) := by
  ext
  simp only [nanoseconds_add]
  omega

/-- The time since the start of a span is the span. -/
@[simp] theorem add_sub_cancel_left (start span : Duration) : start + span - start = span := by
  ext
  simp

/-- The time between two times does not depend on where both are counted from. -/
@[simp] theorem add_sub_add_left (start left right : Duration) :
    start + left - (start + right) = left - right := by
  ext
  simp only [nanoseconds_add, nanoseconds_sub]
  omega

/-- The order of two times does not depend on where both are counted from. -/
@[simp] theorem add_le_add_left_iff (start left right : Duration) :
    start + left ≤ start + right ↔ left ≤ right := by
  simp only [le_iff, nanoseconds_add]
  omega

end Duration

end PipelineTrial
