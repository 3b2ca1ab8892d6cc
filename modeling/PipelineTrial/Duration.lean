/-! Spans of time in whole nanoseconds and their text. -/

namespace PipelineTrial

/-- A span of time. -/
structure Duration where
  nanoseconds : Nat
  deriving DecidableEq, Inhabited, Ord

namespace Duration

/-- No time. -/
def zero : Duration := ⟨0⟩

/-- A span of whole seconds. -/
def ofSeconds (seconds : Nat) : Duration :=
  -- A second has 10⁹ nanoseconds.
  ⟨seconds * 1000000000⟩

/-- A span of whole milliseconds. -/
def ofMilliseconds (milliseconds : Nat) : Duration :=
  -- A millisecond has 10⁶ nanoseconds.
  ⟨milliseconds * 1000000⟩

instance : Add Duration := ⟨fun left right => ⟨left.nanoseconds + right.nanoseconds⟩⟩
instance : Sub Duration := ⟨fun left right => ⟨left.nanoseconds - right.nanoseconds⟩⟩
instance : LT Duration := ⟨fun left right => left.nanoseconds < right.nanoseconds⟩
instance : LE Duration := ⟨fun left right => left.nanoseconds ≤ right.nanoseconds⟩
instance (left right : Duration) : Decidable (left < right) :=
  inferInstanceAs (Decidable (left.nanoseconds < right.nanoseconds))
instance (left right : Duration) : Decidable (left ≤ right) :=
  inferInstanceAs (Decidable (left.nanoseconds ≤ right.nanoseconds))

/-- The whole seconds of a span. -/
def wholeSeconds (duration : Duration) : Nat := duration.nanoseconds / 1000000000

/-- The nanoseconds past the last whole second. -/
def subsecondNanoseconds (duration : Duration) : Nat := duration.nanoseconds % 1000000000

/-- The whole milliseconds of a span. -/
def wholeMilliseconds (duration : Duration) : Nat := duration.nanoseconds / 1000000

/-- The span as a number of seconds: whole seconds and fraction are rounded apart, then added. -/
def toSeconds (duration : Duration) : Float :=
  -- Both parts are exact or rounded once before the sum.
  Float.ofNat duration.wholeSeconds + Float.ofNat duration.subsecondNanoseconds / 1000000000.0

/-- The digits of a fraction with a fixed number of places, without trailing zeros. -/
private def fractionDigits (fraction places : Nat) : List Char :=
  -- Leading zeros are kept by padding before the trailing ones are cut.
  let digits := Nat.toDigits 10 fraction
  let padded := List.replicate (places - digits.length) '0' ++ digits
  (padded.reverse.dropWhile (· == '0')).reverse

/-- A count of a unit with its fraction, trailing zeros dropped. -/
private def withFraction (whole fraction places : Nat) (unit : String) : String :=
  -- A zero fraction leaves no point.
  let digits := fractionDigits fraction places
  let shown := if fraction = 0 then "" else "." ++ String.ofList digits
  toString whole ++ shown ++ unit

/-- The span in the largest unit of which it holds at least one. -/
def text (duration : Duration) : String :=
  -- Seconds, then milliseconds, microseconds and nanoseconds are tried.
  let count := duration.nanoseconds
  if 1000000000 ≤ count then withFraction (count / 1000000000) (count % 1000000000) 9 "s"
  else if 1000000 ≤ count then withFraction (count / 1000000) (count % 1000000) 6 "ms"
  else if 1000 ≤ count then withFraction (count / 1000) (count % 1000) 3 "µs"
  else withFraction count 0 0 "ns"

end Duration

end PipelineTrial
