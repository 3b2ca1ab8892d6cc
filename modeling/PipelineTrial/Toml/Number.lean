import PipelineTrial.Toml.Text
import PipelineTrial.Toml.Value

/-! Numbers, dates and times in TOML documents. -/

namespace PipelineTrial

namespace Toml

/-- Digits, single underscores between which are dropped. -/
def readDigits (isDigit : Char → Bool) : List Char → Read (List Char)
  | [] => none
  | [digit] => if isDigit digit then some ([digit], []) else none
  | digit :: next :: rest =>
    if !isDigit digit then none
    else if isDigit next then
      match readDigits isDigit (next :: rest) with
      | none => none
      | some (digits, rest) => some (digit :: digits, rest)
    else if next = '_' then
      match readDigits isDigit rest with
      | none => none
      | some (digits, rest) => some (digit :: digits, rest)
    else some ([digit], next :: rest)

/-- The number of digits in a base. -/
def valueIn (base : Nat) (digits : List Char) : Nat :=
  -- Letters stand for the digits from ten on.
  digits.foldl
    (fun value digit =>
      value * base + if digit.isDigit then digit.toNat - 48 else digit.toLower.toNat - 87)
    0

/-- A sign, and whether it is a minus. -/
def readSign : List Char → Bool × List Char
  | '+' :: rest => (false, rest)
  | '-' :: rest => (true, rest)
  | chars => (false, chars)

/-- The digits of a decimal number, which has no leading zeros. -/
def readDecimal : List Char → Read (List Char)
  | '0' :: rest => some (['0'], rest)
  | chars => readDigits Char.isDigit chars

/-- A whole number when it fits into 64 bits. -/
def fitting? (value : Int) : Option Toml :=
  -- The range is that of signed words.
  if -(Nat.pow 2 63 : Int) ≤ value ∧ value < Nat.pow 2 63 then some (.integer value) else none

/-- A whole number in a base after its mark. -/
def readBased (base : Nat) (isDigit : Char → Bool) (chars : List Char) : Option (Toml × List Char) := do
  -- Neither sign nor negative values occur.
  let (digits, rest) ← readDigits isDigit chars
  let value ← fitting? (valueIn base digits)
  some (value, rest)

/-- A whole number. -/
def readInteger (chars : List Char) : Option (Toml × List Char) :=
  -- Numbers with a mark have no sign.
  match chars with
  | '0' :: 'x' :: rest =>
    readBased 16
      (fun char => char.isDigit || ('a' ≤ char && char ≤ 'f') || ('A' ≤ char && char ≤ 'F')) rest
  | '0' :: 'o' :: rest => readBased 8 (fun char => '0' ≤ char && char ≤ '7') rest
  | '0' :: 'b' :: rest => readBased 2 (fun char => char == '0' || char == '1') rest
  | _ => do
    let (negative, rest) := readSign chars
    let (digits, rest) ← readDecimal rest
    let magnitude : Int := valueIn 10 digits
    let value ← fitting? (if negative then -magnitude else magnitude)
    some (value, rest)

/-- The exponent of a floating-point number, if one follows. -/
def readPower (chars : List Char) : Read (Option Int) :=
  -- Leading zeros are allowed here.
  let after (rest : List Char) : Option ((Option Int) × List Char) := do
    let (negative, rest) := readSign rest
    let (digits, rest) ← readDigits Char.isDigit rest
    let magnitude : Int := valueIn 10 digits
    some (some (if negative then -magnitude else magnitude), rest)
  match chars with
  | 'e' :: rest => after rest
  | 'E' :: rest => after rest
  | _ => some (none, chars)

/-- The floating-point number of digits, of which some are decimal places, times a power of ten. -/
def scaled (digits : List Char) (places : Nat) (power : Int) : Float :=
  -- The exponent is kept within the reach of any result.
  let exponent : Int := power - places
  let bounded : Int := max (-100000) (min 100000 exponent)
  Float.ofScientific (valueIn 10 digits) (bounded < 0) bounded.natAbs

/-- A floating-point number with a fraction or an exponent; too large a number is none. -/
def readFloat (chars : List Char) : Option (Toml × List Char) := do
  -- Only positive overflow counts.
  let (negative, rest) := readSign chars
  let finish (digits : List Char) (places : Nat) (power : Int) (rest : List Char) : Read Toml :=
    let magnitude := scaled digits places power
    if magnitude.isInf && !negative then none
    else some (.float (if negative then -magnitude else magnitude), rest)
  let (whole, rest) ← readDecimal rest
  match rest with
  | '.' :: afterPoint =>
    let (fraction, rest) ← readDigits Char.isDigit afterPoint
    let (power, rest) ← readPower rest
    finish (whole ++ fraction) fraction.length (power.getD 0) rest
  | rest =>
    let (power, rest) ← readPower rest
    finish whole 0 (← power) rest

/-- The special floating-point numbers. -/
def readSpecial (chars : List Char) : Read Toml :=
  -- Both allow a sign.
  let (negative, rest) := readSign chars
  let infinity : Float := 1.0 / 0.0
  match rest with
  | 'i' :: 'n' :: 'f' :: rest => some (.float (if negative then -infinity else infinity), rest)
  | 'n' :: 'a' :: 'n' :: rest => some (.float (0.0 / 0.0), rest)
  | _ => none

/-- A number of a fixed count of digits within bounds. -/
def readPart (count least greatest : Nat) (chars : List Char) : Read Nat :=
  -- All digits are required.
  let digits := chars.take count
  let value := valueIn 10 digits
  if digits.length = count && digits.all Char.isDigit && least ≤ value && value ≤ greatest then
    some (value, chars.drop count)
  else none

/-- The characters after a given one. -/
def expectChar (wanted : Char) : List Char → Option (List Char)
  | char :: rest => if char = wanted then some rest else none
  | [] => none

/-- The number of days in a month. -/
def daysIn (year month : Nat) : Nat :=
  -- Leap years follow the Gregorian rule.
  if month = 2 then
    if year % 4 = 0 ∧ (year % 100 ≠ 0 ∨ year % 400 = 0) then 29 else 28
  else if month = 4 ∨ month = 6 ∨ month = 9 ∨ month = 11 then 30
  else 31

/-- The characters after a date. -/
def skipDate? (chars : List Char) : Option (List Char) := do
  -- The day has to exist.
  let (year, rest) ← readPart 4 0 9999 chars
  let rest ← expectChar '-' rest
  let (month, rest) ← readPart 2 1 12 rest
  let rest ← expectChar '-' rest
  let (_, rest) ← readPart 2 1 (daysIn year month) rest
  some rest

/-- The characters after a time of day, which may have a fraction of a second. -/
def skipTime? (chars : List Char) : Option (List Char) := do
  -- A minute can have a leap second.
  let (_, rest) ← readPart 2 0 23 chars
  let rest ← expectChar ':' rest
  let (_, rest) ← readPart 2 0 59 rest
  let rest ← expectChar ':' rest
  let (_, rest) ← readPart 2 0 60 rest
  match rest with
  | '.' :: fraction =>
    if (fraction.takeWhile Char.isDigit).isEmpty then some rest
    else some (fraction.dropWhile Char.isDigit)
  | rest => some rest

/-- The characters after the offset of a time zone, if one follows. -/
def skipOffset (chars : List Char) : List Char :=
  -- Hours and minutes follow a sign.
  let after (rest : List Char) : Option (List Char) := do
    let (_, rest) ← readPart 2 0 23 rest
    let rest ← expectChar ':' rest
    let (_, rest) ← readPart 2 0 59 rest
    some rest
  match chars with
  | 'Z' :: rest => rest
  | 'z' :: rest => rest
  | '+' :: rest => (after rest).getD chars
  | '-' :: rest => (after rest).getD chars
  | _ => chars

/-- A date, a time of day, or both with or without an offset. -/
def readMoment (chars : List Char) : Read Toml :=
  -- A time may follow a date after a mark or a blank.
  let moment (rest : List Char) : Read Toml :=
    some (.moment (String.ofList (chars.take (chars.length - rest.length))), rest)
  match skipDate? chars with
  | some afterDate =>
    match afterDate with
    | mark :: rest =>
      if mark = 'T' || mark = 't' || mark = ' ' then
        match skipTime? rest with
        | some afterTime => moment (skipOffset afterTime)
        | none => moment afterDate
      else moment afterDate
    | [] => moment []
  | none =>
    match skipTime? chars with
    | some afterTime => moment afterTime
    | none => none

/-- A number, a date or a time. -/
def readNumeric (chars : List Char) : Read Toml :=
  -- The longer forms are tried first.
  (readMoment chars).or ((readFloat chars).or ((readSpecial chars).or (readInteger chars)))

end Toml

end PipelineTrial
