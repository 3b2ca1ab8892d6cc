import PipelineTrial.Script.Library.Objects

/-! Ready-made points in time, counted in milliseconds of universal time. -/

namespace PipelineTrial

namespace Script

/-- The milliseconds of a day. -/
def dayLength : Int := 86400000

/-- A day of the calendar. -/
structure CalendarDay where
  year : Int
  /-- The month, counted from zero. -/
  month : Int
  day : Int

/-- The calendar day of a number of days since the start of 1970. -/
def calendarDay (days : Int) : CalendarDay :=
  -- Years are counted from March on, in eras of 400 years.
  let shifted := days + 719468
  let era := Int.fdiv shifted 146097
  let dayOfEra := shifted - era * 146097
  let yearOfEra := (dayOfEra - dayOfEra / 1460 + dayOfEra / 36524 - dayOfEra / 146096) / 365
  let dayOfYear := dayOfEra - (365 * yearOfEra + yearOfEra / 4 - yearOfEra / 100)
  let monthFromMarch := (5 * dayOfYear + 2) / 153
  let day := dayOfYear - (153 * monthFromMarch + 2) / 5 + 1
  let month := if monthFromMarch < 10 then monthFromMarch + 2 else monthFromMarch - 10
  ⟨yearOfEra + era * 400 + (if month < 2 then 1 else 0), month, day⟩

/-- The number of days since the start of 1970 of a day, where months may lie outside of the year. -/
def daysOf (year month day : Int) : Int :=
  -- Months are first brought into the year.
  let year := year + Int.fdiv month 12
  let month := Int.emod month 12
  let shiftedYear := if month < 2 then year - 1 else year
  let era := Int.fdiv shiftedYear 400
  let yearOfEra := shiftedYear - era * 400
  let monthFromMarch := Int.emod (month + 10) 12
  let dayOfYear := (153 * monthFromMarch + 2) / 5
  let dayOfEra := yearOfEra * 365 + yearOfEra / 4 - yearOfEra / 100 + dayOfYear
  era * 146097 + dayOfEra - 719468 + (day - 1)

/-- The latest point in time, in milliseconds after the start of 1970. -/
def latestMoment : Nat := 8640000000000000

/-- A number of milliseconds as a point in time, and no result when it is too far off. -/
def momentOf (number : Number) : Number :=
  -- Fractions are cut.
  if !number.isFinite then .undefinedResult
  else
    let whole := number.truncated
    if whole.natAbs ≤ latestMoment then .whole whole else .undefinedResult

/-- The digits of a number with leading zeros. -/
def paddedDigits (width value : Nat) : String :=
  -- Longer numbers are not cut.
  let digits := Nat.toDigits 10 value
  String.ofList (List.replicate (width - digits.length) '0' ++ digits)

/-- A point in time in the standard form of dates. -/
def standardText (time : Int) : String :=
  -- Years outside of four digits carry a sign and six digits.
  let date := calendarDay (Int.fdiv time dayLength)
  let rest := (Int.emod time dayLength).toNat
  let year :=
    if 0 ≤ date.year && date.year ≤ 9999 then paddedDigits 4 date.year.toNat
    else (if date.year < 0 then "-" else "+") ++ paddedDigits 6 date.year.natAbs
  year ++ "-" ++ paddedDigits 2 (date.month + 1).toNat ++ "-" ++ paddedDigits 2 date.day.toNat ++ "T"
    ++ paddedDigits 2 (rest / 3600000) ++ ":" ++ paddedDigits 2 (rest / 60000 % 60) ++ ":"
    ++ paddedDigits 2 (rest / 1000 % 60) ++ "." ++ paddedDigits 3 (rest % 1000) ++ "Z"

/-- The names of days, from Sunday on. -/
def dayNames : List String := ["Sun", "Mon", "Tue", "Wed", "Thu", "Fri", "Sat"]

/-- The names of months. -/
def monthNames : List String :=
  ["Jan", "Feb", "Mar", "Apr", "May", "Jun", "Jul", "Aug", "Sep", "Oct", "Nov", "Dec"]

/-- The day of the week of a point in time, counted from Sunday. -/
def dayOfWeek (time : Int) : Int := Int.emod (Int.fdiv time dayLength + 4) 7

/-- A point in time in words. -/
def wordyText (time : Int) : String :=
  -- The zone is that of universal time.
  let date := calendarDay (Int.fdiv time dayLength)
  let rest := (Int.emod time dayLength).toNat
  (dayNames[(dayOfWeek time).toNat]?.getD "") ++ " " ++ (monthNames[date.month.toNat]?.getD "") ++ " "
    ++ paddedDigits 2 date.day.toNat ++ " " ++ paddedDigits 4 date.year.toNat ++ " "
    ++ paddedDigits 2 (rest / 3600000) ++ ":" ++ paddedDigits 2 (rest / 60000 % 60) ++ ":"
    ++ paddedDigits 2 (rest / 1000 % 60) ++ " GMT+0000"

/-- A number of exactly some digits at the start of a text. -/
def readDigits (count : Nat) (chars : List Char) : Option (Int × List Char) :=
  -- Fewer digits are none.
  let digits := chars.take count
  if digits.length == count && digits.all Char.isDigit then
    some (digitsValue digits, chars.drop count)
  else none

/-- A number after a mark, or another value when the mark is not there. -/
def readMarked (mark : Char) (count : Nat) (otherwise : Int) (chars : List Char) :
    Option (Int × List Char) :=
  -- The mark calls for digits.
  match chars with
  | first :: rest => if first == mark then readDigits count rest else some (otherwise, chars)
  | [] => some (otherwise, [])

/-- The milliseconds of a fraction of a second. -/
def readMilliseconds (chars : List Char) : Option (Int × List Char) :=
  -- Three digits count, and further ones are dropped.
  match chars with
  | '.' :: rest =>
    let digits := rest.takeWhile Char.isDigit
    if digits.isEmpty then none
    else some (digitsValue ((digits ++ ['0', '0']).take 3), rest.dropWhile Char.isDigit)
  | other => some (0, other)

/-- The milliseconds by which a zone is ahead of universal time. -/
def readZone (chars : List Char) : Option Int := do
  -- A zone that is left out is universal time.
  match chars with
  | [] => some 0
  | ['Z'] => some 0
  | sign :: rest =>
    let (hours, rest) ← readDigits 2 rest
    let (minutes, rest) ← readMarked ':' 2 0 rest
    let offset := (hours * 60 + minutes) * 60000
    if !rest.isEmpty then none
    else if sign == '+' then some offset
    else if sign == '-' then some (-offset)
    else none

/-- The point in time that the standard form of a date names. -/
def readMoment (chars : List Char) : Option Int := do
  -- The time of the day may be left out.
  let (year, rest) ← readDigits 4 chars
  let (month, rest) ← readMarked '-' 2 1 rest
  let (day, rest) ← readMarked '-' 2 1 rest
  let days := daysOf year (month - 1) day
  if month < 1 || 12 < month || day < 1 || 31 < day then none
  else
    match rest with
    | [] => some (days * dayLength)
    | 'T' :: rest => do
      let (hours, rest) ← readDigits 2 rest
      let (minutes, rest) ← readMarked ':' 2 0 rest
      let (seconds, rest) ← readMarked ':' 2 0 rest
      let (milliseconds, rest) ← readMilliseconds rest
      let zone ← readZone rest
      if 24 < hours || 59 < minutes || 59 < seconds then none
      else
        some (days * dayLength + ((hours * 60 + minutes) * 60 + seconds) * 1000 + milliseconds - zone)
    | _ => none

/-- The point in time that a text names, and no result when it names none. -/
def momentOfText (units : Units) : Number :=
  -- Only the standard form is read.
  match units.toChars?.bind readMoment with
  | some time => momentOf (.ofInt time)
  | none => .undefinedResult

/-- The point in time of a date in parts, missing parts being the least ones. -/
def momentOfParts (parts : List Number) : Number :=
  -- Years below a hundred are counted from 1900.
  if parts.any fun number => !number.isFinite then .undefinedResult
  else
    let part (position : Nat) (otherwise : Int) : Int :=
      (parts[position]?.map Number.truncated).getD otherwise
    let year := part 0 1970
    let year := if 0 ≤ year && year ≤ 99 then 1900 + year else year
    let time := ((part 3 0 * 60 + part 4 0) * 60 + part 5 0) * 1000 + part 6 0
    momentOf (.ofInt (daysOf year (part 1 0) (part 2 1) * dayLength + time))

namespace Interpreter

/-- The time of the point that a method is called on. -/
def receiverMoment (receiver : Value) : Run Number := do
  -- Nothing is converted.
  match receiver with
  | .object address =>
    match (← Run.object address).kind with
    | .moment time => return time
    | _ => Run.failType "'this' is not a Date"
  | _ => Run.failType "'this' is not a Date"

/-- A part of the date or time of a point. -/
def momentPart (method : MomentMethod) (time : Int) : Int :=
  -- Days and the time of the day are told apart by division.
  let date := calendarDay (Int.fdiv time dayLength)
  let rest := Int.emod time dayLength
  match method with
  | .getDate => date.day
  | .getDay => dayOfWeek time
  | .getFullYear => date.year
  | .getHours => rest / 3600000
  | .getMilliseconds => rest % 1000
  | .getMinutes => rest / 60000 % 60
  | .getMonth => date.month
  | .getSeconds => rest / 1000 % 60
  | .getTimezoneOffset => 0
  | _ => time

/-- Runs a method of points in time. -/
def runMomentMethod (self : Interpreter) (method : MomentMethod) (receiver : Value) : Run Value := do
  -- One method takes any object that can show itself.
  match method with
  | .toJSON =>
    match ← self.toPrimitive receiver .number with
    | .number number =>
      if number.isFinite then self.invoke receiver (Units.ofString "toISOString") []
      else return .null
    | _ => self.invoke receiver (Units.ofString "toISOString") []
  | _ =>
    let time ← receiverMoment receiver
    match method with
    | .toISOString =>
      if time.isFinite then return textValue (standardText time.truncated)
      else Run.fail .rangeError "Invalid time value"
    | .toString =>
      return textValue (if time.isFinite then wordyText time.truncated else "Invalid Date")
    | _ =>
      if time.isFinite then return .number (.ofInt (momentPart method time.truncated))
      else return .number .undefinedResult

/-- The time that arguments name, the start of 1970 when there are none. -/
def momentOfArguments (self : Interpreter) (arguments : List Value) : Run Number := do
  -- A single argument is a count or a text.
  match arguments with
  | [] => return .whole 0
  | [value] =>
    match value with
    | .object address =>
      match (← Run.object address).kind with
      | .moment time => return time
      | _ => fromPrimitive (← self.toOperand value)
    | other => fromPrimitive other
  | parts => return momentOfParts (← parts.mapM self.toNumber)
where
  fromPrimitive : Value → Run Number
    | .text units => return momentOfText units
    | other => return momentOf (primitiveNumber other)

/-- Makes a point in time, or its text when it is not constructed. -/
def makeMoment (self : Interpreter) (arguments : List Value) (isConstructed : Bool) : Run Value := do
  -- Time stands still while a script runs.
  if isConstructed then
    let time ← self.momentOfArguments arguments
    return .object (← Run.make (ObjectRecord.bare (.moment time) .momentPrototype))
  else return textValue (wordyText 0)

/-- Runs a function that gives a time. -/
def runMomentOperation (self : Interpreter) (operation : MomentOperation) (arguments : List Value) :
    Run Value := do
  -- Times are numbers.
  match operation with
  | .now => return .number (.whole 0)
  | .parse => return .number (momentOfText (← self.toText (argument arguments 0)))
  | .utc => return .number (momentOfParts (← arguments.mapM self.toNumber))

end Interpreter

/-- The functions that give times by name. -/
def momentOperations : BuiltinTable MomentOperation :=
  [("UTC", 7, .utc), ("now", 0, .now), ("parse", 1, .parse)]

/-- The methods of points in time by name, local time being universal time. -/
def momentMethods : BuiltinTable MomentMethod :=
  [("getDate", 0, .getDate), ("getDay", 0, .getDay), ("getFullYear", 0, .getFullYear),
    ("getHours", 0, .getHours), ("getMilliseconds", 0, .getMilliseconds),
    ("getMinutes", 0, .getMinutes), ("getMonth", 0, .getMonth), ("getSeconds", 0, .getSeconds),
    ("getTime", 0, .getTime), ("getTimezoneOffset", 0, .getTimezoneOffset),
    ("getUTCDate", 0, .getDate), ("getUTCDay", 0, .getDay), ("getUTCFullYear", 0, .getFullYear),
    ("getUTCHours", 0, .getHours), ("getUTCMilliseconds", 0, .getMilliseconds),
    ("getUTCMinutes", 0, .getMinutes), ("getUTCMonth", 0, .getMonth),
    ("getUTCSeconds", 0, .getSeconds), ("toISOString", 0, .toISOString), ("toJSON", 1, .toJSON),
    ("toString", 0, .toString), ("valueOf", 0, .valueOf)]

end Script

end PipelineTrial
