import PipelineTrial.Decimal.Scaled
import PipelineTrial.Json.Value
import PipelineTrial.Text.Units

/-! Reading JSON text: strict syntax, at most 127 open brackets, the last of repeated names wins. -/

namespace PipelineTrial

namespace Json

/-- A character that may stand between tokens. -/
def isSpace (char : Char) : Bool :=
  -- The grammar has four of them.
  char == ' ' || char == '\n' || char == '\t' || char == '\r'

/-- The characters after leading blanks. -/
def skipSpace (chars : List Char) : List Char :=
  -- Only the leading run is dropped.
  chars.dropWhile isSpace

/-- The digits taken into a significand below 2⁶⁴, and the digits left when the next would overflow. -/
def absorbDigits (significand : Nat) : List Char → Nat × List Char
  | [] => (significand, [])
  | digit :: rest =>
    -- The first digit that does not fit ends the intake.
    let next := significand * 10 + (digit.toNat - 48)
    if next < Nat.pow 2 64 then absorbDigits next rest else (significand, digit :: rest)

/-- The digits at the start of a text, at least one. -/
def readDigits (chars : List Char) : Option (List Char × List Char) :=
  -- The run ends at the first other character.
  let digits := chars.takeWhile Char.isDigit
  if digits.isEmpty then none else some (digits, chars.dropWhile Char.isDigit)

/-- Whether an exponent is negative, and what follows its sign. -/
def readSign : List Char → Bool × List Char
  | '+' :: rest => (false, rest)
  | '-' :: rest => (true, rest)
  | chars => (false, chars)

/-- An exponent with its sign, after its mark. -/
def readExponent (chars : List Char) : Option (Int × List Char) :=
  -- At least one digit must follow the sign.
  let (negative, chars) := readSign chars
  match readDigits chars with
  | none => none
  | some (digits, rest) =>
    let value : Int := digitsValue digits
    some (if negative then -value else value, rest)

/-- The exponent that may stand at the end of a number. -/
def readOptionalExponent : List Char → Option (Option Int × List Char)
  | [] => some (none, [])
  | mark :: rest =>
    -- A mark without digits is no exponent.
    if mark == 'e' || mark == 'E' then
      match readExponent rest with
      | none => none
      | some (exponent, rest) => some (some exponent, rest)
    else some (none, mark :: rest)

/-- The digits of a fraction, none when no point follows the whole digits. -/
def readFraction : List Char → Option (List Char × List Char)
  | '.' :: rest => readDigits rest
  | chars => some ([], chars)

/-- The digits of a whole number. -/
def readWhole (chars : List Char) : Option (List Char × List Char) :=
  -- A number that starts with zero has no other whole digit.
  match readDigits chars with
  | none => none
  | some (digits, rest) =>
    if digits.head? == some '0' && digits.length != 1 then none else some (digits, rest)

/-- A significand times a power of ten, when it is not too large. -/
def scaledNumber? (negative : Bool) (significand : Nat) (exponent : Int) : Option Json :=
  -- Scaled numbers are floating-point numbers.
  match scaledDecimal? significand exponent with
  | none => none
  | some number => some (.float (if negative then -number else number))

/-- The number with given digits and exponent. -/
def numberOf? (negative : Bool) (whole fraction : List Char) (exponent : Option Int) : Option Json :=
  -- Digits that no longer fit the significand only count as places.
  let (significand, dropped) := absorbDigits 0 whole
  match fraction, exponent with
  | [], none =>
    -- Whole numbers that fit a 64-bit word stay whole, and a negative zero does not.
    if dropped.length != 0 then scaledNumber? negative significand dropped.length
    else if !negative then some (.integer significand)
    else if significand == 0 || Nat.pow 2 63 < significand then scaledNumber? negative significand 0
    else some (.integer (-(significand : Int)))
  | _, _ =>
    let (significand, ignored) := absorbDigits significand fraction
    let places : Int := (dropped.length : Int) - ((fraction.length : Int) - ignored.length)
    scaledNumber? negative significand (places + exponent.getD 0)

/-- A number without its sign. -/
def readMagnitude (negative : Bool) (chars : List Char) : Option (Json × List Char) := do
  -- The number is known once all of its parts are.
  let (whole, rest) ← readWhole chars
  let (fraction, rest) ← readFraction rest
  let (exponent, rest) ← readOptionalExponent rest
  some (← numberOf? negative whole fraction exponent, rest)

/-- The value of a hexadecimal digit. -/
def hexValue? (char : Char) : Option Nat :=
  -- Letters count in both cases.
  let code := char.toNat
  if 48 ≤ code && code ≤ 57 then some (code - 48)
  else if 97 ≤ code && code ≤ 102 then some (code - 87)
  else if 65 ≤ code && code ≤ 70 then some (code - 55)
  else none

/-- Four hexadecimal digits as one UTF-16 unit. -/
def readUnit : List Char → Option (UInt16 × List Char)
  | first :: second :: third :: fourth :: rest => do
    let value := ((← hexValue? first) * 16 + (← hexValue? second)) * 16 + (← hexValue? third)
    some (UInt16.ofNat (value * 16 + (← hexValue? fourth)), rest)
  | _ => none

/-- The character of a numbered escape, where surrogates must come in pairs. -/
def readNumberedEscape (chars : List Char) : Option (Char × List Char) := do
  -- A high surrogate needs the escape of a low one right after it.
  let (unit, rest) ← readUnit chars
  if Units.isLowSurrogate unit then none
  else if Units.isHighSurrogate unit then
    match rest with
    | '\\' :: 'u' :: afterMark =>
      let (low, rest) ← readUnit afterMark
      if Units.isLowSurrogate low then some (Units.pairChar unit low, rest) else none
    | _ => none
  else some (Char.ofNat unit.toNat, rest)

/-- The character of an escape, after its mark. -/
def readEscape (mark : Char) (rest : List Char) : Option (Char × List Char) :=
  -- Only the numbered escape goes on behind its mark.
  match mark with
  | '"' => some ('"', rest)
  | '\\' => some ('\\', rest)
  | '/' => some ('/', rest)
  | 'b' => some ('\x08', rest)
  | 'f' => some ('\x0c', rest)
  | 'n' => some ('\n', rest)
  | 'r' => some ('\r', rest)
  | 't' => some ('\t', rest)
  | 'u' => readNumberedEscape rest
  | _ => none

/-- The characters of a text up to its closing quote. -/
def readText (fuel : Nat) (chars : List Char) : Option (List Char × List Char) :=
  -- Every step takes at least one character.
  match fuel, chars with
  | 0, _ => none
  | _ + 1, '"' :: rest => some ([], rest)
  | fuel + 1, '\\' :: mark :: rest => do
    let (char, rest) ← readEscape mark rest
    let (tail, rest) ← readText fuel rest
    some (char :: tail, rest)
  | fuel + 1, char :: rest =>
    if char.toNat < 32 || char == '\\' then none
    else do
      let (tail, rest) ← readText fuel rest
      some (char :: tail, rest)
  | _ + 1, [] => none

/-- The characters after a given word. -/
def expect : List Char → List Char → Option (List Char)
  | [], chars => some chars
  | wanted :: more, char :: rest => if wanted == char then expect more rest else none
  | _ :: _, [] => none

mutual

/-- A value with at most `depth` open brackets. -/
def readValue (fuel depth : Nat) (chars : List Char) : Option (Json × List Char) :=
  -- The first character after blanks decides the kind of value.
  match fuel with
  | 0 => none
  | fuel + 1 =>
    match skipSpace chars with
    | 'n' :: rest => do some (.null, ← expect ['u', 'l', 'l'] rest)
    | 't' :: rest => do some (.boolean true, ← expect ['r', 'u', 'e'] rest)
    | 'f' :: rest => do some (.boolean false, ← expect ['a', 'l', 's', 'e'] rest)
    | '"' :: rest => do
      let (content, rest) ← readText (rest.length + 1) rest
      some (.text (String.ofList content), rest)
    | '-' :: rest => readMagnitude true rest
    | '[' :: rest =>
      match depth with
      | 0 => none
      | depth + 1 =>
        match skipSpace rest with
        | ']' :: rest => some (.list [], rest)
        | rest => do
          let (items, rest) ← readItems fuel depth rest
          some (.list items, rest)
    | '{' :: rest =>
      match depth with
      | 0 => none
      | depth + 1 =>
        match skipSpace rest with
        | '}' :: rest => some (.object [], rest)
        | rest => do
          let (fields, rest) ← readFields fuel depth rest
          some (.object (Entries.ofList fields), rest)
    | rest => readMagnitude false rest

/-- The items of a list up to its closing bracket. -/
def readItems (fuel depth : Nat) (chars : List Char) : Option (List Json × List Char) :=
  -- A comma must be followed by another item.
  match fuel with
  | 0 => none
  | fuel + 1 => do
    let (item, rest) ← readValue fuel depth chars
    match skipSpace rest with
    | ',' :: rest =>
      let (items, rest) ← readItems fuel depth rest
      some (item :: items, rest)
    | ']' :: rest => some ([item], rest)
    | _ => none

/-- The fields of an object up to its closing brace, in written order. -/
def readFields (fuel depth : Nat) (chars : List Char) :
    Option (List (String × Json) × List Char) :=
  -- A comma must be followed by another field.
  match fuel with
  | 0 => none
  | fuel + 1 =>
    match skipSpace chars with
    | '"' :: rest => do
      let (name, rest) ← readText (rest.length + 1) rest
      match skipSpace rest with
      | ':' :: rest =>
        let (value, rest) ← readValue fuel depth rest
        match skipSpace rest with
        | ',' :: rest =>
          let (fields, rest) ← readFields fuel depth rest
          some ((String.ofList name, value) :: fields, rest)
        | '}' :: rest => some ([(String.ofList name, value)], rest)
        | _ => none
      | _ => none
    | _ => none

end

/-- The largest number of brackets that may be open at once. -/
def depthLimit : Nat := 127

/-- The value that a text writes, when it writes one and nothing else. -/
def parse? (text : String) : Option Json := do
  -- Each reading step takes a character or ends a bracket, so twice the length is enough.
  let chars := text.toList
  let (value, rest) ← readValue (2 * chars.length + 2) depthLimit chars
  if (skipSpace rest).isEmpty then some value else none

/-- The fields of the object that a text writes, in written order and with repeated names. -/
def parseFields? (text : String) : Option (List (String × Json)) :=
  -- The text writes an object and nothing else.
  let chars := text.toList
  match skipSpace chars with
  | '{' :: rest =>
    match skipSpace rest with
    | '}' :: rest => if (skipSpace rest).isEmpty then some [] else none
    | rest => do
      let (fields, rest) ← readFields (2 * chars.length + 2) depthLimit rest
      if (skipSpace rest).isEmpty then some fields else none
  | _ => none

end Json

end PipelineTrial
