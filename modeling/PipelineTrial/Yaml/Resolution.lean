import PipelineTrial.Decimal.Scaled
import PipelineTrial.Yaml.Cursor
import PipelineTrial.Yaml.Tree

/-! The values that scalars stand for: null, booleans, numbers and texts. -/

namespace PipelineTrial

namespace Yaml

/-- Whether a text is one of the words for null. -/
def isNullWord (text : String) : Bool :=
  -- Case counts beyond these spellings.
  text == "null" || text == "Null" || text == "NULL" || text == "~"

/-- The boolean that a word stands for. -/
def booleanWord? (text : String) : Option Bool :=
  -- Other words for truth are texts.
  if text == "true" || text == "True" || text == "TRUE" then some true
  else if text == "false" || text == "False" || text == "FALSE" then some false
  else none

/-- The number that digits of a base write, of which there must be one. -/
def digitsInBase? (base : Nat) (digits : List Char) : Option Nat :=
  -- Letters are digits from ten on.
  if digits.isEmpty then none
  else digits.foldlM
    (fun total digit =>
      let value :=
        if digit.isDigit then digit.toNat - 48
        else if 'a' ≤ digit && digit ≤ 'z' then digit.toNat - 87
        else if 'A' ≤ digit && digit ≤ 'Z' then digit.toNat - 55
        else base
      if value < base then some (total * base + value) else none)
    0

/-- The base that a number announces after its sign, and its digits. -/
def announcedBase? : List Char → Option (Nat × List Char)
  | '0' :: 'x' :: digits => some (16, digits)
  | '0' :: 'o' :: digits => some (8, digits)
  | '0' :: 'b' :: digits => some (2, digits)
  | _ => none

/-- A sign and what follows it. -/
def splitSign : List Char → Option Char × List Char
  | '+' :: rest => (some '+', rest)
  | '-' :: rest => (some '-', rest)
  | rest => (none, rest)

/-- Several digits of which the first is zero, which write no number. -/
def hasLeadingZero (chars : List Char) : Bool :=
  -- The sign does not matter.
  match (splitSign chars).2 with
  | '0' :: rest => !rest.isEmpty && rest.all Char.isDigit
  | _ => false

/-- The whole number of at most 128 bits that a text writes. -/
def wholeNumber? (chars : List Char) : Option Int :=
  -- A negative number may use one bit less.
  let (sign, unsigned) := splitSign chars
  let magnitude? :=
    match (announcedBase? unsigned).bind fun (base, digits) => digitsInBase? base digits with
    | some magnitude => some magnitude
    | none => if hasLeadingZero chars then none else digitsInBase? 10 unsigned
  match magnitude? with
  | none => none
  | some magnitude =>
    if sign == some '-' then if magnitude ≤ Nat.pow 2 127 then some (-(magnitude : Int)) else none
    else if magnitude < Nat.pow 2 128 then some magnitude else none

/-- A finite number with a point or an exponent. -/
def decimalNumber? (chars : List Char) : Option Float := do
  -- Digits are needed on at least one side of the point.
  let (sign, unsigned) := splitSign chars
  let whole := unsigned.takeWhile Char.isDigit
  let rest := unsigned.dropWhile Char.isDigit
  let (fraction, rest) := match rest with
    | '.' :: afterPoint => (afterPoint.takeWhile Char.isDigit, afterPoint.dropWhile Char.isDigit)
    | _ => ([], rest)
  if whole.isEmpty && fraction.isEmpty then none
  let exponent : Int ← match rest with
    | [] => some 0
    | mark :: afterMark =>
      if mark == 'e' || mark == 'E' then
        let (sign, digits) := splitSign afterMark
        if digits.isEmpty || !digits.all Char.isDigit then none
        else
          let value : Int := digitsValue digits
          some (if sign == some '-' then -value else value)
      else none
  let magnitude := roundedDecimal (digitsValue (whole ++ fraction)) (exponent - fraction.length)
  if magnitude.isFinite then some (if sign == some '-' then -magnitude else magnitude) else none

/-- The floating-point number that a text writes. -/
def floatNumber? (text : String) : Option Float :=
  -- The words for infinity take a sign, and the word for no number does not.
  match text with
  | ".inf" | ".Inf" | ".INF" | "+.inf" | "+.Inf" | "+.INF" => some (1.0 / 0.0)
  | "-.inf" | "-.Inf" | "-.INF" => some (-1.0 / 0.0)
  | ".nan" | ".NaN" | ".NAN" => some (0.0 / 0.0)
  | _ => decimalNumber? text.toList

/-- A whole number as a value; one that 64 bits cannot hold has none. -/
def integerValue (number : Int) : Reading Yaml :=
  -- Positive numbers may use the sign bit.
  if -(Nat.pow 2 63) ≤ number && number < Nat.pow 2 64 then .ok (.integer number) else .error .hugeInteger

/-- The value of a plain scalar. -/
def plainValue (text : String) : Reading Yaml :=
  -- Null, booleans, whole numbers and other numbers are tried in this order.
  if text.isEmpty || isNullWord text then .ok .null
  else
    match booleanWord? text with
    | some value => .ok (.boolean value)
    | none =>
      match wholeNumber? text.toList with
      | some number => integerValue number
      | none =>
        if hasLeadingZero text.toList then .ok (.text text)
        else
          match floatNumber? text with
          | some number => .ok (.float number)
          | none => .ok (.text text)

/-- The start of the tags that name types. -/
def coreTag (type : String) : String := "tag:yaml.org,2002:" ++ type

/-- The value of a scalar with a tag that names a type or with a tag that means nothing here. -/
def typedValue (tag text : String) : Reading Yaml :=
  -- A text that is no value of its named type is a fault.
  let required (value? : Option (Reading Yaml)) : Reading Yaml :=
    value?.getD (.error .wrongTaggedScalar)
  if tag == coreTag "bool" then required ((booleanWord? text).map fun value => .ok (.boolean value))
  else if tag == coreTag "int" then required ((wholeNumber? text.toList).map integerValue)
  else if tag == coreTag "float" then
    required ((floatNumber? text).map fun value => .ok (.float value))
  else if tag == coreTag "null" then required (if isNullWord text then some (.ok .null) else none)
  else .ok (.text text)

/-- The name of a tag that stays on its value, without its mark. -/
def keptTag? (tag : String) : Option String :=
  -- Only local tags stay, and the lone mark is its own name.
  match tag.toList with
  | ['!'] => some "!"
  | '!' :: rest => some (String.ofList rest)
  | _ => none

end Yaml

end PipelineTrial
