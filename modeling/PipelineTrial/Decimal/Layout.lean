import PipelineTrial.Decimal.Shortest

/-! How the shortest digits of a number are laid out: in positions or with an exponent. -/

namespace PipelineTrial

/-- The choices of a number format. -/
structure NumberLayout where
  /-- The least exponent of the leading digit that is written in positions. -/
  positionalFrom : Int
  /-- The first larger exponent of the leading digit that is written with an exponent. -/
  positionalBelow : Int
  /-- Whether a whole number keeps a point and a zero. -/
  keepsPoint : Bool
  /-- Whether a positive exponent carries its sign. -/
  plusSign : Bool
  /-- Whether a negative zero keeps its sign. -/
  signedZero : Bool

namespace NumberLayout

/-- The digits of a number with its point in position. -/
def positional (layout : NumberLayout) (digits : List Char) (leading : Int) : List Char :=
  -- The point falls before, inside or after the digits.
  if leading < 0 then '0' :: '.' :: (List.replicate (-leading - 1).toNat '0' ++ digits)
  else
    let wholeLength := leading.toNat + 1
    if digits.length ≤ wholeLength then
      digits ++ List.replicate (wholeLength - digits.length) '0'
        ++ (if layout.keepsPoint then ['.', '0'] else [])
    else digits.take wholeLength ++ '.' :: digits.drop wholeLength

/-- The digits of a number with one digit before the point and an exponent. -/
def scientific (layout : NumberLayout) (digits : List Char) (leading : Int) : List Char :=
  -- A single digit needs no point, and exponents are not padded.
  let point := match digits with
    | [] => []
    | [digit] => [digit]
    | digit :: rest => digit :: '.' :: rest
  let sign := if leading < 0 then ['-'] else if layout.plusSign then ['+'] else []
  point ++ 'e' :: (sign ++ Nat.toDigits 10 leading.natAbs)

/-- A positive decimal number in the layout. -/
def writeDecimal (layout : NumberLayout) (decimal : Decimal) : List Char :=
  -- The exponent of the leading digit chooses the form.
  let leading := decimal.leadingExponent
  if layout.positionalFrom ≤ leading && leading < layout.positionalBelow then
    layout.positional decimal.digits leading
  else layout.scientific decimal.digits leading

/-- A finite number in the layout. -/
def write (layout : NumberLayout) (number : Float) : String :=
  -- The sign is the top bit, and zero has no digits to choose.
  let negative := number.toBits ≥ 0x8000000000000000
  if number == 0.0 then
    (if negative && layout.signedZero then "-" else "") ++ (if layout.keepsPoint then "0.0" else "0")
  else (if negative then "-" else "") ++ String.ofList (layout.writeDecimal (shortestDecimal number))

end NumberLayout

end PipelineTrial
