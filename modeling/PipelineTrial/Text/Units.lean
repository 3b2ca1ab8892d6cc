/-! Texts as sequences of UTF-16 code units, where a character beyond the first plane is a pair of surrogates. -/

namespace PipelineTrial

/-- A text of UTF-16 code units, in which a surrogate may stand alone. -/
abbrev Units := List UInt16

namespace Units

/-- The first unit of a surrogate pair. -/
def isHighSurrogate (unit : UInt16) : Bool :=
  -- High surrogates fill the block from D800 to DBFF.
  0xd800 ≤ unit && unit ≤ 0xdbff

/-- The second unit of a surrogate pair. -/
def isLowSurrogate (unit : UInt16) : Bool :=
  -- Low surrogates fill the block from DC00 to DFFF.
  0xdc00 ≤ unit && unit ≤ 0xdfff

/-- The units of one character. -/
def ofChar (char : Char) : Units :=
  -- Beyond the first plane the offset is split into two groups of ten bits.
  let code := char.toNat
  if code < 0x10000 then [UInt16.ofNat code]
  else
    let offset := code - 0x10000
    [UInt16.ofNat (0xd800 + offset / 0x400), UInt16.ofNat (0xdc00 + offset % 0x400)]

/-- The units of a list of characters, in order. -/
def ofChars (chars : List Char) : Units :=
  -- Characters are encoded one by one.
  chars.flatMap ofChar

/-- The units of a text. -/
def ofString (text : String) : Units :=
  -- A text is the list of its characters.
  ofChars text.toList

/-- The character that a surrogate pair stands for. -/
def pairChar (high low : UInt16) : Char :=
  -- The two groups of ten bits are joined and moved past the first plane.
  Char.ofNat (0x10000 + (high.toNat - 0xd800) * 0x400 + (low.toNat - 0xdc00))

/-- One reading step: a character, or a surrogate that stands alone. -/
inductive Piece where
  | char (value : Char)
  | lone (unit : UInt16)

/-- The characters and lone surrogates of a text, in order. -/
def pieces : Units → List Piece
  | [] => []
  | [unit] => if isHighSurrogate unit || isLowSurrogate unit then [.lone unit]
      else [.char (Char.ofNat unit.toNat)]
  | first :: second :: rest =>
    -- A pair is taken whole, and any other surrogate stands alone.
    if isHighSurrogate first && isLowSurrogate second then
      .char (pairChar first second) :: pieces rest
    else if isHighSurrogate first || isLowSurrogate first then
      .lone first :: pieces (second :: rest)
    else .char (Char.ofNat first.toNat) :: pieces (second :: rest)

/-- The characters of a text in which every surrogate is paired. -/
def toChars? (units : Units) : Option (List Char) :=
  -- One lone surrogate leaves no list of characters.
  (pieces units).mapM fun
    | .char value => some value
    | .lone _ => none

/-- A hexadecimal digit in capitals. -/
private def capitalHexDigit (digit : Nat) : Char :=
  -- Ten and above continue with letters.
  if digit < 10 then Char.ofNat (48 + digit) else Char.ofNat (55 + digit)

/-- A text as a string, with each lone surrogate written as an escape of four digits. -/
def toStringEscaped (units : Units) : String :=
  -- Paired surrogates become their character.
  String.ofList <| (pieces units).flatMap fun
    | .char value => [value]
    | .lone unit =>
      let code := unit.toNat
      ['\\', 'u', capitalHexDigit (code / 4096), capitalHexDigit (code / 256 % 16),
        capitalHexDigit (code / 16 % 16), capitalHexDigit (code % 16)]

/-- Texts are ordered by their first differing unit, and a text comes after its beginnings. -/
def before : Units → Units → Bool
  | _, [] => false
  | [], _ :: _ => true
  | left :: leftRest, right :: rightRest =>
    -- Equal units defer to the rest.
    if left == right then before leftRest rightRest else left < right

end Units

end PipelineTrial
