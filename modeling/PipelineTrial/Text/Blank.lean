/-! Blank characters, the ones that Unicode gives the property White_Space, and trimming by them. -/

namespace PipelineTrial

/-- A character is blank when Unicode lists it under White_Space. -/
def isBlank (char : Char) : Bool :=
  -- The property covers the ASCII controls, both no-break spaces, and the wide spaces.
  let code := char.toNat
  (9 ≤ code && code ≤ 13) || code == 0x20 || code == 0x85 || code == 0xa0 || code == 0x1680
    || (0x2000 ≤ code && code ≤ 0x200a) || code == 0x2028 || code == 0x2029 || code == 0x202f
    || code == 0x205f || code == 0x3000

/-- The characters from the first one that is not blank. -/
def trimLeft (chars : List Char) : List Char :=
  -- Only the leading run is dropped.
  chars.dropWhile isBlank

/-- The characters up to the last one that is not blank. -/
def trimRight (chars : List Char) : List Char :=
  -- A trailing run is the leading run of the reversed text.
  (chars.reverse.dropWhile isBlank).reverse

/-- A text without its leading and trailing blanks. -/
def trimBlanks (text : String) : String :=
  -- Both ends are cut, and blanks inside stay.
  String.ofList (trimRight (trimLeft text.toList))

end PipelineTrial
