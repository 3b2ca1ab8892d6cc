import PipelineTrial.Text.CaseRanges

/-! Small and capital letters, each in one or several characters of the other case. -/

namespace PipelineTrial

/-- Whether a range holds a code point. -/
def CaseRange.holds (range : CaseRange) (code : Nat) : Bool :=
  -- Only every second code point belongs to some ranges.
  range.first ≤ code && code ≤ range.last && (code - range.first) % range.step == 0

/-- The code point of the other case, by the first range that holds it. -/
def otherCase? (ranges : List CaseRange) (code : Nat) : Option Nat :=
  -- The distance leads to the other case.
  (ranges.find? (·.holds code)).map fun range => ((code : Int) + range.difference).toNat

/-- The capital characters that a character becomes. -/
def capitals (char : Char) : List Char :=
  -- Most characters have none and stay.
  let code := char.toNat
  if code < 128 then [char.toUpper]
  else
    match longCapitals.lookup code with
    | some codes => codes.map Char.ofNat
    | none =>
      match otherCase? capitalRanges code with
      | some other => [Char.ofNat other]
      | none => [char]

/-- The small characters that a character becomes, wherever it stands. -/
def smalls (char : Char) : List Char :=
  -- A dotted capital I keeps its dot as a mark of its own.
  let code := char.toNat
  if code < 128 then [char.toLower]
  else if code == 304 then [Char.ofNat 105, Char.ofNat 775]
  else
    match otherCase? smallRanges code with
    | some other => [Char.ofNat other]
    | none => [char]

/-- Whether a character is a letter with two cases. -/
def isCased (char : Char) : Bool :=
  -- One of the two differs from the character itself.
  capitals char != [char] || smalls char != [char]

/-- The small characters of a text, given whether a letter stands before it. -/
def smallText (afterLetter : Bool) : List Char → List Char
  | [] => []
  | char :: rest =>
    -- A capital sigma at the end of a word has a small form of its own.
    let small :=
      if char.toNat == 931 && afterLetter && !(rest.head?.any isCased) then [Char.ofNat 962]
      else smalls char
    small ++ smallText (isCased char) rest

/-- The capital characters of a text. -/
def capitalText (chars : List Char) : List Char :=
  -- Characters are taken one by one.
  chars.flatMap capitals

end PipelineTrial
