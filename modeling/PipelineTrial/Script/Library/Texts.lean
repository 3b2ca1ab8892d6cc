import PipelineTrial.Script.Library.Lists
import PipelineTrial.Text.Case

/-! Ready-made functions and methods for texts. -/

namespace PipelineTrial

namespace Script

/-- Whether a text stands at the start of another. -/
def startsWithUnits (wanted units : Units) : Bool := wanted.isPrefixOf units

/-- The first place of a text in another, counted from a position. -/
def findUnits (wanted : Units) : Nat → Units → Option Nat
  | position, [] => if wanted.isEmpty then some position else none
  | position, unit :: rest =>
    if startsWithUnits wanted (unit :: rest) then some position
    else findUnits wanted (position + 1) rest

/-- The first place of a text in another from a position on. -/
def findFrom (wanted units : Units) (start : Nat) : Option Nat :=
  -- Places are counted from the start of the whole text.
  findUnits wanted start (units.drop start)

/-- The last place of a text in another up to a position. -/
def findLast (wanted units : Units) : Nat → Option Nat
  | 0 => if startsWithUnits wanted units then some 0 else none
  | position + 1 =>
    if startsWithUnits wanted (units.drop (position + 1)) then some (position + 1)
    else findLast wanted units position

/-- A text cut at a separator that is not empty, within a bound on the number of parts. -/
def splitUnits (separator : Units) : Nat → Units → List Units
  | 0, units => [units]
  | bound + 1, units =>
    match findUnits separator 0 units with
    | none => [units]
    | some position =>
      units.take position
        :: splitUnits separator bound (units.drop (position + separator.length))

/-- A text cut at a separator, or into units by an empty one. -/
def splitText (separator units : Units) : List Units :=
  -- Each cut takes at least one unit.
  if separator.isEmpty then units.map fun unit => [unit]
  else splitUnits separator units.length units

/-- The part of a text from one position to before another. -/
def cutText (units : Units) (start stop : Nat) : Units := (units.take stop).drop start

/-- The filling that brings a text to a length. -/
def padding (filler : Units) (count : Nat) : Units :=
  -- The filler is repeated and cut.
  if filler.isEmpty then []
  else ((List.replicate (count / filler.length + 1) filler).flatten).take count

/-- The places of all non-overlapping copies of a text from a position on, within a bound. -/
def allPlaces (wanted units : Units) : Nat → Nat → List Nat
  | 0, _ => []
  | bound + 1, start =>
    if units.length < start then []
    else
      match findFrom wanted units start with
      | none => []
      | some position => position :: allPlaces wanted units bound (position + max 1 wanted.length)

/-- A replacement with its marks for the found text and its surroundings filled in. -/
def expandReplacement (units found : Units) (position : Nat) : Units → Units
  | [] => []
  | [unit] => [unit]
  | first :: second :: rest =>
    -- A dollar sign with a certain unit after it is a mark.
    if first == 36 && second == 36 then 36 :: expandReplacement units found position rest
    else if first == 36 && second == 38 then
      found ++ expandReplacement units found position rest
    else if first == 36 && second == 96 then
      units.take position ++ expandReplacement units found position rest
    else if first == 36 && second == 39 then
      units.drop (position + found.length) ++ expandReplacement units found position rest
    else first :: expandReplacement units found position (second :: rest)

/-- A text with its characters changed, lone surrogates aside. -/
def changeCharacters (change : List Char → List Char) (units : Units) : Units :=
  -- Runs of whole characters are changed one run at a time.
  let step (piece : Units.Piece) (built : Units × List Char) : Units × List Char :=
    match piece with
    | .char value => (built.1, value :: built.2)
    | .lone unit => (unit :: (Units.ofChars (change built.2) ++ built.1), [])
  let (tail, run) := (Units.pieces units).foldr step ([], [])
  Units.ofChars (change run) ++ tail

/-- A text with lone surrogates replaced by the replacement character. -/
def wellFormed (units : Units) : Units :=
  -- Whole characters stay.
  (Units.pieces units).flatMap fun
    | .char value => Units.ofChar value
    | .lone _ => [0xfffd]

/-- The units of a code point. -/
def codePointUnits (code : Nat) : Units :=
  -- A surrogate stands alone.
  if code < 0x10000 then [UInt16.ofNat code] else Units.ofChar (Char.ofNat code)

/-- The code point of a character as one or two units. -/
def codeOf : Units → Nat
  | [first, second] => (Units.pairChar first second).toNat
  | first :: _ => first.toNat
  | [] => 0

namespace Interpreter

/-- The text that a method of texts is called on. -/
def receiverText (self : Interpreter) (receiver : Value) : Run Units :=
  -- Missing values are refused.
  if isMissing receiver then Run.failMissing else self.toText receiver

/-- Requires a text and not a pattern as what to look for. -/
def wantedText (self : Interpreter) (value : Value) : Run Units := do
  -- Patterns are not texts to find.
  match value with
  | .object address =>
    match (← Run.object address).kind with
    | .pattern => Run.failType "First argument to String.prototype.includes, startsWith or endsWith must not be a regular expression"
    | _ => self.toText value
  | other => self.toText other

/-- What a found text is replaced by. -/
def replacementFor (self : Interpreter) (units found : Units) (position : Nat) (replacement : Value) :
    Run Units := do
  -- A function is asked each time.
  if ← isCallable replacement then
    self.toText (← self.call replacement .undefined
      [.text found, .number (.ofNat position), .text units])
  else return expandReplacement units found position (← self.toText replacement)

/-- The text with what stands at some places replaced, from a position on. -/
def replaceAt (self : Interpreter) (units found : Units) (replacement : Value) :
    Nat → List Nat → Run Units
  | start, [] => return units.drop start
  | start, position :: rest => do
    let inserted ← self.replacementFor units found position replacement
    let tail ← replaceAt self units found replacement (position + found.length) rest
    return cutText units start position ++ inserted ++ tail

/-- A text brought to a length by a filling. -/
def pad (self : Interpreter) (units : Units) (arguments : List Value) (atStart : Bool) : Run Units := do
  -- Blanks fill unless another text is given.
  let length ← self.toLength (argument arguments 0)
  let filler ← match argument arguments 1 with
    | .undefined => pure [32]
    | other => self.toText other
  let added := padding filler (length - units.length)
  return if atStart then added ++ units else units ++ added

/-- A position in a text, where negative ones count as the start. -/
def clampedPosition (self : Interpreter) (value : Value) (length : Nat) : Run Nat := do
  -- The result is kept within the text.
  match ← self.toWhole value with
  | (some whole, _) => return min whole.toNat length
  | (none, isNegative) => return if isNegative then 0 else length

/-- The position that a value stands for, if it is a place in a text. -/
def innerPosition? (self : Interpreter) (value : Value) (length : Nat) : Run (Option Nat) := do
  -- The end itself is no place.
  match ← self.toWhole value with
  | (some whole, _) => return if 0 ≤ whole && whole < length then some whole.toNat else none
  | (none, _) => return none

/-- Runs a method of texts that gives a part of its receiver or a code in it. -/
def runCuttingMethod (self : Interpreter) (method : TextMethod) (units : Units)
    (arguments : List Value) : Run Value := do
  -- Positions are counted in units.
  let first := argument arguments 0
  let second := argument arguments 1
  let length := units.length
  match method with
  | .at =>
    match ← self.toWhole first with
    | (some whole, _) =>
      let position := if whole < 0 then length + whole else whole
      if position < 0 then return .undefined
      else return ((units[position.toNat]?).map fun unit => Value.text [unit]).getD .undefined
    | (none, _) => return .undefined
  | .charAt =>
    match ← self.innerPosition? first length with
    | some position => return .text (cutText units position (position + 1))
    | none => return .text []
  | .charCodeAt =>
    match ← self.innerPosition? first length with
    | some position => return .number (.ofNat ((units[position]?).getD 0).toNat)
    | none => return .number .undefinedResult
  | .codePointAt =>
    match ← self.innerPosition? first length with
    | some position =>
      return ((characterAt units position).map fun (character, _) =>
        Value.number (.ofNat (codeOf character))).getD .undefined
    | none => return .undefined
  | .slice =>
    let start ← self.toPosition first length
    let stop ← self.toEnd second length
    return .text (cutText units start stop)
  | .substring =>
    let start ← self.clampedPosition first length
    let stop ← match second with
      | .undefined => pure length
      | other => self.clampedPosition other length
    return .text (cutText units (min start stop) (max start stop))
  | .substr =>
    let start ← self.toPosition first length
    let count ← match second with
      | .undefined => pure length
      | other => self.clampedPosition other length
    return .text (cutText units start (start + count))
  | .trim => return .text (trimEnd (trimStart units))
  | .trimStart => return .text (trimStart units)
  | .trimEnd => return .text (trimEnd units)
  | _ => return .undefined

/-- Runs a method of texts that looks for another text. -/
def runFindingMethod (self : Interpreter) (method : TextMethod) (units : Units)
    (arguments : List Value) : Run Value := do
  -- The wanted text is converted before the position.
  let first := argument arguments 0
  let second := argument arguments 1
  let length := units.length
  match method with
  | .includes =>
    let wanted ← self.wantedText first
    let start ← self.clampedPosition second length
    return .boolean (findFrom wanted units start).isSome
  | .startsWith =>
    let wanted ← self.wantedText first
    let start ← self.clampedPosition second length
    return .boolean (startsWithUnits wanted (units.drop start))
  | .endsWith =>
    let wanted ← self.wantedText first
    let stop ← match second with
      | .undefined => pure length
      | other => self.clampedPosition other length
    return .boolean (wanted.isSuffixOf (units.take stop))
  | .indexOf =>
    let wanted ← self.toText first
    let start ← self.clampedPosition second length
    return foundPosition (findFrom wanted units start)
  | .lastIndexOf =>
    let wanted ← self.toText first
    let number ← self.toNumber second
    let start := if number.isUndefinedResult then length
      else match number.wholeOrInfinite with
        | some whole => min whole.toNat length
        | none => if number.less (.whole 0) then 0 else length
    return foundPosition (findLast wanted units start)
  | .replace =>
    let wanted ← self.toText first
    match findFrom wanted units 0 with
    | none => return .text units
    | some position => return .text (← self.replaceAt units wanted second 0 [position])
  | .replaceAll =>
    let wanted ← self.toText first
    let places := allPlaces wanted units (length + 1) 0
    return .text (← self.replaceAt units wanted second 0 places)
  | .split =>
    let limit ← match second with
      | .undefined => pure longestList
      | other => do pure (← self.toNumber other).toBits32.toNat
    match first with
    | .undefined => Run.makeList (if limit = 0 then [] else [.text units])
    | other =>
      let separator ← self.toText other
      Run.makeList (((splitText separator units).take limit).map .text)
  | _ => return .undefined

/-- Runs a method of texts. -/
def runTextMethod (self : Interpreter) (method : TextMethod) (receiver : Value)
    (arguments : List Value) : Run Value := do
  -- Two methods need a text or a wrapped one, and all others convert their receiver.
  let first := argument arguments 0
  match method with
  | .toString | .valueOf =>
    match ← unwrap receiver with
    | .text units => return .text units
    | _ => Run.failType "'this' is not a string"
  | .concat =>
    let units ← self.receiverText receiver
    return .text (units ++ (← arguments.mapM self.toText).flatten)
  | .isWellFormed => return .boolean (← self.receiverText receiver).toChars?.isSome
  | .toWellFormed => return .text (wellFormed (← self.receiverText receiver))
  | .localeCompare =>
    let units ← self.receiverText receiver
    let other ← self.toText first
    return .number (.whole (if units.before other then -1 else if other.before units then 1 else 0))
  | .normalize => return .text (← self.receiverText receiver)
  | .padEnd => return .text (← self.pad (← self.receiverText receiver) arguments false)
  | .padStart => return .text (← self.pad (← self.receiverText receiver) arguments true)
  | .repeat =>
    let units ← self.receiverText receiver
    match ← self.toWhole first with
    | (some whole, _) =>
      if whole < 0 then Run.fail .rangeError "repeat count cannot be a negative number"
      else return .text (List.replicate whole.toNat units).flatten
    | (none, _) => Run.fail .rangeError "repeat count cannot be infinity"
  | .toLowerCase => return .text (changeCharacters (smallText false) (← self.receiverText receiver))
  | .toUpperCase => return .text (changeCharacters capitalText (← self.receiverText receiver))
  | .endsWith | .includes | .indexOf | .lastIndexOf | .replace | .replaceAll | .split | .startsWith =>
    self.runFindingMethod method (← self.receiverText receiver) arguments
  | _ => self.runCuttingMethod method (← self.receiverText receiver) arguments

/-- Runs a function that makes a text. -/
def runTextOperation (self : Interpreter) (operation : TextOperation) (arguments : List Value) :
    Run Value := do
  -- Codes are converted one by one.
  match operation with
  | .fromCharCode =>
    let numbers ← arguments.mapM self.toNumber
    return .text (numbers.map fun number => number.toBits32.toUInt16)
  | .fromCodePoint =>
    let parts ← arguments.mapM fun value => do
      match ← self.toNumber value with
      | .whole code =>
        if 0 ≤ code && code ≤ 0x10ffff then return codePointUnits code.toNat
        else Run.fail .rangeError "codepoint out of range"
      | number =>
        if number.isZero then return [0] else Run.fail .rangeError "codepoint is not an integer"
    return .text parts.flatten
  | .raw => self.read (argument arguments 0) (Units.ofString "raw")

/-- Makes a text, and an object around it when it is constructed. -/
def makeText (self : Interpreter) (arguments : List Value) (isConstructed : Bool) : Run Value := do
  -- Without an argument the text is empty.
  let units ← match arguments with
    | [] => pure []
    | value :: _ => self.toText value
  if isConstructed then return .object (← toObject (.text units)) else return .text units

end Interpreter

/-- The functions that make texts by name. -/
def textOperations : BuiltinTable TextOperation :=
  [("fromCharCode", 1, .fromCharCode), ("fromCodePoint", 1, .fromCodePoint), ("raw", 1, .raw)]

/-- The methods of texts by name. -/
def textMethods : BuiltinTable TextMethod :=
  [("at", 1, .at), ("charAt", 1, .charAt), ("charCodeAt", 1, .charCodeAt),
    ("codePointAt", 1, .codePointAt), ("concat", 1, .concat), ("endsWith", 1, .endsWith),
    ("includes", 1, .includes), ("indexOf", 1, .indexOf), ("isWellFormed", 0, .isWellFormed),
    ("lastIndexOf", 1, .lastIndexOf), ("localeCompare", 1, .localeCompare),
    ("normalize", 0, .normalize), ("padEnd", 1, .padEnd), ("padStart", 1, .padStart),
    ("repeat", 1, .repeat), ("replace", 2, .replace), ("replaceAll", 2, .replaceAll),
    ("slice", 2, .slice), ("split", 2, .split), ("startsWith", 1, .startsWith),
    ("substr", 2, .substr), ("substring", 2, .substring), ("toLocaleLowerCase", 0, .toLowerCase),
    ("toLocaleUpperCase", 0, .toUpperCase), ("toLowerCase", 0, .toLowerCase),
    ("toString", 0, .toString), ("toUpperCase", 0, .toUpperCase),
    ("toWellFormed", 0, .toWellFormed), ("trim", 0, .trim), ("trimEnd", 0, .trimEnd),
    ("trimLeft", 0, .trimStart), ("trimRight", 0, .trimEnd), ("trimStart", 0, .trimStart),
    ("valueOf", 0, .valueOf)]

end Script

end PipelineTrial
