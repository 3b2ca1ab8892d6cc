import PipelineTrial.Script.Library.Lists

/-! Ready-made functions between values and their written form. -/

namespace PipelineTrial

namespace Script

/-- A hexadecimal digit in small letters. -/
def smallHexUnit (digit : Nat) : UInt16 := UInt16.ofNat (if digit < 10 then 48 + digit else 87 + digit)

/-- A unit as an escape of four digits. -/
def escapeUnit (unit : UInt16) : Units :=
  -- Leading zeros are kept.
  let code := unit.toNat
  [92, 117, smallHexUnit (code / 4096), smallHexUnit (code / 256 % 16),
    smallHexUnit (code / 16 % 16), smallHexUnit (code % 16)]

/-- A unit inside quotes that is no part of a surrogate pair. -/
def quoteUnit (unit : UInt16) : Units :=
  -- Control characters have short escapes or numbered ones.
  if unit == 8 then [92, 98]
  else if unit == 9 then [92, 116]
  else if unit == 10 then [92, 110]
  else if unit == 12 then [92, 102]
  else if unit == 13 then [92, 114]
  else if unit == 34 then [92, 34]
  else if unit == 92 then [92, 92]
  else if unit < 32 || Units.isHighSurrogate unit || Units.isLowSurrogate unit then escapeUnit unit
  else [unit]

/-- The units of a text inside quotes. -/
def quoteInner : Units → Units
  | [] => []
  | [unit] => quoteUnit unit
  | first :: second :: rest =>
    -- A surrogate pair stands for itself.
    if Units.isHighSurrogate first && Units.isLowSurrogate second then
      first :: second :: quoteInner rest
    else quoteUnit first ++ quoteInner (second :: rest)

/-- A text in quotes. -/
def quoteText (units : Units) : Units := 34 :: (quoteInner units ++ [34])

/-- How values are written. -/
structure WritingStyle where
  /-- A function that every value passes through. -/
  replacer : Option Value
  /-- The only names that are written, if they are given. -/
  allowed : Option (List Units)
  /-- What each level is indented by, empty for everything on one line. -/
  gap : Units

/-- The name of the method that gives what is written in the place of an object. -/
def toJsonKey : Units := Units.ofString "toJSON"

/-- Written parts between brackets, on one line or one line each. -/
def bracketed (style : WritingStyle) (indent : Units) (opening closing : UInt16)
    (parts : List Units) : Units :=
  -- No parts leave nothing between the brackets.
  if parts.isEmpty then [opening, closing]
  else if style.gap.isEmpty then opening :: (List.intercalate [44] parts ++ [closing])
  else
    let inner := indent ++ style.gap
    opening :: 10 :: (inner ++ List.intercalate (44 :: 10 :: inner) parts ++ 10 :: (indent ++ [closing]))

namespace Interpreter

/-- The value that is written in the place of a member of a holder. -/
def prepareWritten (self : Interpreter) (style : WritingStyle) (holder : Value) (key : Units)
    (value : Value) : Run Value := do
  -- The value's own method comes before the replacer, and wrappers are taken off.
  let value ← match value with
    | .object _ => do
      let method ← self.read value toJsonKey
      if ← isCallable method then self.call method value [.text key] else pure value
    | other => pure other
  let value ← match style.replacer with
    | some replacer => self.call replacer holder [.text key, value]
    | none => pure value
  match ← unwrap value with
  | .number _ =>
    match value with
    | .object _ => return .number (← self.toNumber value)
    | other => return other
  | .text _ =>
    match value with
    | .object _ => return .text (← self.toText value)
    | other => return other
  | other => return other

/-- The written items of a list from a position on; what has no form is written as null. -/
def writeItems (self : Interpreter) (style : WritingStyle)
    (write : Value → Run (Option Units)) (list : Value) : Nat → Nat → Run (List Units)
  | 0, _ => return []
  | remaining + 1, position => do
    let item ← self.readAt list position
    let item ← self.prepareWritten style list (positionKey position) item
    let written := (← write item).getD (Units.ofString "null")
    let rest ← writeItems self style write list remaining (position + 1)
    return written :: rest

/-- The written members of an object; those without a form are left out. -/
def writeMembers (self : Interpreter) (style : WritingStyle)
    (write : Value → Run (Option Units)) (object : Value) : List Units → Run (List Units)
  | [] => return []
  | key :: rest => do
    let content ← self.read object key
    let content ← self.prepareWritten style object key content
    let written ← write content
    let tail ← writeMembers self style write object rest
    match written with
    | none => return tail
    | some units =>
      let colon := if style.gap.isEmpty then [58] else [58, 32]
      return (quoteText key ++ colon ++ units) :: tail

/-- A value in its written form, if it has one, inside some objects. -/
def writeValue (self : Interpreter) (style : WritingStyle) :
    Nat → List Address → Units → Value → Run (Option Units)
  | 0, _, _, _ => throw .exhausted
  | depth + 1, around, indent, value => do
    match value with
    | .undefined => return none
    | .null => return some (Units.ofString "null")
    | .boolean truth => return some (Units.ofString (if truth then "true" else "false"))
    | .number number =>
      return some (if number.isFinite then number.units else Units.ofString "null")
    | .text units => return some (quoteText units)
    | .object address =>
      let record ← Run.object address
      if record.isCallable then return none
      else if around.contains address then Run.failType "cyclic object value"
      else
        let write := writeValue self style depth (address :: around) (indent ++ style.gap)
        match record.kind with
        | .list _ _ _ =>
          let parts ← self.writeItems style write value (← self.lengthOf value) 0
          return some (bracketed style indent 91 93 parts)
        | _ =>
          let parts ← self.writeMembers style write value (style.allowed.getD (listedKeys record))
          return some (bracketed style indent 123 125 parts)

/-- The names that a list allows: its texts and numbers, each once. -/
def allowedNames (self : Interpreter) (items : List Value) : Run (List Units) := do
  -- Other items are passed by.
  let mut names : List Units := []
  for item in items do
    let name ← match ← unwrap item with
      | .text _ => pure (some (← self.toText item))
      | .number _ => pure (some (← self.toText item))
      | _ => pure none
    match name with
    | some name => if !names.contains name then names := names ++ [name]
    | none => pure ()
  return names

/-- How values are written, by the arguments that say so. -/
def toStyle (self : Interpreter) (replacer space : Value) : Run WritingStyle := do
  -- At most ten units indent a level.
  let gap ← match ← unwrap space with
    | .number number => pure (List.replicate (min number.truncated 10).toNat 32)
    | .text units => pure (units.take 10)
    | _ => pure []
  if ← isCallable replacer then return ⟨some replacer, none, gap⟩
  else
    match replacer with
    | .object address =>
      match (← Run.object address).kind with
      | .list _ length _ =>
        let names ← self.allowedNames (← self.listItems replacer length 0)
        return ⟨none, some names, gap⟩
      | _ => return ⟨none, none, gap⟩
    | _ => return ⟨none, none, gap⟩

/-- The written form of a value, or undefined when it has none. -/
def stringify (self : Interpreter) (value replacer space : Value) : Run Value := do
  -- The value is held by an object that only a replacer sees.
  let style ← self.toStyle replacer space
  let holder ← Run.makeObject [([], .plain value)]
  let prepared ← self.prepareWritten style holder [] value
  let depth := (← get).objects.size + 1000
  match ← self.writeValue style depth [] [] prepared with
  | some units => return .text units
  | none => return .undefined

end Interpreter

/-- Units without leading blanks. -/
def skipWrittenBlanks (units : Units) : Units :=
  -- Four characters count as blanks.
  units.dropWhile fun unit => unit == 32 || unit == 9 || unit == 10 || unit == 13

/-- The value of a hexadecimal digit. -/
def hexUnit? (unit : UInt16) : Option Nat := (digitOf? (Char.ofNat unit.toNat)).filter (· < 16)

/-- A quoted text after its opening quote, with what it holds in reverse. -/
def readQuoted : Nat → Units → Units → Option (Units × Units)
  | 0, _, _ => none
  | bound + 1, units, built =>
    match units with
    | 34 :: rest => some (built.reverse, rest)
    | 92 :: 117 :: first :: second :: third :: fourth :: rest => do
      let a ← hexUnit? first
      let b ← hexUnit? second
      let c ← hexUnit? third
      let d ← hexUnit? fourth
      readQuoted bound rest (UInt16.ofNat (a * 4096 + b * 256 + c * 16 + d) :: built)
    | 92 :: letter :: rest =>
      let short : List (UInt16 × UInt16) :=
        [(34, 34), (92, 92), (47, 47), (98, 8), (102, 12), (110, 10), (114, 13), (116, 9)]
      match short.lookup letter with
      | some unit => readQuoted bound rest (unit :: built)
      | none => none
    | unit :: rest => if unit < 32 then none else readQuoted bound rest (unit :: built)
    | [] => none

/-- Whether digits may be written: a leading zero stands alone. -/
def areWholeDigits (digits : List Char) : Bool :=
  -- There has to be at least one.
  match digits with
  | [] => false
  | ['0'] => true
  | first :: _ => first != '0'

/-- A written number without its sign. -/
def readWrittenNumber (units : Units) : Option (Number × Units) :=
  -- A point needs digits on both sides.
  let chars := units.map fun unit => Char.ofNat unit.toNat
  let whole := chars.takeWhile Char.isDigit
  let rest := chars.dropWhile Char.isDigit
  if !areWholeDigits whole then none
  else
    let (fraction, rest, isWellFormed) := match rest with
      | '.' :: rest =>
        let fraction := rest.takeWhile Char.isDigit
        (fraction, rest.dropWhile Char.isDigit, !fraction.isEmpty)
      | _ => ([], rest, true)
    if !isWellFormed then none
    else do
      let (exponent, rest) ← readScriptExponent rest
      let number := Number.ofDecimal (digitsValue (whole ++ fraction)) (exponent - fraction.length)
      some (number, units.drop (units.length - rest.length))

/-- A word at the start of units. -/
def readWord (word : String) (units : Units) : Option Units :=
  -- The rest follows it.
  let wanted := Units.ofString word
  if wanted.isPrefixOf units then some (units.drop wanted.length) else none

mutual

/-- The expression for a written value, with the rest. -/
def readWritten : Nat → Units → Option (Expression × Units)
  | 0, _ => none
  | bound + 1, units => do
    let units := skipWrittenBlanks units
    match units with
    | 34 :: rest => do
      let (text, rest) ← readQuoted (rest.length + 1) rest []
      some (.text text, rest)
    | 91 :: rest => do
      let rest := skipWrittenBlanks rest
      match rest with
      | 93 :: rest => some (.array [], rest)
      | _ => do
        let (items, rest) ← readWrittenItems bound rest
        some (.array items, rest)
    | 123 :: rest => do
      let rest := skipWrittenBlanks rest
      match rest with
      | 125 :: rest => some (.object [], rest)
      | _ => do
        let (members, rest) ← readWrittenMembers bound rest
        some (.object members, rest)
    | 45 :: rest => do
      let (number, rest) ← readWrittenNumber rest
      some (.number number.negate, rest)
    | 116 :: _ => do
      let rest ← readWord "true" units
      some (.boolean true, rest)
    | 102 :: _ => do
      let rest ← readWord "false" units
      some (.boolean false, rest)
    | 110 :: _ => do
      let rest ← readWord "null" units
      some (.null, rest)
    | _ => do
      let (number, rest) ← readWrittenNumber units
      some (.number number, rest)

/-- The items of a written list up to its closing bracket. -/
def readWrittenItems : Nat → Units → Option (List Item × Units)
  | 0, _ => none
  | bound + 1, units => do
    let (value, rest) ← readWritten bound units
    match skipWrittenBlanks rest with
    | 93 :: rest => some ([.single value], rest)
    | 44 :: rest => do
      let (items, rest) ← readWrittenItems bound rest
      some (.single value :: items, rest)
    | _ => none

/-- The members of a written object up to its closing brace. -/
def readWrittenMembers : Nat → Units → Option (List Member × Units)
  | 0, _ => none
  | bound + 1, units => do
    match skipWrittenBlanks units with
    | 34 :: rest => do
      let (name, rest) ← readQuoted (rest.length + 1) rest []
      match skipWrittenBlanks rest with
      | 58 :: rest => do
        let (value, rest) ← readWritten bound rest
        let member := Member.named .value (.fixed name) value false
        match skipWrittenBlanks rest with
        | 125 :: rest => some ([member], rest)
        | 44 :: rest => do
          let (members, rest) ← readWrittenMembers bound rest
          some (member :: members, rest)
        | _ => none
      | _ => none
    | _ => none

end

namespace Interpreter

/-- Passes the members of a value, then the value itself, through a function. -/
def revive (self : Interpreter) (reviver : Value) : Nat → Value → Units → Run Value
  | 0, _, _ => throw .exhausted
  | depth + 1, holder, key => do
    let value ← self.read holder key
    match value with
    | .object address =>
      let record ← Run.object address
      let keys ← match record.kind with
        | .list _ length _ => pure ((List.range length).map positionKey)
        | _ => pure (listedKeys record)
      for inner in keys do
        match ← revive self reviver depth value inner with
        | .undefined =>
          let _ ← deleteMember address inner
          pure ()
        | content => Run.alter address (·.put inner (.plain content))
    | _ => pure ()
    self.call reviver holder [.text key, value]

/-- The surrounding of code that refers to no names of its own. -/
def topSurrounding : Surrounding := ⟨topScope, .object Intrinsic.global.address, false⟩

/-- The value of a written form. -/
def parseWritten (self : Interpreter) (source reviver : Value) : Run Value := do
  -- Nothing but blanks may follow the value.
  let units ← self.toText source
  match readWritten (2 * units.length + 2) units with
  | some (expression, rest) =>
    if (skipWrittenBlanks rest).isEmpty then
      let value ← self.evaluate topSurrounding expression
      if ← isCallable reviver then
        let holder ← Run.makeObject [([], .plain value)]
        self.revive reviver ((← get).objects.size + 1000) holder []
      else return value
    else Run.fail .syntaxError "unexpected text after the value"
  | none => Run.fail .syntaxError "the text is not the written form of a value"

/-- Runs a function between values and their written form. -/
def runJsonOperation (self : Interpreter) (operation : JsonOperation) (arguments : List Value) :
    Run Value :=
  -- Both take further arguments after the first.
  match operation with
  | .parse => self.parseWritten (argument arguments 0) (argument arguments 1)
  | .stringify =>
    self.stringify (argument arguments 0) (argument arguments 1) (argument arguments 2)

end Interpreter

/-- The functions between values and their written form by name. -/
def jsonOperations : BuiltinTable JsonOperation := [("parse", 2, .parse), ("stringify", 3, .stringify)]

end Script

end PipelineTrial
