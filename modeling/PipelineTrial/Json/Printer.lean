import PipelineTrial.Decimal.Layout
import PipelineTrial.Json.Value

/-! Written JSON: the compact form and the form with one entry to a line. -/

namespace PipelineTrial

namespace Json

/-- Numbers stand in positions from 10⁻⁵ to below 10¹⁶ and keep a point. -/
def numberLayout : NumberLayout := ⟨-5, 16, true, true, true⟩

/-- A hexadecimal digit in small letters. -/
def hexDigit (digit : Nat) : Char :=
  -- Ten and above continue with letters.
  if digit < 10 then Char.ofNat (48 + digit) else Char.ofNat (87 + digit)

/-- A character inside a written text: quotes, backslashes and controls are escaped. -/
def escapeChar (char : Char) : List Char :=
  -- Controls without a letter of their own take four hexadecimal digits.
  if char = '"' then ['\\', '"']
  else if char = '\\' then ['\\', '\\']
  else if char = '\x08' then ['\\', 'b']
  else if char = '\t' then ['\\', 't']
  else if char = '\n' then ['\\', 'n']
  else if char = '\x0c' then ['\\', 'f']
  else if char = '\r' then ['\\', 'r']
  else if char.toNat < 32 then
    ['\\', 'u', '0', '0', hexDigit (char.toNat / 16), hexDigit (char.toNat % 16)]
  else [char]

/-- A text between quotes. -/
def writeText (text : String) : List Char :=
  -- Characters are escaped one by one.
  '"' :: (text.toList.flatMap escapeChar ++ ['"'])

/-- A number, where one that is not finite has no form but null. -/
def writeFloat (number : Float) : List Char :=
  -- Finite numbers take the layout of the format.
  if number.isFinite then (numberLayout.write number).toList else ['n', 'u', 'l', 'l']

mutual

/-- A value without blanks. -/
def write : Json → List Char
  | .null => ['n', 'u', 'l', 'l']
  | .boolean true => ['t', 'r', 'u', 'e']
  | .boolean false => ['f', 'a', 'l', 's', 'e']
  | .integer value => (toString value).toList
  | .float value => writeFloat value
  | .text value => writeText value
  | .list [] => ['[', ']']
  | .list (item :: rest) => '[' :: (write item ++ (writeItems rest ++ [']']))
  | .object [] => ['{', '}']
  | .object ((name, value) :: rest) =>
    '{' :: (writeText name ++ ':' :: (write value ++ (writeFields rest ++ ['}'])))

/-- The items after the first one, each after a comma. -/
def writeItems : List Json → List Char
  | [] => []
  | item :: rest => ',' :: (write item ++ writeItems rest)

/-- The fields after the first one, each after a comma. -/
def writeFields : List (String × Json) → List Char
  | [] => []
  | (name, value) :: rest => ',' :: (writeText name ++ ':' :: (write value ++ writeFields rest))

end

/-- A value on one line without blanks. -/
def compact (json : Json) : String :=
  -- The characters are joined once.
  String.ofList (write json)

/-- A line break followed by two blanks for each level. -/
def lineAt (level : Nat) : List Char :=
  -- Nesting shows as indentation.
  '\n' :: List.replicate (2 * level) ' '

mutual

/-- A value at a level of nesting, with one entry to a line. -/
def writeLines (level : Nat) : Json → List Char
  | .list (item :: rest) =>
    '[' :: (lineAt (level + 1) ++ (writeLines (level + 1) item
      ++ (itemLines (level + 1) rest ++ (lineAt level ++ [']']))))
  | .object ((name, value) :: rest) =>
    '{' :: (lineAt (level + 1) ++ (writeText name ++ ':' :: ' ' :: (writeLines (level + 1) value
      ++ (fieldLines (level + 1) rest ++ (lineAt level ++ ['}'])))))
  | other => write other

/-- The items after the first one, each on a line of its own. -/
def itemLines (level : Nat) : List Json → List Char
  | [] => []
  | item :: rest => ',' :: (lineAt level ++ (writeLines level item ++ itemLines level rest))

/-- The fields after the first one, each on a line of its own. -/
def fieldLines (level : Nat) : List (String × Json) → List Char
  | [] => []
  | (name, value) :: rest =>
    ',' :: (lineAt level ++ (writeText name ++ ':' :: ' ' :: (writeLines level value
      ++ fieldLines level rest)))

end

/-- A value with one entry to a line, indented by two blanks. -/
def pretty (json : Json) : String :=
  -- Empty lists and objects stay on their line.
  String.ofList (writeLines 0 json)

end Json

end PipelineTrial
