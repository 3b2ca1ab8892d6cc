import PipelineTrial.Decimal.Layout
import PipelineTrial.Json.Value

/-! Trees of YAML values, with mappings in written order and tags on any value. -/

namespace PipelineTrial

/-- A YAML value. -/
inductive Yaml where
  | null
  | boolean (value : Bool)
  | integer (value : Int)
  | float (value : Float)
  | text (value : String)
  | sequence (items : List Yaml)
  | mapping (entries : List (Yaml × Yaml))
  | tagged (tag : String) (content : Yaml)
  deriving Inhabited

namespace Yaml

/-- The value under all its tags. -/
def untagged : Yaml → Yaml
  | .tagged _ content => untagged content
  | other => other

/-- The text of a text value, tags aside. -/
def text? (value : Yaml) : Option String :=
  -- Numbers and booleans are not texts.
  match value.untagged with
  | .text content => some content
  | _ => none

/-- The entries of a mapping, tags aside. -/
def entries? (value : Yaml) : Option (List (Yaml × Yaml)) :=
  -- Only mappings have entries.
  match value.untagged with
  | .mapping entries => some entries
  | _ => none

/-- Whether a value is null, tags aside. -/
def isNull (value : Yaml) : Bool :=
  -- Empty texts and mappings are not null.
  match value.untagged with
  | .null => true
  | _ => false

/-- The value under a key that is the given text without a tag. -/
def lookup (name : String) : List (Yaml × Yaml) → Option Yaml
  | [] => none
  | (.text key, value) :: rest => if key = name then some value else lookup name rest
  | _ :: rest => lookup name rest

/-- Numbers in texts stand in positions from 10⁻⁵ to below 10¹⁶, and exponents carry no plus. -/
def numberLayout : NumberLayout := ⟨-5, 16, true, false, true⟩

/-- The text of a number. -/
def floatText (number : Float) : String :=
  -- Numbers that are not finite have words.
  if number.isNaN then ".nan"
  else if number.isFinite then numberLayout.write number
  else if number < 0.0 then "-.inf"
  else ".inf"

/-- The text of a boolean. -/
def booleanText (value : Bool) : String :=
  -- Both words are small.
  if value then "true" else "false"

mutual

/-- Whether two values are equal as keys: tags and types count, the order of a mapping does not. -/
def sameKey : Yaml → Yaml → Bool
  | .null, .null => true
  | .boolean left, .boolean right => left == right
  | .integer left, .integer right => left == right
  | .float left, .float right => left == right || (left.isNaN && right.isNaN)
  | .text left, .text right => left == right
  | .sequence left, .sequence right => sameItems left right
  | .mapping left, .mapping right => left.length == right.length && containsAll left right
  | .tagged leftTag left, .tagged rightTag right => leftTag == rightTag && sameKey left right
  | _, _ => false

/-- Whether two lists are equal item by item. -/
def sameItems : List Yaml → List Yaml → Bool
  | [], [] => true
  | left :: leftRest, right :: rightRest => sameKey left right && sameItems leftRest rightRest
  | _, _ => false

/-- Whether each entry of the first list has an equal one in the second. -/
def containsAll : List (Yaml × Yaml) → List (Yaml × Yaml) → Bool
  | [], _ => true
  | (key, value) :: rest, entries =>
    entries.any (fun entry => sameKey key entry.1 && sameKey value entry.2)
      && containsAll rest entries

end

/-- The reasons for which a value has no JSON form. -/
inductive JsonFault where
  | keyNotText
  | keyNotFinite
  deriving DecidableEq

/-- The text of a missing JSON form. -/
def JsonFault.message : JsonFault → String
  | .keyNotText => "key must be a string"
  | .keyNotFinite => "float key must be finite (got NaN or +/-inf)"

/-- Numbers in keys are written with a plus before a positive exponent. -/
def keyLayout : NumberLayout := ⟨-5, 16, true, true, true⟩

/-- The name that a key becomes in an object. -/
def keyName : Yaml → Except JsonFault String
  | .text value => .ok value
  | .integer value => .ok (toString value)
  | .boolean value => .ok (booleanText value)
  | .float value => if value.isFinite then .ok (keyLayout.write value) else .error .keyNotFinite
  | _ => .error .keyNotText

mutual

/-- A value as JSON: numbers that are not finite become null, and a tag becomes the only field of an object. -/
def toJson : Yaml → Except JsonFault Json
  | .null => .ok .null
  | .boolean value => .ok (.boolean value)
  | .integer value => .ok (.integer value)
  | .float value => .ok (if value.isFinite then .float value else .null)
  | .text value => .ok (.text value)
  | .sequence items => do
    let converted ← itemsToJson items
    .ok (.list converted)
  | .mapping entries => do
    let fields ← entriesToJson entries []
    .ok (.object fields)
  | .tagged tag content => do
    let converted ← toJson content
    .ok (.object [("!" ++ tag, converted)])

/-- Items as JSON, up to the first without a form. -/
def itemsToJson : List Yaml → Except JsonFault (List Json)
  | [] => .ok []
  | item :: rest => do
    let converted ← toJson item
    let tail ← itemsToJson rest
    .ok (converted :: tail)

/-- Entries as fields added to those before, where keys of one name replace each other. -/
def entriesToJson : List (Yaml × Yaml) → Entries Json → Except JsonFault (Entries Json)
  | [], fields => .ok fields
  | (key, value) :: rest, fields => do
    let name ← keyName key
    let converted ← toJson value
    entriesToJson rest (fields.insert name converted)

end

end Yaml

end PipelineTrial
