import PipelineTrial.Json.Value
import PipelineTrial.Text.Blank

/-! Declared types of values, and schemas that a map of fields has to meet. -/

namespace PipelineTrial

/-- The types that a state variable or a field can be declared with. -/
inductive ValueType where
  | string
  | integer
  | float
  | boolean
  | list
  | map
  deriving DecidableEq, Inhabited

namespace ValueType

/-- All types, in their usual order. -/
def all : List ValueType := [.string, .integer, .float, .boolean, .list, .map]

/-- The written tag of a type. -/
def tag : ValueType → String
  | .string => "string"
  | .integer => "integer"
  | .float => "float"
  | .boolean => "boolean"
  | .list => "list"
  | .map => "map"

/-- The type with a given tag, blanks around the tag aside. -/
def parse? (raw : String) : Option ValueType :=
  -- Tags are unique, so the first match is the only one.
  all.find? fun type => type.tag == trimBlanks raw

/-- Whether a value has the type; a whole number counts as a floating-point one, but not conversely. -/
def accepts : ValueType → Json → Bool
  | .string, .text _ => true
  | .integer, .integer _ => true
  | .float, .integer _ => true
  | .float, .float _ => true
  | .boolean, .boolean _ => true
  | .list, .list _ => true
  | .map, .object _ => true
  | _, _ => false

end ValueType

/-- A declared field of a structured reply. -/
structure SchemaField where
  name : String
  type : ValueType
  deriving DecidableEq, Inhabited

/-- The fields that a structured reply must have, in declaration order. -/
structure OutputSchema where
  fields : List SchemaField
  deriving DecidableEq, Inhabited

/-- The ways in which a map of fields can miss a schema. -/
inductive SchemaFault where
  | missing (field : String)
  | mismatch (field : String) (expected : ValueType) (found : String)
  deriving DecidableEq

/-- The text of a schema fault. -/
def SchemaFault.message : SchemaFault → String
  | .missing field => "missing declared field '" ++ field ++ "'"
  | .mismatch field expected found =>
    "field '" ++ field ++ "' expected " ++ expected.tag ++ " but got " ++ found

namespace OutputSchema

/-- The declared names, in order, repeated ones included. -/
def fieldNames (schema : OutputSchema) : List String :=
  -- Types are dropped.
  schema.fields.map (·.name)

/-- The values of declared fields added to those found before, up to the first fault. -/
def collect (given : Entries Json) (found : Dictionary Json) :
    List SchemaField → Except SchemaFault (Dictionary Json)
  | [] => .ok found
  | field :: rest =>
    -- Absence is reported before a wrong type.
    match given.get? field.name with
    | none => .error (.missing field.name)
    | some value =>
      if field.type.accepts value then collect given (found.insert field.name value) rest
      else .error (.mismatch field.name field.type value.typeName)

/-- The declared fields of a map, when each is present with its type; the others are left out. -/
def validate (schema : OutputSchema) (given : Entries Json) : Except SchemaFault (Dictionary Json) :=
  -- Fields are checked in declaration order.
  collect given Dictionary.empty schema.fields

/-- The schema as a JSON object. -/
def toJson (schema : OutputSchema) : Json :=
  -- Each field shows its name and its tag.
  .ofPairs [("fields", .list (schema.fields.map fun field =>
    .ofPairs [("name", .text field.name), ("type", .text field.type.tag)]))]

end OutputSchema

end PipelineTrial
