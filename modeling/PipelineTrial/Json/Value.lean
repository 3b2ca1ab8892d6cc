import PipelineTrial.Dictionary

/-! JSON values, in which whole numbers and floating-point numbers are told apart. -/

namespace PipelineTrial

/-- A JSON value. -/
inductive Json where
  | null
  | boolean (value : Bool)
  | integer (value : Int)
  | float (value : Float)
  | text (value : String)
  | list (items : List Json)
  | object (fields : List (String × Json))
  deriving Inhabited

namespace Json

mutual

/-- Whether two values are the same, by descending into both at once. -/
def same : Json → Json → Bool
  | .null, .null => true
  | .boolean left, .boolean right => left == right
  | .integer left, .integer right => left == right
  | .float left, .float right => decide (left = right)
  | .text left, .text right => left == right
  | .list left, .list right => sameItems left right
  | .object left, .object right => sameFields left right
  | _, _ => false

/-- Whether two lists hold the same values. -/
def sameItems : List Json → List Json → Bool
  | [], [] => true
  | left :: leftRest, right :: rightRest => same left right && sameItems leftRest rightRest
  | _, _ => false

/-- Whether two lists of fields hold the same names and values. -/
def sameFields : List (String × Json) → List (String × Json) → Bool
  | [], [] => true
  | (leftName, left) :: leftRest, (rightName, right) :: rightRest =>
    leftName == rightName && same left right && sameFields leftRest rightRest
  | _, _ => false

end

mutual

/-- Descending finds exactly the equal values. -/
theorem same_iff_eq : (left right : Json) → (same left right = true ↔ left = right)
  | .null, right => by cases right <;> simp [same]
  | .boolean left, right => by cases right <;> simp [same]
  | .integer left, right => by cases right <;> simp [same]
  | .float left, right => by cases right <;> simp [same]
  | .text left, right => by cases right <;> simp [same]
  | .list left, right => by cases right <;> simp [same, sameItems_iff_eq]
  | .object left, right => by cases right <;> simp [same, sameFields_iff_eq]

/-- Descending finds exactly the equal lists. -/
theorem sameItems_iff_eq : (left right : List Json) → (sameItems left right = true ↔ left = right)
  | [], right => by cases right <;> simp [sameItems]
  | left :: leftRest, right => by
    cases right <;> simp [sameItems, same_iff_eq left, sameItems_iff_eq leftRest]

/-- Descending finds exactly the equal lists of fields. -/
theorem sameFields_iff_eq :
    (left right : List (String × Json)) → (sameFields left right = true ↔ left = right)
  | [], right => by cases right <;> simp [sameFields]
  | (name, left) :: leftRest, right => by
    cases right <;>
      simp [sameFields, Prod.ext_iff, same_iff_eq left, sameFields_iff_eq leftRest]

end

instance : DecidableEq Json := fun left right =>
  decidable_of_iff (same left right = true) (same_iff_eq left right)

/-- The object of a map. -/
def ofDictionary (dictionary : Dictionary Json) : Json :=
  -- The order of names carries over.
  .object dictionary.entries

/-- An object of named values, the last value of a repeated name winning. -/
def ofPairs (pairs : List (String × Json)) : Json :=
  -- Fields are kept in ascending order of name.
  .object (Entries.ofList pairs)

/-- The value of a field of an object. -/
def field? (json : Json) (name : String) : Option Json :=
  -- Only objects have fields.
  match json with
  | .object fields => Entries.get? name fields
  | _ => none

/-- The text of a text value. -/
def text? : Json → Option String
  | .text value => some value
  | _ => none

/-- The name of a value's type. -/
def typeName : Json → String
  | .null => "null"
  | .boolean _ => "boolean"
  | .integer _ => "integer"
  | .float _ => "float"
  | .text _ => "string"
  | .list _ => "list"
  | .object _ => "map"

end Json

end PipelineTrial
