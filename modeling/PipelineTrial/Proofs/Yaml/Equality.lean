import PipelineTrial.Yaml.Tree

/-! Equality of YAML trees can be decided. -/

namespace PipelineTrial

namespace Yaml

mutual

/-- Whether two trees are equal, by descending into both at once; unlike for keys, every difference counts. -/
def isEqual : Yaml → Yaml → Bool
  -- Trees of different kinds differ.
  | .null, .null => true
  | .boolean left, .boolean right => left == right
  | .integer left, .integer right => left == right
  | .float left, .float right => decide (left = right)
  | .text left, .text right => left == right
  | .sequence left, .sequence right => areEqual left right
  | .mapping left, .mapping right => entriesEqual left right
  | .tagged leftTag left, .tagged rightTag right => leftTag == rightTag && isEqual left right
  | _, _ => false

/-- Whether two lists of trees are equal. -/
def areEqual : List Yaml → List Yaml → Bool
  | [], [] => true
  | left :: leftRest, right :: rightRest => isEqual left right && areEqual leftRest rightRest
  | _, _ => false

/-- Whether two lists of entries are equal. -/
def entriesEqual : List (Yaml × Yaml) → List (Yaml × Yaml) → Bool
  | [], [] => true
  | (leftKey, left) :: leftRest, (rightKey, right) :: rightRest =>
    isEqual leftKey rightKey && isEqual left right && entriesEqual leftRest rightRest
  | _, _ => false

end

mutual

/-- Descending finds exactly the equal trees. -/
theorem isEqual_iff_eq : (left right : Yaml) → (isEqual left right = true ↔ left = right)
  -- By induction on the left tree: only one of the same kind can be equal to it.
  | .null, right => by cases right <;> simp [isEqual]
  | .boolean left, right => by cases right <;> simp [isEqual]
  | .integer left, right => by cases right <;> simp [isEqual]
  | .float left, right => by cases right <;> simp [isEqual]
  | .text left, right => by cases right <;> simp [isEqual]
  | .sequence left, right => by cases right <;> simp [isEqual, areEqual_iff_eq left]
  | .mapping left, right => by cases right <;> simp [isEqual, entriesEqual_iff_eq left]
  | .tagged tag left, right => by cases right <;> simp [isEqual, isEqual_iff_eq left]

/-- Descending finds exactly the equal lists of trees. -/
theorem areEqual_iff_eq : (left right : List Yaml) → (areEqual left right = true ↔ left = right)
  | [], right => by cases right <;> simp [areEqual]
  | left :: leftRest, right => by
    cases right <;> simp [areEqual, isEqual_iff_eq left, areEqual_iff_eq leftRest]

/-- Descending finds exactly the equal lists of entries. -/
theorem entriesEqual_iff_eq :
    (left right : List (Yaml × Yaml)) → (entriesEqual left right = true ↔ left = right)
  -- Keys are compared before the values under them.
  | [], right => by cases right <;> simp [entriesEqual]
  | (key, left) :: leftRest, right => by
    cases right <;>
      simp [entriesEqual, Prod.ext_iff, isEqual_iff_eq key, isEqual_iff_eq left, entriesEqual_iff_eq leftRest]

end

instance : DecidableEq Yaml := fun left right =>
  decidable_of_iff (isEqual left right = true) (isEqual_iff_eq left right)

end Yaml

end PipelineTrial
