import PipelineTrial.Script.Conversion

/-! Walking over the items of lists and texts, one by one or all at once. -/

namespace PipelineTrial

namespace Script

/-- Whether a value can be walked over. -/
def isWalkable (value : Value) : Run Bool := do
  -- Texts, lists, arguments and walks can.
  match value with
  | .text _ => return true
  | .object address =>
    match (← Run.object address).kind with
    | .list _ _ _ => return true
    | .arguments => return true
    | .walk _ _ _ => return true
    | .wrapper (.text _) => return true
    | _ => return false
  | _ => return false

/-- Requires a value that can be walked over. -/
def requireWalkable (value : Value) : Run Unit := do
  -- Missing values fail as missing objects.
  match value with
  | .undefined => Run.failMissing
  | .null => Run.failMissing
  | other =>
    if ← isWalkable other then return ()
    else
      let found ← typeWord other
      Run.failType ("value with type \x60" ++ found ++ "\x60 is not iterable")

/-- The character of a text at a position, with the position after it. -/
def characterAt (units : Units) (position : Nat) : Option (Units × Nat) :=
  -- A surrogate pair is one character.
  match units.drop position with
  | first :: second :: _ =>
    if Units.isHighSurrogate first && Units.isLowSurrogate second then
      some ([first, second], position + 2)
    else some ([first], position + 1)
  | [first] => some ([first], position + 1)
  | [] => none

/-- A text as a list of its characters. -/
def charactersOf : Units → List Units
  | [] => []
  | [unit] => [[unit]]
  | first :: second :: rest =>
    if Units.isHighSurrogate first && Units.isLowSurrogate second then
      [first, second] :: charactersOf rest
    else [first] :: charactersOf (second :: rest)

namespace Interpreter

/-- The item of a value at a position, with the next position; none behind the end. -/
def itemAt (self : Interpreter) (subject : Value) (position : Nat) :
    Run (Option (Value × Nat)) := do
  -- Texts are walked by characters, and all else by positions below its length.
  match ← unwrap subject with
  | .text units =>
    return (characterAt units position).map fun (character, next) => (.text character, next)
  | _ =>
    if position < (← self.lengthOf subject) then
      let item ← self.readAt subject position
      return some (item, position + 1)
    else return none

/-- The next step of a walk object, which moves on; none once it has ended. -/
def stepWalk (self : Interpreter) (address : Address) : Run (Option Value) := do
  -- A walk that has ended stays at its end.
  match (← Run.object address).kind with
  | .walk subject (some position) view =>
    let step ← self.itemAt subject position
    let following := step.map (·.2)
    Run.alter address fun record => { record with kind := .walk subject following view }
    match step with
    | none => return none
    | some (item, _) =>
      let key := Value.number (.ofNat position)
      match view with
      | .keys => return some key
      | .values => return some item
      | .entries =>
        let pair ← Run.makeList [key, item]
        return some pair
  | _ => return none

/-- The next item of a walk over a value from a position on, with the next position. -/
def nextItem (self : Interpreter) (subject : Value) (position : Nat) :
    Run (Option (Value × Nat)) := do
  -- Walk objects keep their own position.
  let walk ← match subject with
    | .object address =>
      match (← Run.object address).kind with
      | .walk _ _ _ => pure (some address)
      | _ => pure none
    | _ => pure none
  match walk with
  | some address => return (← self.stepWalk address).map fun item => (item, position)
  | none => self.itemAt subject position

/-- The items of a walk, within a bound on their number. -/
def collectItems (self : Interpreter) (subject : Value) : Nat → Nat → Run (List Value)
  | 0, _ => return []
  | bound + 1, position => do
    match ← self.nextItem subject position with
    | none => return []
    | some (item, next) =>
      let rest ← collectItems self subject bound next
      return item :: rest

/-- The number of items that a walk over a value can have at most. -/
def walkBound (self : Interpreter) (value : Value) : Run Nat := do
  -- A walk object has no more items than its subject.
  match value with
  | .text units => return units.length
  | .object address =>
    match (← Run.object address).kind with
    | .walk subject _ _ => self.lengthOf subject
    | _ => self.lengthOf value
  | _ => return 0

/-- All items of a value. -/
def itemsOf (self : Interpreter) (value : Value) : Run (List Value) := do
  -- Texts are split at once.
  requireWalkable value
  match value with
  | .text units => return (charactersOf units).map .text
  | _ => self.collectItems value (← self.walkBound value) 0

/-- The items of a list-like object by position. -/
def listItems (self : Interpreter) (value : Value) : Nat → Nat → Run (List Value)
  | 0, _ => return []
  | remaining + 1, position => do
    let item ← self.readAt value position
    let rest ← listItems self value remaining (position + 1)
    return item :: rest

end Interpreter

end Script

end PipelineTrial
