import PipelineTrial.Script.Operators
import PipelineTrial.Script.Scope
import PipelineTrial.Script.Walk

/-! Places that take values, and patterns that take values apart. -/

namespace PipelineTrial

namespace Script

/-- A place that can be read and assigned to. -/
inductive Place where
  | name (name : String)
  | member (base : Value) (key : Units)
  /-- A member whose name is a position. -/
  | item (base : Value) (position : Nat)

/-- How a pattern gives values to names. -/
inductive BindingMode where
  | assigns
  | declares (isConstant : Bool)

namespace Interpreter

/-- The place of a member by the value that stands for its name. -/
def memberPlace (self : Interpreter) (base key : Value) : Run Place := do
  -- Whole numbers stay positions.
  match key with
  | .number (.whole position) =>
    if 0 ≤ position && position < longestList then return .item base position.toNat
    else return .member base (Number.whole position).units
  | other => return .member base (← self.toKey other)

/-- The place that an expression names. -/
def placeFor (self : Interpreter) (surrounding : Surrounding) (target : Expression) : Run Place := do
  -- Other expressions are no places, which the grammar sees to.
  match target with
  | .name name => return .name name
  | .member object key _ => return .member (← self.evaluate surrounding object) key
  | .index object key _ =>
    let base ← self.evaluate surrounding object
    let key ← self.evaluate surrounding key
    self.memberPlace base key
  | _ => Run.fail .syntaxError "invalid assignment target"

/-- The value at a place. -/
def readPlace (self : Interpreter) (surrounding : Surrounding) : Place → Run Value
  | .name name => self.readName surrounding name
  | .member base key => self.read base key
  | .item base position => self.readAt base position

/-- Assigns to a place. -/
def writePlace (self : Interpreter) (surrounding : Surrounding) (content : Value) : Place → Run Unit
  | .name name => self.assignName surrounding name content
  | .member base key => self.write base key content surrounding.isStrict
  | .item base position => self.writeAt base position content surrounding.isStrict

/-- Gives a value to a name. -/
def bindName (self : Interpreter) (surrounding : Surrounding) (mode : BindingMode) (name : String)
    (content : Value) : Run Unit :=
  -- A declaration sets the name of its own scope.
  match mode with
  | .assigns => self.assignName surrounding name content
  | .declares isConstant => Run.setName surrounding.scope name ⟨some content, isConstant⟩

/-- A value, or that of the expression which stands in for undefined. -/
def withFallback (self : Interpreter) (surrounding : Surrounding) (content : Value)
    (fallback : Option Expression) : Run Value :=
  -- The expression is evaluated only when it is needed.
  match content, fallback with
  | .undefined, some expression => self.evaluate surrounding expression
  | other, _ => return other

/-- The name that a member of a pattern or literal has. -/
def memberKey (self : Interpreter) (surrounding : Surrounding) : MemberName → Run Units
  | .fixed name => return name
  | .computed expression => do
    let value ← self.evaluate surrounding expression
    self.toKey value

/-- The listed own properties of a value but for some names, as a new object. -/
def copyOthers (self : Interpreter) (source : Value) (left : List Units) : Run Value := do
  -- Missing values have no properties.
  let target ← Run.makeObject []
  if isMissing source then return target
  else
    let address ← toObject source
    for key in (← Run.object address).ownKeys do
      if !left.contains key then
        match (← Run.object address).own? key with
        | some property =>
          if property.isEnumerable then
            defineMember target key (← self.readProperty source (some property))
        | none => pure ()
    return target

/-- The items of a value from a position on as a list, none behind the end. -/
def itemsFrom (self : Interpreter) (subject : Value) (position : Option Nat) : Run Value := do
  -- The list is new.
  let items ← match position with
    | some position => self.collectItems subject (← self.walkBound subject) position
    | none => pure []
  Run.makeList items

mutual

/-- Takes a value apart as a pattern says. -/
def bindPattern (self : Interpreter) (surrounding : Surrounding) (mode : BindingMode)
    (content : Value) : Pattern → Run Unit
  | .name name => self.bindName surrounding mode name content
  | .reference target => do
    let place ← self.placeFor surrounding target
    self.writePlace surrounding content place
  | .array items rest => do
    requireWalkable content
    let position ← bindItems self surrounding mode content (some 0) items
    bindRest self surrounding mode (self.itemsFrom content position) rest
  | .object members rest => do
    if isMissing content then Run.failMissing
    let taken ← bindMembers self surrounding mode content [] members
    bindRest self surrounding mode (self.copyOthers content taken) rest

/-- Binds what is left of a value, if a pattern is there for it. -/
def bindRest (self : Interpreter) (surrounding : Surrounding) (mode : BindingMode)
    (left : Run Value) : Option Pattern → Run Unit
  | none => return ()
  | some rest => do
    let content ← left
    bindPattern self surrounding mode content rest

/-- Binds the items of a value from a position on, and gives the position after them; none is the end. -/
def bindItems (self : Interpreter) (surrounding : Surrounding) (mode : BindingMode) (subject : Value)
    (position : Option Nat) : List (Option PatternItem) → Run (Option Nat)
  | [] => return position
  | item :: others => do
    let step ← match position with
      | some position => self.nextItem subject position
      | none => pure none
    match item with
    | none => bindItems self surrounding mode subject (step.map (·.2)) others
    | some (.mk target fallback) => do
      let content ← self.withFallback surrounding ((step.map (·.1)).getD .undefined) fallback
      bindPattern self surrounding mode content target
      bindItems self surrounding mode subject (step.map (·.2)) others

/-- Binds members of a value, and gives the names taken with those before. -/
def bindMembers (self : Interpreter) (surrounding : Surrounding) (mode : BindingMode)
    (subject : Value) (taken : List Units) : List PatternMember → Run (List Units)
  | [] => return taken
  | .mk name (.mk target fallback) :: others => do
    let key ← self.memberKey surrounding name
    let content ← self.read subject key
    let content ← self.withFallback surrounding content fallback
    bindPattern self surrounding mode content target
    bindMembers self surrounding mode subject (key :: taken) others

end

end Interpreter

end Script

end PipelineTrial
