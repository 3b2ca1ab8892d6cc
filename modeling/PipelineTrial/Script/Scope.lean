import PipelineTrial.Script.Member
import PipelineTrial.Script.Names

/-! The names of a running script: looking them up, assigning to them and declaring them. -/

namespace PipelineTrial

namespace Script

/-- Where a name leads. -/
inductive NamePlace where
  | inScope (scope : Address) (found : Variable)
  /-- The arguments of a call, before anything refers to them as an object. -/
  | arguments (scope : Address) (passed : List Value)
  | global (property : Property)
  | missing

/-- The name of the object that holds the arguments of a call. -/
def argumentsName : String := "arguments"

namespace Machine

/-- The scope at an address. -/
def scope (machine : Machine) (address : Address) : Scope :=
  -- Addresses come from opening scopes.
  machine.scopes[address]?.getD default

/-- Where a name leads from a scope on, scopes going before global properties. -/
def place (machine : Machine) (name : String) : Nat → Address → NamePlace
  | 0, _ => .missing
  | bound + 1, address =>
    let scope := machine.scope address
    match scope.names.lookup name with
    | some found => .inScope address found
    | none =>
      match scope.arguments, name == argumentsName with
      | some passed, true => .arguments address passed
      | _, _ =>
        match scope.parent with
        | some parent => place machine name bound parent
        | none =>
          match machine.lookup? Intrinsic.global.address (Units.ofString name) with
          | some property => .global property
          | none => .missing

end Machine

/-- Names with the variable of one replaced, or added at the end. -/
def putName (name : String) (content : Variable) : List (String × Variable) → List (String × Variable)
  | [] => [(name, content)]
  | (found, old) :: rest =>
    if found == name then (name, content) :: rest else (found, old) :: putName name content rest

namespace Run

/-- Opens a scope. -/
def openScope (scope : Scope) : Run Address :=
  -- Addresses count up.
  modifyGet fun machine =>
    (machine.scopes.size, { machine with scopes := machine.scopes.push scope })

/-- Sets a name in a scope. -/
def setName (address : Address) (name : String) (content : Variable) : Run Unit :=
  -- All other names stay.
  modify fun machine =>
    { machine with scopes := machine.scopes.modify address fun scope =>
        { scope with names := putName name content scope.names } }

/-- Makes the object that holds the arguments of a call. -/
def makeArguments (passed : List Value) : Run Value := do
  -- Arguments are named by their positions.
  let items := passed.zipIdx.map fun (content, position) =>
    (positionKey position, Property.plain content)
  let length := (lengthKey, Property.hidden (.number (.ofNat passed.length)))
  let record := ObjectRecord.bare .arguments .objectPrototype
  return .object (← make { record with properties := items ++ [length] })

end Run

namespace Interpreter

/-- Where a name leads. -/
def placeOf (surrounding : Surrounding) (name : String) : Run NamePlace := do
  -- A chain of scopes never comes back to a scope.
  let machine ← get
  return machine.place name machine.scopes.size surrounding.scope

/-- The value of a name. -/
def readName (self : Interpreter) (surrounding : Surrounding) (name : String) : Run Value := do
  -- A name that leads nowhere, or is read before its declaration, is an error.
  let unknown : Run Value := Run.fail .referenceError (name ++ " is not defined")
  match ← placeOf surrounding name with
  | .inScope _ found => found.content.elim unknown pure
  | .arguments scope passed =>
    let content ← Run.makeArguments passed
    Run.setName scope name ⟨some content, false⟩
    return content
  | .global property => self.readProperty (.object Intrinsic.global.address) (some property)
  | .missing => unknown

/-- Assigns to a name. -/
def assignName (self : Interpreter) (surrounding : Surrounding) (name : String) (content : Value) :
    Run Unit := do
  -- Only outside the strict rules a name that leads nowhere becomes a global property.
  match ← placeOf surrounding name with
  | .inScope _ ⟨none, _⟩ =>
    Run.fail .referenceError ("cannot assign to uninitialized binding \x60" ++ name ++ "\x60")
  | .inScope _ ⟨some _, true⟩ =>
    Run.failType ("cannot mutate an immutable binding '" ++ name ++ "'")
  | .inScope scope ⟨some _, false⟩ => Run.setName scope name ⟨some content, false⟩
  | .arguments scope _ => Run.setName scope name ⟨some content, false⟩
  | .global _ =>
    self.assignMember Intrinsic.global.address (Units.ofString name) content surrounding.isStrict
  | .missing =>
    if surrounding.isStrict then
      Run.fail .referenceError
        ("cannot assign to uninitialized global property \x60" ++ name ++ "\x60")
    else Run.alter Intrinsic.global.address (·.put (Units.ofString name) (.plain content))

end Interpreter

/-- Makes a function out of its code, which shows a name unless it has its own. -/
def makeClosure (surrounding : Surrounding) (code : FunctionCode) (shown : Units) : Run Value := do
  -- Functions that can construct objects get a pattern for them.
  let receiver := if code.isArrow then some surrounding.receiver else none
  let plainParameters := code.parameters.takeWhile fun (.mk _ fallback) => fallback.isNone
  let properties := [
    (lengthKey, (⟨.stored (.number (.ofNat plainParameters.length)) false, false, true⟩ : Property)),
    (nameKey, ⟨.stored (.text ((code.name.map Units.ofString).getD shown)) false, false, true⟩)]
  let record := ObjectRecord.bare (.closure code surrounding.scope receiver) .functionPrototype
  let address ← Run.make { record with properties }
  if code.isArrow || code.isMethod then return .object address
  else
    let pattern ← Run.make { ObjectRecord.bare .plain .objectPrototype with
      properties := [(constructorKey, .hidden (.object address))] }
    Run.alter address (·.put prototypeKey ⟨.stored (.object pattern) true, false, false⟩)
    return .object address

/-- Declares the names of a block in a scope: functions have their value at once, all others later. -/
def declareBlockNames (surrounding : Surrounding) (statements : List Statement) : Run Unit := do
  -- Constants are told apart when their declaration is reached.
  for name in blockScopedNames statements do
    Run.setName surrounding.scope name ⟨none, false⟩
  for code in declaredFunctions statements do
    let content ← makeClosure surrounding code []
    Run.setName surrounding.scope (code.name.getD "") ⟨some content, false⟩

/-- Whether statements declare names of their own block. -/
def hasBlockNames : List Statement → Bool
  | [] => false
  | .declare .blockScoped _ :: _ => true
  | .declare .constant _ :: _ => true
  | .function _ :: _ => true
  | .labelled _ (.function _) :: _ => true
  | _ :: rest => hasBlockNames rest

/-- The surrounding inside a block, with a scope of its own when the block declares names. -/
def enterBlock (surrounding : Surrounding) (statements : List Statement) : Run Surrounding := do
  -- Most blocks declare none.
  if hasBlockNames statements then
    let scope ← Run.openScope ⟨[], some surrounding.scope, none⟩
    let inner := { surrounding with scope }
    declareBlockNames inner statements
    return inner
  else return surrounding

end Script

end PipelineTrial
