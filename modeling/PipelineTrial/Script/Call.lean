import PipelineTrial.Script.Execution
import PipelineTrial.Script.Library.Failures
import PipelineTrial.Script.Library.Json
import PipelineTrial.Script.Library.Moments
import PipelineTrial.Script.Library.Numbers
import PipelineTrial.Script.Library.Texts

/-! Calling functions and constructing objects, and evaluation of a limited depth. -/

namespace PipelineTrial

namespace Script

namespace Run

/-- Requires that another call may begin. -/
def checkCalls : Run Unit := do
  -- The calls under way have to stay below the limit.
  let isOver ← modifyGet fun machine => (decide (machine.limits.calls ≤ machine.calls), machine)
  if isOver then throw (.overrun .calls) else return ()

/-- Runs a step as a call of its own, whose loops count their turns anew. -/
def withinCall {α : Type} (step : Run α) : Run α := do
  -- The counts are set back however the step ends.
  let (calls, turns) ← modifyGet fun machine =>
    ((machine.calls, machine.turns), { machine with calls := machine.calls + 1, turns := 0 })
  let restore : Run Unit := modify fun machine => { machine with calls, turns }
  let result ← tryCatch step fun halt => do
    restore
    throw halt
  restore
  return result

end Run

namespace Interpreter

/-- Gives the arguments of a call to parameters. -/
def bindParameters (self : Interpreter) (surrounding : Surrounding) :
    List PatternItem → List Value → Run (List Value)
  | [], passed => return passed
  | .mk target fallback :: rest, passed => do
    let content ← self.withFallback surrounding (argument passed 0) fallback
    self.bindPattern surrounding (.declares false) content target
    bindParameters self surrounding rest (passed.drop 1)

/-- Declares the names of a function's body, which parameters of the same name go before. -/
def declareBody (surrounding : Surrounding) (code : FunctionCode) : Run Unit := do
  -- Functions are declared last and replace parameters.
  let parameters := parameterNames code.parameters code.rest
  for name in functionScopedNamesOfList code.body do
    if !parameters.contains name then
      Run.setName surrounding.scope name ⟨some .undefined, false⟩
  declareBlockNames surrounding code.body

/-- The receiver as a function sees it. -/
def receiverFor (code : FunctionCode) (kept : Option Value) (receiver : Value) : Run Value := do
  -- Outside the strict rules a missing receiver is the global object, and all others are objects.
  match kept with
  | some outer => return outer
  | none =>
    if code.isStrict then return receiver
    else if isMissing receiver then return .object Intrinsic.global.address
    else return .object (← toObject receiver)

/-- Calls a function that a script made. -/
def callClosure (self : Interpreter) (code : FunctionCode) (scope : Address) (kept : Option Value)
    (receiver : Value) (passed : List Value) : Run Value := do
  -- Its names stand in a scope inside the one where it was made.
  let receiver ← receiverFor code kept receiver
  let arguments := if code.isArrow then none else some passed
  let inner ← Run.openScope ⟨[], some scope, arguments⟩
  let surrounding : Surrounding := ⟨inner, receiver, code.isStrict⟩
  let left ← self.bindParameters surrounding code.parameters passed
  self.bindRest surrounding (.declares false) (Run.makeList left) code.rest
  declareBody surrounding code
  match ← self.executeList surrounding code.body with
  | .left content => return content
  | _ => return .undefined

/-- Makes an object by a ready-made function. -/
def runMaker (self : Interpreter) (maker : Maker) (arguments : List Value) (isConstructed : Bool) :
    Run Value := do
  -- Some of them convert their argument when they are merely called.
  match maker with
  | .object =>
    let first := argument arguments 0
    if isMissing first then Run.makeObject [] else return .object (← toObject first)
  | .function => Run.failType "functions cannot be made out of texts"
  | .list => makeListObject arguments
  | .text => self.makeText arguments isConstructed
  | .number => self.makeNumber arguments isConstructed
  | .boolean => makeBoolean arguments isConstructed
  | .failure kind => self.makeFailureObject kind arguments
  | .moment => self.makeMoment arguments isConstructed
  | .pattern => Run.fail .syntaxError "patterns cannot be made out of texts"

/-- Runs a ready-made function. -/
def runBuiltin (self : Interpreter) (builtin : Builtin) (receiver : Value) (arguments : List Value) :
    Run Value :=
  -- Each kind of function has its own rules.
  match builtin with
  | .maker maker => self.runMaker maker arguments false
  | .objectOperation operation => self.runObjectOperation operation arguments
  | .objectMethod method => self.runObjectMethod method receiver arguments
  | .functionMethod method => self.runFunctionMethod method receiver arguments
  | .listOperation operation => self.runListOperation operation arguments
  | .listMethod method => self.runListMethod method receiver arguments
  | .walkMethod .next => self.runWalkMethod receiver
  | .textOperation operation => self.runTextOperation operation arguments
  | .textMethod method => self.runTextMethod method receiver arguments
  | .numberOperation operation => return runNumberOperation operation arguments
  | .numberMethod method => self.runNumberMethod method receiver arguments
  | .booleanMethod method => runBooleanMethod method receiver
  | .mathOperation operation => self.runMathOperation operation arguments
  | .jsonOperation operation => self.runJsonOperation operation arguments
  | .failureMethod .toString => self.runFailureMethod receiver
  | .momentOperation operation => self.runMomentOperation operation arguments
  | .momentMethod method => self.runMomentMethod method receiver
  | .globalOperation operation => self.runGlobalOperation operation arguments

/-- Calls a value. -/
def callRule (self : Interpreter) (function receiver : Value) (arguments : List Value) :
    Run Value := do
  -- Only functions can be called, and only while calls are left.
  match function with
  | .object address =>
    match (← Run.object address).kind with
    | .closure code scope kept =>
      Run.checkCalls
      Run.withinCall (self.callClosure code scope kept receiver arguments)
    | .builtin builtin =>
      Run.checkCalls
      self.runBuiltin builtin receiver arguments
    | .bound target boundReceiver boundArguments =>
      self.call target boundReceiver (boundArguments ++ arguments)
    | _ => Run.failCall
  | _ => Run.failCall

/-- Makes the object that a function constructs, before the function runs. -/
def makeInstance (self : Interpreter) (maker : Value) : Run Value := do
  -- Its prototype is the function's pattern.
  let address ← Run.make (ObjectRecord.bare .plain .objectPrototype)
  match ← self.read maker prototypeKey with
  | .object pattern => Run.alter address fun record => { record with prototype := some pattern }
  | _ => pure ()
  return .object address

/-- Constructs an object. -/
def constructRule (self : Interpreter) (maker : Value) (arguments : List Value) : Run Value := do
  -- An object that the function gives back goes before the one made for it.
  match maker with
  | .object address =>
    match (← Run.object address).kind with
    | .closure code scope kept =>
      if code.isArrow || code.isMethod then Run.failType "not a constructor"
      else
        Run.checkCalls
        let made ← self.makeInstance maker
        match ← Run.withinCall (self.callClosure code scope kept made arguments) with
        | .object other => return .object other
        | _ => return made
    | .builtin (.maker kind) =>
      Run.checkCalls
      self.runMaker kind arguments true
    | .bound target _ boundArguments => self.construct target (boundArguments ++ arguments)
    | _ => Run.failType "not a constructor"
  | _ => Run.failType "not a constructor"

/-- Evaluation of at most a depth; each level is made when it is first reached. -/
def ofDepth : Nat → Interpreter
  | 0 =>
    { evaluate := fun _ _ => throw .exhausted
      execute := fun _ _ => throw .exhausted
      call := fun _ _ _ => throw .exhausted
      construct := fun _ _ => throw .exhausted }
  | depth + 1 =>
    let below : Thunk Interpreter := Thunk.mk fun _ => ofDepth depth
    { evaluate := fun surrounding expression => below.get.evaluateRule surrounding expression
      execute := fun surrounding statement => below.get.executeRule surrounding statement
      call := fun function receiver arguments => below.get.callRule function receiver arguments
      construct := fun maker arguments => below.get.constructRule maker arguments }

end Interpreter

end Script

end PipelineTrial
