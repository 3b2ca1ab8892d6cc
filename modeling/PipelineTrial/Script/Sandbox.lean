import PipelineTrial.Json.Printer
import PipelineTrial.Json.Reader
import PipelineTrial.Pipeline.Inputs
import PipelineTrial.Script.Call
import PipelineTrial.Script.Grammar
import PipelineTrial.Script.Realm

/-! Running code in a sandbox: a script defines a function, which is called on the inputs. -/

namespace PipelineTrial

namespace Script

/-- A whole number as an expression, in which the sign of one below zero is an operator. -/
def wholeLiteral (value : Int) : Expression :=
  -- The digits alone write a number.
  let magnitude := Expression.number (.ofNat value.natAbs)
  if value < 0 then .unary .negate magnitude else magnitude

mutual

/-- A value as the expression that its JSON text writes, in which the member that names the prototype sets it. -/
def literal : Json → Expression
  | .null => .null
  | .boolean value => .boolean value
  | .integer value => wholeLiteral value
  | .float value => .number (.ofFloat value)
  | .text value => .text (Units.ofString value)
  | .list items => .array (literalItems items)
  | .object fields => .object (literalMembers fields)

/-- Values as items of a list literal. -/
def literalItems : List Json → List Item
  | [] => []
  | item :: rest => .single (literal item) :: literalItems rest

/-- Fields as members of an object literal. -/
def literalMembers : List (String × Json) → List Member
  | [] => []
  | (name, value) :: rest =>
    let key := Units.ofString name
    .named .value (.fixed key) (literal value) (key == Grammar.prototypeName) :: literalMembers rest

end

namespace Sandbox

/-- The limits that hold unless others are given. -/
def defaultLimits : Limits := ⟨1000000, 256⟩

/-- The least limit on calls under which a sandbox can be set up. -/
def leastCalls : Nat := 3

/-- A text as an expression. -/
def textLiteral (text : String) : Expression := .text (Units.ofString text)

/-- A member of an expression. -/
def memberOf (object : Expression) (name : String) : Expression :=
  .member object (Units.ofString name) false

/-- A call of an expression with one argument. -/
def callOn (callee argument : Expression) : Expression := .call callee [.single argument] false

/-- The envelope around a named value, written by whatever the script's names lead to. -/
def envelope (name : String) (value : Expression) : Expression :=
  -- A script may replace the writer.
  callOn (memberOf (.name "JSON") "stringify")
    (.object [.named .value (.fixed (Units.ofString name)) value false])

/-- Gives back an envelope with an error. -/
def leaveError (text : String) : Statement := .leave (some (envelope "error" (textLiteral text)))

/-- The text of a caught value: name and text of an error, and any other value as it shows itself. -/
def caughtText : Expression :=
  -- A value counts as an error when it has a text.
  let caught := Expression.name "e"
  .conditional
    (.logical .conjunction caught
      (.binary .strictUnequal (memberOf caught "message") (.name "undefined")))
    (.binary .add (.binary .add (memberOf caught "name") (textLiteral ": "))
      (memberOf caught "message"))
    (.binary .add (textLiteral "") caught)

/-- The steps that call the script's function on the inputs. -/
def callSteps (inputs : Json) : List Statement :=
  -- There has to be a function, and it has to give a value.
  [.branch (.binary .strictUnequal (.unary .typeOf (.name "main")) (textLiteral "function"))
      (.block [leaveError "code must define function main(inputs)"]) none,
    .declare .functionScoped [(.name "result", some (callOn (.name "main") (literal inputs)))],
    .branch (.binary .strictEqual (.name "result") (.name "undefined"))
      (.block [leaveError "main(inputs) must return a value"]) none,
    .leave (some (envelope "value" (.name "result")))]

/-- The call of the script's function on the inputs, with its result or error in an envelope. -/
def outerCall (inputs : Json) (isStrict : Bool) : Expression :=
  -- What the function throws is caught.
  let body := [Statement.attempt (callSteps inputs)
    (some (some (.name "e"),
      [.declare .functionScoped [(.name "text", some caughtText)],
        .leave (some (envelope "error" (.name "text")))])) none]
  .call (.function (.mk none [] none body false isStrict false)) [] false

/-- Declares the names of a script: functions and variables are members of the global object. -/
def declareScript (body : List Statement) : Run Unit := do
  -- Names of the script's own block stand in the top scope.
  let global := Intrinsic.global.address
  for name in functionScopedNamesOfList body do
    if !(← hasOwn global (Units.ofString name)) then
      Run.alter global (·.put (Units.ofString name) ⟨.stored .undefined true, true, false⟩)
  for name in blockScopedNames body do
    Run.setName topScope name ⟨none, false⟩
  for code in declaredFunctions body do
    let content ← makeClosure Interpreter.topSurrounding code []
    Run.alter global
      (·.put (Units.ofString (code.name.getD "")) ⟨.stored content true, true, false⟩)

/-- Runs a script, then calls its function on the inputs. -/
def runProgram (self : Interpreter) (program : Program) (inputs : Json) : Run Value := do
  -- Both run under the same names.
  let surrounding := { Interpreter.topSurrounding with isStrict := program.isStrict }
  declareScript program.body
  let _ ← self.executeList surrounding program.body
  self.evaluate surrounding (outerCall inputs program.isStrict)

/-- The text of a halt that the script did not catch. -/
def haltMessage (machine : Machine) : Halt → String
  | .thrown value => shown machine value
  | .overrun limit => "RuntimeLimit: " ++ limit.message
  | .chainEnd => "RuntimeLimit: " ++ Overrun.calls.message
  | .exhausted => "RuntimeLimit: " ++ Overrun.calls.message

/-- A script with the end of a statement behind it, so that what follows stands alone. -/
def sourceOf (code : String) : List Char := code.toList ++ ['\n', ';']

/-- The depth of evaluation that a script can need: each call under way nests no deeper than its text. -/
def depthFor (limits : Limits) (source : List Char) : Nat :=
  -- Values that are read or written may nest deeper than the text.
  (limits.calls + 2) * (4 * source.length + 64) + 100000

/-- The text that the envelope of a script's result holds. -/
def runCode (limits : Limits) (code : String) (inputs : Json) : Except String String :=
  -- Reading comes before running.
  if limits.calls < leastCalls then
    .error ("sandbox setup failed: RuntimeLimit: " ++ Overrun.calls.message)
  else
    let source := sourceOf code
    match parseProgram? source with
    | none => .error "SyntaxError: the code cannot be read"
    | some program =>
      match runProgram (.ofDepth (depthFor limits source)) program inputs (Machine.start limits) with
      | .ok (.text units) _ => .ok units.toStringEscaped
      | .ok _ _ => .error "sandbox returned a non-string envelope"
      | .error halt machine => .error (haltMessage machine halt)

/-- What an envelope holds: an error before all else, or a value. -/
def openEnvelope (text : String) : Except String Json :=
  -- An error that is no text is shown in its written form.
  match Json.parse? text with
  | none => .error "result is not JSON: not a JSON value"
  | some envelope =>
    match envelope.field? "error" with
    | some (.text message) => .error message
    | some other => .error other.compact
    | none =>
      match envelope.field? "value" with
      | some value => .ok value
      | none => .error "main(inputs) returned a value with no JSON form"

/-- The value that a script's function gives for inputs, or the text of what went wrong. -/
def evaluate (limits : Limits) (code : String) (inputs : Inputs) : Except String Json :=
  -- The inputs are an object.
  match runCode limits code (.ofDictionary inputs) with
  | .error message => .error message
  | .ok text => openEnvelope text

end Sandbox

end Script

end PipelineTrial
