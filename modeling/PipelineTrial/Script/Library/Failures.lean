import PipelineTrial.Script.Library.Objects

/-! Ready-made errors, and the text that an error shows. -/

namespace PipelineTrial

namespace Script

/-- The name of the value that led to an error. -/
def causeKey : Units := Units.ofString "cause"

/-- A name and a text joined by a colon, which an empty one of them leaves out. -/
def failureText (name message : Units) : Units :=
  -- Both empty leave nothing.
  if name.isEmpty then message
  else if message.isEmpty then name
  else name ++ 58 :: 32 :: message

namespace Interpreter

/-- The text of a member, or another text when it is undefined. -/
def memberText (self : Interpreter) (value : Value) (key : Units) (otherwise : String) : Run Units := do
  -- The member may be inherited.
  match ← self.read value key with
  | .undefined => return Units.ofString otherwise
  | content => self.toText content

/-- Runs the method of errors. -/
def runFailureMethod (self : Interpreter) (receiver : Value) : Run Value := do
  -- Any object with a name and a text will do.
  match receiver with
  | .object _ =>
    let name ← self.memberText receiver nameKey "Error"
    let message ← self.memberText receiver messageKey ""
    return .text (failureText name message)
  | _ => Run.failType "'this' is not an object"

/-- Makes an error of a kind. -/
def makeFailureObject (self : Interpreter) (kind : ErrorKind) (arguments : List Value) : Run Value := do
  -- Undefined leaves the error without a text of its own.
  let properties ← match argument arguments 0 with
    | .undefined => pure []
    | message => do pure [(messageKey, Property.hidden (.text (← self.toText message)))]
  let options := argument arguments 1
  let cause ← match options with
    | .object address =>
      if ← hasMember address causeKey then
        pure [(causeKey, Property.hidden (← self.read options causeKey))]
      else pure []
    | _ => pure []
  let record := ObjectRecord.bare .failure (Intrinsic.ofErrorKind kind)
  return .object (← Run.make { record with properties := properties ++ cause })

end Interpreter

/-- The method of errors by name. -/
def failureMethods : BuiltinTable FailureMethod := [("toString", 0, .toString)]

/-- The largest depth to which a shown value is followed. -/
def shownDepth : Nat := 64

/-- The text that a value shows when it ends a script: texts in quotes, and errors by name and text. -/
def shownValue (machine : Machine) : Nat → List Address → Nat → Value → String
  | 0, _, _, _ => ""
  | depth + 1, around, indent, value =>
    match value with
    | .text units => "\"" ++ units.toStringEscaped ++ "\""
    | .number number => if number == .negativeZero then "-0" else number.text
    | .object address =>
      let record := machine.object address
      let stored (key : Units) : Option Value :=
        match machine.lookup? address key with
        | some ⟨.stored content _, _, _⟩ => some content
        | _ => none
      let text (key : Units) : Units := ((stored key).map primitiveText).getD []
      let inner (content : Value) : String :=
        shownValue machine depth (address :: around) (indent + 4) content
      if around.contains address then "[Cycle]"
      else if record.isCallable then
        "[Function: " ++ (text nameKey).toStringEscaped ++ "]"
      else
        match record.kind with
        | .failure => (failureText (text nameKey) (text messageKey)).toStringEscaped
        | .list items _ _ =>
          if items.isEmpty then "[]"
          else "[ " ++ ", ".intercalate (items.toList.map fun item => inner (item.getD .undefined)) ++ " ]"
        | _ =>
          let lines := record.ownKeys.map fun key =>
            String.ofList (List.replicate (indent - key.length) ' ') ++ key.toStringEscaped ++ ": "
              ++ match record.own? key with
                | some ⟨.stored content _, _, _⟩ => inner content
                | some ⟨.computed (some _) (some _), _, _⟩ => "Getter & Setter"
                | some ⟨.computed none (some _), _, _⟩ => "Setter"
                | _ => "Getter"
          "\x7b\n" ++ ",\n".intercalate lines ++ "\n"
            ++ String.ofList (List.replicate (indent - 4) ' ') ++ "\x7d"
    | other => (primitiveText other).toStringEscaped

/-- The text that a thrown value shows. -/
def shown (machine : Machine) (value : Value) : String :=
  -- Nested objects are indented by four.
  shownValue machine shownDepth [] 4 value

end Script

end PipelineTrial
