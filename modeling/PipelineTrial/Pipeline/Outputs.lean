import PipelineTrial.Pipeline.Error
import PipelineTrial.Pipeline.State

/-! Binding the result of a node, or its failure, to the outputs that the node declares. -/

namespace PipelineTrial

/-- The state after fields are moved out of a map: each name takes its field once, else it is cleared. -/
def moveFields (state : State) (fields : Entries Json) : List String → State
  | [] => state
  | name :: rest =>
    -- A moved field is gone for a later output of the same name.
    match fields.get? name with
    | some value => moveFields (state.set name value) (fields.erase name) rest
    | none => moveFields (state.clear name) fields rest

/-- The value of a single output: the map's own field of that name, else the whole result. -/
def singleValue (name : String) (result : Json) : Json :=
  -- Results other than maps have no fields.
  (result.field? name).getD result

/-- The state after a result is bound to outputs. -/
def bindOutputs (outputs : List String) (result : Json) (state : State) : State :=
  -- Several outputs take a map apart, and any other result goes to the first of them.
  match outputs with
  | [] => state
  | [single] => state.set single (singleValue single result)
  | first :: rest =>
    match result with
    | .object fields => moveFields state fields (first :: rest)
    | other => rest.foldl (fun state name => state.clear name) (state.set first other)

/-- The state after the text of a failure is bound to every output. -/
def bindCapturedError (outputs : List String) (error : NodeError) (state : State) : State :=
  -- All outputs get the same text.
  outputs.foldl (fun state name => state.set name (.text error.message)) state

end PipelineTrial
