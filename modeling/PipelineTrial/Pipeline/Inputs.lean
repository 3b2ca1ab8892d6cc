import PipelineTrial.Pipeline.Error
import PipelineTrial.Pipeline.State
import PipelineTrial.Template

/-! Resolving the inputs of a node: values first, then templates over the values and the state. -/

namespace PipelineTrial

/-- The resolved inputs of a node. -/
abbrev Inputs := Dictionary Json

/-- The inputs that come from variables and literals, and the templates left to render, in order. -/
def resolveValues (node : Node) (state : State) (inputs : Inputs) :
    List String → Except InputError (Inputs × List (String × String))
  | [] => .ok (inputs, [])
  | name :: rest =>
    -- The first variable without a value ends the resolution.
    match node.sourceOf name with
    | .variable source =>
      match state.get? source with
      | none => .error (.unknownVariable node.id source)
      | some value => resolveValues node state (inputs.insert name value) rest
    | .fixed literal => resolveValues node state (inputs.insert name literal) rest
    | .template template =>
      match resolveValues node state inputs rest with
      | .error error => .error error
      | .ok (resolved, templates) => .ok (resolved, (name, template) :: templates)

/-- The template of a node's input rendered over other inputs and a state, of which the inputs win. -/
def Node.render (node : Node) (inputs : Inputs) (state : State) (template : String) :
    Except InputError String :=
  -- The error names the node beside the placeholder.
  (renderAll template fun wanted => (inputs.get? wanted).or (state.get? wanted)).mapError
    (.unresolvedTemplate node.id)

/-- The inputs with templates rendered one by one, each over the inputs before it and the state. -/
def renderTemplates (node : Node) (state : State) (inputs : Inputs) :
    List (String × String) → Except InputError Inputs
  | [] => .ok inputs
  | (name, template) :: rest =>
    -- The first template that cannot be rendered ends the resolution.
    match node.render inputs state template with
    | .error error => .error error
    | .ok rendered => renderTemplates node state (inputs.insert name (.text rendered)) rest

/-- The inputs of a node in a state. -/
def resolveInputs (node : Node) (state : State) : Except InputError Inputs :=
  -- Templates wait until all other inputs are known.
  match resolveValues node state Dictionary.empty node.inputs with
  | .error error => .error error
  | .ok (inputs, templates) => renderTemplates node state inputs templates

end PipelineTrial
