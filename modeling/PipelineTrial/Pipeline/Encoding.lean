import PipelineTrial.Pipeline.Definition

/-! Pipeline definitions as JSON objects. -/

namespace PipelineTrial

/-- A text, or null for none. -/
def Json.ofText? : Option String → Json
  | some value => .text value
  | none => .null

/-- A source with its tag and its content. -/
def InputSource.toJson : InputSource → Json
  | .variable name => .ofPairs [("type", .text "variable"), ("value", .text name)]
  | .fixed literal => .ofPairs [("type", .text "fixed"), ("value", literal)]
  | .template text => .ofPairs [("type", .text "template"), ("value", .text text)]

/-- The fields that only nodes of one kind have. -/
def NodeKind.fields : NodeKind → List (String × Json)
  | .tool toolkit operation => [("toolkit", .text toolkit), ("tool", .text operation)]
  | .languageModel model prompt system schema =>
    [("model", .text model), ("prompt", .text prompt), ("system", .ofText? system),
      ("structured_output", match schema with
        | some schema => schema.toJson
        | none => .null)]
  | .code payload => [("code", .text payload)]

/-- A node as one flat object. -/
def Node.toJson (node : Node) : Json :=
  -- The fields of the kind stand beside the common ones.
  .ofPairs <| node.kind.fields ++
    [("id", .text node.id), ("type", .text node.kind.tag),
      ("input", .list (node.inputs.map .text)), ("output", .list (node.outputs.map .text)),
      ("input_mapping", .object (node.sources.entries.map fun entry => (entry.1, entry.2.toJson))),
      ("error_policy", .text node.errorPolicy.text), ("transition", .text node.transition.text)]

/-- A state variable with its type and initial value. -/
def StateVariable.toJson (declared : StateVariable) : Json :=
  -- A missing initial value is written as null.
  .ofPairs [("name", .text declared.name), ("type", .text declared.type.tag),
    ("value", declared.initial.getD .null)]

/-- A definition as one object. -/
def Definition.toJson (definition : Definition) : Json :=
  -- Variables and nodes keep their declaration order.
  .ofPairs [("name", .text definition.name), ("description", .ofText? definition.description),
    ("state", .list (definition.stateVariables.map StateVariable.toJson)),
    ("entry_point", .text definition.entryPoint),
    ("nodes", .list (definition.nodes.map Node.toJson))]

end PipelineTrial
