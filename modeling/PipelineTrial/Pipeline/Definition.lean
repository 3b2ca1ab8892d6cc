import PipelineTrial.Schema

/-! Pipeline definitions: nodes joined by transitions, over a shared state. -/

namespace PipelineTrial

/-- Where a run goes after a node. -/
inductive Transition where
  | node (id : String)
  | finish
  deriving DecidableEq, Inhabited

namespace Transition

/-- The word that ends a run. -/
def finishWord : String := "END"

/-- The transition of a written target, blanks around it aside. -/
def parse (raw : String) : Transition :=
  -- One word is reserved, and every other names a node.
  let trimmed := trimBlanks raw
  if trimmed = finishWord then .finish else .node trimmed

/-- The node that a transition leads to. -/
def target? : Transition → Option String
  | .node id => some id
  | .finish => none

/-- The written target. -/
def text : Transition → String
  | .node id => id
  | .finish => finishWord

end Transition

/-- What a run does when a node fails. -/
inductive ErrorPolicy where
  | abort
  | capture
  deriving DecidableEq, Inhabited

namespace ErrorPolicy

/-- The policy with a given name, blanks around the name aside. -/
def parse? (raw : String) : Option ErrorPolicy :=
  -- Continuing has a short and a long name.
  match trimBlanks raw with
  | "abort" => some .abort
  | "continue" => some .capture
  | "continue_with_captured_error" => some .capture
  | _ => none

/-- The full name of a policy. -/
def text : ErrorPolicy → String
  | .abort => "abort"
  | .capture => "continue_with_captured_error"

end ErrorPolicy

/-- Where a node's input comes from. -/
inductive InputSource where
  | variable (name : String)
  | fixed (literal : Json)
  | template (text : String)
  deriving DecidableEq, Inhabited

/-- What a node does. -/
inductive NodeKind where
  | tool (toolkit tool : String)
  | languageModel (model prompt : String) (system : Option String) (schema : Option OutputSchema)
  | code (payload : String)
  deriving DecidableEq, Inhabited

/-- The written name of a kind of node. -/
def NodeKind.tag : NodeKind → String
  | .tool _ _ => "toolkit"
  | .languageModel _ _ _ _ => "llm"
  | .code _ => "code"

/-- A step of a pipeline. -/
structure Node where
  id : String
  kind : NodeKind
  inputs : List String
  outputs : List String
  sources : Dictionary InputSource
  errorPolicy : ErrorPolicy
  transition : Transition
  deriving DecidableEq, Inhabited

/-- The source of an input, which is the state variable of the same name unless one is given. -/
def Node.sourceOf (node : Node) (input : String) : InputSource :=
  -- Given sources win over the default.
  (node.sources.get? input).getD (.variable input)

/-- A declared state variable, with its initial value if it has one. -/
structure StateVariable where
  name : String
  type : ValueType
  initial : Option Json
  deriving DecidableEq, Inhabited

/-- A pipeline as declared. -/
structure Definition where
  name : String
  description : Option String
  stateVariables : List StateVariable
  entryPoint : String
  nodes : List Node
  deriving DecidableEq, Inhabited

/-- The first declared node with an id. -/
def Definition.node? (definition : Definition) (id : String) : Option Node :=
  -- Later nodes of the same id are shadowed.
  definition.nodes.find? (·.id = id)

end PipelineTrial
