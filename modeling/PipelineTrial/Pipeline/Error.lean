import PipelineTrial.Duration

/-! The ways in which a pipeline can fail to load or to run, with their kinds and texts. -/

namespace PipelineTrial

/-- A transition or entry point that leads nowhere. -/
inductive GraphError where
  | missingEntryPoint (id : String)
  | danglingTransition (node target : String)
  deriving DecidableEq

/-- The text of a graph error. -/
def GraphError.message : GraphError → String
  | .missingEntryPoint id => "entry point '" ++ id ++ "' does not name a node"
  | .danglingTransition node target =>
    "node '" ++ node ++ "' transitions to unknown node '" ++ target ++ "'"

/-- An input that cannot be resolved. -/
inductive InputError where
  | unknownVariable (node name : String)
  | unresolvedTemplate (node name : String)
  deriving DecidableEq

namespace InputError

/-- The node whose input it is. -/
def node : InputError → String
  | .unknownVariable node _ => node
  | .unresolvedTemplate node _ => node

/-- The kind of an input error. -/
def kind : InputError → String
  | .unknownVariable _ _ => "UnknownStateVariable"
  | .unresolvedTemplate _ _ => "UnresolvedTemplateVariable"

/-- The text of an input error. -/
def message : InputError → String
  | .unknownVariable node name => "node '" ++ node ++ "' reads unknown state variable '" ++ name ++ "'"
  | .unresolvedTemplate node name =>
    "node '" ++ node ++ "' template references unresolved variable '" ++ name ++ "'"

end InputError

/-- The failure of a node's own work, with its text. -/
inductive NodeError where
  | toolInvocation (message : String)
  | modelInvocation (message : String)
  | structuredOutput (message : String)
  | codeEvaluation (message : String)
  deriving DecidableEq, Inhabited

namespace NodeError

/-- The kind of a node error. -/
def kind : NodeError → String
  | .toolInvocation _ => "ToolInvocationError"
  | .modelInvocation _ => "ModelInvocationError"
  | .structuredOutput _ => "StructuredOutputParseError"
  | .codeEvaluation _ => "CodeEvaluationError"

/-- The text of a node error. -/
def message : NodeError → String
  | .toolInvocation message => message
  | .modelInvocation message => message
  | .structuredOutput message => message
  | .codeEvaluation message => message

end NodeError

/-- The failure of a pipeline. -/
inductive PipelineError where
  | document (path detail : String)
  | graph (error : GraphError)
  | missingVariable (name : String)
  | input (error : InputError)
  | node (id : String) (error : NodeError)
  | timeout (limit : Duration)
  | stepLimit (limit : Nat)
  | remote (message : String)
  | aborted (message : String)
  deriving DecidableEq

namespace PipelineError

/-- The kind of a failure. -/
def kind : PipelineError → String
  | .document _ _ => "ParseError"
  | .graph _ => "GraphError"
  | .missingVariable _ => "MissingRequiredVariable"
  | .input error => error.kind
  | .node _ error => error.kind
  | .timeout _ => "Timeout"
  | .stepLimit _ => "StepLimitExceeded"
  | .remote _ => "RemotePlatformError"
  | .aborted _ => "Aborted"

/-- The text of a failure. -/
def message : PipelineError → String
  | .document path detail => "parse error at " ++ path ++ ": " ++ detail
  | .graph error => error.message
  | .missingVariable name => "required variable '" ++ name ++ "' is not set and has no default"
  | .input error => error.message
  | .node id error => "node '" ++ id ++ "' failed: " ++ error.message
  | .timeout limit => "pipeline timed out after " ++ limit.text
  | .stepLimit limit => "pipeline exceeded the step limit of " ++ toString limit
  | .remote message => "remote platform error: " ++ message
  | .aborted message => "pipeline run was aborted: " ++ message

/-- The node that a failure belongs to. -/
def node? : PipelineError → Option String
  | .node id _ => some id
  | .input error => some error.node
  | .graph (.danglingTransition source _) => some source
  | _ => none

/-- Whether a failure shows before anything runs. -/
def isLoadTime : PipelineError → Bool
  | .document _ _ => true
  | .graph _ => true
  | .missingVariable _ => true
  | _ => false

end PipelineError

end PipelineTrial
