import PipelineTrial.Pipeline.Error
import PipelineTrial.Schema
import PipelineTrial.Yaml.Tree

/-! Faults of pipeline documents: what is wrong, and the path to the place where it is. -/

namespace PipelineTrial

/-- A step into a document. -/
inductive Segment where
  | field (name : String)
  | item (index : Nat)
  deriving DecidableEq

/-- A path with its steps after the first one, where fields follow a dot and items stand in brackets. -/
def pathTail : List Segment → String
  | [] => ""
  | .field name :: rest => "." ++ name ++ pathTail rest
  | .item index :: rest => "[" ++ toString index ++ "]" ++ pathTail rest

/-- A path as text. -/
def pathText : List Segment → String
  | .field name :: rest => name ++ pathTail rest
  | other => pathTail other

/-- The ways in which a document can fail to declare a pipeline. -/
inductive DocumentFault where
  | unreadable (detail : String)
  | notMapping
  | missing
  | notText
  | notNames
  | notNodes
  | noNodes
  | duplicateId (id : String)
  | blankId
  | variableNameNotText
  | notVariable
  | unknownType (tag : String)
  | wrongInitialValue (declared : ValueType) (found : String)
  | unknownNodeType (tag : String)
  | unknownPolicy (name : String)
  | inputNameNotText
  | unknownSource (tag : String)
  | fieldNameNotText
  | notTypeTag
  | notSchema
  | emptySchema
  | unsupportedValue (fault : Yaml.JsonFault)
  deriving DecidableEq

/-- The text of a fault. -/
def DocumentFault.message : DocumentFault → String
  | .unreadable detail => "invalid YAML: " ++ detail
  | .notMapping => "expected a mapping"
  | .missing => "missing required field"
  | .notText => "expected a string"
  | .notNames => "expected a list of names"
  | .notNodes => "expected a list of nodes"
  | .noNodes => "pipeline must declare at least one node"
  | .duplicateId id => "duplicate node id '" ++ id ++ "'"
  | .blankId => "node id must not be empty"
  | .variableNameNotText => "variable names must be strings"
  | .notVariable => "expected a type tag or a \x7btype, value\x7d mapping"
  | .unknownType tag =>
    "unknown type '" ++ tag ++ "' (expected string, integer, float, boolean, list or map)"
  | .wrongInitialValue declared found =>
    "declared type " ++ declared.tag ++ " does not match initial value of type " ++ found
  | .unknownNodeType tag => "unknown node type '" ++ tag ++ "' (expected toolkit, llm or code)"
  | .unknownPolicy name => "unknown error policy '" ++ name ++ "'"
  | .inputNameNotText => "input names must be strings"
  | .unknownSource tag => "unknown input source '" ++ tag ++ "'"
  | .fieldNameNotText => "field names must be strings"
  | .notTypeTag => "expected a type tag"
  | .notSchema => "expected a field-to-type mapping or a list of fields"
  | .emptySchema => "structured output declares no fields"
  | .unsupportedValue fault => "unsupported value: " ++ fault.message

/-- A fault with the path to it. -/
structure DocumentError where
  path : List Segment
  fault : DocumentFault
  deriving DecidableEq

namespace DocumentError

/-- The error as seen from an enclosing value. -/
def under (segment : Segment) (error : DocumentError) : DocumentError :=
  -- The path grows at its front.
  ⟨segment :: error.path, error.fault⟩

/-- The error as the failure of a pipeline to load. -/
def toPipelineError (error : DocumentError) : PipelineError :=
  -- The path is shown as text.
  .document (pathText error.path) error.fault.message

end DocumentError

/-- A conversion that fails with a fault and the path to it. -/
abbrev Converted (α : Type) : Type := Except DocumentError α

/-- A conversion whose faults lie one step deeper. -/
def Converted.within {α : Type} (segment : Segment) (converted : Converted α) : Converted α :=
  -- Only errors carry a path.
  match converted with
  | .ok value => .ok value
  | .error error => .error (error.under segment)

/-- A fault at the place itself. -/
def faultHere {α : Type} (fault : DocumentFault) : Converted α :=
  -- The path is still empty.
  .error ⟨[], fault⟩

end PipelineTrial
