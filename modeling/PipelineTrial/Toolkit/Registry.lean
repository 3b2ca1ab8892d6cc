import PipelineTrial.Pipeline.Inputs
import PipelineTrial.Text.Quoted

/-! Tools by name: calls of them, and registries in which each pair of toolkit and tool stands once. -/

namespace PipelineTrial

/-- A call of a tool on behalf of a session. -/
structure ToolCall where
  session : String
  toolkit : String
  tool : String
  arguments : Inputs
  deriving DecidableEq

/-- The text of the failure to find a tool. -/
def ToolCall.unknown (call : ToolCall) : String :=
  -- The toolkit may exist without the tool.
  "unknown tool '" ++ call.tool ++ "' in toolkit '" ++ call.toolkit ++ "'"

/-- An operation registered under its toolkit and tool. -/
structure Registration (α : Type) where
  toolkit : String
  tool : String
  operation : α
  deriving DecidableEq

namespace Registration

variable {α : Type}

/-- Whether an operation is registered under a toolkit and tool. -/
def isFor (entry : Registration α) (toolkit tool : String) : Bool :=
  -- Both names have to agree.
  entry.toolkit == toolkit && entry.tool == tool

/-- The full name of an operation. -/
def name (entry : Registration α) : String := entry.toolkit ++ "." ++ entry.tool

end Registration

/-- Operations by toolkit and tool. -/
structure Registry (α : Type) where
  entries : List (Registration α)
  deriving DecidableEq

namespace Registry

variable {α : Type}

/-- The registry without operations. -/
def empty : Registry α := ⟨[]⟩

/-- The operation registered under a toolkit and tool. -/
def find? (registry : Registry α) (toolkit tool : String) : Option α :=
  -- Each pair of names stands at most once.
  (registry.entries.find? (·.isFor toolkit tool)).map (·.operation)

/-- Whether an operation is registered under a toolkit and tool. -/
def contains (registry : Registry α) (toolkit tool : String) : Bool :=
  -- It is, when it can be found.
  (registry.find? toolkit tool).isSome

/-- The registry with an operation under a toolkit and tool, in place of an earlier one. -/
def register (registry : Registry α) (toolkit tool : String) (operation : α) : Registry α :=
  -- Whatever stood under these names goes.
  ⟨registry.entries.filter (!·.isFor toolkit tool) ++ [⟨toolkit, tool, operation⟩]⟩

/-- The full names of all operations, in ascending order. -/
def names (registry : Registry α) : List String :=
  -- Different pairs can share a full name.
  (registry.entries.map (·.name)).mergeSort fun left right => decide (left ≤ right)

/-- The registry as a text that lists the full names in quotes. -/
def description (registry : Registry α) : String :=
  -- Names are separated by commas.
  "ToolRegistry \x7b operations: [" ++ ", ".intercalate (registry.names.map quoteText) ++ "] \x7d"

end Registry

end PipelineTrial
