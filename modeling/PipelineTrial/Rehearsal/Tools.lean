import PipelineTrial.Run.Executors

/-! Toolkits for rehearsals: tools that answer by prepared steps, with a record of every call. -/

namespace PipelineTrial

/-- What a rehearsed tool does when it is called. -/
inductive RehearsedAction where
  | give (value : Json)
  | fail (message : String)
  /-- Gives back the arguments. -/
  | echo
  | crash
  deriving DecidableEq

/-- A prepared reaction to one call. -/
structure RehearsedStep where
  delay : Duration
  action : RehearsedAction
  deriving DecidableEq

/-- The response that a step makes to a call. -/
def RehearsedStep.respond (step : RehearsedStep) (call : ToolCall) : Response (Except String Json) :=
  -- The delay comes before everything else.
  match step.action with
  | .give value => .answer step.delay (.ok value)
  | .fail message => .answer step.delay (.error message)
  | .echo => .answer step.delay (.ok (.ofDictionary call.arguments))
  | .crash => .crash step.delay

/-- A tool that answers by prepared steps, one for each call, the last one again and again. -/
structure RehearsedTool where
  steps : List RehearsedStep
  deriving DecidableEq

namespace RehearsedTool

/-- The response to a call, and the tool after it; a tool without steps never answers. -/
def respond (tool : RehearsedTool) (call : ToolCall) :
    Response (Except String Json) × RehearsedTool :=
  -- A step is dropped once it has answered, unless it is the last.
  match tool.steps with
  | [] => (.silence, tool)
  | [step] => (step.respond call, tool)
  | step :: next :: rest => (step.respond call, ⟨next :: rest⟩)

end RehearsedTool

/-- A call of a tool with its time. -/
structure RecordedCall where
  time : Duration
  call : ToolCall
  deriving DecidableEq

/-- A toolkit of rehearsed tools with a record of the calls that reached one. -/
structure RehearsedToolkit where
  registry : Registry RehearsedTool
  /-- The recorded calls, the latest first. -/
  latest : List RecordedCall
  deriving DecidableEq

namespace RehearsedToolkit

/-- The toolkit without tools. -/
def empty : RehearsedToolkit := ⟨Registry.empty, []⟩

/-- The toolkit with a tool under a toolkit and tool name. -/
def register (toolkit : RehearsedToolkit) (name tool : String) (steps : List RehearsedStep) :
    RehearsedToolkit :=
  -- The record is kept.
  { toolkit with registry := toolkit.registry.register name tool ⟨steps⟩ }

/-- The recorded calls, in order. -/
def calls (toolkit : RehearsedToolkit) : List RecordedCall := toolkit.latest.reverse

/-- The response to a call at a time; calls of unknown tools fail and are not recorded. -/
def invoke (toolkit : RehearsedToolkit) (call : ToolCall) (now : Duration) :
    Response (Except String Json) × RehearsedToolkit :=
  -- The tool moves on to its next step.
  match toolkit.registry.find? call.toolkit call.tool with
  | none => (.answer Duration.zero (.error call.unknown), toolkit)
  | some tool =>
    let (response, tool) := tool.respond call
    (response, ⟨toolkit.registry.register call.toolkit call.tool tool, ⟨now, call⟩ :: toolkit.latest⟩)

end RehearsedToolkit

end PipelineTrial
