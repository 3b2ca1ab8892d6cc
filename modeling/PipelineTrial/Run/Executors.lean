import PipelineTrial.Model.Exchange
import PipelineTrial.Run.Engine
import PipelineTrial.Script.Sandbox
import PipelineTrial.Toolkit.Registry

/-! The work of each kind of node: a call of a tool, an exchange with a language model, or a script. -/

namespace PipelineTrial

/-- The same response with its answer changed. -/
def Response.map {α β : Type} (change : α → β) : Response α → Response β
  | .answer delay value => .answer delay (change value)
  | .crash delay => .crash delay
  | .silence => .silence

/-- Toolkits that can be called, over a world `σ`. -/
structure Toolkit (σ : Type) where
  /-- The response to a call at a time. -/
  invoke : ToolCall → Duration → σ → Response (Except String Json) × σ

/-- Language models that can be asked, over a world `σ`. -/
structure ModelClient (σ : Type) where
  /-- The response to a request at a time. -/
  complete : ModelRequest → Duration → σ → Response (Except ModelError ModelReply) × σ

/-- The failure of a node whose model did not reply as it should. -/
def ModelError.toNodeError : ModelError → NodeError
  | .unexpectedReply message => .structuredOutput message
  | other => .modelInvocation other.message

namespace Executor

variable {σ : Type}

/-- Does the work of nodes that call a tool. -/
def ofToolkit (toolkit : Toolkit σ) (session : String) : Executor σ where
  respond node inputs now world :=
    -- The inputs are the arguments.
    match node.kind with
    | .tool name tool =>
      let (response, world) := toolkit.invoke ⟨session, name, tool, inputs⟩ now world
      (response.map (·.mapError .toolInvocation), world)
    | _ =>
      (.answer Duration.zero
        (.error (.toolInvocation ("node '" ++ node.id ++ "' is not a toolkit node"))), world)

/-- Does the work of nodes that ask a language model. -/
def ofModel (client : ModelClient σ) (session : String) : Executor σ where
  respond node inputs now world :=
    -- Placeholders without an input are kept in the prompts.
    match node.kind with
    | .languageModel model prompt system schema =>
      let request : ModelRequest :=
        ⟨session, model, system.map (renderKnown · inputs.get?), renderKnown prompt inputs.get?,
          schema⟩
      let (response, world) := client.complete request now world
      let interpret (reply : Except ModelError ModelReply) : Except NodeError Json :=
        (reply.bind (interpretReply · schema)).mapError ModelError.toNodeError
      (response.map interpret, world)
    | _ =>
      (.answer Duration.zero
        (.error (.modelInvocation ("node '" ++ node.id ++ "' is not a language-model node"))), world)

/-- Does the work of nodes that run code, which takes no time. -/
def ofSandbox (limits : Script.Limits) : Executor σ where
  respond node inputs _ world :=
    -- No collaborator takes part.
    let answer : Except NodeError Json := match node.kind with
      | .code payload => (Script.Sandbox.evaluate limits payload inputs).mapError .codeEvaluation
      | _ => .error (.codeEvaluation ("node '" ++ node.id ++ "' is not a code node"))
    (.answer Duration.zero answer, world)

/-- Does the work of all nodes by handing each to the executor of its kind. -/
def byKind (tool model code : Executor σ) : Executor σ where
  respond node :=
    -- The kind alone decides.
    match node.kind with
    | .tool _ _ => tool.respond node
    | .languageModel _ _ _ _ => model.respond node
    | .code _ => code.respond node

/-- The text that stands for a set of executors, which show nothing of themselves. -/
def description : String := "ExecutorRegistry \x7b .. \x7d"

/-- Does the work of all nodes with given collaborators. -/
def ofCollaborators (toolkit : Toolkit σ) (client : ModelClient σ) (limits : Script.Limits)
    (session : String) : Executor σ :=
  -- Each kind has its own executor.
  byKind (ofToolkit toolkit session) (ofModel client session) (ofSandbox limits)

end Executor

end PipelineTrial
